import TokenIntake.Value.Assoc
import TokenIntake.Value.Basic

namespace TokenIntake

abbrev Mapping := List (Scalar × Value)

namespace Mapping

def get? (m : Mapping) (k : Scalar) : Option Value := Assoc.get? Scalar.canon m k

def contains (m : Mapping) (k : Scalar) : Bool := Assoc.contains Scalar.canon m k

def put (m : Mapping) (k : Scalar) (v : Value) : Mapping := Assoc.put Scalar.canon m k v

def putAll (m more : Mapping) : Mapping := Assoc.putAll Scalar.canon m more

def ofPairs (pairs : List (Scalar × Value)) : Mapping := Assoc.ofPairs Scalar.canon pairs

def Distinct (m : Mapping) : Prop := Assoc.Distinct Scalar.canon m

def field? (m : Mapping) (name : Text) : Option Value := get? m (.text name)

end Mapping

mutual

def Value.WellKeyed : Value → Prop
  | .scalar _ => True
  | .list xs => Value.WellKeyedItems xs
  | .map es => Mapping.Distinct es ∧ Value.WellKeyedEntries es
  | .graph g => ∀ es, .map es ∈ g.cells → (es.map fun e => (g.keyAt e.1).canon).Nodup

def Value.WellKeyedItems : List Value → Prop
  | [] => True
  | x :: xs => x.WellKeyed ∧ Value.WellKeyedItems xs

def Value.WellKeyedEntries : List (Scalar × Value) → Prop
  | [] => True
  | (_, x) :: es => x.WellKeyed ∧ Value.WellKeyedEntries es

end

end TokenIntake
