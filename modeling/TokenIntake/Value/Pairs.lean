import TokenIntake.Value.Sharing

namespace TokenIntake

namespace Mapping

inductive PairsFault where
  | notIterable (kind : Text)
  | elementNotSequence (index : Nat)
  | elementLength (index length : Nat)
  | unhashable (kind : Text)
deriving DecidableEq

def PairsFault.message : PairsFault → Text
  | .notIterable kind => "'" ++ kind ++ "' object is not iterable"
  | .elementNotSequence i =>
    "cannot convert dictionary update sequence element #" ++ Text.ofNat i ++ " to a sequence"
  | .elementLength i n =>
    "dictionary update sequence element #" ++ Text.ofNat i ++ " has length " ++ Text.ofNat n ++ "; 2 is required"
  | .unhashable kind => "unhashable type: '" ++ kind ++ "'"

def elements? (v : Value) : Option (List Value) :=
  match v.opened with
  | .text t => some (t.map fun c => .text [c])
  | .scalar (.bytes bs) => some (bs.map fun b => .int b.toNat)
  | .map es => some (es.map fun e => .scalar e.1)
  | _ => v.items?

def unhashable? (k : Value) : Option Text :=
  match k.top with
  | .pair => (k.items?.getD []).findSome? fun x =>
    match x with
    | .scalar _ => none
    | _ => some x.kindName
  | top => some top.kindName

/-- The pairs with scalars as keys: nothing is ever looked up under a pair. -/
def ofElements (i : Nat) : List Value → Except PairsFault (List (Scalar × Value))
  | [] => .ok []
  | x :: rest =>
    match elements? x with
    | none => .error (.elementNotSequence i)
    | some [.scalar k, v] => (ofElements (i + 1) rest).map ((k, v) :: ·)
    | some [k, _] =>
      match unhashable? k with
      | some kind => .error (.unhashable kind)
      | none => ofElements (i + 1) rest
    | some xs => .error (.elementLength i xs.length)

def ofValue (v : Value) : Except PairsFault Mapping :=
  match v.entries? with
  | some es => .ok es
  | none =>
    match elements? v with
    | some xs => (ofElements 0 xs).map ofPairs
    | none => .error (.notIterable v.kindName)

end Mapping

end TokenIntake
