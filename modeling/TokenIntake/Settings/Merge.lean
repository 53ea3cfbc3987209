import TokenIntake.Value.Depth
import TokenIntake.Value.Sharing

namespace TokenIntake

mutual

/-- A value over a mapping: what that mapping binds too is merged, and so on inwards. -/
def Value.onto (new : Value) : Value → Value
  | .map earlier =>
    match new.entries? with
    | some entries =>
      .map (Value.ontoEntries entries earlier ++ entries.filter fun e => !Mapping.contains earlier e.1)
    | none => new
  | _ => new

def Value.ontoEntries (entries : Mapping) : List (Scalar × Value) → List (Scalar × Value)
  | [] => []
  | (k, old) :: rest =>
    (k, match Mapping.get? entries k with
      | some new => Value.onto new old
      | none => old) :: Value.ontoEntries entries rest

end

mutual

/-- What a key is bound to after a layer binds it to a value, from what it was bound to before. A graph
that is merged into falls apart into its entries. Two graphs never meet, since values that share their parts come
from one layer only. -/
def Value.over (old : Option Value) : Value → Value
  | .map entries =>
    match old.bind Value.entries? with
    | some earlier => .map (Mapping.over earlier entries)
    | none => .map entries
  | .graph g =>
    match old with
    | some earlier => Value.onto (.graph g) earlier
    | none => .graph g
  | v => v

def Mapping.over (earlier : Mapping) : List (Scalar × Value) → Mapping
  | [] => earlier
  | (k, v) :: rest => Mapping.over (Mapping.put earlier k (Value.over (Mapping.get? earlier k) v)) rest

end

def Mapping.merge (layers : List Mapping) : Mapping := layers.foldl Mapping.over []

/-- A value is not copied from deeper inside. -/
def maxCopyDepth : Nat := 490

def copyTooDeepMessage : Text := tooDeepMessage duringCall

def Mapping.merge? (layers : List Mapping) : Option Mapping :=
  if layers.any fun entries => entries.any fun e => maxCopyDepth < e.2.depth then none
  else some (Mapping.merge layers)

def Value.at? (v : Value) : List Text → Option Value
  | [] => some v
  | k :: rest =>
    match v.entries? with
    | some entries =>
      match Mapping.field? entries k with
      | some inner => inner.at? rest
      | none => none
    | none => none

end TokenIntake
