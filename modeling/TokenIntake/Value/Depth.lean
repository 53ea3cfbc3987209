import TokenIntake.Value.Basic

namespace TokenIntake

namespace Graph

variable (g : Graph)

/-- How many calls deep a copy goes below a cell, and the cells it has met, none of which it goes into again. -/
def callsFrom : Nat → Array Bool → Nat → Nat × Array Bool
  | 0, met, _ => (0, met)
  | fuel + 1, met, n =>
    if met[n]?.getD true then (0, met)
    else
      let below (calls : Nat) (ns : List Nat) :=
        ns.foldl (fun (deepest, met) m =>
          let (more, met) := callsFrom fuel met m
          (max deepest (calls + more), met)) (0, met.setIfInBounds n true)
      match g.cell n with
      | .scalar _ => below 0 []
      | .list ns => below 2 ns
      | .map es => below 2 (es.map Prod.snd)
      | .pair l m => below 3 [l, m]
      | .set ns =>
        -- a set is rebuilt from a list of what is in it
        let (_, met) := below 0 []
        (if ns.isEmpty then 4 else 5, met)

def depth : Nat :=
  let (calls, _) := g.callsFrom (g.cells.size + 1) (Array.replicate g.cells.size false) g.root
  (calls + 1) / 2

end Graph

namespace Value

mutual

/-- How many collections the innermost value lies in; an empty collection is innermost itself. -/
def depth : Value → Nat
  | .graph g => g.depth
  | .scalar _ | .list [] | .map [] => 0
  | .list (x :: xs) => max x.depth (itemsDepth xs) + 1
  | .map ((_, x) :: es) => max x.depth (entriesDepth es) + 1

def itemsDepth : List Value → Nat
  | [] => 0
  | x :: xs => max x.depth (itemsDepth xs)

def entriesDepth : List (Scalar × Value) → Nat
  | [] => 0
  | (_, x) :: es => max x.depth (entriesDepth es)

end

end Value

def tooDeepMessage (during : Text) : Text := "maximum recursion depth exceeded" ++ during

def duringCall : Text := " while calling a Python object"

def duringDisplay : Text := " while getting the repr of an object"

end TokenIntake
