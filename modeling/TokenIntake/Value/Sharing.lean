import TokenIntake.Value.Mapping

namespace TokenIntake

namespace Graph

def treeFrom (g : Graph) : Nat → Nat → Value
  | 0, _ => .null
  | fuel + 1, n =>
    match g.cell n with
    | .scalar s => .scalar s
    | .list ns => .list (ns.map (treeFrom g fuel))
    | .map es => .map (es.map fun e => (g.keyAt e.1, treeFrom g fuel e.2))
    | .set _ | .pair .. => .null

/-- The cells that have been met, if none of those that can be shared was met twice. -/
abbrev Met := Option (Array Bool)

def meet (met : Met) (n : Nat) : Met :=
  met.bind fun seen => if seen[n]?.getD false then none else some (seen.setIfInBounds n true)

def canBeShared : Cell → Bool
  | .scalar (.time _) | .list _ | .map _ | .set _ | .pair .. => true
  | .scalar _ => false

def meetFrom (g : Graph) : Nat → Met → Nat → Met
  | 0, _, _ => none
  | fuel + 1, met, n =>
    match if canBeShared (g.cell n) then meet met n else met with
    | none => none
    | met =>
      match g.cell n with
      | .scalar _ => met
      | .list ns => ns.foldl (meetFrom g fuel) met
      | .map es => es.foldl (fun met e => meetFrom g fuel (meetFrom g fuel met e.1) e.2) met
      | .set _ | .pair .. => none

def isTree (g : Graph) (n : Nat) : Bool :=
  (g.meetFrom (g.cells.size + 1) (some (Array.replicate g.cells.size false)) n).isSome

def valueAt (g : Graph) (n : Nat) : Value :=
  if g.isTree n then g.treeFrom (g.cells.size + 1) n else .graph { g with root := n }

def value (g : Graph) : Value := g.valueAt g.root

mutual

def addValue (g : Graph) : Value → Graph × Nat
  | .scalar s => g.add (.scalar s)
  | .list xs =>
    let (g, ns) := addItems g xs
    g.add (.list ns)
  | .map es =>
    let (g, ns) := addEntries g es
    g.add (.map ns)
  | .graph h =>
    let first := g.cells.size
    let moved : Cell → Cell
      | .scalar s => .scalar s
      | .list ns => .list (ns.map (first + ·))
      | .map es => .map (es.map fun e => (first + e.1, first + e.2))
      | .set ns => .set (ns.map (first + ·))
      | .pair m n => .pair (first + m) (first + n)
    ({ g with cells := g.cells ++ h.cells.map moved }, first + h.root)

def addItems (g : Graph) : List Value → Graph × List Nat
  | [] => (g, [])
  | x :: xs =>
    let (g, n) := addValue g x
    let (g, ns) := addItems g xs
    (g, n :: ns)

def addEntries (g : Graph) : List (Scalar × Value) → Graph × List (Nat × Nat)
  | [] => (g, [])
  | (k, x) :: es =>
    let (g, m) := g.add (.scalar k)
    let (g, n) := addValue g x
    let (g, ns) := addEntries g es
    (g, (m, n) :: ns)

end

def ofValue (v : Value) : Graph :=
  let (g, n) := addValue ⟨#[], 0⟩ v
  { g with root := n }

end Graph

def Value.opened : Value → Value
  | .graph g =>
    match g.cell g.root with
    | .scalar s => .scalar s
    | .list ns => .list (ns.map g.valueAt)
    | .map es => .map (es.map fun e => (g.keyAt e.1, g.valueAt e.2))
    | .set _ | .pair .. => .graph g
  | v => v

def Value.items? (v : Value) : Option (List Value) :=
  match v.opened with
  | .list xs => some xs
  | .graph g =>
    match g.cell g.root with
    | .set ns => some (ns.map fun n => .scalar (g.keyAt n))
    | .pair m n => some [g.valueAt m, g.valueAt n]
    | _ => none
  | _ => none

def Value.entries? (v : Value) : Option Mapping :=
  match v.opened with
  | .map es => some es
  | _ => none

end TokenIntake
