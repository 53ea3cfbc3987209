import TokenIntake.Value.Basic

namespace TokenIntake

structure Reading (α : Type) where
  scalar : Scalar → α
  list : List α → α
  map : List (Scalar × α) → α
  set : List Scalar → α
  pair : α → α → α
  listAgain : α
  mapAgain : α
  pairAgain : α

def Reading.any (p : Scalar → Bool) : Reading Bool where
  scalar := p
  list found := found.any id
  map found := found.any fun e => p e.1 || e.2
  set found := found.any p
  pair first second := first || second
  listAgain := false
  mapAgain := false
  pairAgain := false

variable {α : Type}

/-- Reads from a cell on, along a path of cells. A path without repetition is not longer than the table. -/
def Graph.readFrom (g : Graph) (r : Reading α) : Nat → List Nat → Nat → α
  | 0, _, _ => r.listAgain
  | fuel + 1, path, n =>
    match g.cell n with
    | .scalar s => r.scalar s
    | .list ns => if path.contains n then r.listAgain else r.list (ns.map (readFrom g r fuel (n :: path)))
    | .map es =>
      if path.contains n then r.mapAgain
      else r.map (es.map fun e => (g.keyAt e.1, readFrom g r fuel (n :: path) e.2))
    | .set ns => r.set (ns.map g.keyAt)
    | .pair l m =>
      if path.contains n then r.pairAgain
      else r.pair (readFrom g r fuel (n :: path) l) (readFrom g r fuel (n :: path) m)

def Graph.read (g : Graph) (r : Reading α) : α := g.readFrom r (g.cells.size + 1) [] g.root

namespace Value

mutual

def read (r : Reading α) : Value → α
  | .scalar s => r.scalar s
  | .list xs => r.list (readItems r xs)
  | .map es => r.map (readEntries r es)
  | .graph g => g.read r

def readItems (r : Reading α) : List Value → List α
  | [] => []
  | x :: xs => x.read r :: readItems r xs

def readEntries (r : Reading α) : List (Scalar × Value) → List (Scalar × α)
  | [] => []
  | (k, x) :: es => (k, x.read r) :: readEntries r es

end

@[simp] theorem readItems_eq_map (r : Reading α) (xs : List Value) : readItems r xs = xs.map (read r) := by
  induction xs with
  | nil => rfl
  | cons x xs ih => simp [readItems, ih]

@[simp] theorem readEntries_eq_map (r : Reading α) (es : List (Scalar × Value)) :
    readEntries r es = es.map fun e => (e.1, e.2.read r) := by
  induction es with
  | nil => rfl
  | cons e es ih => simp [readEntries, ih]

end Value

end TokenIntake
