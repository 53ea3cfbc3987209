import TokenIntake.Value.Scalar

namespace TokenIntake

inductive Cell where
  | scalar (s : Scalar)
  | list (items : List Nat)
  | map (entries : List (Nat × Nat))
  | set (elements : List Nat)
  | pair (first second : Nat)
deriving DecidableEq

structure Graph where
  cells : Array Cell
  root : Nat
deriving DecidableEq

inductive Value.Top where
  | scalar (s : Scalar)
  | list (isEmpty : Bool)
  | map (isEmpty : Bool)
  | set (isEmpty : Bool)
  | pair
deriving DecidableEq

def Cell.top : Cell → Value.Top
  | .scalar s => .scalar s
  | .list ns => .list ns.isEmpty
  | .map es => .map es.isEmpty
  | .set ns => .set ns.isEmpty
  | .pair .. => .pair

namespace Graph

/-- The cell of a number; where the table has none, null. -/
def cell (g : Graph) (n : Nat) : Cell := g.cells[n]?.getD (.scalar .null)

def keyAt (g : Graph) (n : Nat) : Scalar :=
  match g.cell n with
  | .scalar s => s
  | _ => .null

def top (g : Graph) : Value.Top := (g.cell g.root).top

def add (g : Graph) (c : Cell) : Graph × Nat := ({ g with cells := g.cells.push c }, g.cells.size)

def entry? (g : Graph) (entries : List (Nat × Nat)) (k : Scalar) : Option (Nat × Nat) :=
  entries.find? fun e => (g.keyAt e.1).canon = k.canon

end Graph

end TokenIntake
