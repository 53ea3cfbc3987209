import Mathlib.Algebra.Group.Nat.Defs
import TokenIntake.Value.Reading
import TokenIntake.Value.Unwritable

namespace TokenIntake

variable {α : Type}

@[elab_as_elim, induction_eliminator]
theorem Value.induct {motive : Value → Prop} (scalar : ∀ s, motive (.scalar s))
    (list : ∀ xs, (∀ x ∈ xs, motive x) → motive (.list xs))
    (map : ∀ es, (∀ e ∈ es, motive e.2) → motive (.map es)) (graph : ∀ g, motive (.graph g)) (v : Value) :
    motive v := by
  match v with
  | .scalar s => exact scalar s
  | .graph g => exact graph g
  | .list xs =>
    refine list xs fun x inside => ?_
    have smaller := List.sizeOf_lt_of_mem inside
    exact Value.induct scalar list map graph x
  | .map es =>
    refine map es fun e inside => ?_
    have smaller := List.sizeOf_lt_of_mem inside
    have part : sizeOf e.2 < sizeOf e := by
      cases e
      simp only [Prod.mk.sizeOf_spec]
      omega
    exact Value.induct scalar list map graph e.2
termination_by sizeOf v

namespace Reading

/-- Scalars are read as something with the property, and collections are if all in them is. -/
structure Keeps (r : Reading α) (property : α → Prop) : Prop where
  scalar : ∀ s, property (r.scalar s)
  list : ∀ xs, (∀ x ∈ xs, property x) → property (r.list xs)
  map : ∀ es, (∀ e ∈ es, property e.2) → property (r.map es)
  set : ∀ elements, property (r.set elements)
  pair : ∀ first second, property first → property second → property (r.pair first second)
  listAgain : property r.listAgain
  mapAgain : property r.mapAgain
  pairAgain : property r.pairAgain

variable {r : Reading α} {property : α → Prop}

theorem Keeps.readFrom (keeps : r.Keeps property) (g : Graph) (fuel : Nat) (path : List Nat) (n : Nat) :
    property (g.readFrom r fuel path n) := by
  induction fuel generalizing path n with
  | zero => exact keeps.listAgain
  | succ fuel ih =>
    unfold Graph.readFrom
    cases g.cell n with
    | scalar s => exact keeps.scalar s
    | list ns =>
      dsimp only
      split
      · exact keeps.listAgain
      · refine keeps.list _ fun x inside => ?_
        obtain ⟨m, _, rfl⟩ := List.mem_map.mp inside
        exact ih _ m
    | map es =>
      dsimp only
      split
      · exact keeps.mapAgain
      · refine keeps.map _ fun e inside => ?_
        obtain ⟨m, _, rfl⟩ := List.mem_map.mp inside
        exact ih _ m.2
    | set ns => exact keeps.set _
    | pair l m =>
      dsimp only
      split
      · exact keeps.pairAgain
      · exact keeps.pair _ _ (ih _ l) (ih _ m)

theorem Keeps.read (keeps : r.Keeps property) (v : Value) : property (v.read r) := by
  induction v with
  | scalar s => exact keeps.scalar s
  | list xs ih =>
    rw [Value.read, Value.readItems_eq_map]
    refine keeps.list _ fun a inside => ?_
    obtain ⟨x, isItem, rfl⟩ := List.mem_map.mp inside
    exact ih x isItem
  | map es ih =>
    rw [Value.read, Value.readEntries_eq_map]
    refine keeps.map _ fun a inside => ?_
    obtain ⟨e, isEntry, rfl⟩ := List.mem_map.mp inside
    exact ih e isEntry
  | graph g => exact keeps.readFrom g _ _ _

/-- Two readings that stay related from the leaves up. -/
structure Agrees {β : Type} (r : Reading α) (r' : Reading β) (R : α → β → Prop) : Prop where
  scalar : ∀ s, R (r.scalar s) (r'.scalar s)
  list : ∀ {ι : Type} (xs : List ι) (f : ι → α) (g : ι → β), (∀ x ∈ xs, R (f x) (g x)) →
    R (r.list (xs.map f)) (r'.list (xs.map g))
  map : ∀ {ι : Type} (es : List ι) (key : ι → Scalar) (f : ι → α) (g : ι → β), (∀ e ∈ es, R (f e) (g e)) →
    R (r.map (es.map fun e => (key e, f e))) (r'.map (es.map fun e => (key e, g e)))
  set : ∀ elements, R (r.set elements) (r'.set elements)
  pair : ∀ first second first' second', R first first' → R second second' →
    R (r.pair first second) (r'.pair first' second')
  listAgain : R r.listAgain r'.listAgain
  mapAgain : R r.mapAgain r'.mapAgain
  pairAgain : R r.pairAgain r'.pairAgain

variable {β : Type} {r' : Reading β} {R : α → β → Prop}

theorem Agrees.readFrom (agrees : r.Agrees r' R) (g : Graph) (fuel : Nat) (path : List Nat) (n : Nat) :
    R (g.readFrom r fuel path n) (g.readFrom r' fuel path n) := by
  induction fuel generalizing path n with
  | zero => exact agrees.listAgain
  | succ fuel ih =>
    unfold Graph.readFrom
    cases g.cell n with
    | scalar s => exact agrees.scalar s
    | list ns =>
      dsimp only
      split
      · exact agrees.listAgain
      · exact agrees.list ns _ _ fun m _ => ih (n :: path) m
    | map es =>
      dsimp only
      split
      · exact agrees.mapAgain
      · exact agrees.map es _ _ _ fun e _ => ih (n :: path) e.2
    | set ns => exact agrees.set _
    | pair l m =>
      dsimp only
      split
      · exact agrees.pairAgain
      · exact agrees.pair _ _ _ _ (ih _ l) (ih _ m)

theorem Agrees.read (agrees : r.Agrees r' R) (v : Value) : R (v.read r) (v.read r') := by
  induction v with
  | scalar s => exact agrees.scalar s
  | list xs ih =>
    rw [Value.read, Value.read, Value.readItems_eq_map, Value.readItems_eq_map]
    exact agrees.list xs _ _ ih
  | map es ih =>
    rw [Value.read, Value.read, Value.readEntries_eq_map, Value.readEntries_eq_map]
    exact agrees.map es _ _ _ ih
  | graph g => exact agrees.readFrom g _ _ _

variable (p : Scalar → Bool)

theorem any_list (xs : List Value) : (Value.list xs).read (any p) = xs.any (Value.read (any p)) := by
  rw [Value.read, Value.readItems_eq_map]
  simp only [any, List.any_map]
  rfl

theorem any_map (es : List (Scalar × Value)) :
    (Value.map es).read (any p) = es.any fun e => p e.1 || e.2.read (any p) := by
  rw [Value.read, Value.readEntries_eq_map]
  simp only [any, List.any_map]
  rfl

end Reading

theorem Scalar.isLong_int {i : Int} (short : i.natAbs < 10 ^ maxIntDigits) : Scalar.isLong (.int i) = false := by
  have limit : ∀ n : Nat, Binary64.pow10 n = 10 ^ n := by
    intro n
    rw [Binary64.pow10, Int.toNat_natCast]
    rfl
  simp only [Scalar.isLong, limit, decide_eq_false_iff_not]
  exact Nat.not_le.mpr short

def Scalar.isPlain : Scalar → Bool
  | .bytes _ | .time _ => false
  | s => !s.isLong

theorem Scalar.isLong_of_isPlain {s : Scalar} (plain : s.isPlain = true) : s.isLong = false := by
  unfold Scalar.isPlain at plain
  split at plain
  · rfl
  · rfl
  · simpa using plain

/-- Trees with texts as keys. -/
inductive Value.Plain : Value → Prop where
  | scalar {s : Scalar} (plain : s.isPlain = true) : Plain (.scalar s)
  | list {xs : List Value} (each : ∀ x ∈ xs, Plain x) : Plain (.list xs)
  | map {es : List (Scalar × Value)} (keys : ∀ e ∈ es, ∃ t, e.1 = .text t) (each : ∀ e ∈ es, Plain e.2) :
    Plain (.map es)

theorem Value.Plain.int {i : Int} (short : Scalar.isLong (.int i) = false) : Plain (.int i) :=
  .scalar (by simp only [Scalar.isPlain, short, Bool.not_false])

theorem Value.Plain.text (t : Text) : Plain (.text t) := .scalar rfl

end TokenIntake
