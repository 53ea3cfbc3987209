import TokenIntake.Proofs.Value.Keyed
import TokenIntake.Value.Sharing

namespace TokenIntake

namespace Graph

variable {g : Graph}

def KeysDistinct (g : Graph) : Prop := ∀ es, Cell.map es ∈ g.cells → (es.map fun e => (g.keyAt e.1).canon).Nodup

theorem cell_map_mem {n : Nat} {es : List (Nat × Nat)} (here : g.cell n = .map es) : Cell.map es ∈ g.cells := by
  unfold cell at here
  cases found : g.cells[n]? with
  | none =>
    rw [found] at here
    cases here
  | some c =>
    rw [found] at here
    cases here
    exact Array.mem_of_getElem? found

theorem KeysDistinct.entries {n : Nat} (keyed : g.KeysDistinct) {es : List (Nat × Nat)} (here : g.cell n = .map es)
    (f : Nat → Value) : Mapping.Distinct (es.map fun e => (g.keyAt e.1, f e.2)) := by
  have keys := keyed es (cell_map_mem here)
  rw [Mapping.Distinct, Assoc.Distinct, List.map_map]
  exact keys

theorem KeysDistinct.treeFrom (keyed : g.KeysDistinct) (fuel n : Nat) : (g.treeFrom fuel n).WellKeyed := by
  induction fuel generalizing n with
  | zero => exact Value.wellKeyed_scalar .null
  | succ fuel ih =>
    unfold Graph.treeFrom
    cases here : g.cell n with
    | scalar s => exact Value.wellKeyed_scalar s
    | list ns =>
      apply Value.wellKeyed_list_iff.mpr
      intro x inside
      obtain ⟨m, _, rfl⟩ := List.mem_map.mp inside
      exact ih m
    | map es =>
      apply Value.wellKeyed_map_iff.mpr
      refine ⟨keyed.entries here (g.treeFrom fuel), ?_⟩
      intro e inside
      obtain ⟨m, _, rfl⟩ := List.mem_map.mp inside
      exact ih m.2
    | set ns => exact Value.wellKeyed_scalar .null
    | pair l m => exact Value.wellKeyed_scalar .null

theorem KeysDistinct.valueAt (keyed : g.KeysDistinct) (n : Nat) : (g.valueAt n).WellKeyed := by
  unfold Graph.valueAt
  split
  · exact keyed.treeFrom _ n
  · rw [Value.WellKeyed]
    exact keyed

end Graph

namespace Value

theorem WellKeyed.opened {v : Value} (keyed : v.WellKeyed) : v.opened.WellKeyed := by
  cases v with
  | scalar s => exact keyed
  | list xs => exact keyed
  | map es => exact keyed
  | graph g =>
    have distinct : g.KeysDistinct := by
      rw [WellKeyed] at keyed
      exact keyed
    unfold Value.opened
    dsimp only
    cases here : g.cell g.root with
    | scalar s => exact wellKeyed_scalar s
    | list ns =>
      apply wellKeyed_list_iff.mpr
      intro x inside
      obtain ⟨m, _, rfl⟩ := List.mem_map.mp inside
      exact distinct.valueAt m
    | map es =>
      apply wellKeyed_map_iff.mpr
      refine ⟨distinct.entries here g.valueAt, ?_⟩
      intro e inside
      obtain ⟨m, _, rfl⟩ := List.mem_map.mp inside
      exact distinct.valueAt m.2
    | set ns => exact keyed
    | pair l m => exact keyed

theorem entries?_eq_some_iff {v : Value} {es : Mapping} : v.entries? = some es ↔ v.opened = .map es := by
  unfold Value.entries?
  cases v.opened <;> simp

theorem WellKeyed.entries {v : Value} (keyed : v.WellKeyed) {es : Mapping} (mapping : v.entries? = some es) :
    (Value.map es).WellKeyed := by
  rw [← entries?_eq_some_iff.mp mapping]
  exact keyed.opened

end Value

end TokenIntake
