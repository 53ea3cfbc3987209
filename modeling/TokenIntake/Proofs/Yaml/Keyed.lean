import TokenIntake.Proofs.Except
import TokenIntake.Proofs.Value.Sharing
import TokenIntake.Yaml.Reader

namespace TokenIntake.Yaml

variable {g : Graph}

theorem cell_settle (keyAt : Nat → Scalar) (n : Nat) :
    Graph.cell { g with cells := g.cells.map (Cell.settled keyAt) } n = Cell.settled keyAt (g.cell n) := by
  unfold Graph.cell
  rw [Array.getElem?_map]
  cases g.cells[n]? <;> rfl

theorem keyAt_settle (keyAt : Nat → Scalar) (n : Nat) :
    Graph.keyAt { g with cells := g.cells.map (Cell.settled keyAt) } n = g.keyAt n := by
  unfold Graph.keyAt
  rw [cell_settle]
  cases g.cell n <;> rfl

theorem keysDistinct_settle : Graph.KeysDistinct { g with cells := g.cells.map (Cell.settled g.keyAt) } := by
  intro es inside
  simp only [keyAt_settle]
  obtain ⟨cell, _, settled⟩ := Array.mem_map.mp inside
  cases cell with
  | map entries =>
    have same : es = Assoc.ofPairs (fun k => (g.keyAt k).canon) entries := (Cell.map.inj settled).symm
    have distinct : Assoc.Distinct (fun k => (g.keyAt k).canon) es := same ▸ Assoc.distinct_ofPairs entries
    exact distinct
  | scalar s => cases settled
  | list ns => cases settled
  | set ns => cases settled
  | pair l m => cases settled

theorem Document.wellKeyed_of_value {d : Document} {v : Value} (valued : d.value = .ok v) : v.WellKeyed := by
  obtain ⟨s, _, made⟩ := bind_eq_ok valued
  cases made
  exact keysDistinct_settle.valueAt _

theorem wellKeyed_of_read {s : Source} {v : Value} (read : Yaml.read s = .ok v) : v.WellKeyed := by
  obtain ⟨d, _, valued⟩ := bind_eq_ok read
  cases d with
  | none =>
    cases valued
    exact Value.wellKeyed_scalar .null
  | some d => exact Document.wellKeyed_of_value valued

end TokenIntake.Yaml
