import TokenIntake.Proofs.Value.Assoc
import TokenIntake.Proofs.Value.Reading
import TokenIntake.Value.Mapping

namespace TokenIntake

namespace Value

theorem wellKeyedItems_iff {xs : List Value} : WellKeyedItems xs ↔ ∀ x ∈ xs, x.WellKeyed := by
  induction xs with
  | nil => simp [WellKeyedItems]
  | cons x xs ih => rw [WellKeyedItems, ih, List.forall_mem_cons]

theorem wellKeyedEntries_iff {es : List (Scalar × Value)} : WellKeyedEntries es ↔ ∀ e ∈ es, e.2.WellKeyed := by
  induction es with
  | nil => simp [WellKeyedEntries]
  | cons e es ih =>
    obtain ⟨k, x⟩ := e
    rw [WellKeyedEntries, ih, List.forall_mem_cons]

theorem wellKeyed_list_iff {xs : List Value} : (Value.list xs).WellKeyed ↔ ∀ x ∈ xs, x.WellKeyed := by
  rw [WellKeyed, wellKeyedItems_iff]

theorem wellKeyed_map_iff {es : List (Scalar × Value)} :
    (Value.map es).WellKeyed ↔ Mapping.Distinct es ∧ ∀ e ∈ es, e.2.WellKeyed := by
  rw [WellKeyed, wellKeyedEntries_iff]

theorem wellKeyed_scalar (s : Scalar) : (Value.scalar s).WellKeyed := by
  rw [WellKeyed]
  trivial

end Value

theorem Mapping.wellKeyed_ofPairs {es : List (Scalar × Value)} (each : ∀ e ∈ es, e.2.WellKeyed) :
    (Value.map (Mapping.ofPairs es)).WellKeyed := by
  refine Value.wellKeyed_map_iff.mpr ⟨Assoc.distinct_ofPairs es, fun e inside => ?_⟩
  obtain ⟨e', among, value⟩ := Assoc.values_ofPairs inside
  exact value ▸ each e' among

end TokenIntake
