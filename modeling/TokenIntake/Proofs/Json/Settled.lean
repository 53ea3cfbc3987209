import TokenIntake.Json.Reader
import TokenIntake.Proofs.Value.Keyed

namespace TokenIntake.Json

theorem settledReading_keeps : settledReading.Keeps Value.WellKeyed where
  scalar := Value.wellKeyed_scalar
  list _ each := Value.wellKeyed_list_iff.mpr each
  map _ each := Mapping.wellKeyed_ofPairs each
  set _ := Value.wellKeyed_list_iff.mpr (by simp [Value.wellKeyed_scalar])
  pair _ _ one other := Value.wellKeyed_list_iff.mpr (by simp [one, other])
  listAgain := Value.wellKeyed_list_iff.mpr (by simp)
  mapAgain := Value.wellKeyed_map_iff.mpr (by simp [Mapping.Distinct, Assoc.Distinct])
  pairAgain := Value.wellKeyed_list_iff.mpr (by simp)

theorem wellKeyed_of_parse {t : Text} {v : Value} (read : parse t = .ok v) : v.WellKeyed := by
  unfold parse at read
  cases written : parseWritten t with
  | error e =>
    rw [written] at read
    cases read
  | ok w =>
    rw [written] at read
    cases read
    exact settledReading_keeps.read w

end TokenIntake.Json
