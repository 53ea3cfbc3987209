import TokenIntake.Text.Pattern

namespace TokenIntake.Pattern

variable {a b : Pattern}

theorem matches_never (t : Text) : never.Matches t = false := by
  induction t with
  | nil => rfl
  | cons c t ih => exact ih

theorem matches_one {p : CodePoint → Bool} {c : CodePoint} (kind : p c = true) : (one p).Matches [c] = true := by
  rw [Matches, after, if_pos kind]
  rfl

theorem matches_orElse_of_either {t : Text} (either : (a.either b).Matches t = (a.Matches t || b.Matches t)) :
    (a.orElse b).Matches t = (a.Matches t || b.Matches t) := by
  unfold orElse
  split
  · rw [matches_never, Bool.false_or]
  · rw [matches_never, Bool.or_false]
  · exact either

theorem matches_either (a b : Pattern) (t : Text) : (either a b).Matches t = (a.Matches t || b.Matches t) := by
  induction t generalizing a b with
  | nil => rfl
  | cons c t ih => exact matches_orElse_of_either (ih (a.after c) (b.after c))

theorem matches_orElse (a b : Pattern) (t : Text) : (a.orElse b).Matches t = (a.Matches t || b.Matches t) :=
  matches_orElse_of_either (matches_either a b t)

theorem matches_seq_nothing (b : Pattern) (t : Text) : (seq nothing b).Matches t = b.Matches t := by
  cases t with
  | nil => rfl
  | cons c t => rfl

theorem matches_seq_never (b : Pattern) (t : Text) : (seq never b).Matches t = false := by
  cases t with
  | nil => rfl
  | cons c t => exact matches_never t

theorem matches_andThen (a b : Pattern) (t : Text) : (a.andThen b).Matches t = (seq a b).Matches t := by
  unfold andThen
  split
  · rw [matches_seq_never, matches_never]
  · rw [matches_seq_nothing]
  · rfl

theorem matches_seq {s t : Text} (first : a.Matches s = true) (second : b.Matches t = true) :
    (seq a b).Matches (s ++ t) = true := by
  induction s generalizing a with
  | nil =>
    cases t with
    | nil => exact Bool.and_eq_true_iff.mpr ⟨first, second⟩
    | cons c t =>
      have skipped : a.nullable = true := first
      rw [List.nil_append, Matches, after, if_pos skipped, matches_orElse, Bool.or_eq_true]
      exact .inr second
  | cons c s ih =>
    have behind : ((a.after c).andThen b).Matches (s ++ t) = true := by
      rw [matches_andThen]
      exact ih first
    rw [List.cons_append, Matches, after]
    split
    · rw [matches_orElse, behind, Bool.true_or]
    · exact behind

theorem matches_many_one {p : CodePoint → Bool} {t : Text} (each : ∀ c ∈ t, p c = true) :
    (many (one p)).Matches t = true := by
  induction t with
  | nil => rfl
  | cons c t ih =>
    obtain ⟨now, later⟩ := List.forall_mem_cons.mp each
    have step : (many (one p)).after c = many (one p) := by
      rw [after, after, if_pos now]
      rfl
    rw [Matches, step]
    exact ih later

end TokenIntake.Pattern
