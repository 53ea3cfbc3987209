import TokenIntake.Proofs.Check.Standard
import TokenIntake.Proofs.Render.Table

namespace TokenIntake

open Text

theorem Assoc.length_put_le {α β κ : Type} [DecidableEq κ] (key : α → κ) (entries : List (α × β)) (k : α) (v : β) :
    (Assoc.put key entries k v).length ≤ entries.length + 1 := by
  induction entries with
  | nil => exact Nat.le_refl 1
  | cons e rest ih =>
    obtain ⟨k', v'⟩ := e
    rw [Assoc.put]
    split
    · exact Nat.le_succ _
    · exact Nat.succ_le_succ ih

theorem short_of_small {n : Nat} (small : n ≤ maxIntDigits) : n < 10 ^ maxIntDigits :=
  Nat.lt_of_le_of_lt small (Nat.lt_pow_self (by decide))

theorem Scalar.isLong_of_small {n : Nat} (small : n ≤ maxIntDigits) : Scalar.isLong (.int n) = false := by
  refine Scalar.isLong_int ?_
  rw [Int.natAbs_natCast]
  exact short_of_small small

namespace Context

structure Whole (c : Context) : Prop where
  errors : ∀ t ∈ c.errors, t.hasSurrogate = false
  warnings : ∀ t ∈ c.warnings, t.hasSurrogate = false
  error : ∀ t, c.error = some t → t.hasSurrogate = false
  errorKind : ∀ t, c.errorKind = some t → t.hasSurrogate = false

namespace Whole

variable {c : Context}

theorem markPassed (whole : c.Whole) (rule : Text) : (c.markPassed rule).Whole :=
  ⟨whole.errors, whole.warnings, whole.error, whole.errorKind⟩

theorem addWarning (whole : c.Whole) {rule message : Text} (wholeRule : rule.hasSurrogate = false)
    (wholeMessage : message.hasSurrogate = false) : (c.addWarning rule message).Whole := by
  refine ⟨whole.errors, ?_, whole.error, whole.errorKind⟩
  refine List.forall_mem_append.mpr ⟨whole.warnings, ?_⟩
  simp only [List.forall_mem_singleton, hasSurrogate_append, wholeRule, wholeMessage]
  decide

theorem warnOf (whole : c.Whole) (symbol : Text) : (c.warnOf symbol).Whole := by
  unfold Context.warnOf
  split
  · exact whole
  · refine whole.addWarning (by decide) ?_
    rw [hasSurrogate_append, hasSurrogate_quoted]
    decide

theorem addRejection (whole : c.Whole) {rule : Text} (wholeRule : rule.hasSurrogate = false) (kind : Rejection.Kind) :
    (c.addRejection rule (.ofKind kind none)).Whole := by
  have message : Text.hasSurrogate (Rejection.ofKind kind none).message = false := by cases kind <;> decide
  have label : Text.hasSurrogate (Rejection.ofKind kind none).kind.label = false := by cases kind <;> decide
  refine ⟨?_, whole.warnings, ?_, ?_⟩
  · refine List.forall_mem_append.mpr ⟨whole.errors, ?_⟩
    simp only [List.forall_mem_singleton, hasSurrogate_append, wholeRule, message]
    decide
  · intro t recorded
    rcases error_addRejection recorded with rfl | before
    · exact message
    · exact whole.error t before
  · intro t recorded
    rcases errorKind_addRejection recorded with rfl | before
    · exact label
    · exact whole.errorKind t before

theorem judged (whole : c.Whole) (m : Message) : (c.judged m).Whole := by
  unfold Context.judged
  split
  · split
    · split
      · exact ((whole.markPassed _).markPassed _).markPassed _
      · exact ((whole.markPassed _).markPassed _).addRejection (by decide) .decimals
    · exact ((whole.markPassed _).warnOf _).addRejection (by decide) .symbol
  · exact whole.addRejection (by decide) .name

theorem opening (e : Engine) (now : Nat) (m : Message) : (e.opening now m).Whole :=
  ⟨fun _ none => (nomatch none), fun _ none => (nomatch none), fun _ none => (nomatch none),
    fun _ none => (nomatch none)⟩

end Whole

theorem length_results_judged (c : Context) (m : Message) :
    (c.judged m).results.length ≤ c.results.length + 3 := by
  have passed : ∀ (c : Context) (rule : Text), (c.markPassed rule).results.length ≤ c.results.length + 1 :=
    fun c rule => Assoc.length_put_le id c.results rule true
  have refused : ∀ (c : Context) (rule : Text) (r : Rejection),
      (c.addRejection rule r).results.length ≤ c.results.length + 1 :=
    fun c rule r => Assoc.length_put_le id c.results rule false
  have name := passed c "name_format"
  have symbol := passed (c.markPassed "name_format") "symbol_format"
  have warned : ((c.markPassed "name_format").warnOf m.symbol).results = (c.markPassed "name_format").results := by
    unfold Context.warnOf
    split <;> rfl
  unfold Context.judged
  split
  · split
    · split
      · have decimals := passed ((c.markPassed "name_format").markPassed "symbol_format") "decimals"
        omega
      · have decimals := refused ((c.markPassed "name_format").markPassed "symbol_format") "decimals"
          (.ofKind .decimals none)
        omega
    · have symbol := refused ((c.markPassed "name_format").warnOf m.symbol) "symbol_format" (.ofKind .symbol none)
      rw [warned] at symbol
      omega
  · have name := refused c "name_format" (.ofKind .name none)
    omega

end Context

namespace Summary

open Render

theorem cell_textOrNull (o : Option Text) : cell (textOrNull o) = .ok (o.getD "-") := by
  cases o <;> rfl

theorem tidy_textOrNull {o : Option Text} (whole : ∀ t, o = some t → t.hasSurrogate = false) :
    Tidy (textOrNull o) := by
  cases o with
  | none => exact .null
  | some t => exact .text (whole t rfl)

def TidyField (e : Scalar × Value) : Prop := (∃ t, e.1 = .text t ∧ Text.hasSurrogate t = false) ∧ Tidy e.2

theorem toValue_tidy {c : Context} {m : Message} (whole : c.Whole) (message : c.message = some m)
    (name : m.name.hasSurrogate = false) (symbol : m.symbol.hasSurrogate = false) (few : c.results.length ≤ 3) :
    ∃ es, c.summary.toValue = .map es ∧ ∀ e ∈ es, TidyField e := by
  have field : ∀ (key : Text) {v : Value}, key.hasSurrogate = false → Tidy v → TidyField (.text key, v) :=
    fun key v wholeKey tidy => ⟨⟨key, rfl, wholeKey⟩, tidy⟩
  have present : ∀ {t : Text}, t.hasSurrogate = false → ∀ u, some t = some u → u.hasSurrogate = false := by
    intro t wholeT u same
    cases same
    exact wholeT
  have small : ∀ n, n ≤ 256 → Tidy (.int (n : Nat)) := fun n le =>
    .int (Scalar.isLong_of_small (Nat.le_trans le (by decide)))
  have passed := List.length_filter_le Prod.snd c.results
  refine ⟨_, rfl, ?_⟩
  simp only [Context.summary, message, Option.map_some, Option.bind_some, List.forall_mem_cons]
  refine ⟨field _ (by decide) (tidy_textOrNull (present name)), field _ (by decide) (tidy_textOrNull (present symbol)),
    field _ (by decide) (small _ (Nat.le_of_lt m.decimals.isLt)), field _ (by decide) (tidy_textOrNull ?_),
    field _ (by decide) (tidy_textOrNull ?_), field _ (by decide) (tidy_textOrNull whole.error),
    field _ (by decide) (tidy_textOrNull whole.errorKind), field _ (by decide) (.texts whole.errors),
    field _ (by decide) (.texts whole.warnings), field _ (by decide) (small _ (by omega)),
    field _ (by decide) (small _ (by omega)), field _ (by decide) (.text ?_), by simp⟩
  · intro t capped
    obtain ⟨u, _, rfl⟩ := Option.map_eq_some_iff.mp capped
    exact (Text.legible_ofNat _).hasSurrogate
  · intro t labelled
    cases labelled
    cases m.mintingPolicy <;> decide
  · split <;> decide

end Summary

end TokenIntake
