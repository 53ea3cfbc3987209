import TokenIntake.Proofs.Check.Summary
import TokenIntake.Proofs.Render.Lines

namespace TokenIntake

open Text Render

theorem Scalar.isLong_mono {m n : Nat} (le : m ≤ n) (short : Scalar.isLong (.int n) = false) :
    Scalar.isLong (.int m) = false := by
  simp only [Scalar.isLong, Int.natAbs_natCast, decide_eq_false_iff_not, Nat.not_le] at short ⊢
  exact Nat.lt_of_le_of_lt le short

def Context.texts (c : Context) : List Text :=
  (c.message.map Message.name).toList ++ (c.message.map Message.symbol).toList ++ c.error.toList ++
    c.errorKind.toList ++ c.errors ++ c.warnings

namespace Summary

def keys : List Text :=
  ["name", "symbol", "decimals", "cap", "minting_policy", "error", "error_kind", "errors", "warnings", "rules_passed",
    "rules_total", "validation_result"]

def values (s : Summary) : List Value :=
  [textOrNull s.name, textOrNull s.symbol, match s.decimals with | some n => .int n | none => .null, textOrNull s.cap,
    textOrNull (s.mintingPolicy.map MintingPolicy.label), textOrNull s.error, textOrNull s.errorKind,
    .list (s.errors.map .text), .list (s.warnings.map .text), .int s.rulesPassed, .int s.rulesTotal,
    .text s.outcome.label]

def cells (s : Summary) : List Text :=
  [s.name.getD "-", s.symbol.getD "-", (s.decimals.map Text.ofNat).getD "-", s.cap.getD "-",
    (s.mintingPolicy.map MintingPolicy.label).getD "-", s.error.getD "-", s.errorKind.getD "-", listed s.errors,
    listed s.warnings, Text.ofNat s.rulesPassed, Text.ofNat s.rulesTotal, s.outcome.label]

theorem toValue_eq (s : Summary) : s.toValue = .map (keys.zipWith (fun key v => (.text key, v)) s.values) := rfl

theorem keys_unbroken : ∀ key ∈ keys, ('\n' : CodePoint) ∉ key := by
  decide +kernel

theorem cell_nat {n : Nat} (short : Scalar.isLong (.int n) = false) : cell (.int n) = .ok (Text.ofNat n) := by
  rw [cell_int, short]
  rfl

variable (c : Context)

theorem cell_decimals :
    cell (match c.summary.decimals with | some n => .int n | none => .null) =
      .ok ((c.summary.decimals.map Text.ofNat).getD "-") := by
  cases given : c.summary.decimals with
  | none => rfl
  | some n =>
    obtain ⟨m, _, rfl⟩ := Option.map_eq_some_iff.mp given
    exact cell_nat (Scalar.isLong_of_small (Nat.le_trans (Nat.le_of_lt m.decimals.isLt) (by decide)))

theorem values_shown {c : Context} (short : Scalar.isLong (.int c.results.length) = false) :
    List.Forall₂ (fun v t => cell v = .ok t) c.summary.values c.summary.cells := by
  have passed := Scalar.isLong_mono (List.length_filter_le Prod.snd c.results) short
  exact .cons (cell_textOrNull _) <| .cons (cell_textOrNull _) <| .cons (cell_decimals _) <|
    .cons (cell_textOrNull _) <| .cons (cell_textOrNull _) <| .cons (cell_textOrNull _) <| .cons (cell_textOrNull _) <|
    .cons (cell_texts _) <| .cons (cell_texts _) <| .cons (cell_nat passed) <| .cons (cell_nat short) <|
    .cons (cell_text _) .nil

theorem values_unshown {c : Context} (long : Scalar.isLong (.int c.results.length) = true) :
    (∀ v ∈ c.summary.values, (∃ t, cell v = .ok t) ∨ cell v = .error (.unwritable .longInteger)) ∧
      ∃ v ∈ c.summary.values, cell v = .error (.unwritable .longInteger) := by
  have number : ∀ n : Nat, (∃ t, cell (.int n) = .ok t) ∨ cell (.int n) = .error (.unwritable .longInteger) := by
    intro n
    rw [cell_int]
    split
    · exact .inr rfl
    · exact .inl ⟨_, rfl⟩
  constructor
  · simp only [values, List.forall_mem_cons]
    exact ⟨.inl ⟨_, cell_textOrNull _⟩, .inl ⟨_, cell_textOrNull _⟩, .inl ⟨_, cell_decimals _⟩,
      .inl ⟨_, cell_textOrNull _⟩, .inl ⟨_, cell_textOrNull _⟩, .inl ⟨_, cell_textOrNull _⟩,
      .inl ⟨_, cell_textOrNull _⟩, .inl ⟨_, cell_texts _⟩, .inl ⟨_, cell_texts _⟩, number _, number _,
      .inl ⟨_, cell_text _⟩, List.forall_mem_nil _⟩
  · have total : (.int c.results.length : Value) ∈ c.summary.values := by simp [values, Context.summary]
    exact ⟨_, total, by rw [cell_int, long]; rfl⟩

theorem breaks_cells : (c.summary.cells.map breaks).sum = (c.texts.map breaks).sum := by
  have decimals : ((c.summary.decimals.map Text.ofNat).getD "-").breaks = 0 := by
    cases c.summary.decimals with
    | none => rfl
    | some n => exact breaks_ofNat n
  have cap : (c.summary.cap.getD "-").breaks = 0 := by
    show (((c.message.bind Message.cap).map Uint128.text).getD "-").breaks = 0
    cases c.message.bind Message.cap with
    | none => rfl
    | some u => exact breaks_ofNat u.val
  have policy : ((c.summary.mintingPolicy.map MintingPolicy.label).getD "-").breaks = 0 := by
    cases c.summary.mintingPolicy with
    | none => rfl
    | some p => cases p <;> rfl
  have outcome : c.summary.outcome.label.breaks = 0 := by
    cases c.summary.outcome <;> rfl
  simp only [cells, List.map_cons, List.map_nil, List.sum_cons, List.sum_nil, decimals, cap, policy, outcome,
    breaks_getD, breaks_listed, breaks_ofNat, Nat.add_zero, Nat.zero_add]
  simp only [Context.texts, Context.summary, List.map_append, List.sum_append, Nat.add_assoc]

theorem table_lines {keyWidth : Int} {width : Nat} (possible : checkedWidth keyWidth = .ok width) :
    (Scalar.isLong (.int c.results.length) = true →
      table keyWidth c.summary.toValue = .error (.unwritable .longInteger)) ∧
    (Scalar.isLong (.int c.results.length) = false → ∃ t, table keyWidth c.summary.toValue = .ok t ∧
      t.lines.length = 12 + (c.texts.map breaks).sum ∧
      (List.Forall₂ (fun key line => Text.padEnd key width <+: line) keys t.lines ↔
        ∀ text ∈ c.texts, ('\n' : CodePoint) ∉ text)) := by
  rw [toValue_eq]
  constructor
  · intro long
    obtain ⟨each, some⟩ := values_unshown long
    exact pairs_error possible (Nat.le_refl 12) each some
  · intro short
    have paired : keys.length = c.summary.cells.length := rfl
    obtain ⟨count, inPlace⟩ := lines_of_fields width paired (List.cons_ne_nil _ _) keys_unbroken
    rw [breaks_cells] at count inPlace
    exact ⟨_, pairs_ok possible (values_shown short), count, inPlace.trans sum_breaks_eq_zero_iff⟩

end Summary

def Rule.IsStandard (r : Rule) : Prop := ∃ s ∈ Rule.standard, r = { s with enabled := r.enabled }

/-- What the standard rules leave behind: all that is recorded stays on one line, and each result is one of theirs. -/
structure Context.Terse (m : Message) (c : Context) : Prop where
  message : c.message = some m
  error : ∀ t ∈ c.error, ('\n' : CodePoint) ∉ t
  errorKind : ∀ t ∈ c.errorKind, ('\n' : CodePoint) ∉ t
  errors : ∀ t ∈ c.errors, ('\n' : CodePoint) ∉ t
  warnings : ∀ t ∈ c.warnings, ('\n' : CodePoint) ∉ t
  distinct : Assoc.Distinct id c.results
  known : (c.results.map fun e => id e.1) ⊆ Rule.standard.map Rule.name

namespace Context.Terse

variable {m : Message} {c c' : Context} {rule : Text}

theorem opening (e : Engine) (now : Nat) (m : Message) : (e.opening now m).Terse m :=
  ⟨rfl, fun _ none => (nomatch none), fun _ none => (nomatch none), List.forall_mem_nil _, List.forall_mem_nil _,
    List.nodup_nil, List.nil_subset _⟩

theorem known_put (terse : c.Terse m) (standard : rule ∈ Rule.standard.map Rule.name) (passed : Bool) :
    ((Assoc.put id c.results rule passed).map fun e => id e.1) ⊆ Rule.standard.map Rule.name := by
  rw [Assoc.keys_put]
  split
  · exact terse.known
  · exact List.append_subset.mpr ⟨terse.known, List.cons_subset.mpr ⟨standard, List.nil_subset _⟩⟩

theorem markPassed (terse : c.Terse m) (standard : rule ∈ Rule.standard.map Rule.name) :
    (c.markPassed rule).Terse m :=
  ⟨terse.message, terse.error, terse.errorKind, terse.errors, terse.warnings, terse.distinct.put id rule true,
    terse.known_put standard true⟩

theorem named_unbroken (standard : rule ∈ Rule.standard.map Rule.name) {message : Text}
    (unbroken : ('\n' : CodePoint) ∉ message) : ('\n' : CodePoint) ∉ rule ++ ": " ++ message := by
  have name : ∀ rule ∈ Rule.standard.map Rule.name, ('\n' : CodePoint) ∉ rule := by decide +kernel
  intro inside
  rcases List.mem_append.mp inside with first | inMessage
  · rcases List.mem_append.mp first with inName | inColon
    · exact name rule standard inName
    · exact absurd inColon (by decide)
  · exact unbroken inMessage

theorem refuse (terse : c.Terse m) (standard : rule ∈ Rule.standard.map Rule.name) {warnings : List Text}
    (unbroken : ∀ t ∈ warnings, ('\n' : CodePoint) ∉ t) (kind : Rejection.Kind) :
    (c.refuse rule warnings (.ofKind kind none)).Terse m := by
  have message : ('\n' : CodePoint) ∉ (Rejection.ofKind kind none).message := by cases kind <;> decide
  have label : ('\n' : CodePoint) ∉ (Rejection.ofKind kind none).kind.label := by cases kind <;> decide
  refine ⟨terse.message, ?_, ?_, ?_, ?_, terse.distinct.put id rule false, terse.known_put standard false⟩
  · intro t recorded
    rcases error_addRejection recorded with rfl | before
    · exact message
    · exact terse.error t before
  · intro t recorded
    rcases errorKind_addRejection recorded with rfl | before
    · exact label
    · exact terse.errorKind t before
  · exact List.forall_mem_append.mpr ⟨terse.errors, List.forall_mem_singleton.mpr (named_unbroken standard message)⟩
  · refine List.forall_mem_append.mpr ⟨terse.warnings, ?_⟩
    exact List.forall_mem_map.mpr fun t inside => named_unbroken standard (unbroken t inside)

end Context.Terse

namespace Rule

variable {r : Rule} {c c' : Context} {m : Message}

theorem symbolRemarks_unbroken (symbol : Text) : ∀ t ∈ symbolRemarks symbol, ('\n' : CodePoint) ∉ t := by
  unfold symbolRemarks
  split
  · exact List.forall_mem_nil _
  · refine List.forall_mem_singleton.mpr fun inside => ?_
    exact (List.mem_append.mp inside).elim (by decide) (unbroken_quoted _)

theorem standard_answers (standard : r ∈ Rule.standard) (message : c.message = some m) :
    (r.check c).value = .ok (c, true) ∨ ∃ warnings kind, (∀ t ∈ warnings, ('\n' : CodePoint) ∉ t) ∧
      (r.check c).value = .ok (c.refuse r.name warnings (.ofKind kind none), false) := by
  simp only [Rule.standard, List.mem_cons, List.not_mem_nil, or_false] at standard
  rcases standard with rfl | rfl | rfl
  · cases valid : isValidName m.name with
    | true => exact .inl ((check_ofMessage message).trans (congrArg _ (by simp [valid])))
    | false =>
      refine .inr ⟨[], .name, List.forall_mem_nil _, ?_⟩
      rw [Context.refuse_nil]
      exact (nameFormat_fails message valid).2
  · cases valid : isValidSymbol m.symbol with
    | true => exact .inl ((check_ofMessage message).trans (congrArg _ (by simp [valid])))
    | false =>
      refine .inr ⟨symbolRemarks m.symbol, .symbol, symbolRemarks_unbroken m.symbol, ?_⟩
      exact Context.addRejection_warnOf c m.symbol _ ▸ (symbolFormat_fails message valid).2
  · cases valid : isValidDecimals m.decimals.val with
    | true => exact .inl ((check_ofMessage message).trans (congrArg _ (by simp [valid])))
    | false =>
      refine .inr ⟨[], .decimals, List.forall_mem_nil _, ?_⟩
      rw [Context.refuse_nil]
      exact (decimals_fails message valid).2

theorem IsStandard.keeps_terse (standard : r.IsStandard) (terse : c.Terse m) {passed : Bool}
    (answer : (r.check c).value = .ok (c', passed)) : c'.Terse m ∧ r.name ∈ Rule.standard.map Rule.name := by
  obtain ⟨s, isStandard, same⟩ := standard
  have checks : r.check = s.check := by rw [same]
  have names : r.name = s.name := by rw [same]
  have known : s.name ∈ Rule.standard.map Rule.name := List.mem_map_of_mem isStandard
  rw [checks] at answer
  rw [names]
  refine ⟨?_, known⟩
  rcases standard_answers isStandard terse.message with passes | ⟨warnings, kind, unbroken, refuses⟩
  · rw [passes] at answer
    cases answer
    exact terse
  · rw [refuses] at answer
    cases answer
    exact terse.refuse known unbroken kind

end Rule

theorem Engine.runRules_terse {rules : List Rule} (standard : ∀ r ∈ rules, r.IsStandard) {m : Message}
    {c c' : Context} (terse : c.Terse m) (ran : (runRules c rules).value = .ok c') : c'.Terse m := by
  induction rules generalizing c with
  | nil =>
    cases ran
    exact terse
  | cons r rest ih =>
    obtain ⟨first, others⟩ := List.forall_mem_cons.mp standard
    rcases r.clears_or_fails_or_breaks c with ⟨next, clears⟩ | ⟨given, fails⟩ | ⟨message, breaks⟩
    · rw [runRules_of_clears clears] at ran
      cases clears with
      | skipped => exact ih others terse ran
      | passed _ answer =>
        obtain ⟨kept, known⟩ := first.keeps_terse terse answer
        exact ih others (kept.markPassed known) ran
    · rw [runRules_of_fails fails] at ran
      cases ran
      exact (first.keeps_terse terse fails.2).1
    · rw [runRules_of_breaks breaks] at ran
      cases ran

theorem Engine.check_terse {e : Engine} (standard : ∀ r ∈ e.rules, r.IsStandard) {now : Nat} {m : Message} {c : Context}
    (verdict : (e.check now m).value.2 = .ok c) : c.Terse m := by
  rw [check_result] at verdict
  exact runRules_terse standard (.opening e now m) verdict

namespace Context.Terse

variable {m : Message} {c : Context} (terse : c.Terse m)

include terse

theorem few_results : c.results.length ≤ 3 := by
  have within := (List.subperm_of_subset terse.distinct terse.known).length_le
  rw [List.length_map] at within
  exact within

theorem sum_breaks : (c.texts.map breaks).sum = m.name.breaks + m.symbol.breaks := by
  have error : (c.error.toList.map breaks).sum = 0 :=
    sum_breaks_eq_zero_iff.mpr fun t inside => terse.error t (Option.mem_toList.mp inside)
  have errorKind : (c.errorKind.toList.map breaks).sum = 0 :=
    sum_breaks_eq_zero_iff.mpr fun t inside => terse.errorKind t (Option.mem_toList.mp inside)
  simp only [texts, terse.message, Option.map_some, Option.toList_some, List.map_append, List.sum_append,
    List.map_singleton, List.sum_singleton, error, errorKind, sum_breaks_eq_zero_iff.mpr terse.errors,
    sum_breaks_eq_zero_iff.mpr terse.warnings, Nat.add_zero]

theorem texts_unbroken_iff :
    (∀ text ∈ c.texts, ('\n' : CodePoint) ∉ text) ↔ ('\n' : CodePoint) ∉ m.name ∧ ('\n' : CodePoint) ∉ m.symbol := by
  rw [← sum_breaks_eq_zero_iff, terse.sum_breaks, Nat.add_eq_zero_iff, breaks_eq_zero_iff, breaks_eq_zero_iff]

end Context.Terse

end TokenIntake
