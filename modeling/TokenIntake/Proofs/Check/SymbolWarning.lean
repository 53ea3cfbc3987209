import Mathlib.Data.List.Sort
import TokenIntake.Proofs.Check.Agreement
import TokenIntake.Proofs.Message.Symbol
import TokenIntake.Proofs.Text.Digits

namespace TokenIntake

namespace Text

def Ascends (t : Text) : Prop := t.Pairwise fun c d => c.val < d.val

theorem Ascends.nodup {t : Text} (ascends : t.Ascends) : t.Nodup :=
  ascends.imp fun below same => absurd (same ▸ below) (Nat.lt_irrefl _)

theorem Ascends.insert {t : Text} (ascends : t.Ascends) (c : CodePoint) : (insertAscending c t).Ascends := by
  induction t with
  | nil => exact List.pairwise_singleton _ c
  | cons d rest ih =>
    obtain ⟨above, others⟩ := List.pairwise_cons.mp ascends
    unfold insertAscending
    split
    · rename_i below
      refine List.pairwise_cons.mpr ⟨List.forall_mem_cons.mpr ⟨below, fun x inside => ?_⟩, ascends⟩
      exact Nat.lt_trans below (above x inside)
    · rename_i notBelow
      split
      · exact ascends
      · rename_i other
        have apart : c.val ≠ d.val := fun same => other (CodePoint.eq_of_val same)
        refine List.pairwise_cons.mpr ⟨fun x inside => ?_, ih others⟩
        rcases (mem_insertAscending c x rest).mp inside with rfl | later
        · omega
        · exact above x later

theorem ascending_ascends (t : Text) : t.ascending.Ascends := by
  induction t with
  | nil => exact .nil
  | cons c rest ih => exact ih.insert c

end Text

/-- The code points of a symbol that are outside the alphabet, each above those before it. -/
structure Offending (symbol listed : Text) : Prop where
  ascends : listed.Ascends
  mem_iff : ∀ c, c ∈ listed ↔ c ∈ symbol ∧ c ∉ symbolAlphabet

section

variable {symbol : Text}

theorem disallowed_offending (symbol : Text) : Offending symbol (disallowed symbol) where
  ascends := Text.ascending_ascends _
  mem_iff c := by rw [mem_disallowed, CodePoint.mem_symbolAlphabet_iff, Bool.not_eq_true]

theorem Offending.unique {listed listed' : Text} (offending : Offending symbol listed)
    (again : Offending symbol listed') : listed = listed' := by
  have irreflexive : Std.Irrefl fun c d : CodePoint => c.val < d.val := ⟨fun c => Nat.lt_irrefl c.val⟩
  have asymmetric : Std.Asymm fun c d : CodePoint => c.val < d.val := ⟨fun _ _ => Nat.lt_asymm⟩
  refine List.Pairwise.eq_of_mem_iff offending.ascends again.ascends fun c => ?_
  rw [offending.mem_iff, again.mem_iff]

theorem disallowed_eq_nil_iff : disallowed symbol = [] ↔ ∀ c ∈ symbol, c ∈ symbolAlphabet := by
  rw [List.eq_nil_iff_forall_not_mem]
  refine forall_congr' fun c => ?_
  rw [(disallowed_offending symbol).mem_iff, not_and, not_not]

theorem allowed_of_valid (valid : isValidSymbol symbol = true) : ∀ c ∈ symbol, c ∈ symbolAlphabet :=
  fun c inside => CodePoint.mem_symbolAlphabet_iff.mpr ((isValidSymbol_iff.mp valid).2.2 c inside)

theorem length_of_refused (allowed : ∀ c ∈ symbol, c ∈ symbolAlphabet) (refused : isValidSymbol symbol = false) :
    symbol.length < 3 ∨ 12 < symbol.length := by
  have each : ∀ c ∈ symbol, c.isSymbolChar = true :=
    fun c inside => CodePoint.mem_symbolAlphabet_iff.mp (allowed c inside)
  by_contra fits
  have valid : isValidSymbol symbol = true := by
    rw [isValidSymbol_iff, utf8Size_of_symbolChars each]
    exact ⟨by omega, by omega, each⟩
  rw [valid] at refused
  cases refused

end

structure Remarks (symbol : Text) (before after : List Text) : Prop where
  accepted : isValidSymbol symbol = true → after = before
  allowed : (∀ c ∈ symbol, c ∈ symbolAlphabet) → after = before
  offended : (∃ c ∈ symbol, c ∉ symbolAlphabet) → ∃ listed, Offending symbol listed ∧ listed.Nodup ∧
    (∀ t, Offending symbol t → t = listed) ∧
    after = before ++ ["symbol_format" ++ ": " ++ ("Disallowed characters: " ++ listed.quoted)]
  silent : isValidSymbol symbol = false → after = before →
    (∀ c ∈ symbol, c ∈ symbolAlphabet) ∧ (symbol.length < 3 ∨ 12 < symbol.length)

def symbolWarnings (symbol : Text) : List Text :=
  (symbolRemarks symbol).map fun message => "symbol_format" ++ ": " ++ message

theorem Context.warnings_refuse (c : Context) (symbol : Text) (r : Rejection) :
    (c.refuse "symbol_format" (symbolRemarks symbol) r).warnings = c.warnings ++ symbolWarnings symbol := rfl

theorem remarks_symbolWarnings (symbol : Text) (before : List Text) :
    Remarks symbol before (before ++ symbolWarnings symbol) := by
  have none : (∀ c ∈ symbol, c ∈ symbolAlphabet) → before ++ symbolWarnings symbol = before := by
    intro allowed
    rw [symbolWarnings, symbolRemarks, disallowed_eq_nil_iff.mpr allowed]
    exact List.append_nil before
  have one : (∃ c ∈ symbol, c ∉ symbolAlphabet) → symbolWarnings symbol =
      ["symbol_format" ++ ": " ++ ("Disallowed characters: " ++ (disallowed symbol).quoted)] := by
    rintro ⟨c, inside, other⟩
    have some : disallowed symbol ≠ [] := fun empty => other (disallowed_eq_nil_iff.mp empty c inside)
    rw [symbolWarnings, symbolRemarks, if_neg (mt List.isEmpty_iff.mp some)]
    rfl
  refine ⟨?accepted, none, ?offended, ?silent⟩
  case accepted => exact fun valid => none (allowed_of_valid valid)
  case offended =>
    intro offended
    have offending := disallowed_offending symbol
    exact ⟨_, offending, offending.ascends.nodup, fun t same => same.unique offending, by rw [one offended]⟩
  case silent =>
    intro refused same
    have allowed : ∀ c ∈ symbol, c ∈ symbolAlphabet := by
      by_contra offended
      have added := one (by simpa using offended)
      rw [added] at same
      simp at same
    exact ⟨allowed, length_of_refused allowed refused⟩

theorem Context.warnings_judged (c : Context) (m : Message) : (c.judged m).warnings =
    if isValidName m.name then c.warnings ++ symbolWarnings m.symbol else c.warnings := by
  unfold judged
  split
  · split
    · rename_i valid
      rw [(remarks_symbolWarnings m.symbol c.warnings).accepted valid]
      split <;> rfl
    · rw [addRejection_warnOf, warnings_refuse]
      rfl
  · rfl

theorem Rule.symbolFormat_remarks {c : Context} {m : Message} (message : c.message = some m) :
    ∃ c', (symbolFormat.check c).value = .ok (c', isValidSymbol m.symbol) ∧
      Remarks m.symbol c.warnings c'.warnings := by
  have remarks := remarks_symbolWarnings m.symbol c.warnings
  cases valid : isValidSymbol m.symbol with
  | true =>
    rw [remarks.accepted valid] at remarks
    exact ⟨c, (check_ofMessage message).trans (congrArg _ (by simp [valid])), remarks⟩
  | false =>
    refine ⟨_, (symbolFormat_fails message valid).2, ?_⟩
    rw [Context.addRejection_warnOf, Context.warnings_refuse]
    exact remarks

/-- Whatever context the rule for symbols looks at, it answers by whether the symbol is one and warns of the offending
characters. An engine with the standard rules has no other warnings, and none of a message whose name it refuses. -/
theorem symbol_warnings :
    (∀ (c : Context) (m : Message), c.message = some m →
      ∃ c', (Rule.symbolFormat.check c).value = .ok (c', isValidSymbol m.symbol) ∧
        Remarks m.symbol c.warnings c'.warnings) ∧
    ∀ (e : Engine) (now : Nat) (m : Message), e.rules = Rule.standard → ∃ c, (e.check now m).value.2 = .ok c ∧
      (isValidName m.name = true → Remarks m.symbol [] c.warnings) ∧
      (isValidName m.name = false → c.warnings = []) := by
  refine ⟨fun c m message => Rule.symbolFormat_remarks message, fun e now m standard => ?_⟩
  have warnings := Context.warnings_judged (e.opening now m) m
  refine ⟨_, (Engine.check_of_standard standard now m).1, fun valid => ?_, fun refused => ?_⟩
  · rw [warnings, if_pos valid]
    exact remarks_symbolWarnings m.symbol []
  · rw [warnings, refused]
    rfl

theorem symbol_warnings_foreign :
    let m : Message := ⟨"test token", "$é $T$", 6, [], none, none⟩
    let e := Engine.fresh Options.defaults
    let warnings : List Text := ["symbol_format: Disallowed characters: ' $é'"]
    (Context.fresh (some m)).message = some m ∧ e.rules = Rule.standard ∧ isValidName m.name = true ∧
      (∃ c', (Rule.symbolFormat.check (.fresh (some m))).value = .ok (c', false) ∧ c'.warnings = warnings) ∧
      ∃ c, (e.check 0 m).value.2 = .ok c ∧ c.warnings = warnings := by
  intro m e warnings
  have refused : isValidSymbol m.symbol = false := by decide +kernel
  have named : isValidName m.name = true := by decide +kernel
  have standard : e.rules = Rule.standard := Engine.rules_fresh _
  have only : ∀ after, Remarks m.symbol [] after → after = warnings := by
    intro after remarks
    obtain ⟨listed, offending, _, _, warned⟩ := remarks.offended ⟨'$', by decide, by decide +kernel⟩
    have same : listed = " $é" := (offending.unique (disallowed_offending m.symbol)).trans (by decide +kernel)
    rw [warned, same]
    decide +kernel
  obtain ⟨c', answer, remarks⟩ := symbol_warnings.1 (.fresh (some m)) m rfl
  obtain ⟨c, checked, remarked, _⟩ := symbol_warnings.2 e 0 m standard
  exact ⟨rfl, standard, named, ⟨c', by rw [answer, refused], only _ remarks⟩, c, checked, only _ (remarked named)⟩

end TokenIntake
