import TokenIntake.Proofs.Check.Run

namespace TokenIntake

open Rejection

theorem mem_insertAscending (c d : CodePoint) (t : Text) : d ∈ insertAscending c t ↔ d = c ∨ d ∈ t := by
  induction t with
  | nil => simp [insertAscending]
  | cons x rest ih =>
    unfold insertAscending
    split
    · simp
    · split
      · rename_i same
        simp [same]
      · rw [List.mem_cons, ih, List.mem_cons]
        exact or_left_comm

theorem mem_ascending (d : CodePoint) (t : Text) : d ∈ t.ascending ↔ d ∈ t := by
  induction t with
  | nil => exact Iff.rfl
  | cons x rest ih =>
    have step : Text.ascending (x :: rest) = insertAscending x (Text.ascending rest) := rfl
    rw [step, mem_insertAscending, ih, List.mem_cons]

theorem mem_disallowed (d : CodePoint) (symbol : Text) :
    d ∈ disallowed symbol ↔ d ∈ symbol ∧ d.isSymbolChar = false := by
  rw [disallowed, mem_ascending, List.mem_filter, Bool.not_eq_true']

def symbolRemarks (symbol : Text) : List Text :=
  if (disallowed symbol).isEmpty then [] else ["Disallowed characters: " ++ (disallowed symbol).quoted]

namespace Context

def addRejection (c : Context) (rule : Text) (r : Rejection) : Context :=
  c.addError rule r.message (some r.kind.label)

def warnOf (c : Context) (symbol : Text) : Context :=
  if (disallowed symbol).isEmpty then c
  else c.addWarning "symbol_format" ("Disallowed characters: " ++ (disallowed symbol).quoted)

def refuse (c : Context) (rule : Text) (warnings : List Text) (r : Rejection) : Context :=
  { c with warnings := c.warnings ++ warnings.map fun message => rule ++ ": " ++ message }.addRejection rule r

def judged (c : Context) (m : Message) : Context :=
  if isValidName m.name then
    if isValidSymbol m.symbol then
      if isValidDecimals m.decimals.val then
        ((c.markPassed "name_format").markPassed "symbol_format").markPassed "decimals"
      else
        ((c.markPassed "name_format").markPassed "symbol_format").addRejection "decimals" (.ofKind .decimals none)
    else ((c.markPassed "name_format").warnOf m.symbol).addRejection "symbol_format" (.ofKind .symbol none)
  else c.addRejection "name_format" (.ofKind .name none)

/-- The context says of its message what a verdict says, and raises what the verdict rejects it with. -/
def Reports (c : Context) : Except Rejection Unit → Prop
  | .ok () => c.hasErrors = false ∧ c.error = none ∧ c.errorKind = none ∧ c.raise = .ok ()
  | .error r =>
    c.hasErrors = true ∧ c.error = some r.message ∧ c.errorKind = some r.kind.label ∧
      c.raise = .error (.rejection r)

@[simp] theorem message_markPassed (c : Context) (rule : Text) : (c.markPassed rule).message = c.message := rfl

@[simp] theorem message_addRejection (c : Context) (rule : Text) (r : Rejection) :
    (c.addRejection rule r).message = c.message := rfl

@[simp] theorem hasErrors_addRejection (c : Context) (rule : Text) (r : Rejection) :
    (c.addRejection rule r).hasErrors = true := hasErrors_addError c rule r.message _

theorem error_addRejection {c : Context} {rule : Text} {r : Rejection} {t : Text}
    (recorded : (c.addRejection rule r).error = some t) : t = r.message ∨ c.error = some t := by
  cases before : c.error with
  | none =>
    simp only [addRejection, addError, before, Option.getD_none, Option.some.injEq] at recorded
    exact .inl recorded.symm
  | some first =>
    simp only [addRejection, addError, before, Option.getD_some] at recorded
    exact .inr recorded

theorem errorKind_addRejection {c : Context} {rule : Text} {r : Rejection} {t : Text}
    (recorded : (c.addRejection rule r).errorKind = some t) : t = r.kind.label ∨ c.errorKind = some t := by
  cases before : c.error with
  | none =>
    simp only [addRejection, addError, before, Option.isSome_none, Bool.false_eq_true, if_false,
      Option.some.injEq] at recorded
    exact .inl recorded.symm
  | some first =>
    simp only [addRejection, addError, before, Option.isSome_some, if_true] at recorded
    exact .inr recorded

@[simp] theorem message_warnOf (c : Context) (symbol : Text) : (c.warnOf symbol).message = c.message := by
  unfold warnOf
  split <;> rfl

@[simp] theorem error_warnOf (c : Context) (symbol : Text) : (c.warnOf symbol).error = c.error := by
  unfold warnOf
  split <;> rfl

@[simp] theorem refuse_nil (c : Context) (rule : Text) (r : Rejection) :
    c.refuse rule [] r = c.addRejection rule r := by
  rw [refuse, List.map_nil, List.append_nil]

theorem addRejection_warnOf (c : Context) (symbol : Text) (r : Rejection) :
    (c.warnOf symbol).addRejection "symbol_format" r = c.refuse "symbol_format" (symbolRemarks symbol) r := by
  unfold warnOf symbolRemarks
  split
  · exact (refuse_nil c _ r).symm
  · rfl

end Context

theorem Rejection.kind_ofKind (kind : Kind) (message : Option Text) : (ofKind kind message).kind = kind := rfl

theorem Rejection.ofKind_message (kind : Kind) (message : Option Text) :
    ofKind kind (some (ofKind kind message).message) = ofKind kind message := by
  have default : ofKind kind (some kind.defaultMessage) = ofKind kind none := by cases kind <;> rfl
  match message with
  | none => exact default
  | some [] => exact default
  | some (c :: t) => rfl

theorem Rejection.ofLabel_ofKind {kind : Kind} (special : kind ≠ .general) (message : Option Text) :
    ofLabel kind.label (some (ofKind kind message).message) = .ok (ofKind kind message) := by
  have found : Kind.ofLabel? kind.label = some kind := by
    cases kind with
    | general => exact absurd rfl special
    | name => rfl
    | symbol => rfl
    | decimals => rfl
  simp only [ofLabel, found, ofKind_message]

theorem Context.addRejection_first {c : Context} (fresh : c.error = none) (rule : Text) (r : Rejection) :
    (c.addRejection rule r).error = some r.message ∧ (c.addRejection rule r).errorKind = some r.kind.label := by
  simp [addRejection, addError, fresh]

theorem Context.addRejection_reports {c : Context} (fresh : c.error = none) (rule : Text) (kind : Kind)
    (special : kind ≠ .general) :
    (c.addRejection rule (.ofKind kind none)).Reports (.error (.ofKind kind none)) := by
  obtain ⟨recorded, labelled⟩ := c.addRejection_first fresh rule (.ofKind kind none)
  refine ⟨hasErrors_addRejection c rule _, recorded, labelled, ?_⟩
  simp only [raise, labelled, recorded, kind_ofKind, ofLabel_ofKind special]

theorem Context.judged_reports {c : Context} (errors : c.errors = []) (error : c.error = none)
    (kind : c.errorKind = none) (m : Message) : (c.judged m).Reports m.validate := by
  cases name : isValidName m.name with
  | false =>
    simp only [judged, Message.validate, name]
    exact addRejection_reports error _ .name (by decide)
  | true =>
    cases symbol : isValidSymbol m.symbol with
    | false =>
      simp only [judged, Message.validate, name, symbol]
      exact addRejection_reports (by rw [error_warnOf]; exact error) _ .symbol (by decide)
    | true =>
      cases decimals : isValidDecimals m.decimals.val with
      | false =>
        simp only [judged, Message.validate, name, symbol, decimals]
        exact addRejection_reports error _ .decimals (by decide)
      | true =>
        simp [judged, Message.validate, name, symbol, decimals, Reports, markPassed, hasErrors, raise, errors,
          error, kind]

@[simp] theorem Context.message_judged (c : Context) (m : Message) : (c.judged m).message = c.message := by
  unfold judged
  split
  · split
    · split <;> rfl
    · rw [message_addRejection, message_warnOf, message_markPassed]
  · rfl

namespace Rule

/-- The message alone settles what the rule answers: it passes and records nothing, or rejects the message. -/
def Judges (r : Rule) : Prop :=
  ∀ m : Option Message, (∀ c, c.message = m → (r.check c).value = .ok (c, true)) ∨
    ∃ warnings rejection, ∀ c, c.message = m → (r.check c).value = .ok (c.refuse r.name warnings rejection, false)

theorem Judges.answers {r : Rule} (judges : r.Judges) {c c' : Context} {passed : Bool}
    (answer : (r.check c).value = .ok (c', passed)) :
    (passed = true ∧ c' = c) ∨ ∃ warnings rejection, passed = false ∧ c' = c.refuse r.name warnings rejection := by
  rcases judges c.message with passes | ⟨warnings, rejection, refuses⟩
  · rw [passes c rfl] at answer
    cases answer
    exact .inl ⟨rfl, rfl⟩
  · rw [refuses c rfl] at answer
    cases answer
    exact .inr ⟨warnings, rejection, rfl, rfl⟩

theorem value_reject (name : Text) (c : Context) (r : Rejection) :
    (reject name c r).value = c.addRejection name r := rfl

section

variable {name description : Text} {judge : Message → Context → Traced (Context × Bool)}
variable {c c' : Context} {m : Message}

theorem applies_ofMessage (message : c.message = some m) : (ofMessage name description judge).applies c = true := by
  simp [applies, ofMessage, message]

theorem check_ofMessage (message : c.message = some m) :
    ((ofMessage name description judge).check c).value = .ok (judge m c).value := by
  simp [ofMessage, message]

theorem ofMessage_clears (message : c.message = some m) (answer : (judge m c).value = (c', true)) :
    (ofMessage name description judge).Clears c (c'.markPassed name) :=
  .passed (applies_ofMessage message) ((check_ofMessage message).trans (congrArg _ answer))

theorem ofMessage_fails (message : c.message = some m) (answer : (judge m c).value = (c', false)) :
    (ofMessage name description judge).Fails c c' :=
  ⟨applies_ofMessage message, (check_ofMessage message).trans (congrArg _ answer)⟩

theorem ofMessage_judges
    (answers : ∀ m, (∀ c, (judge m c).value = (c, true)) ∨
      ∃ warnings rejection, ∀ c, (judge m c).value = (c.refuse name warnings rejection, false)) :
    (ofMessage name description judge).Judges := by
  intro held
  match held with
  | none => exact .inl fun c message => by simp [ofMessage, message]
  | some m =>
    rcases answers m with passes | ⟨warnings, rejection, refuses⟩
    · exact .inl fun c message => (check_ofMessage message).trans (congrArg _ (passes c))
    · exact .inr ⟨warnings, rejection, fun c message => (check_ofMessage message).trans (congrArg _ (refuses c))⟩

end

variable {c : Context} {m : Message}

theorem nameFormat_clears (message : c.message = some m) (valid : isValidName m.name = true) :
    nameFormat.Clears c (c.markPassed "name_format") :=
  ofMessage_clears message (by simp [valid])

theorem nameFormat_fails (message : c.message = some m) (invalid : isValidName m.name = false) :
    nameFormat.Fails c (c.addRejection "name_format" (.ofKind .name none)) :=
  ofMessage_fails message (by simp [invalid, value_reject])

theorem symbolFormat_clears (message : c.message = some m) (valid : isValidSymbol m.symbol = true) :
    symbolFormat.Clears c (c.markPassed "symbol_format") :=
  ofMessage_clears message (by simp [valid])

theorem symbolFormat_fails (message : c.message = some m) (invalid : isValidSymbol m.symbol = false) :
    symbolFormat.Fails c ((c.warnOf m.symbol).addRejection "symbol_format" (.ofKind .symbol none)) :=
  ofMessage_fails message (by simp [invalid, value_reject, Context.warnOf])

theorem decimals_clears (message : c.message = some m) (valid : isValidDecimals m.decimals.val = true) :
    decimals.Clears c (c.markPassed "decimals") :=
  ofMessage_clears message (by simp [valid])

theorem decimals_fails (message : c.message = some m) (invalid : isValidDecimals m.decimals.val = false) :
    decimals.Fails c (c.addRejection "decimals" (.ofKind .decimals none)) :=
  ofMessage_fails message (by simp [invalid, value_reject])

theorem standard_isApplicable : ∀ r ∈ standard, ∀ c, r.isApplicable c = c.message.isSome := by
  simp only [standard, List.forall_mem_cons]
  exact ⟨fun _ => rfl, fun _ => rfl, fun _ => rfl, List.forall_mem_nil _⟩

theorem standard_judges : ∀ r ∈ standard, r.Judges := by
  intro r member
  simp only [standard, List.mem_cons, List.not_mem_nil, or_false] at member
  rcases member with rfl | rfl | rfl
  · refine ofMessage_judges fun m => ?_
    cases valid : isValidName m.name with
    | true => exact .inl fun c => by simp
    | false => exact .inr ⟨[], .ofKind .name none, fun c => by simp [value_reject]⟩
  · refine ofMessage_judges fun m => ?_
    cases valid : isValidSymbol m.symbol with
    | true => exact .inl fun c => by simp
    | false =>
      refine .inr ⟨symbolRemarks m.symbol, .ofKind .symbol none, fun c => ?_⟩
      rw [← Context.addRejection_warnOf]
      simp [value_reject, Context.warnOf]
  · refine ofMessage_judges fun m => ?_
    cases valid : isValidDecimals m.decimals.val with
    | true => exact .inl fun c => by simp
    | false => exact .inr ⟨[], .ofKind .decimals none, fun c => by simp [value_reject]⟩

end Rule

namespace Engine

theorem runRules_standard {c : Context} {m : Message} (message : c.message = some m) :
    (runRules c Rule.standard).value = .ok (c.judged m) := by
  have afterName : (c.markPassed "name_format").message = some m := message
  have afterSymbol : ((c.markPassed "name_format").markPassed "symbol_format").message = some m := message
  unfold Rule.standard Context.judged
  cases name : isValidName m.name with
  | false => exact runRules_of_fails (Rule.nameFormat_fails message name) _
  | true =>
    rw [runRules_of_clears (Rule.nameFormat_clears message name)]
    cases symbol : isValidSymbol m.symbol with
    | false => exact runRules_of_fails (Rule.symbolFormat_fails afterName symbol) _
    | true =>
      rw [runRules_of_clears (Rule.symbolFormat_clears afterName symbol)]
      cases decimals : isValidDecimals m.decimals.val with
      | false => exact runRules_of_fails (Rule.decimals_fails afterSymbol decimals) _
      | true =>
        rw [runRules_of_clears (Rule.decimals_clears afterSymbol decimals)]
        rfl

end Engine

end TokenIntake
