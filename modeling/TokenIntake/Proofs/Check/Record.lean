import TokenIntake.Proofs.Check.Standard

namespace TokenIntake

open Rejection

namespace Context

/-- What a context can become by its own means of recording. -/
inductive Records (c : Context) : Context → Prop
  | nothing : Records c c
  | error {c' : Context} (earlier : Records c c') (rule message : Text) (kind : Option Text) :
      Records c (c'.addError rule message kind)
  | warning {c' : Context} (earlier : Records c c') (rule message : Text) : Records c (c'.addWarning rule message)
  | passed {c' : Context} (earlier : Records c c') (rule : Text) : Records c (c'.markPassed rule)

def Coherent (c : Context) : Prop := c.error.isSome = c.hasErrors

section

variable {c c' : Context}

theorem Records.coherent (records : c.Records c') (coherent : c.Coherent) : c'.Coherent := by
  induction records with
  | nothing => exact coherent
  | error earlier rule message kind ih => rw [Coherent, hasErrors_addError]; rfl
  | warning earlier rule message ih => exact ih
  | passed earlier rule ih => exact ih

theorem coherent_of_unset (errors : c.errors = []) (error : c.error = none) : c.Coherent := by
  simp [Coherent, hasErrors, errors, error]

theorem Coherent.error_eq_none (coherent : c.Coherent) (clean : c.errors = []) : c.error = none := by
  cases error : c.error with
  | none => rfl
  | some message => simp [Coherent, hasErrors, clean, error] at coherent

theorem Records.warnings (records : c.Records c') (rule : Text) (messages : List Text) :
    c.Records { c' with warnings := c'.warnings ++ messages.map fun message => rule ++ ": " ++ message } := by
  induction messages generalizing c' with
  | nil => simpa using records
  | cons message rest ih =>
    have later := ih (records.warning rule message)
    simpa [addWarning] using later

theorem Records.first (records : c.Records c') (some : c.error.isSome = true) :
    c'.error = c.error ∧ c'.errorKind = c.errorKind := by
  induction records with
  | nothing => exact ⟨rfl, rfl⟩
  | @error c' earlier rule message kind ih =>
    obtain ⟨error, errorKind⟩ := ih
    have known : c'.error.isSome = true := error ▸ some
    obtain ⟨first, isFirst⟩ := Option.isSome_iff_exists.mp known
    simp only [addError, known, if_true]
    exact ⟨by rw [← error, isFirst]; rfl, errorKind⟩
  | warning earlier rule message ih => exact ih
  | passed earlier rule ih => exact ih

theorem raise_of_first {kind : Kind} {message : Option Text} (label : c.errorKind = some kind.label)
    (text : c.error = some (ofKind kind message).message) :
    c.raise = if kind = .general then .error (.unknownKind ⟨kind.label⟩)
      else .error (.rejection (.ofKind kind message)) := by
  by_cases general : kind = .general
  · subst general
    simp only [raise, label, text]
    rfl
  · simp only [raise, label, text, ofLabel_ofKind general, general, if_false]

theorem raise_of_records {rule : Text} {kind : Kind} {message : Option Text} (fresh : c.error = none)
    (records : (c.addRejection rule (.ofKind kind message)).Records c') :
    c'.raise = if kind = .general then .error (.unknownKind ⟨kind.label⟩)
      else .error (.rejection (.ofKind kind message)) := by
  obtain ⟨text, label⟩ := c.addRejection_first fresh rule (.ofKind kind message)
  have known : (c.addRejection rule (.ofKind kind message)).error.isSome = true := by rw [text]; rfl
  obtain ⟨sameText, sameLabel⟩ := records.first known
  exact raise_of_first (sameLabel.trans label) (sameText.trans text)

end

end Context

/-- A rejection that is recorded where there was no error comes back, with the message it was made with, from
whatever the context becomes later: unless its kind is the general one, which cannot be asked for. -/
theorem recorded_rejection_raised (rule : Text) (kind : Kind) (message : Option Text) {c c' : Context}
    (coherent : c.Coherent) (clean : c.errors = [])
    (later : (Rule.reject rule c (.ofKind kind message)).value.Records c') :
    (c'.raise = .error (.rejection (.ofKind kind message)) ↔ kind ≠ .general) ∧
      (kind = .general → c'.raise = .error (.unknownKind ⟨Kind.general.label⟩)) := by
  have raised := Context.raise_of_records (coherent.error_eq_none clean) later
  by_cases general : kind = .general
  · subst general
    rw [raised, if_pos rfl]
    simp
  · rw [raised, if_neg general]
    simp [general]

theorem recorded_rejection_raised_name :
    let before := ((Context.fresh none).addWarning "early" "odd").markPassed "early"
    let recorded := (Rule.reject "name_format" before (.ofKind .name (some []))).value
    let c := ((recorded.addError "late" "worse" (some "invalid_symbol")).markPassed "name_format").addWarning "late" ""
    before.Coherent ∧ before.errors = [] ∧ recorded.Records c ∧
      c.raise = .error (.rejection ⟨.name, "Name is not in the expected format (3-50 UTF-8 bytes)"⟩) := by
  intro before recorded c
  have reached : (Context.fresh none).Records before :=
    (Context.Records.nothing.warning "early" "odd").passed "early"
  have coherent : before.Coherent := reached.coherent (Context.coherent_of_unset rfl rfl)
  have later : recorded.Records c :=
    ((Context.Records.nothing.error "late" "worse" (some "invalid_symbol")).passed "name_format").warning "late" ""
  have raised := (recorded_rejection_raised "name_format" .name (some []) coherent rfl later).1.mpr (by decide)
  exact ⟨coherent, rfl, later, raised⟩

theorem general_rejection_lost :
    let rejection := Rejection.ofKind .general none
    let c := (Rule.reject "general" (.fresh none) rejection).value
    c.summary.outcome = .rejected ∧ c.raise = .error (.unknownKind ⟨"invalid_instantiate_msg"⟩) ∧
      c.raise ≠ .error (.rejection rejection) := by
  intro rejection c
  have raised : c.raise = .error (.unknownKind ⟨"invalid_instantiate_msg"⟩) := rfl
  refine ⟨rfl, raised, ?_⟩
  rw [raised]
  simp

end TokenIntake
