import TokenIntake.Command.Program
import TokenIntake.Proofs.Command.Terminal

namespace TokenIntake.Command

theorem Stop.conclude_stdout (s : Stop) (t : Terminal) : (s.conclude t).2.stdout = t.stdout := by
  cases s with
  | exit code => rfl
  | misuse spec fault =>
    simp only [conclude]
    split <;> rfl
  | error message code => rfl
  | failure message => rfl

namespace Run

variable {α β : Type}

def on (x : Run α) (t : Terminal) : Except Stop α × Terminal := x.run.run t

@[simp] theorem on_get (t : Terminal) : (get : Run Terminal).on t = (.ok t, t) := rfl

@[simp] theorem on_lift (x : Except Stop α) (t : Terminal) : (liftM x : Run α).on t = (x, t) := rfl

@[simp] theorem on_checks (x : Traced α) (t : Terminal) :
    (checks x).on t = (.ok x.value, t.showChecks x.events) := rfl

@[simp] theorem on_printError (line : Text) (t : Terminal) :
    (printError line).on t = (.ok ⟨⟩, t.printError line) := rfl

theorem on_bind (x : Run α) (f : α → Run β) (t : Terminal) :
    (x >>= f).on t = match x.on t with
      | (.ok a, t') => (f a).on t'
      | (.error s, t') => (.error s, t') := by
  have step : (x >>= f).on t = (ExceptT.bindCont f (x.on t).1).run (x.on t).2 := rfl
  rw [step]
  rcases x.on t with ⟨result, t'⟩
  cases result <;> rfl

theorem on_bind_of_ok {x : Run α} {t t' : Terminal} {a : α} (went : x.on t = (.ok a, t')) (f : α → Run β) :
    (x >>= f).on t = (f a).on t' := by
  rw [on_bind, went]

theorem on_bind_of_error {x : Run α} {t t' : Terminal} {s : Stop} (went : x.on t = (.error s, t'))
    (f : α → Run β) : (x >>= f).on t = (.error s, t') := by
  rw [on_bind, went]

theorem on_map (f : α → β) (x : Run α) (t : Terminal) : (f <$> x).on t = ((x.on t).1.map f, (x.on t).2) := by
  have step : (f <$> x).on t = (x >>= fun a => Pure.pure (f a)).on t := rfl
  rw [step, on_bind]
  rcases x.on t with ⟨result, t'⟩
  cases result <;> rfl

theorem on_print_of_whole {line : Text} (whole : line.hasSurrogate = false) (t : Terminal) :
    (print line).on t = (.ok (), { t with stdout := t.stdout ++ Terminal.withoutSequences (line ++ "\n") }) := by
  rw [print, on_bind_of_ok (on_get t), Terminal.print_of_whole whole]
  rfl

theorem on_print_of_surrogate {line : Text} (broken : line.hasSurrogate = true) (t : Terminal) :
    ∃ message, (print line).on t = (.error (.failure message), t) := by
  obtain ⟨message, refused⟩ := Terminal.print_of_surrogate (t := t) broken
  refine ⟨message, ?_⟩
  rw [print, on_bind_of_ok (on_get t), refused]
  rfl

theorem conclude_of_ok {x : Run Unit} {t t' : Terminal} (went : x.on t = (.ok (), t')) :
    conclude x t = (0, t') := by
  unfold on at went
  simp only [conclude, went]

theorem conclude_of_error {x : Run Unit} {t t' : Terminal} {s : Stop} (went : x.on t = (.error s, t')) :
    conclude x t = s.conclude t' := by
  unfold on at went
  simp only [conclude, went]

/-- A step of preparation. However it goes, the files stay; where it gives a value, that has the property, and
nothing was written but log records. -/
def Prepares (x : Run α) (property : α → Prop) : Prop :=
  ∀ t, (x.on t).2.files = t.files ∧ ∀ a, (x.on t).1 = .ok a → property a ∧ t.Logs (x.on t).2

namespace Prepares

variable {property : α → Prop} {further : β → Prop}

theorem pure {a : α} (has : property a) : Prepares (Pure.pure a : Run α) property :=
  fun t => ⟨rfl, fun _ given => by cases given; exact ⟨has, .refl t⟩⟩

theorem stop (s : Stop) : Prepares (Run.stop s : Run α) property := fun _ => ⟨rfl, fun _ given => nomatch given⟩

theorem get : Prepares (MonadState.get : Run Terminal) fun _ => True := fun t => ⟨rfl, fun _ _ => ⟨trivial, .refl t⟩⟩

theorem own (x : Traced α) : Prepares (Run.own x) (· = x.value) :=
  fun t => ⟨rfl, fun _ given => by cases given; exact ⟨rfl, .showOwn t x.events⟩⟩

theorem checks (x : Traced α) : Prepares (Run.checks x) (· = x.value) :=
  fun t => ⟨rfl, fun _ given => by cases given; exact ⟨rfl, .showChecks t x.events⟩⟩

theorem log (level : Log.Level) (message : Text) : Prepares (Run.log level message) fun _ => True :=
  fun t => ⟨rfl, fun _ _ => ⟨trivial, .showOwn t _⟩⟩

theorem setVerbosity (verbosity : Int) : Prepares (Command.setVerbosity verbosity) fun _ => True :=
  fun t => ⟨rfl, fun _ _ => ⟨trivial, .setThresholds t _⟩⟩

theorem bind {x : Run α} {f : α → Run β} (first : x.Prepares property)
    (others : ∀ a, property a → (f a).Prepares further) : (x >>= f).Prepares further := by
  intro t
  obtain ⟨kept, given⟩ := first t
  rw [on_bind]
  rcases went : x.on t with ⟨result, t'⟩
  rw [went] at kept given
  cases result with
  | error s => exact ⟨kept, fun _ none => nomatch none⟩
  | ok a =>
    obtain ⟨has, logs⟩ := given a rfl
    obtain ⟨keptThen, givenThen⟩ := others a has t'
    refine ⟨keptThen.trans kept, fun b last => ?_⟩
    obtain ⟨hasThen, logsThen⟩ := givenThen b last
    exact ⟨hasThen, logs.trans logsThen⟩

theorem map {f : α → β} {x : Run α} (prepares : x.Prepares property) : (f <$> x).Prepares fun _ => True :=
  prepares.bind fun _ _ => .pure trivial

theorem ite {p : Prop} [Decidable p] {x y : Run α} (yes : x.Prepares property) (no : y.Prepares property) :
    (if p then x else y).Prepares property := by
  split
  · exact yes
  · exact no

theorem stopping {p : Prop} [Decidable p] {x : Run Unit} {s : Stop} {next : Unit → Run α}
    (said : ∀ t, (x.on t).2.files = t.files) (others : (next ()).Prepares property) :
    (if p then x >>= fun _ => Run.stop s >>= next else next ()).Prepares property := by
  split
  · intro t
    have kept := said t
    rw [on_bind]
    rcases went : x.on t with ⟨result, t'⟩
    rw [went] at kept
    cases result with
    | error s => exact ⟨kept, fun _ none => nomatch none⟩
    | ok a => exact ⟨kept, fun _ none => nomatch none⟩
  · exact others

end Prepares

/-- A step that gives a value leaves nothing on the terminal. -/
def Quiet (x : Run α) : Prop := ∀ t a t', x.on t = (.ok a, t') → t' = t

namespace Quiet

theorem pure (a : α) : Quiet (Pure.pure a : Run α) := fun t _ _ went => by cases went; rfl

theorem stop (s : Stop) : Quiet (Run.stop s : Run α) := fun _ _ _ went => nomatch went

theorem get : Quiet (MonadState.get : Run Terminal) := fun _ _ _ went => by cases went; rfl

theorem bind {x : Run α} {f : α → Run β} (first : x.Quiet) (others : ∀ a, (f a).Quiet) : (x >>= f).Quiet := by
  intro t b t'' went
  rw [on_bind] at went
  split at went
  · rename_i a t' had
    rw [others a _ _ _ went, first _ _ _ had]
  · cases went

theorem ite {p : Prop} [Decidable p] {x y : Run α} (yes : x.Quiet) (no : y.Quiet) : (if p then x else y).Quiet := by
  split
  · exact yes
  · exact no

theorem stopping {p : Prop} [Decidable p] {x : Run Unit} {s : Stop} {next : Unit → Run α}
    (others : (next ()).Quiet) : (if p then x >>= fun _ => Run.stop s >>= next else next ()).Quiet := by
  refine .ite (fun t a t' went => ?_) others
  rw [on_bind] at went
  split at went <;> cases went

end Quiet

theorem print_files (line : Text) (t : Terminal) : ((print line).on t).2.files = t.files := by
  cases whole : line.hasSurrogate with
  | false => rw [on_print_of_whole whole]
  | true =>
    obtain ⟨message, went⟩ := on_print_of_surrogate whole t
    rw [went]

end Run

end TokenIntake.Command
