import TokenIntake.Check.Engine

namespace TokenIntake

namespace Rule

inductive Clears (r : Rule) (c : Context) : Context → Prop
  | skipped (skip : r.applies c = false) : Clears r c c
  | passed {c' : Context} (applies : r.applies c = true) (answer : (r.check c).value = .ok (c', true)) :
      Clears r c (c'.markPassed r.name)

def Fails (r : Rule) (c c' : Context) : Prop :=
  r.applies c = true ∧ (r.check c).value = .ok (c', false)

def Breaks (r : Rule) (c : Context) (message : Text) : Prop :=
  r.applies c = true ∧ (r.check c).value = .error message

theorem clears_or_fails_or_breaks (r : Rule) (c : Context) :
    (∃ c', r.Clears c c') ∨ (∃ c', r.Fails c c') ∨ ∃ message, r.Breaks c message := by
  cases applies : r.applies c with
  | false => exact .inl ⟨c, .skipped applies⟩
  | true =>
    cases answer : (r.check c).value with
    | error message => exact .inr (.inr ⟨message, applies, answer⟩)
    | ok given =>
      obtain ⟨c', passed⟩ := given
      cases passed with
      | true => exact .inl ⟨_, .passed applies answer⟩
      | false => exact .inr (.inl ⟨c', applies, answer⟩)

section

variable {r : Rule} {c c' c'' : Context}

theorem Clears.unique (clears : r.Clears c c') (again : r.Clears c c'') : c' = c'' := by
  cases clears with
  | skipped skip =>
    cases again with
    | skipped => rfl
    | passed applies => rw [skip] at applies; cases applies
  | passed applies answer =>
    cases again with
    | skipped skip => rw [skip] at applies; cases applies
    | passed _ answer' =>
      rw [answer, Except.ok.injEq, Prod.mk.injEq] at answer'
      rw [answer'.1]

theorem Clears.not_fails (clears : r.Clears c c') : ¬r.Fails c c'' := by
  rintro ⟨applies, failed⟩
  cases clears with
  | skipped skip => rw [skip] at applies; cases applies
  | passed _ answer => rw [answer] at failed; cases failed

end

end Rule

/-- All of the rules let a context through, one after the other. -/
inductive Cleared : Context → List Rule → Context → Prop
  | nil (c : Context) : Cleared c [] c
  | cons {c next c' : Context} {r : Rule} {rest : List Rule} (first : r.Clears c next)
      (others : Cleared next rest c') : Cleared c (r :: rest) c'

/-- One of the rules gets to see a context, since those before it let it through. -/
def Reaches (c : Context) (rules : List Rule) (r : Rule) (reached : Context) : Prop :=
  ∃ before after, rules = before ++ r :: after ∧ Cleared c before reached

theorem Reaches.head (c : Context) (r : Rule) (rest : List Rule) : Reaches c (r :: rest) r c :=
  ⟨[], rest, rfl, .nil c⟩

section

variable {c next reached : Context} {r first : Rule} {rest : List Rule}

theorem Reaches.cons (clears : first.Clears c next) (reaches : Reaches next rest r reached) :
    Reaches c (first :: rest) r reached := by
  obtain ⟨before, after, split, cleared⟩ := reaches
  exact ⟨first :: before, after, by rw [split, List.cons_append], .cons clears cleared⟩

theorem not_reaches_nil : ¬Reaches c [] r reached := by
  rintro ⟨before, after, split, _⟩
  cases before <;> cases split

theorem Reaches.head_or_later (clears : first.Clears c next) (reaches : Reaches c (first :: rest) r reached) :
    (r = first ∧ reached = c) ∨ Reaches next rest r reached := by
  obtain ⟨before, after, split, cleared⟩ := reaches
  cases cleared with
  | nil =>
    cases split
    exact .inl ⟨rfl, rfl⟩
  | cons first' others =>
    cases split
    rw [clears.unique first']
    exact .inr ⟨_, after, rfl, others⟩

theorem Reaches.eq_head {c' : Context} (fails : first.Fails c c') (reaches : Reaches c (first :: rest) r reached) :
    r = first ∧ reached = c := by
  obtain ⟨before, after, split, cleared⟩ := reaches
  cases cleared with
  | nil =>
    cases split
    exact ⟨rfl, rfl⟩
  | cons first' others =>
    cases split
    exact (first'.not_fails fails).elim

theorem Reaches.mem (reaches : Reaches c rest r reached) : r ∈ rest := by
  obtain ⟨before, after, split, _⟩ := reaches
  rw [split]
  exact List.mem_append_right _ (List.mem_cons_self ..)

theorem Reaches.append (reaches : Reaches c rest r reached) (more : List Rule) :
    Reaches c (rest ++ more) r reached := by
  obtain ⟨before, after, split, cleared⟩ := reaches
  exact ⟨before, after ++ more, by rw [split, List.append_assoc, List.cons_append], cleared⟩

end

namespace Engine

theorem runRules_of_clears {c c' : Context} {r : Rule} (clears : r.Clears c c') (rest : List Rule) :
    (runRules c (r :: rest)).value = (runRules c' rest).value := by
  cases clears with
  | skipped skip => simp [runRules, skip]
  | passed applies answer => simp [runRules, applies, answer]

theorem runRules_of_cleared {c c' : Context} {before : List Rule} (cleared : Cleared c before c')
    (rest : List Rule) : (runRules c (before ++ rest)).value = (runRules c' rest).value := by
  induction cleared with
  | nil c => rfl
  | cons first others ih => rw [List.cons_append, runRules_of_clears first, ih]

theorem runRules_of_fails {c c' : Context} {r : Rule} (fails : r.Fails c c') (rest : List Rule) :
    (runRules c (r :: rest)).value = .ok c' := by
  simp [runRules, fails.1, fails.2]

theorem runRules_of_breaks {c : Context} {r : Rule} {message : Text} (breaks : r.Breaks c message)
    (rest : List Rule) : (runRules c (r :: rest)).value = .error message := by
  simp [runRules, breaks.1, breaks.2]

theorem runRules_ok_iff (c c' : Context) (rules : List Rule) :
    (runRules c rules).value = .ok c' ↔
      Cleared c rules c' ∨ ∃ r reached, Reaches c rules r reached ∧ r.Fails reached c' := by
  constructor
  · intro ran
    -- the context is another one behind each rule
    induction rules generalizing c with
    | nil =>
      cases ran
      exact .inl (.nil _)
    | cons r rest ih =>
      rcases r.clears_or_fails_or_breaks c with ⟨next, clears⟩ | ⟨given, fails⟩ | ⟨message, breaks⟩
      · rw [runRules_of_clears clears] at ran
        rcases ih next ran with cleared | ⟨s, reached, reaches, fails⟩
        · exact .inl (.cons clears cleared)
        · exact .inr ⟨s, reached, reaches.cons clears, fails⟩
      · rw [runRules_of_fails fails] at ran
        cases ran
        exact .inr ⟨r, c, .head c r rest, fails⟩
      · rw [runRules_of_breaks breaks] at ran
        cases ran
  · rintro (cleared | ⟨r, reached, ⟨before, after, split, cleared⟩, fails⟩)
    · have ran := runRules_of_cleared cleared []
      rw [List.append_nil] at ran
      exact ran
    · rw [split, runRules_of_cleared cleared, runRules_of_fails fails]

theorem runRules_error_iff (c : Context) (message : Text) (rules : List Rule) :
    (runRules c rules).value = .error message ↔
      ∃ r reached, Reaches c rules r reached ∧ r.Breaks reached message := by
  constructor
  · intro ran
    induction rules generalizing c with
    | nil => cases ran
    | cons r rest ih =>
      rcases r.clears_or_fails_or_breaks c with ⟨next, clears⟩ | ⟨given, fails⟩ | ⟨given, breaks⟩
      · rw [runRules_of_clears clears] at ran
        obtain ⟨s, reached, reaches, breaks⟩ := ih next ran
        exact ⟨s, reached, reaches.cons clears, breaks⟩
      · rw [runRules_of_fails fails] at ran
        cases ran
      · rw [runRules_of_breaks breaks] at ran
        cases ran
        exact ⟨r, c, .head c r rest, breaks⟩
  · rintro ⟨r, reached, ⟨before, after, split, cleared⟩, breaks⟩
    rw [split, runRules_of_cleared cleared, runRules_of_breaks breaks]

def begun (e : Engine) : Engine := { e with counters := { e.counters with total := e.counters.total + 1 } }

theorem check_of_ok {e : Engine} {now : Nat} {m : Message} {c : Context}
    (ran : (runRules (e.opening now m) e.rules).value = .ok c) :
    (e.check now m).value = ({ e.begun with counters := countVerdict e.begun.counters c }, .ok c) := by
  simp [check, apply, ran, begun]

theorem check_of_error {e : Engine} {now : Nat} {m : Message} {message : Text}
    (ran : (runRules (e.opening now m) e.rules).value = .error message) :
    (e.check now m).value = (e.begun, .error message) := by
  simp [check, apply, ran, begun]

theorem check_result (e : Engine) (now : Nat) (m : Message) :
    (e.check now m).value.2 = (runRules (e.opening now m) e.rules).value := by
  cases ran : (runRules (e.opening now m) e.rules).value with
  | error message => rw [check_of_error ran]
  | ok c => rw [check_of_ok ran]

end Engine

end TokenIntake
