import TokenIntake.Proofs.Check.Operation

namespace TokenIntake

def Counters.counting (n : Counters) : Outcome → Counters
  | .approved => { n with total := n.total + 1, approved := n.approved + 1 }
  | .rejected => { n with total := n.total + 1, rejected := n.rejected + 1 }

/-- The rule fails only with an error on record. -/
def Rule.OwnsUp (r : Rule) : Prop :=
  ∀ c c', (r.check c).value = .ok (c', false) → c'.errors ≠ []

namespace Context

theorem hasErrors_iff (c : Context) : c.hasErrors = true ↔ c.errors ≠ [] := by
  simp [hasErrors]

theorem outcome_rejected_iff (c : Context) : c.summary.outcome = .rejected ↔ c.errors ≠ [] := by
  rw [← hasErrors_iff]
  cases errors : c.hasErrors <;> simp [summary, errors]

theorem errors_of_approved {c : Context} (approved : c.summary.outcome = .approved) : c.errors = [] := by
  by_cases none : c.errors = []
  · exact none
  · rw [(outcome_rejected_iff c).mpr none] at approved
    cases approved

end Context

namespace Engine

variable {e : Engine} {now : Nat} {m : Message} {c : Context}

theorem check_of_run (ran : (runRules (e.opening now m) e.rules).value = .ok c) :
    (e.check now m).value = ({ e with counters := e.counters.counting c.summary.outcome }, .ok c) := by
  rw [check_of_ok ran]
  cases errors : c.hasErrors <;> simp [countVerdict, begun, Counters.counting, Context.summary, errors]

theorem check_of_failure {r : Rule} {reached : Context} (reaches : Reaches (e.opening now m) e.rules r reached)
    (fails : r.Fails reached c) :
    (e.check now m).value = ({ e with counters := e.counters.counting c.summary.outcome }, .ok c) :=
  check_of_run ((runRules_ok_iff _ _ _).mpr (.inr ⟨r, reached, reaches, fails⟩))

end Engine

namespace Rule

theorem Judges.ownsUp {r : Rule} (judges : r.Judges) : r.OwnsUp := by
  intro c c' answer
  rcases judges.answers answer with ⟨passed, _⟩ | ⟨warnings, rejection, _, rfl⟩
  · cases passed
  · exact (Context.hasErrors_iff _).mp (Context.hasErrors_addRejection _ _ _)

theorem standard_ownsUp : ∀ r ∈ standard, r.OwnsUp := fun r member => (standard_judges r member).ownsUp

def silent : Rule where
  name := "silent"
  description := "Fails without a word"
  enabled := true
  check c := return .ok (c, false)

end Rule

/-- Of whatever rules, the one that fails ends the check, and its failure counts as a rejection where an error
is on record and as an approval otherwise. Where all rules own up, nothing fails and is approved. -/
theorem failing_rule_verdict (e : Engine) (now : Nat) (m : Message) :
    (∀ r reached c, Reaches (e.opening now m) e.rules r reached → r.Fails reached c →
      (e.check now m).value = ({ e with counters := e.counters.counting c.summary.outcome }, .ok c) ∧
      (c.summary.outcome = .rejected ↔ c.errors ≠ [])) ∧
    (∀ c, (e.check now m).value.2 = .ok c → c.summary.outcome = .approved →
      Cleared (e.opening now m) e.rules c ∨
        ∃ r reached, Reaches (e.opening now m) e.rules r reached ∧ r.Fails reached c ∧ c.errors = []) ∧
    ((∀ r ∈ e.rules, r.OwnsUp) →
      (∀ r reached c, Reaches (e.opening now m) e.rules r reached → r.Fails reached c →
        (e.check now m).value = ({ e with counters := e.counters.counting .rejected }, .ok c)) ∧
      ∀ c, (e.check now m).value.2 = .ok c → c.summary.outcome = .approved →
        Cleared (e.opening now m) e.rules c) := by
  have approved : ∀ c, (e.check now m).value.2 = .ok c → c.summary.outcome = .approved →
      Cleared (e.opening now m) e.rules c ∨
        ∃ r reached, Reaches (e.opening now m) e.rules r reached ∧ r.Fails reached c ∧ c.errors = [] := by
    intro c ended approved
    rw [Engine.check_result, Engine.runRules_ok_iff] at ended
    rcases ended with cleared | ⟨r, reached, reaches, fails⟩
    · exact .inl cleared
    · exact .inr ⟨r, reached, reaches, fails, Context.errors_of_approved approved⟩
  refine ⟨?_, approved, fun honest => ⟨?_, ?_⟩⟩
  · intro r reached c reaches fails
    exact ⟨Engine.check_of_failure reaches fails, c.outcome_rejected_iff⟩
  · intro r reached c reaches fails
    have rejected := c.outcome_rejected_iff.mpr (honest r reaches.mem _ _ fails.2)
    rw [Engine.check_of_failure reaches fails, rejected]
  · intro c ended outcome
    rcases approved c ended outcome with cleared | ⟨r, reached, reaches, fails, none⟩
    · exact cleared
    · exact absurd none (honest r reaches.mem _ _ fails.2)

theorem failing_rule_verdict_decimals :
    let m : Message := ⟨"test token", "TNT", 19, [], none, none⟩
    let e := Engine.fresh Options.defaults
    (∀ r ∈ e.rules, r.OwnsUp) ∧ ∃ reached c, Reaches (e.opening 0 m) e.rules Rule.decimals reached ∧
      Rule.decimals.Fails reached c ∧
      (e.check 0 m).value = ({ e with counters := e.counters.counting .rejected }, .ok c) := by
  intro m e
  have split : e.rules = [Rule.nameFormat, Rule.symbolFormat] ++ Rule.decimals :: [] := rfl
  have cleared : Cleared (e.opening 0 m) [Rule.nameFormat, Rule.symbolFormat] _ :=
    .cons (Rule.nameFormat_clears rfl rfl) (.cons (Rule.symbolFormat_clears rfl rfl) (.nil _))
  have fails := Rule.decimals_fails (c := ((e.opening 0 m).markPassed "name_format").markPassed "symbol_format")
    (m := m) rfl rfl
  have reaches : Reaches (e.opening 0 m) e.rules Rule.decimals _ := ⟨_, _, split, cleared⟩
  have honest : ∀ r ∈ e.rules, r.OwnsUp := Rule.standard_ownsUp
  exact ⟨honest, _, _, reaches, fails, ((failing_rule_verdict e 0 m).2.2 honest).1 _ _ _ reaches fails⟩

theorem silent_failure_approved :
    let m : Message := ⟨"test token", "TNT", 6, [], none, none⟩
    let e := (Engine.fresh Options.defaults).afterAll [.register Rule.silent]
    ∃ reached c, Reaches (e.opening 0 m) e.rules Rule.silent reached ∧ Rule.silent.Fails reached c ∧
      (e.check 0 m).value.2 = .ok c ∧ c.summary.outcome = .approved ∧
      (e.check 0 m).value.1.counters = ⟨1, 1, 0, 0⟩ := by
  intro m e
  have split : e.rules = Rule.standard ++ Rule.silent :: [] := rfl
  have cleared : Cleared (e.opening 0 m) Rule.standard ((e.opening 0 m).judged m) :=
    .cons (Rule.nameFormat_clears rfl rfl) (.cons (Rule.symbolFormat_clears rfl rfl)
      (.cons (Rule.decimals_clears rfl rfl) (.nil _)))
  exact ⟨_, _, ⟨_, _, split, cleared⟩, ⟨rfl, rfl⟩, rfl, rfl, rfl⟩

end TokenIntake
