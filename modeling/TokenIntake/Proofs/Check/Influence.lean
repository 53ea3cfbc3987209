import Mathlib.Data.List.Nodup
import TokenIntake.Proofs.Check.Registry

namespace TokenIntake

namespace Context

def entered (c : Context) : List Text := c.results.map Prod.fst

theorem mem_entered_put (results : List (Text × Bool)) (rule name : Text) (passed : Bool) :
    name ∈ (Assoc.put id results rule passed).map Prod.fst ↔ name = rule ∨ name ∈ results.map Prod.fst := by
  have keys := Assoc.keys_put id results rule passed
  simp only [id_eq] at keys
  rw [keys]
  split
  · rename_i known
    exact ⟨.inr, fun inside => inside.elim (fun same => same ▸ known) fun before => before⟩
  · rw [List.mem_append, List.mem_singleton, or_comm]

@[simp] theorem mem_entered_markPassed (c : Context) (rule name : Text) :
    name ∈ (c.markPassed rule).entered ↔ name = rule ∨ name ∈ c.entered :=
  mem_entered_put c.results rule name true

@[simp] theorem mem_entered_refuse (c : Context) (rule : Text) (warnings : List Text) (r : Rejection) (name : Text) :
    name ∈ (c.refuse rule warnings r).entered ↔ name = rule ∨ name ∈ c.entered :=
  mem_entered_put c.results rule name false

def atTime (c : Context) (time : Option Nat) : Context := { c with timestamp := time }

end Context

namespace Rule

/-- The rule fails or breaks off, and no other runs after it. -/
def Ends (r : Rule) (c : Context) : Prop := (∃ c', r.Fails c c') ∨ ∃ message, r.Breaks c message

/-- The rule enters results under its own name only. -/
def OwnResults (r : Rule) : Prop :=
  ∀ c c' passed, (r.check c).value = .ok (c', passed) → ∀ name ∈ c'.entered, name = r.name ∨ name ∈ c.entered

/-- The rule does not look at the time. -/
def Timeless (r : Rule) : Prop :=
  ∀ c time, r.isApplicable (c.atTime time) = r.isApplicable c ∧
    (r.check (c.atTime time)).value = (r.check c).value.map fun answer => (answer.1.atTime time, answer.2)

namespace Timeless

variable {r : Rule} {c c' : Context}

theorem applies (timeless : r.Timeless) (c : Context) (time : Option Nat) :
    r.applies (c.atTime time) = r.applies c := by
  rw [Rule.applies, Rule.applies, (timeless c time).1]

theorem clears (timeless : r.Timeless) (clears : r.Clears c c') (time : Option Nat) :
    r.Clears (c.atTime time) (c'.atTime time) := by
  cases clears with
  | skipped skip => exact .skipped ((timeless.applies c time).trans skip)
  | @passed given applies answer =>
    have answer' := (timeless c time).2
    rw [answer] at answer'
    have later : r.Clears (c.atTime time) ((given.atTime time).markPassed r.name) :=
      .passed ((timeless.applies c time).trans applies) answer'
    exact later

theorem fails (timeless : r.Timeless) (fails : r.Fails c c') (time : Option Nat) :
    r.Fails (c.atTime time) (c'.atTime time) := by
  have answer := (timeless c time).2
  rw [fails.2] at answer
  exact ⟨(timeless.applies c time).trans fails.1, answer⟩

theorem breaks {message : Text} (timeless : r.Timeless) (breaks : r.Breaks c message) (time : Option Nat) :
    r.Breaks (c.atTime time) message := by
  have answer := (timeless c time).2
  rw [breaks.2] at answer
  exact ⟨(timeless.applies c time).trans breaks.1, answer⟩

end Timeless

theorem Judges.ownResults {r : Rule} (judges : r.Judges) : r.OwnResults := by
  intro c c' passed answer name inside
  rcases judges.answers answer with ⟨_, rfl⟩ | ⟨warnings, rejection, _, rfl⟩
  · exact .inr inside
  · exact (Context.mem_entered_refuse ..).mp inside

theorem Judges.timeless {r : Rule} (judges : r.Judges) (usual : ∀ c, r.isApplicable c = c.message.isSome) :
    r.Timeless := by
  intro c time
  refine ⟨(usual _).trans (usual c).symm, ?_⟩
  rcases judges c.message with passes | ⟨warnings, rejection, refuses⟩
  · rw [passes c rfl, passes (c.atTime time) rfl]
    rfl
  · rw [refuses c rfl, refuses (c.atTime time) rfl]
    rfl

end Rule

def Runs (start : Context) (rules : List Rule) (r : Rule) : Prop :=
  ∃ reached, Reaches start rules r reached ∧ r.applies reached = true

/-- The last of the rules ends the run, and none before it does. -/
def EndsRun (start : Context) (rules : List Rule) : Prop :=
  ∃ before r reached, rules = before ++ [r] ∧ Cleared start before reached ∧ r.Ends reached

/-- The rules are the same up to and including the first that ends the run, or altogether. -/
def Agree (start : Context) (rules rules' : List Rule) : Prop :=
  rules = rules' ∨ ∃ shared, EndsRun start shared ∧ shared <+: rules ∧ shared <+: rules'

namespace Engine

section Run

variable {start c : Context} {rules rules' shared : List Rule} {r : Rule}

theorem runRules_of_ends (ends : r.Ends c) (rest rest' : List Rule) :
    (runRules c (r :: rest)).value = (runRules c (r :: rest')).value := by
  rcases ends with ⟨c', fails⟩ | ⟨message, breaks⟩
  · rw [runRules_of_fails fails, runRules_of_fails fails]
  · rw [runRules_of_breaks breaks, runRules_of_breaks breaks]

theorem runRules_of_endsRun (ends : EndsRun start shared) (behind : shared <+: rules) :
    (runRules start rules).value = (runRules start shared).value := by
  obtain ⟨before, r, reached, rfl, cleared, ends⟩ := ends
  obtain ⟨after, rfl⟩ := behind
  rw [List.append_assoc, List.singleton_append, runRules_of_cleared cleared, runRules_of_cleared cleared,
    runRules_of_ends ends]

theorem runRules_of_agree (agree : Agree start rules rules') :
    (runRules start rules').value = (runRules start rules).value := by
  rcases agree with rfl | ⟨shared, ends, within, within'⟩
  · rfl
  · rw [runRules_of_endsRun ends within, runRules_of_endsRun ends within']

theorem runRules_enabled (c : Context) (rules : List Rule) :
    (runRules c (rules.filter Rule.enabled)).value = (runRules c rules).value := by
  induction rules generalizing c with
  | nil => rfl
  | cons r rest ih =>
    cases enabled : r.enabled with
    | false =>
      have skip : r.applies c = false := by simp [Rule.applies, enabled]
      rw [List.filter_cons_of_neg (by simp [enabled]), ih, runRules_of_clears (.skipped skip)]
    | true =>
      rw [List.filter_cons_of_pos enabled]
      rcases r.clears_or_fails_or_breaks c with ⟨next, clears⟩ | ⟨given, fails⟩ | ⟨message, breaks⟩
      · rw [runRules_of_clears clears, runRules_of_clears clears, ih]
      · rw [runRules_of_fails fails, runRules_of_fails fails]
      · rw [runRules_of_breaks breaks, runRules_of_breaks breaks]

theorem runRules_atTime (timeless : ∀ r ∈ rules, r.Timeless) (c : Context) (time : Option Nat) :
    (runRules (c.atTime time) rules).value = (runRules c rules).value.map (·.atTime time) := by
  induction rules generalizing c with
  | nil => rfl
  | cons r rest ih =>
    obtain ⟨own, timeless⟩ := List.forall_mem_cons.mp timeless
    rcases r.clears_or_fails_or_breaks c with ⟨next, clears⟩ | ⟨given, fails⟩ | ⟨message, breaks⟩
    · rw [runRules_of_clears clears, runRules_of_clears (own.clears clears time), ih timeless]
    · rw [runRules_of_fails fails, runRules_of_fails (own.fails fails time)]
      rfl
    · rw [runRules_of_breaks breaks, runRules_of_breaks (own.breaks breaks time)]
      rfl

theorem entered_of_cleared (own : ∀ r ∈ rules, r.OwnResults) (cleared : Cleared start rules c) :
    ∀ name ∈ c.entered, name ∈ start.entered ∨ ∃ r, Runs start rules r ∧ r.name = name := by
  induction cleared with
  | nil => exact fun name inside => .inl inside
  | @cons start next c r rest first others ih =>
    obtain ⟨ownFirst, own⟩ := List.forall_mem_cons.mp own
    intro name inside
    rcases ih own name inside with before | ⟨s, ⟨reached, reaches, applies⟩, isName⟩
    · cases first with
      | skipped => exact .inl before
      | passed applies answer =>
        have ran : Runs start (r :: rest) r := ⟨start, .head start r rest, applies⟩
        rcases (Context.mem_entered_markPassed _ _ _).mp before with same | before
        · exact .inr ⟨r, ran, same.symm⟩
        · rcases ownFirst _ _ _ answer name before with same | before
          · exact .inr ⟨r, ran, same.symm⟩
          · exact .inl before
    · exact .inr ⟨s, ⟨reached, reaches.cons first, applies⟩, isName⟩

theorem entered_of_run (own : ∀ r ∈ rules, r.OwnResults) (ran : (runRules start rules).value = .ok c) :
    ∀ name ∈ c.entered, name ∈ start.entered ∨ ∃ r, Runs start rules r ∧ r.name = name := by
  rcases (runRules_ok_iff _ _ _).mp ran with cleared | ⟨r, reached, ⟨before, after, rfl, cleared⟩, fails⟩
  · exact entered_of_cleared own cleared
  · obtain ⟨early, late⟩ := List.forall_mem_append.mp own
    intro name inside
    rcases late r List.mem_cons_self _ _ _ fails.2 name inside with same | inside
    · exact .inr ⟨r, ⟨reached, ⟨before, after, rfl, cleared⟩, fails.1⟩, same.symm⟩
    · rcases entered_of_cleared early cleared name inside with first | ⟨s, ⟨mid, reaches, applies⟩, isName⟩
      · exact .inl first
      · exact .inr ⟨s, ⟨mid, reaches.append _, applies⟩, isName⟩

end Run

def Operation.target? : Operation → Option Text
  | .register r => some r.name
  | .unregister name | .setEnabled name _ => some name
  | .call _ | .statistics => none

section Operations

variable {e e' : Engine} {shared : List Rule} {now : Nat} {m : Message}

def active (e : Engine) : List Rule := e.rules.filter Rule.enabled

theorem opening_congr (same : e'.validatorId = e.validatorId) (now : Nat) (m : Message) :
    e'.opening now m = e.opening now m := by
  simp only [opening, same]

theorem options_after (e : Engine) (op : Operation) : (e.after op).options = e.options := by
  cases op with
  | call c => exact (afterCall_alike e c).options
  | register r =>
    simp only [after, register]
    split <;> rfl
  | unregister name =>
    simp only [after, unregister]
    split <;> rfl
  | setEnabled name enabled =>
    simp only [after, setEnabled?]
    cases e.number? name <;> rfl
  | statistics => rfl

theorem validatorId_afterAll (e : Engine) (ops : List Operation) : (e.afterAll ops).validatorId = e.validatorId := by
  induction ops generalizing e with
  | nil => rfl
  | cons op ops ih =>
    have step : (e.after op).validatorId = e.validatorId := by simp only [validatorId, options_after]
    exact (ih (e.after op)).trans step

theorem prefix_after (inStep : e.InStep) {op : Operation} (first : shared <+: e.rules)
    (apart : ∀ s ∈ shared, op.target? ≠ some s.name) : shared <+: (e.after op).rules := by
  have other : ∀ name, op.target? = some name → ∀ s ∈ shared, s.name ≠ name :=
    fun name target s inside same => apart s inside (same ▸ target)
  have mapped : ∀ (name : Text) (f : Rule → Rule), op.target? = some name →
      shared <+: e.rules.map fun s => if s.name = name then f s else s := by
    intro name f target
    have untouched : (shared.map fun s => if s.name = name then f s else s) = shared := by
      rw [List.map_congr_left fun s inside => if_neg (other name target s inside), List.map_id']
    have moved := first.map fun s => if s.name = name then f s else s
    rwa [untouched] at moved
  cases op with
  | call c =>
    rw [after, (afterCall_alike e c).rules]
    exact first
  | register r =>
    by_cases known : r.name ∈ e.names
    · rw [after, rules_register_of_known inStep known]
      exact mapped r.name (fun _ => r) rfl
    · rw [after, rules_register_of_new inStep known]
      exact first.trans (List.prefix_append _ _)
  | unregister name =>
    have kept : (shared.filter fun s => s.name ≠ name) = shared :=
      List.filter_eq_self.mpr fun s inside => decide_eq_true (other name rfl s inside)
    have left := first.filter fun s => s.name ≠ name
    rw [kept] at left
    rw [after, rules_unregister inStep]
    exact left
  | setEnabled name enabled =>
    rw [after, rules_setEnabled inStep]
    exact mapped name (fun s => { s with enabled := enabled }) rfl
  | statistics => exact first

theorem prefix_afterAll (inStep : e.InStep) {ops : List Operation} (first : shared <+: e.rules)
    (apart : ∀ op ∈ ops, ∀ s ∈ shared, op.target? ≠ some s.name) : shared <+: (e.afterAll ops).rules := by
  induction ops generalizing e with
  | nil => exact first
  | cons op ops ih =>
    obtain ⟨now, later⟩ := List.forall_mem_cons.mp apart
    exact ih (inStep.after op) (prefix_after inStep first now) later

theorem check_result_of_run (same : e'.validatorId = e.validatorId)
    (ran : (runRules (e.opening now m) e'.rules).value = (runRules (e.opening now m) e.rules).value) :
    (e'.check now m).value.2 = (e.check now m).value.2 := by
  rw [check_result, check_result, opening_congr same, ran]

theorem check_result_of_agree (same : e'.validatorId = e.validatorId)
    (agree : Agree (e.opening now m) e.active e'.active) :
    (e'.check now m).value.2 = (e.check now m).value.2 := by
  refine check_result_of_run same ?_
  rw [← runRules_enabled _ e'.rules, ← runRules_enabled _ e.rules]
  exact runRules_of_agree agree

theorem check_result_behind (same : e'.validatorId = e.validatorId) (ends : EndsRun (e.opening now m) shared)
    (first : shared <+: e.rules) (first' : shared <+: e'.rules) :
    (e'.check now m).value.2 = (e.check now m).value.2 := by
  refine check_result_of_run same ?_
  rw [runRules_of_endsRun ends first, runRules_of_endsRun ends first']

theorem check_result_with_disabled {before after : List Rule} {off : Rule} (same : e'.validatorId = e.validatorId)
    (disabled : off.enabled = false) (rules : e.rules = before ++ after) (rules' : e'.rules = before ++ off :: after) :
    (e'.check now m).value.2 = (e.check now m).value.2 := by
  refine check_result_of_agree same (.inl ?_)
  rw [active, active, rules, rules', List.filter_append, List.filter_append,
    List.filter_cons_of_neg (by rw [disabled]; decide)]

theorem not_entered_of_not_run {c : Context} (inStep : e.InStep)
    (entered : ∀ name ∈ c.entered, ∃ r, Runs (e.opening now m) e.rules r ∧ r.name = name) {r : Rule}
    (inside : r ∈ e.rules) (idle : ¬Runs (e.opening now m) e.rules r) : r.name ∉ c.entered := by
  intro hasResult
  obtain ⟨s, runs, name⟩ := entered r.name hasResult
  obtain ⟨reached, reaches, _⟩ := id runs
  have same : s = r := List.inj_on_of_nodup_map inStep.nodup reaches.mem inside name
  exact idle (same ▸ runs)

end Operations

end Engine

/-- How a check ends is settled by the rules that are switched on, up to the first that fails or breaks off: engines
that agree on these end it the same way. So nothing that is done behind that rule makes a difference, by whatever
operations, nor does a rule that is switched off. Results stand under the names of rules that were run alone, and
if no rule looks at the time, at another time the check ends the same way. -/
theorem later_rules_without_influence (e : Engine) (now : Nat) (m : Message) :
    (∀ e' : Engine, e'.validatorId = e.validatorId →
      (Agree (e.opening now m) e.active e'.active → (e'.check now m).value.2 = (e.check now m).value.2) ∧
      (∀ shared, EndsRun (e.opening now m) shared → shared <+: e.rules → shared <+: e'.rules →
        (e'.check now m).value.2 = (e.check now m).value.2) ∧
      ∀ before off after, off.enabled = false → e.rules = before ++ after → e'.rules = before ++ off :: after →
        (e'.check now m).value.2 = (e.check now m).value.2) ∧
    (∀ shared ops, e.InStep → EndsRun (e.opening now m) shared → shared <+: e.rules →
      (∀ op ∈ ops, ∀ s ∈ shared, op.target? ≠ some s.name) →
      ((e.afterAll ops).check now m).value.2 = (e.check now m).value.2) ∧
    (∀ c, (∀ r ∈ e.rules, r.OwnResults) → (e.check now m).value.2 = .ok c →
      (∀ name ∈ c.entered, ∃ r, Runs (e.opening now m) e.rules r ∧ r.name = name) ∧
      (e.InStep → ∀ r ∈ e.rules, ¬Runs (e.opening now m) e.rules r → r.name ∉ c.entered)) ∧
    ((∀ r ∈ e.rules, r.Timeless) → ∀ later,
      (e.check later m).value.2 = (e.check now m).value.2.map (·.atTime (some later))) := by
  refine ⟨fun e' same => ⟨?_, ?_, ?_⟩, ?_, ?_, ?_⟩
  · exact Engine.check_result_of_agree same
  · exact fun shared => Engine.check_result_behind same
  · exact fun before off after => Engine.check_result_with_disabled same
  · intro shared ops inStep ends first apart
    exact Engine.check_result_behind (Engine.validatorId_afterAll e ops) ends first
      (Engine.prefix_afterAll inStep first apart)
  · intro c own ended
    rw [Engine.check_result] at ended
    have entered : ∀ name ∈ c.entered, ∃ r, Runs (e.opening now m) e.rules r ∧ r.name = name := by
      intro name inside
      rcases Engine.entered_of_run own ended name inside with before | ran
      · cases before
      · exact ran
    exact ⟨entered, fun inStep r inside idle => Engine.not_entered_of_not_run inStep entered inside idle⟩
  · intro timeless later
    rw [Engine.check_result, Engine.check_result]
    exact Engine.runRules_atTime timeless (e.opening now m) (some later)

theorem later_rules_without_influence_shortSymbol :
    let m : Message := ⟨"test token", "T", 19, [], none, none⟩
    let e := Engine.fresh Options.defaults
    let shared := [Rule.nameFormat, Rule.symbolFormat]
    let ops : List Engine.Operation := [.unregister "decimals", .register { Rule.decimals with name := "other" },
      .setEnabled "other" false, .call (.process 0 .null)]
    e.InStep ∧ EndsRun (e.opening 0 m) shared ∧ shared <+: e.rules ∧
      (∀ op ∈ ops, ∀ s ∈ shared, op.target? ≠ some s.name) ∧ (∀ r ∈ e.rules, r.OwnResults) ∧
      (∀ r ∈ e.rules, r.Timeless) ∧ ((e.afterAll ops).check 0 m).value.2 = (e.check 0 m).value.2 := by
  intro m e shared ops
  have inStep := Engine.inStep_fresh Options.defaults
  have ends : EndsRun (e.opening 0 m) shared :=
    ⟨[Rule.nameFormat], Rule.symbolFormat, _, rfl, .cons (Rule.nameFormat_clears rfl rfl) (.nil _),
      .inl ⟨_, Rule.symbolFormat_fails rfl rfl⟩⟩
  have first : shared <+: e.rules := ⟨[Rule.decimals], rfl⟩
  have apart : ∀ op ∈ ops, ∀ s ∈ shared, op.target? ≠ some s.name := by decide
  have own : ∀ r ∈ e.rules, r.OwnResults := fun r member => (Rule.standard_judges r member).ownResults
  have timeless : ∀ r ∈ e.rules, r.Timeless := fun r member =>
    (Rule.standard_judges r member).timeless (Rule.standard_isApplicable r member)
  exact ⟨inStep, ends, first, apart, own, timeless,
    (later_rules_without_influence e 0 m).2.1 shared ops inStep ends first apart⟩

end TokenIntake
