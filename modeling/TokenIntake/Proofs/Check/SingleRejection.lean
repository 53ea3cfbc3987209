import TokenIntake.Proofs.Check.Record
import TokenIntake.Proofs.Check.Verdict
import TokenIntake.Proofs.Value.Assoc

namespace TokenIntake

namespace Context

/-- No rule has failed without an error on record. -/
def Accounted (c : Context) : Prop := ∀ p ∈ c.results, p.2 = false → c.errors ≠ []

theorem Accounted.markPassed {c : Context} (accounted : c.Accounted) (rule : Text) :
    (c.markPassed rule).Accounted := by
  intro p inside failed
  rcases Assoc.values_put inside with passed | ⟨q, before, same⟩
  · rw [failed] at passed
    cases passed
  · exact accounted q before (same.trans failed)

theorem Records.accounted {c c' : Context} (records : c.Records c') (accounted : c.Accounted) : c'.Accounted := by
  induction records with
  | nothing => exact accounted
  | error earlier rule message kind ih =>
    intro p inside failed
    exact List.append_ne_nil_of_right_ne_nil _ (List.cons_ne_nil _ _)
  | warning earlier rule message ih => exact ih
  | passed earlier rule ih => exact ih.markPassed rule

theorem summary_short_iff (c : Context) :
    c.summary.rulesPassed < c.summary.rulesTotal ↔ ∃ p ∈ c.results, p.2 = false := by
  simp only [summary, List.length_filter_lt_length_iff_exists, Bool.not_eq_true]

end Context

namespace Rule

def OnlyRecords (r : Rule) : Prop :=
  ∀ c c' passed, (r.check c).value = .ok (c', passed) → c.Records c'

/-- On this context the rule records no error if it passes, and if it fails at most one, with its own failure. -/
structure Orderly (r : Rule) (c : Context) : Prop where
  passing : ∀ c', r.Clears c c' → c'.errors = c.errors
  failing : ∀ c', r.Fails c c' → c'.errors.length ≤ c.errors.length + 1 ∧
    (c'.errors ≠ c.errors → Assoc.get? id c'.results r.name = some false)

structure Candid (r : Rule) : Prop where
  orderly : ∀ c, r.Orderly c
  onlyRecords : r.OnlyRecords

end Rule

/-- At most one error is left on record. No rule runs after the one that recorded it, and that one failed and has
failed by its result, too. -/
structure Lone (start : Context) (rules : List Rule) (c : Context) : Prop where
  single : c.errors.length ≤ 1
  last : ∀ r reached, Reaches start rules r reached → r.applies reached = true → reached.errors = []
  refused : c.errors ≠ [] → ∃ r reached, Reaches start rules r reached ∧ r.Fails reached c ∧
    Assoc.get? id c.results r.name = some false

namespace Lone

open Engine

variable {start next c : Context} {first : Rule} {rules rest : List Rule}

theorem tail (lone : Lone start (first :: rest) c) (clears : first.Clears start next) : Lone next rest c := by
  refine ⟨lone.single, fun r reached reaches => lone.last r reached (reaches.cons clears), fun recorded => ?_⟩
  obtain ⟨r, reached, reaches, fails, result⟩ := lone.refused recorded
  rcases reaches.head_or_later clears with ⟨rfl, rfl⟩ | later
  · exact (clears.not_fails fails).elim
  · exact ⟨r, reached, later, fails, result⟩

theorem clean (lone : Lone start rules c) (ran : (runRules start rules).value = .ok c) : start.errors = [] := by
  induction rules with
  | nil =>
    cases ran
    by_cases recorded : start.errors = []
    · exact recorded
    · obtain ⟨r, reached, reaches, _⟩ := lone.refused recorded
      exact (not_reaches_nil reaches).elim
  | cons r rest ih =>
    cases applies : r.applies start with
    | true => exact lone.last r start (.head start r rest) applies
    | false =>
      have clears : r.Clears start start := .skipped applies
      rw [runRules_of_clears clears] at ran
      exact ih (lone.tail clears) ran

theorem orderly (lone : Lone start rules c) (ran : (runRules start rules).value = .ok c) :
    ∀ r reached, Reaches start rules r reached → r.Orderly reached := by
  induction rules generalizing start with
  | nil => exact fun r reached reaches => (not_reaches_nil reaches).elim
  | cons first rest ih =>
    have clean := lone.clean ran
    intro r reached reaches
    rcases first.clears_or_fails_or_breaks start with ⟨next, clears⟩ | ⟨given, fails⟩ | ⟨message, breaks⟩
    · rw [runRules_of_clears clears] at ran
      have later := lone.tail clears
      rcases reaches.head_or_later clears with ⟨rfl, rfl⟩ | reaches
      · refine ⟨fun c' again => ?_, fun c' fails => (clears.not_fails fails).elim⟩
        rw [again.unique clears, later.clean ran, clean]
      · exact ih later ran r reached reaches
    · rw [runRules_of_fails fails] at ran
      cases ran
      obtain ⟨rfl, rfl⟩ := reaches.eq_head fails
      refine ⟨fun c' clears => (clears.not_fails fails).elim, fun c' again => ?_⟩
      have same := fails.2.symm.trans again.2
      rw [Except.ok.injEq, Prod.mk.injEq] at same
      rw [← same.1, clean]
      refine ⟨lone.single, fun recorded => ?_⟩
      obtain ⟨s, reached, reaches, _, result⟩ := lone.refused recorded
      rw [← (reaches.eq_head fails).1]
      exact result
    · rw [runRules_of_breaks breaks] at ran
      cases ran

end Lone

namespace Engine

variable {start c : Context} {rules : List Rule}

theorem errors_of_cleared (orderly : ∀ r reached, Reaches start rules r reached → r.Orderly reached)
    (cleared : Cleared start rules c) : c.errors = start.errors := by
  induction cleared with
  | nil => rfl
  | cons first others ih =>
    have later := ih fun r reached reaches => orderly r reached (reaches.cons first)
    exact later.trans ((orderly _ _ (.head _ _ _)).passing _ first)

theorem lone_of_orderly (clean : start.errors = []) (ran : (runRules start rules).value = .ok c)
    (orderly : ∀ r reached, Reaches start rules r reached → r.Orderly reached) : Lone start rules c := by
  have last : ∀ r reached, Reaches start rules r reached → reached.errors = [] := by
    rintro r reached ⟨before, after, rfl, cleared⟩
    rw [errors_of_cleared (fun s mid reaches => orderly s mid (reaches.append _)) cleared, clean]
  rcases (runRules_ok_iff _ _ _).mp ran with cleared | ⟨r, reached, reaches, fails⟩
  · have none := (errors_of_cleared orderly cleared).trans clean
    refine ⟨?_, fun r reached reaches _ => last r reached reaches, fun recorded => absurd none recorded⟩
    rw [none]
    exact Nat.zero_le 1
  · obtain ⟨single, result⟩ := (orderly r reached reaches).failing c fails
    rw [last r reached reaches] at single result
    exact ⟨single, fun s mid reaches _ => last s mid reaches, fun recorded =>
      ⟨r, reached, reaches, fails, result recorded⟩⟩

theorem accounted_of_cleared (means : ∀ r ∈ rules, r.OnlyRecords) (accounted : start.Accounted)
    (cleared : Cleared start rules c) : c.Accounted := by
  induction cleared with
  | nil => exact accounted
  | cons first others ih =>
    obtain ⟨own, means⟩ := List.forall_mem_cons.mp means
    refine ih means ?_
    cases first with
    | skipped => exact accounted
    | passed applies answer => exact ((own _ _ _ answer).accounted accounted).markPassed _

theorem accounted_of_run (means : ∀ r ∈ rules, r.OnlyRecords) (accounted : start.Accounted)
    (ran : (runRules start rules).value = .ok c) : c.Accounted := by
  rcases (runRules_ok_iff _ _ _).mp ran with cleared | ⟨r, reached, ⟨before, after, rfl, cleared⟩, fails⟩
  · exact accounted_of_cleared means accounted cleared
  · obtain ⟨early, late⟩ := List.forall_mem_append.mp means
    have own := late r List.mem_cons_self
    exact (own _ _ _ fails.2).accounted (accounted_of_cleared early accounted cleared)

end Engine

namespace Rule

def noting (name message : Text) : Rule where
  name := name
  description := "Takes note"
  enabled := true
  check c := return .ok (c.addError name message none, true)

theorem Judges.orderly {r : Rule} (judges : r.Judges) (c : Context) : r.Orderly c := by
  constructor
  · intro c' clears
    cases clears with
    | skipped => rfl
    | passed _ answer =>
      rcases judges.answers answer with ⟨_, rfl⟩ | ⟨_, _, failed, _⟩
      · rfl
      · cases failed
  · intro c' fails
    rcases judges.answers fails.2 with ⟨passed, _⟩ | ⟨warnings, rejection, _, rfl⟩
    · cases passed
    · simp [Context.refuse, Context.addRejection, Context.addError]

theorem Judges.onlyRecords {r : Rule} (judges : r.Judges) : r.OnlyRecords := by
  intro c c' passed answer
  rcases judges.answers answer with ⟨_, rfl⟩ | ⟨warnings, rejection, _, rfl⟩
  · exact .nothing
  · exact (Context.Records.nothing.warnings r.name warnings).error r.name _ _

theorem Judges.candid {r : Rule} (judges : r.Judges) : r.Candid := ⟨judges.orderly, judges.onlyRecords⟩

theorem standard_candid : ∀ r ∈ standard, r.Candid := fun r member => (standard_judges r member).candid

end Rule

/-- A check leaves at most one rejection, the last thing recorded by the last rule that ran, exactly where no rule
that it gets to passes with an error or fails with several of them or under another name. Where all rules record
by the context's own means, a lone rejection shows in the summary as a rule that has not passed, and nothing else
does. -/
theorem single_rejection (e : Engine) (now : Nat) (m : Message) {c : Context}
    (ended : (e.check now m).value.2 = .ok c) :
    (Lone (e.opening now m) e.rules c ↔
      ∀ r reached, Reaches (e.opening now m) e.rules r reached → r.Orderly reached) ∧
    ((∀ r ∈ e.rules, r.OnlyRecords) → Lone (e.opening now m) e.rules c →
      (c.summary.outcome = .rejected ↔ c.summary.rulesPassed < c.summary.rulesTotal)) ∧
    ((∀ r ∈ e.rules, r.Candid) → Lone (e.opening now m) e.rules c ∧
      (c.summary.outcome = .rejected ↔ c.summary.rulesPassed < c.summary.rulesTotal)) := by
  have ran : (Engine.runRules (e.opening now m) e.rules).value = .ok c := by
    rw [← Engine.check_result]
    exact ended
  have exactly : Lone (e.opening now m) e.rules c ↔
      ∀ r reached, Reaches (e.opening now m) e.rules r reached → r.Orderly reached :=
    ⟨fun lone => lone.orderly ran, Engine.lone_of_orderly rfl ran⟩
  have shown : (∀ r ∈ e.rules, r.OnlyRecords) → Lone (e.opening now m) e.rules c →
      (c.summary.outcome = .rejected ↔ c.summary.rulesPassed < c.summary.rulesTotal) := by
    intro means lone
    have begins : (e.opening now m).Accounted := List.forall_mem_nil _
    have accounted := Engine.accounted_of_run means begins ran
    rw [c.outcome_rejected_iff, c.summary_short_iff]
    constructor
    · intro recorded
      obtain ⟨r, reached, _, _, result⟩ := lone.refused recorded
      obtain ⟨p, inside, _, failed⟩ := Assoc.exists_of_get?_eq_some result
      exact ⟨p, inside, failed⟩
    · rintro ⟨p, inside, failed⟩
      exact accounted p inside failed
  refine ⟨exactly, shown, fun candid => ?_⟩
  have lone := exactly.mpr fun r reached reaches => (candid r reaches.mem).orderly reached
  exact ⟨lone, shown (fun r inside => (candid r inside).onlyRecords) lone⟩

theorem single_rejection_decimals :
    let m : Message := ⟨"test token", "TNT", 19, [], none, none⟩
    let e := Engine.fresh Options.defaults
    ∃ c, (e.check 0 m).value.2 = .ok c ∧ (∀ r ∈ e.rules, r.Candid) ∧ Lone (e.opening 0 m) e.rules c ∧
      c.errors = [("decimals: Decimals must not exceed 18" : Text)] ∧
      c.summary.rulesPassed < c.summary.rulesTotal := by
  intro m e
  have ended : (e.check 0 m).value.2 = .ok ((e.opening 0 m).judged m) := rfl
  have candid : ∀ r ∈ e.rules, r.Candid := Rule.standard_candid
  obtain ⟨lone, shown⟩ := (single_rejection e 0 m ended).2.2 candid
  exact ⟨_, ended, candid, lone, rfl, shown.mp rfl⟩

theorem two_rejections_on_record :
    let m : Message := ⟨"test token", "TNT", 6, [], none, none⟩
    let e := (Engine.fresh Options.defaults).afterAll
      [.register (Rule.noting "noting" "noted"), .register (Rule.noting "again" "noted again")]
    ∃ c, (e.check 0 m).value.2 = .ok c ∧ c.errors = [("noting: noted" : Text), "again: noted again"] ∧
      c.summary.outcome = .rejected ∧ c.summary.rulesPassed = c.summary.rulesTotal ∧
      ¬Lone (e.opening 0 m) e.rules c := by
  intro m e
  refine ⟨_, rfl, rfl, rfl, rfl, fun lone => ?_⟩
  exact absurd lone.single (by decide)

end TokenIntake
