import TokenIntake.Proofs.Check.Verdict

namespace TokenIntake

namespace Counters

def Balanced (n : Counters) : Prop := n.total = n.approved + n.rejected + n.failed

structure AtMost (n n' : Counters) : Prop where
  total : n.total ≤ n'.total
  approved : n.approved ≤ n'.approved
  rejected : n.rejected ≤ n'.rejected
  failed : n.failed ≤ n'.failed

/-- What one operation can do to the counters, and whether it broke off. -/
inductive Step (n : Counters) : Bool → Counters → Prop
  | none : Step n false n
  | verdict (o : Outcome) : Step n false (n.counting o)
  | refusal : Step n false (Request.countFailure n)
  | broken : Step n true { n with total := n.total + 1 }

theorem Step.atMost {n n' : Counters} {broke : Bool} (step : Step n broke n') : n.AtMost n' := by
  cases step with
  | none => constructor <;> omega
  | verdict o => cases o <;> constructor <;> simp [counting]
  | refusal => constructor <;> simp [Request.countFailure]
  | broken => constructor <;> simp

theorem Step.account {n n' : Counters} {broke : Bool} {missing : Nat} (step : Step n broke n')
    (account : n.total = n.approved + n.rejected + n.failed + missing) :
    n'.total = n'.approved + n'.rejected + n'.failed + (missing + broke.toNat) := by
  cases step with
  | none => simpa using account
  | verdict o => cases o <;> simp only [counting, Bool.toNat_false] <;> omega
  | refusal => simp only [Request.countFailure, Bool.toNat_false]; omega
  | broken => simp only [Bool.toNat_true]; omega

end Counters

namespace Engine

/-- Some rule that a check gets to breaks off. -/
def RuleBreaks (e : Engine) (now : Nat) (m : Message) : Prop :=
  ∃ r reached message, Reaches (e.opening now m) e.rules r reached ∧ r.Breaks reached message

def BreaksOff (e : Engine) : Operation → Prop
  | .call (.check now m) => e.RuleBreaks now m
  | .call (.process now request) => ∃ m, Request.Brings request m ∧ e.RuleBreaks now m
  | .register _ | .unregister _ | .setEnabled _ _ | .statistics => False

def brokenOff (e : Engine) : Operation → Bool
  | .call (.check now m) => !(e.check now m).value.2.isOk
  | .call (.process now request) =>
    match (e.process now request).value.2 with
    | .error (.broken _) => true
    | .error (.notMapping _) | .ok _ => false
  | .register _ | .unregister _ | .setEnabled _ _ | .statistics => false

def brokenOffs (e : Engine) : List Operation → Nat
  | [] => 0
  | op :: ops => (e.brokenOff op).toNat + (e.after op).brokenOffs ops

theorem ruleBreaks_iff (e : Engine) (now : Nat) (m : Message) :
    e.RuleBreaks now m ↔ (e.check now m).value.2.isOk = false := by
  constructor
  · rintro ⟨r, reached, message, reaches, breaks⟩
    have ran := (runRules_error_iff _ message _).mpr ⟨r, reached, reaches, breaks⟩
    rw [check_result, ran]
    rfl
  · intro failed
    rw [check_result] at failed
    cases ran : (runRules (e.opening now m) e.rules).value with
    | ok c => rw [ran] at failed; cases failed
    | error message =>
      obtain ⟨r, reached, reaches, breaks⟩ := (runRules_error_iff _ _ _).mp ran
      exact ⟨r, reached, message, reaches, breaks⟩

theorem check_step (e : Engine) (now : Nat) (m : Message) :
    e.counters.Step (e.brokenOff (.call (.check now m))) (e.check now m).value.1.counters := by
  cases ran : (runRules (e.opening now m) e.rules).value with
  | error message => simp only [brokenOff, check_of_error ran]; exact .broken
  | ok c => simp only [brokenOff, check_of_run ran]; exact .verdict _

theorem brokenOff_process {e : Engine} {now : Nat} {request : Value} {m : Message}
    (brings : Request.Brings request m) :
    e.brokenOff (.call (.process now request)) = e.brokenOff (.call (.check now m)) := by
  simp only [brokenOff, process_of_brings brings]
  cases (e.check now m).value.2 <;> rfl

theorem brokenOff_process_none {e : Engine} {now : Nat} {request : Value}
    (none : ∀ m, ¬Request.Brings request m) : e.brokenOff (.call (.process now request)) = false := by
  rcases process_of_brings_none e now request none with ⟨noMapping, _⟩ | ⟨message, refused⟩
  · simp [brokenOff, process, noMapping]
  · simp only [brokenOff, refused, Request.refuse]

theorem brokenOff_iff (e : Engine) (op : Operation) : e.brokenOff op = true ↔ e.BreaksOff op := by
  cases op with
  | call c =>
    cases c with
    | check now m => simp [brokenOff, BreaksOff, ruleBreaks_iff]
    | process now request =>
      by_cases brings : ∃ m, Request.Brings request m
      · obtain ⟨m, brings⟩ := brings
        rw [brokenOff_process brings]
        constructor
        · intro broke
          exact ⟨m, brings, (ruleBreaks_iff e now m).mpr (by simpa [brokenOff] using broke)⟩
        · rintro ⟨m', brings', breaks⟩
          rw [← brokenOff_process brings, brokenOff_process brings']
          simpa [brokenOff] using (ruleBreaks_iff e now m').mp breaks
      · have none := not_exists.mp brings
        simp only [brokenOff_process_none none, BreaksOff, Bool.false_eq_true, false_iff]
        rintro ⟨m, brings, _⟩
        exact none m brings
  | register r => simp [brokenOff, BreaksOff]
  | unregister name => simp [brokenOff, BreaksOff]
  | setEnabled name enabled => simp [brokenOff, BreaksOff]
  | statistics => simp [brokenOff, BreaksOff]

theorem counters_register (e : Engine) (r : Rule) : (e.register r).value.counters = e.counters := by
  simp only [register]
  split <;> rfl

theorem after_step (e : Engine) (op : Operation) :
    e.counters.Step (e.brokenOff op) (e.after op).counters := by
  cases op with
  | call c =>
    cases c with
    | check now m => exact check_step e now m
    | process now request =>
      by_cases brings : ∃ m, Request.Brings request m
      · obtain ⟨m, brings⟩ := brings
        simp only [after, afterCall, brokenOff_process brings, process_of_brings brings]
        exact check_step e now m
      · have none := not_exists.mp brings
        rw [brokenOff_process_none none]
        rcases process_of_brings_none e now request none with ⟨_, same⟩ | ⟨message, refused⟩
        · simp only [after, afterCall, same]
          exact .none
        · simp only [after, afterCall, refused]
          exact .refusal
  | register r =>
    rw [after, counters_register]
    exact .none
  | unregister name =>
    simp only [after, unregister, brokenOff]
    split <;> exact .none
  | setEnabled name enabled =>
    simp only [after, setEnabled?, brokenOff]
    cases e.number? name <;> exact .none
  | statistics => exact .none

theorem afterAll_account {e : Engine} {missing : Nat}
    (account : e.counters.total = e.counters.approved + e.counters.rejected + e.counters.failed + missing)
    (ops : List Operation) :
    (e.afterAll ops).counters.total = (e.afterAll ops).counters.approved + (e.afterAll ops).counters.rejected +
      (e.afterAll ops).counters.failed + (missing + e.brokenOffs ops) := by
  -- what is missing grows along the run, so it is a parameter and not zero
  induction ops generalizing e missing with
  | nil => exact account
  | cons op ops ih =>
    have later := ih ((after_step e op).account account)
    rw [brokenOffs, ← Nat.add_assoc missing]
    exact later

theorem brokenOffs_eq_zero_iff (e : Engine) (ops : List Operation) :
    e.brokenOffs ops = 0 ↔ ∀ before op later, ops = before ++ op :: later → ¬(e.afterAll before).BreaksOff op := by
  induction ops generalizing e with
  | nil => simp [brokenOffs]
  | cons op ops ih =>
    rw [brokenOffs, Nat.add_eq_zero_iff, ih]
    constructor
    · rintro ⟨first, others⟩ before next later split breaks
      cases before with
      | nil =>
        cases split
        have broke := (brokenOff_iff e op).mpr breaks
        rw [broke] at first
        cases first
      | cons op' before =>
        cases split
        exact others before next later rfl breaks
    · intro whole
      refine ⟨?_, fun before next later split => ?_⟩
      · have first : ¬e.BreaksOff op := whole [] op ops rfl
        rw [← brokenOff_iff, Bool.not_eq_true] at first
        rw [first]
        rfl
      · exact whole (op :: before) next later (by rw [split, List.cons_append])

end Engine

def Rule.breaking : Rule where
  name := "breaking"
  description := "Breaks off"
  enabled := true
  check _ := return .error "out of order"

/-- The counters balance as long as no rule breaks off in a call, and are short by one check for every call
in which one does. No operation takes a counter back. -/
theorem counters_account {given : Value} {e : Engine} (built : Engine.Built given e)
    (ops : List Engine.Operation) :
    let n := (e.afterAll ops).statistics.counters
    n.total = n.approved + n.rejected + n.failed + e.brokenOffs ops ∧
    (n.Balanced ↔ ∀ before op later, ops = before ++ op :: later → ¬(e.afterAll before).BreaksOff op) ∧
    ∀ op, n.AtMost ((e.afterAll ops).after op).statistics.counters := by
  intro n
  obtain ⟨options, fresh⟩ := built.exists_fresh
  have start : e.counters.total = e.counters.approved + e.counters.rejected + e.counters.failed + 0 := by
    rw [fresh]
    rfl
  have account := Engine.afterAll_account start ops
  rw [Nat.zero_add] at account
  refine ⟨account, ?_, fun op => (Engine.after_step _ op).atMost⟩
  rw [← Engine.brokenOffs_eq_zero_iff, Counters.Balanced]
  constructor
  · intro balanced
    have same : n.approved + n.rejected + n.failed = n.approved + n.rejected + n.failed + e.brokenOffs ops :=
      balanced.symm.trans account
    omega
  · intro none
    rw [none] at account
    exact account

theorem counters_account_of_calls :
    let m : Message := ⟨"test token", "TN", 6, [], none, none⟩
    let ops : List Engine.Operation := [.register Rule.breaking, .call (.check 0 m), .call (.process 1 (.map []))]
    let e := Engine.fresh Options.defaults
    Engine.Built .null e ∧ (e.afterAll ops).statistics.counters = ⟨2, 0, 1, 1⟩ ∧
      (e.afterAll ops).statistics.counters.AtMost
        ((e.afterAll ops).after (.call (.check 2 m))).statistics.counters := by
  intro m ops e
  have built : Engine.Built .null e := .inl rfl
  exact ⟨built, rfl, (counters_account built ops).2.2 _⟩

/-- A check in which a rule breaks off is counted in all, but by no outcome. -/
theorem broken_check_unbalanced :
    let m : Message := ⟨"test token", "TNT", 6, [], none, none⟩
    let e := (Engine.fresh Options.defaults).afterAll [.register Rule.breaking, .call (.check 0 m)]
    e.statistics.counters = ⟨1, 0, 0, 0⟩ ∧ ¬e.statistics.counters.Balanced := by
  intro m e
  have counters : e.statistics.counters = ⟨1, 0, 0, 0⟩ := rfl
  refine ⟨counters, ?_⟩
  rw [counters, Counters.Balanced]
  decide

end TokenIntake
