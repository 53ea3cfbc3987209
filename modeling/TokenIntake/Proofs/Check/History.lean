import Mathlib.Data.Finset.Card
import Mathlib.Data.List.Induction
import TokenIntake.Check.Context
import TokenIntake.Proofs.Value.Assoc

namespace TokenIntake

namespace Context

inductive Call where
  | error (rule message : Text) (kind : Option Text)
  | warning (rule message : Text)
  | passed (rule : Text)
  | summary
  | raise

namespace Call

def errorLine? : Call → Option Text
  | .error rule message _ => some (rule ++ ": " ++ message)
  | _ => none

def warningLine? : Call → Option Text
  | .warning rule message => some (rule ++ ": " ++ message)
  | _ => none

def cause? : Call → Option (Text × Option Text)
  | .error _ message kind => some (message, kind)
  | _ => none

def verdict? : Call → Option (Text × Bool)
  | .error rule _ _ => some (rule, false)
  | .passed rule => some (rule, true)
  | _ => none

def isError : Call → Bool
  | .error .. => true
  | _ => false

def isReport : Call → Bool
  | .summary | .raise => false
  | _ => true

def verdicts (calls : List Call) : List (Text × Bool) := calls.filterMap verdict?

def judged (calls : List Call) : List Text := (verdicts calls).map Prod.fst

def latest? (calls : List Call) (rule : Text) : Option Bool :=
  ((verdicts calls).filter fun v => v.1 = rule).getLast?.map Prod.snd

theorem isSome_errorLine? (call : Call) : call.errorLine?.isSome = call.isError := by cases call <;> rfl

theorem isSome_cause? (call : Call) : call.cause?.isSome = call.isError := by cases call <;> rfl

end Call

def after (c : Context) : Call → Context
  | .error rule message kind => c.addError rule message kind
  | .warning rule message => c.addWarning rule message
  | .passed rule => c.markPassed rule
  | .summary | .raise => c

def afterAll (c : Context) (calls : List Call) : Context := calls.foldl after c

open Call

section

variable (c : Context) (call : Call)

theorem message_after : (c.after call).message = c.message := by cases call <;> rfl

theorem errors_after : (c.after call).errors = c.errors ++ call.errorLine?.toList := by
  cases call <;> simp [after, addError, addWarning, markPassed, errorLine?]

theorem warnings_after : (c.after call).warnings = c.warnings ++ call.warningLine?.toList := by
  cases call <;> simp [after, addError, addWarning, markPassed, warningLine?]

theorem error_after : (c.after call).error = c.error.or (call.cause?.map Prod.fst) := by
  cases call with
  | error rule message kind => cases first : c.error <;> simp [after, addError, cause?, first]
  | warning rule message => exact Option.or_none.symm
  | passed rule => exact Option.or_none.symm
  | summary => exact Option.or_none.symm
  | raise => exact Option.or_none.symm

theorem errorKind_after :
    (c.after call).errorKind = if c.error.isSome then c.errorKind else call.cause?.elim c.errorKind Prod.snd := by
  cases call with
  | error rule message kind => rfl
  | warning rule message => exact (ite_self _).symm
  | passed rule => exact (ite_self _).symm
  | summary => exact (ite_self _).symm
  | raise => exact (ite_self _).symm

theorem results_after :
    (c.after call).results = call.verdict?.elim c.results fun v => Assoc.put id c.results v.1 v.2 := by
  cases call <;> rfl

end

/-- The context holds what these calls have reported, and nothing else. -/
structure Holds (c : Context) (m : Option Message) (calls : List Call) : Prop where
  message : c.message = m
  errors : c.errors = calls.filterMap errorLine?
  warnings : c.warnings = calls.filterMap warningLine?
  error : c.error = (calls.findSome? cause?).map Prod.fst
  errorKind : c.errorKind = (calls.findSome? cause?).bind Prod.snd
  rules : c.results.map Prod.fst = (judged calls).eraseDups
  latest : ∀ rule, Assoc.get? id c.results rule = latest? calls rule
  distinct : Assoc.Distinct id c.results

theorem holds_fresh (m : Option Message) : (fresh m).Holds m [] :=
  ⟨rfl, rfl, rfl, rfl, rfl, rfl, fun _ => rfl, Assoc.distinct_nil⟩

section

variable {c : Context} {m : Option Message} {calls : List Call}

theorem rules_put {results : List (Text × Bool)} {rules : List Text} (same : results.map Prod.fst = rules.eraseDups)
    (rule : Text) (passed : Bool) :
    (Assoc.put id results rule passed).map Prod.fst = (rules ++ [rule]).eraseDups := by
  have keys := Assoc.keys_put id results rule passed
  simp only [id_eq] at keys
  rw [keys, same, List.eraseDups_append]
  by_cases known : rule ∈ rules
  · simp [known, List.removeAll]
  · simp [known, List.removeAll, List.eraseDups_cons]

theorem latest?_append (calls : List Call) (call : Call) (rule : Text) :
    latest? (calls ++ [call]) rule =
      call.verdict?.elim (latest? calls rule) fun v => if v.1 = rule then some v.2 else latest? calls rule := by
  rw [latest?, latest?, verdicts, verdicts, List.filterMap_append, List.filter_append]
  cases verdict : call.verdict? with
  | none => simp [verdict]
  | some v => by_cases same : v.1 = rule <;> simp [verdict, same]

theorem judged_append (calls : List Call) (call : Call) :
    judged (calls ++ [call]) = judged calls ++ (call.verdict?.map Prod.fst).toList := by
  rw [judged, verdicts, List.filterMap_append, List.map_append]
  cases verdict : call.verdict? <;> simp [verdict, judged, verdicts]

theorem Holds.after (holds : c.Holds m calls) (call : Call) : (c.after call).Holds m (calls ++ [call]) where
  message := (message_after c call).trans holds.message
  errors := by
    rw [errors_after, holds.errors, List.filterMap_append]
    cases line : call.errorLine? <;> simp [line]
  warnings := by
    rw [warnings_after, holds.warnings, List.filterMap_append]
    cases line : call.warningLine? <;> simp [line]
  error := by
    rw [error_after, holds.error, List.findSome?_append]
    cases calls.findSome? cause? <;> simp
  errorKind := by
    rw [errorKind_after, holds.error, holds.errorKind, List.findSome?_append]
    cases calls.findSome? cause? with
    | some first => rfl
    | none => cases cause : call.cause? <;> simp [cause]
  rules := by
    rw [results_after, judged_append]
    cases call.verdict? with
    | none => simpa using holds.rules
    | some v => exact rules_put holds.rules v.1 v.2
  latest rule := by
    rw [results_after, latest?_append]
    cases call.verdict? with
    | none => exact holds.latest rule
    | some v =>
      rw [Option.elim_some, Option.elim_some, Assoc.get?_put, holds.latest]
      rfl
  distinct := by
    rw [results_after]
    cases call.verdict? with
    | none => exact holds.distinct
    | some v => exact holds.distinct.put id v.1 v.2

theorem holds_afterAll (m : Option Message) (calls : List Call) : ((fresh m).afterAll calls).Holds m calls := by
  induction calls using List.reverseRecOn with
  | nil => exact holds_fresh m
  | append_singleton calls call ih =>
    rw [afterAll, List.foldl_append]
    exact ih.after call

theorem isEmpty_errorLines (calls : List Call) : (calls.filterMap errorLine?).isEmpty = !calls.any isError := by
  induction calls with
  | nil => rfl
  | cons call rest ih =>
    have line := call.isSome_errorLine?
    cases shown : call.errorLine? with
    | none =>
      rw [shown] at line
      rw [List.filterMap_cons_none shown, ih, List.any_cons, ← line]
      rfl
    | some text =>
      rw [shown] at line
      rw [List.filterMap_cons_some shown, List.any_cons, ← line]
      rfl

theorem Holds.hasErrors (holds : c.Holds m calls) : c.hasErrors = calls.any isError := by
  rw [Context.hasErrors, holds.errors, isEmpty_errorLines, Bool.not_not]

theorem isSome_cause (calls : List Call) : (calls.findSome? cause?).isSome = calls.any isError := by
  rw [List.isSome_findSome?]
  congr 1
  funext call
  exact call.isSome_cause?

theorem Holds.hasErrors_of_kind (holds : c.Holds m calls) (kind : c.errorKind.isSome = true) :
    c.hasErrors = true := by
  rw [holds.errorKind] at kind
  rw [holds.hasErrors, ← isSome_cause]
  cases cause : calls.findSome? cause? with
  | none => simp [cause] at kind
  | some first => rfl

theorem Holds.raises_iff (holds : c.Holds m calls) : (∃ e, c.raise = .error e) ↔ c.hasErrors = true := by
  have kinds := holds.hasErrors_of_kind
  unfold raise
  cases kind : c.errorKind with
  | some label =>
    have errors := kinds (by rw [kind]; rfl)
    dsimp only
    cases Rejection.ofLabel label c.error <;> simp [errors]
  | none => cases errors : c.hasErrors <;> simp

theorem Holds.mem_results (holds : c.Holds m calls) {rule : Text} {passed : Bool} :
    (rule, passed) ∈ c.results ↔ latest? calls rule = some passed := by
  rw [← holds.latest]
  constructor
  · exact fun inside => holds.distinct.get?_of_mem inside
  · intro bound
    obtain ⟨e, inside, key, value⟩ := Assoc.exists_of_get?_eq_some bound
    obtain rfl : e = (rule, passed) := Prod.ext key value
    exact inside

theorem Holds.rulesTotal (holds : c.Holds m calls) : c.summary.rulesTotal = (judged calls).toFinset.card := by
  have total : c.summary.rulesTotal = (c.results.map Prod.fst).length := (List.length_map _).symm
  have same : (c.results.map Prod.fst).toFinset = (judged calls).toFinset := by
    ext rule
    rw [holds.rules, List.mem_toFinset, List.mem_toFinset, List.mem_eraseDups]
  rw [total, ← same]
  exact (List.toFinset_card_of_nodup holds.distinct).symm

theorem Holds.rulesPassed (holds : c.Holds m calls) :
    c.summary.rulesPassed = ((judged calls).toFinset.filter fun rule => latest? calls rule = some true).card := by
  have passed : c.summary.rulesPassed = ((c.results.filter Prod.snd).map Prod.fst).length := (List.length_map _).symm
  have distinct : ((c.results.filter Prod.snd).map Prod.fst).Nodup :=
    (List.filter_sublist.map Prod.fst).nodup holds.distinct
  have same : ((c.results.filter Prod.snd).map Prod.fst).toFinset =
      (judged calls).toFinset.filter fun rule => latest? calls rule = some true := by
    ext rule
    have named : (rule, true) ∈ c.results → rule ∈ judged calls := by
      intro inside
      rw [← List.mem_eraseDups, ← holds.rules]
      exact List.mem_map_of_mem inside
    rw [Finset.mem_filter, List.mem_toFinset, List.mem_toFinset, ← holds.mem_results]
    simpa using named
  rw [passed, ← same]
  exact (List.toFinset_card_of_nodup distinct).symm

theorem Holds.rejected_iff (holds : c.Holds m calls) : c.summary.outcome = .rejected ↔ calls.any isError = true := by
  rw [← holds.hasErrors]
  unfold summary
  cases c.hasErrors <;> simp

theorem first_stays (m : Option Message) (reported : calls.any isError = true) (more : List Call) :
    let c := (fresh m).afterAll calls
    (c.afterAll more).error = c.error ∧ (c.afterAll more).errorKind = c.errorKind := by
  intro c
  have holds : c.Holds m calls := holds_afterAll m calls
  have later : (c.afterAll more).Holds m (calls ++ more) := by
    have all := holds_afterAll m (calls ++ more)
    rwa [afterAll, List.foldl_append] at all
  rw [← isSome_cause] at reported
  obtain ⟨first, cause⟩ := Option.isSome_iff_exists.mp reported
  rw [later.error, later.errorKind, holds.error, holds.errorKind, List.findSome?_append, cause]
  exact ⟨rfl, rfl⟩

theorem afterAll_reports (c : Context) (calls : List Call) :
    c.afterAll (calls.filter isReport) = c.afterAll calls := by
  induction calls generalizing c with
  | nil => rfl
  | cons call rest ih => cases call <;> exact ih _

end

end Context

open Context in
/-- Whatever is called on a fresh context and in whatever order, the context is the record of it, and its summary and
what it raises are told from this record. -/
theorem context_is_record (m : Option Message) (calls : List Call) :
    let c := (fresh m).afterAll calls
    c.errors = calls.filterMap Call.errorLine? ∧ c.warnings = calls.filterMap Call.warningLine? ∧
    c.error = (calls.findSome? Call.cause?).map Prod.fst ∧
    c.errorKind = (calls.findSome? Call.cause?).bind Prod.snd ∧
    (calls.any Call.isError = true →
      ∀ more, (c.afterAll more).error = c.error ∧ (c.afterAll more).errorKind = c.errorKind) ∧
    c.results.map Prod.fst = (Call.judged calls).eraseDups ∧
    (∀ rule passed, (rule, passed) ∈ c.results ↔ Call.latest? calls rule = some passed) ∧
    c.summary.rulesTotal = (Call.judged calls).toFinset.card ∧
    c.summary.rulesPassed =
      ((Call.judged calls).toFinset.filter fun rule => Call.latest? calls rule = some true).card ∧
    (c.summary.outcome = .rejected ↔ calls.any Call.isError = true) ∧
    ((∃ e, c.raise = .error e) ↔ c.hasErrors = true) ∧
    (fresh m).afterAll (calls.filter Call.isReport) = c := by
  intro c
  have holds : c.Holds m calls := holds_afterAll m calls
  exact ⟨holds.errors, holds.warnings, holds.error, holds.errorKind, first_stays m, holds.rules,
    fun _ _ => holds.mem_results, holds.rulesTotal, holds.rulesPassed, holds.rejected_iff, holds.raises_iff,
    afterAll_reports (fresh m) calls⟩

open Context in
theorem context_is_record_overruled :
    let calls : List Call := [.passed "late", .error "early" [] none, .raise,
      .error "late" "worse" (some "invalid_name"), .warning "late" "odd", .summary, .passed "early"]
    let c := (fresh none).afterAll calls
    calls.any Call.isError = true ∧
      (c.afterAll [.error "last" "worst" (some "invalid_symbol")]).error = some [] ∧
      (c.afterAll [.error "last" "worst" (some "invalid_symbol")]).errorKind = none ∧
      c.results = [(("late" : Text), false), ("early", true)] ∧ c.summary.rulesPassed = 1 ∧
      c.raise = .error (.error []) := by
  intro calls c
  have reported : calls.any Call.isError = true := by decide
  obtain ⟨_, _, error, errorKind, stays, _⟩ := context_is_record none calls
  obtain ⟨same, sameKind⟩ := stays reported [.error "last" "worst" (some "invalid_symbol")]
  exact ⟨reported, same.trans error, sameKind.trans errorKind, by decide, by decide, by decide⟩

end TokenIntake
