import TokenIntake.Check.Request
import TokenIntake.Proofs.Check.Standard

namespace TokenIntake

namespace Engine

/-- The engine that options make, under either of the default identifiers. -/
def Built (given : Value) (e : Engine) : Prop :=
  (build given).value = .ok e ∨ (buildDefault given).value = .ok e

inductive Call where
  | check (now : Nat) (m : Message)
  | process (now : Nat) (request : Value)

inductive Operation where
  | call (c : Call)
  | register (r : Rule)
  | unregister (name : Text)
  | setEnabled (name : Text) (enabled : Bool)
  | statistics

def afterCall (e : Engine) : Call → Engine
  | .check now m => (e.check now m).value.1
  | .process now request => (e.process now request).value.1

def after (e : Engine) : Operation → Engine
  | .call c => e.afterCall c
  | .register r => (e.register r).value
  | .unregister name => (e.unregister name).value.1
  | .setEnabled name enabled => (e.setEnabled? name enabled).getD e
  | .statistics => e

def afterCalls (e : Engine) (calls : List Call) : Engine := calls.foldl afterCall e

def afterAll (e : Engine) (ops : List Operation) : Engine := ops.foldl after e

/-- Two engines run the same rules under the same identifier. -/
structure Alike (e e' : Engine) : Prop where
  options : e'.options = e.options
  kept : e'.kept = e.kept
  order : e'.order = e.order
  registry : e'.registry = e.registry

namespace Alike

variable {e e' e'' : Engine}

theorem refl (e : Engine) : Alike e e := ⟨rfl, rfl, rfl, rfl⟩

theorem trans (first : Alike e e') (second : Alike e' e'') : Alike e e'' :=
  ⟨second.options.trans first.options, second.kept.trans first.kept, second.order.trans first.order,
    second.registry.trans first.registry⟩

theorem rules (alike : Alike e e') : e'.rules = e.rules := by
  simp only [Engine.rules, alike.order, alike.kept]

theorem validatorId (alike : Alike e e') : e'.validatorId = e.validatorId := by
  simp only [Engine.validatorId, alike.options]

theorem opening (alike : Alike e e') (now : Nat) (m : Message) : e'.opening now m = e.opening now m := by
  simp only [Engine.opening, alike.validatorId]

end Alike

theorem check_alike (e : Engine) (now : Nat) (m : Message) : Alike e (e.check now m).value.1 := by
  cases ran : (runRules (e.opening now m) e.rules).value with
  | error message => rw [check_of_error ran]; exact ⟨rfl, rfl, rfl, rfl⟩
  | ok c => rw [check_of_ok ran]; exact ⟨rfl, rfl, rfl, rfl⟩

end Engine

namespace Request

/-- A request brings data that decodes to a message. -/
def Brings (request : Value) (m : Message) : Prop :=
  ∃ es fields, request.entries? = some es ∧ (Mapping.field? es "msg").bind Value.entries? = some fields ∧
    Message.decode (.map fields) = .good m

def answer (e : Engine) (now : Nat) : Except Text Context → Except Fault Response
  | .error message => .error (.broken message)
  | .ok c => .ok (.success c.summary now e.validatorId)

end Request

namespace Engine

theorem process_of_brings {e : Engine} {now : Nat} {request : Value} {m : Message}
    (brings : Request.Brings request m) :
    (e.process now request).value = ((e.check now m).value.1, Request.answer e now (e.check now m).value.2) := by
  obtain ⟨es, fields, mapping, found, decoded⟩ := brings
  have same := (check_alike e now m).validatorId
  cases result : (e.check now m).value.2 with
  | error message =>
    simp only [process, mapping, found, decoded, Traced.value_bind, Traced.value_pure, Request.answer, result]
  | ok c =>
    simp only [process, mapping, found, decoded, Traced.value_bind, Traced.value_pure, Request.answer, same, result]

theorem process_of_brings_none (e : Engine) (now : Nat) (request : Value)
    (none : ∀ m, ¬Request.Brings request m) :
    (request.entries? = Option.none ∧ (e.process now request).value.1 = e) ∨
      ∃ message, (e.process now request).value = Request.refuse e message := by
  cases mapping : request.entries? with
  | none => exact .inl ⟨rfl, by simp [process, mapping]⟩
  | some es =>
    refine .inr ?_
    cases found : (Mapping.field? es "msg").bind Value.entries? with
    | none => exact ⟨_, by simp only [process, mapping, found, Traced.value_bind, Traced.value_pure]; rfl⟩
    | some fields =>
      cases decoded : Message.decode (.map fields) with
      | good m => exact absurd ⟨es, fields, mapping, found, decoded⟩ (none m)
      | bad issues =>
        exact ⟨_, by simp only [process, mapping, found, decoded, Traced.value_bind, Traced.value_pure]; rfl⟩

theorem process_alike (e : Engine) (now : Nat) (request : Value) : Alike e (e.process now request).value.1 := by
  by_cases brings : ∃ m, Request.Brings request m
  · obtain ⟨m, brings⟩ := brings
    rw [process_of_brings brings]
    exact check_alike e now m
  · rcases process_of_brings_none e now request (not_exists.mp brings) with ⟨_, same⟩ | ⟨message, refused⟩
    · rw [same]
      exact .refl e
    · rw [refused]
      exact ⟨rfl, rfl, rfl, rfl⟩

theorem afterCall_alike (e : Engine) (c : Call) : Alike e (e.afterCall c) := by
  cases c with
  | check now m => exact check_alike e now m
  | process now request => exact process_alike e now request

theorem afterCalls_alike (e : Engine) (calls : List Call) : Alike e (e.afterCalls calls) := by
  induction calls generalizing e with
  | nil => exact .refl e
  | cons c rest ih => exact (afterCall_alike e c).trans (ih (e.afterCall c))

def fresh (options : Mapping) : Engine := (registerAll ⟨options, [], [], [], ⟨0, 0, 0, 0⟩⟩ Rule.standard).value

@[simp] theorem rules_fresh (options : Mapping) : (fresh options).rules = Rule.standard := rfl

theorem value_ofOptions (given : Mapping) :
    (ofOptions given).value =
      match Options.validatorId? (Options.fill given Options.defaults) with
      | none => .error .validatorId
      | some _ =>
        (Options.threshold? (((Options.fill given Options.defaults).field? "log_level").getD .null)).map
          fun _ => fresh (Options.fill given Options.defaults) := by
  unfold ofOptions
  simp only [Traced.value_bind]
  cases Options.validatorId? (Options.fill given Options.defaults) with
  | none => rfl
  | some id =>
    cases Options.threshold? (((Options.fill given Options.defaults).field? "log_level").getD .null) with
    | error fault => rfl
    | ok asked => cases asked <;> rfl

theorem ofOptions_fresh {given : Mapping} {e : Engine} (made : (ofOptions given).value = .ok e) :
    e = fresh (Options.fill given Options.defaults) := by
  rw [value_ofOptions] at made
  split at made
  · cases made
  · cases level : Options.threshold? (((Options.fill given Options.defaults).field? "log_level").getD .null) with
    | error fault => rw [level] at made; cases made
    | ok asked => rw [level] at made; cases made; rfl

theorem Built.exists_fresh {given : Value} {e : Engine} (built : Built given e) :
    ∃ options, e = fresh options := by
  rcases built with made | made
  · unfold build at made
    split at made
    · cases made
    · exact ⟨_, ofOptions_fresh made⟩
  · unfold buildDefault at made
    split at made
    · cases made
    · exact ⟨_, ofOptions_fresh made⟩

end Engine

end TokenIntake
