import TokenIntake.Check.Options
import TokenIntake.Check.Standard
import TokenIntake.Message.Decode

namespace TokenIntake

structure Counters where
  total : Nat
  approved : Nat
  rejected : Nat
  failed : Nat
deriving DecidableEq

/-- Every rule is kept under the number of its registration. `order` says when each one runs and `registry` finds
it by name. Both of them lead to the rule itself, so what is changed in it shows through both. -/
structure Engine where
  options : Mapping
  kept : List Rule
  order : List Nat
  registry : List (Text × Nat)
  counters : Counters

structure Statistics where
  counters : Counters
  ruleCount : Nat
  ruleOrder : List Text
deriving DecidableEq

namespace Engine

def logger : Text := "validator.engine"

def number? (e : Engine) (name : Text) : Option Nat := Assoc.get? id e.registry name

def rules (e : Engine) : List Rule := e.order.filterMap fun n => e.kept[n]?

def validatorId (e : Engine) : Text := (Options.validatorId? e.options).getD []

def statistics (e : Engine) : Statistics := ⟨e.counters, e.rules.length, e.rules.map Rule.name⟩

/-- A rule whose name is taken replaces the one that has it, in its place; any other goes last. -/
def register (e : Engine) (r : Rule) : Traced Engine := do
  let number := e.kept.length
  let known := e.number? r.name
  if known.isSome then
    Traced.log logger .warning ("Rule " ++ r.name ++ " already registered, replacing")
  Traced.log logger .debug ("Registered validation rule: " ++ r.name)
  return { e with
    kept := e.kept ++ [r]
    order := match known with
      | some old => e.order.replace old number
      | none => e.order ++ [number]
    registry := Assoc.put id e.registry r.name number }

def unregister (e : Engine) (name : Text) : Traced (Engine × Bool) :=
  match e.number? name with
  | some number => do
    Traced.log logger .info ("Unregistered validation rule: " ++ name)
    return ({ e with order := e.order.erase number, registry := Assoc.erase id e.registry name }, true)
  | none => return (e, false)

def setEnabled? (e : Engine) (name : Text) (enabled : Bool) : Option Engine :=
  (e.number? name).map fun number =>
    { e with kept := e.kept.modify number fun r => { r with enabled := enabled } }

def registerAll (e : Engine) : List Rule → Traced Engine
  | [] => return e
  | r :: rest => do registerAll (← e.register r) rest

def ofOptions (given : Mapping) : Traced (Except Options.Fault Engine) := do
  Traced.log logger .debug "Loading validator configuration"
  let options := Options.fill given Options.defaults
  match Options.validatorId? options with
  | none => return .error .validatorId
  | some _ =>
    match Options.threshold? ((options.field? "log_level").getD .null) with
    | .error fault => return .error fault
    | .ok asked =>
      match asked with
      | some least => Traced.setThreshold least
      | none => pure ()
      return .ok (← registerAll ⟨options, [], [], [], ⟨0, 0, 0, 0⟩⟩ Rule.standard)

def build (given : Value) : Traced (Except Options.Fault Engine) :=
  match Options.ofGiven given with
  | .error fault => return .error (.pairs fault)
  | .ok options => ofOptions options

def buildDefault (given : Value) : Traced (Except Options.Fault Engine) :=
  match Options.ofGiven given with
  | .error fault => return .error (.pairs fault)
  | .ok options =>
    ofOptions (Mapping.putAll [(.text "validator_id", .text "tokenmsg_default_validator")] options)

def runRules (c : Context) : List Rule → Traced (Except Text Context)
  | [] => return .ok c
  | r :: rest =>
    if r.applies c then do
      match ← r.check c with
      | .error message => return .error message
      | .ok (c, true) =>
        Traced.log logger .debug ("Rule " ++ r.name ++ " passed")
        runRules (c.markPassed r.name) rest
      | .ok (c, false) =>
        Traced.log logger .debug ("Rule " ++ r.name ++ " failed, stopping")
        return .ok c
    else do
      Traced.log logger .debug ("Skipping rule " ++ r.name ++ " - not applicable")
      runRules c rest

def apply (e : Engine) (c : Context) : Traced (Engine × Except Text Context) := do
  let result ← runRules c e.rules
  return ({ e with counters := { e.counters with total := e.counters.total + 1 } }, result)

def countVerdict (n : Counters) (c : Context) : Counters :=
  if c.hasErrors then { n with rejected := n.rejected + 1 } else { n with approved := n.approved + 1 }

def opening (e : Engine) (now : Nat) (m : Message) : Context :=
  { Context.fresh (some m) with timestamp := some now, validatorId := some e.validatorId }

def check (e : Engine) (now : Nat) (m : Message) : Traced (Engine × Except Text Context) := do
  Traced.log logger .debug ("Validating instantiate message for " ++ m.symbol.quoted)
  let (e, result) ← e.apply (e.opening now m)
  match result with
  | .error message => return (e, .error message)
  | .ok c =>
    Traced.log logger .info (if c.hasErrors then "Instantiate message rejected: " ++ c.error.getD []
      else "Instantiate message approved")
    return ({ e with counters := countVerdict e.counters c }, .ok c)

end Engine

def checkOnce (now : Nat) (m : Message) (given : Value) : Traced (Except Options.Fault (Except Text Bool)) := do
  match ← Engine.buildDefault given with
  | .error fault => return .error fault
  | .ok e =>
    let (_, result) ← e.check now m
    return .ok (result.map fun c => !c.hasErrors)

def checkRawOnce (now : Nat) (v given : Value) :
    Traced (Except (List Issue) (Except Options.Fault (Except Text Bool))) :=
  match Message.decode v with
  | .bad issues => return .error issues
  | .good m => do return .ok (← checkOnce now m given)

end TokenIntake
