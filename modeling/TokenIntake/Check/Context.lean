import TokenIntake.Message.Basic
import TokenIntake.Rejection
import TokenIntake.Value.Assoc
import TokenIntake.Value.Basic

namespace TokenIntake

structure Context where
  message : Option Message
  errors : List Text
  warnings : List Text
  results : List (Text × Bool)
  error : Option Text
  errorKind : Option Text
  timestamp : Option Nat
  validatorId : Option Text
deriving DecidableEq

namespace Context

def fresh (m : Option Message) : Context := ⟨m, [], [], [], none, none, none, none⟩

def addError (c : Context) (rule message : Text) (kind : Option Text) : Context :=
  { c with
    errors := c.errors ++ [rule ++ ": " ++ message]
    results := Assoc.put id c.results rule false
    error := some (c.error.getD message)
    errorKind := if c.error.isSome then c.errorKind else kind }

def addWarning (c : Context) (rule message : Text) : Context :=
  { c with warnings := c.warnings ++ [rule ++ ": " ++ message] }

def markPassed (c : Context) (rule : Text) : Context :=
  { c with results := Assoc.put id c.results rule true }

def hasErrors (c : Context) : Bool := !c.errors.isEmpty

@[simp] theorem hasErrors_addError (c : Context) (rule message : Text) (kind : Option Text) :
    (c.addError rule message kind).hasErrors = true := by simp [addError, hasErrors]

/-- What a context with errors raises: its rejection again, or its bare message where the first error
has no kind. -/
inductive Raised where
  | rejection (r : Rejection)
  | unknownKind (e : Rejection.UnknownKind)
  | error (message : Text)
deriving DecidableEq

def raise (c : Context) : Except Raised Unit :=
  match c.errorKind with
  | some kind =>
    match Rejection.ofLabel kind c.error with
    | .ok r => .error (.rejection r)
    | .error e => .error (.unknownKind e)
  | none => if c.hasErrors then .error (.error (c.error.getD [])) else .ok ()

end Context

inductive Outcome where
  | approved
  | rejected
deriving DecidableEq

def Outcome.label : Outcome → Text
  | .approved => "approved"
  | .rejected => "rejected"

structure Summary where
  name : Option Text
  symbol : Option Text
  decimals : Option Nat
  cap : Option Text
  mintingPolicy : Option MintingPolicy
  error : Option Text
  errorKind : Option Text
  errors : List Text
  warnings : List Text
  rulesPassed : Nat
  rulesTotal : Nat
  outcome : Outcome
deriving DecidableEq

def Context.summary (c : Context) : Summary where
  name := c.message.map Message.name
  symbol := c.message.map Message.symbol
  decimals := c.message.map fun m => m.decimals.val
  cap := (c.message.bind Message.cap).map Uint128.text
  mintingPolicy := c.message.map Message.mintingPolicy
  error := c.error
  errorKind := c.errorKind
  errors := c.errors
  warnings := c.warnings
  rulesPassed := (c.results.filter Prod.snd).length
  rulesTotal := c.results.length
  outcome := if c.hasErrors then .rejected else .approved

namespace Summary

def textOrNull : Option Text → Value
  | some t => .text t
  | none => .null

def toValue (s : Summary) : Value :=
  .map [
    (.text "name", textOrNull s.name),
    (.text "symbol", textOrNull s.symbol),
    (.text "decimals", match s.decimals with | some n => .int n | none => .null),
    (.text "cap", textOrNull s.cap),
    (.text "minting_policy", textOrNull (s.mintingPolicy.map MintingPolicy.label)),
    (.text "error", textOrNull s.error),
    (.text "error_kind", textOrNull s.errorKind),
    (.text "errors", .list (s.errors.map .text)),
    (.text "warnings", .list (s.warnings.map .text)),
    (.text "rules_passed", .int s.rulesPassed),
    (.text "rules_total", .int s.rulesTotal),
    (.text "validation_result", .text s.outcome.label)]

end Summary

end TokenIntake
