import TokenIntake.Check.Engine
import TokenIntake.Message.Account

namespace TokenIntake

inductive Response where
  | success (summary : Summary) (timestamp : Nat) (validatorId : Text)
  | error (message validatorId : Text)
deriving DecidableEq

namespace Request

inductive Fault where
  | notMapping (kind : Text)
  | broken (message : Text)
deriving DecidableEq

def Fault.message : Fault → Text
  | .notMapping kind => "'" ++ kind ++ "' object has no attribute 'get'"
  | .broken message => message

def countFailure (n : Counters) : Counters := { n with failed := n.failed + 1, total := n.total + 1 }

def refuse (e : Engine) (message : Text) : Engine × Except Fault Response :=
  ({ e with counters := countFailure e.counters }, .ok (.error message e.validatorId))

def issuesText (fields : Mapping) (issues : List Issue) : Text :=
  "Invalid instantiate message: " ++ Issue.accounts .message (.map fields) issues

end Request

open Request in
def Engine.process (e : Engine) (now : Nat) (request : Value) : Traced (Engine × Except Fault Response) := do
  Traced.log logger .debug "Processing validation request"
  match request.entries? with
  | some es =>
    match (Mapping.field? es "msg").bind Value.entries? with
    | some fields =>
      match Message.decode (.map fields) with
      | .bad issues =>
        Traced.log logger .warning
          ("Failed to decode instantiate message: " ++ Text.ofNat issues.length ++ " errors")
        return refuse e (issuesText fields issues)
      | .good m =>
        let (e, result) ← e.check now m
        return (e, match result with
          | .error message => .error (.broken message)
          | .ok c => .ok (.success c.summary now e.validatorId))
    | none => return refuse e "No instantiate message provided in request"
  | none => return (e, .error (.notMapping request.kindName))

namespace Response

def toValue : Response → Value
  | .success summary timestamp validatorId =>
    .map [(.text "status", .text "success"), (.text "validation_result", summary.toValue),
      (.text "timestamp", .int timestamp), (.text "validator_id", .text validatorId)]
  | .error message validatorId =>
    .map [(.text "status", .text "error"), (.text "error", .text message),
      (.text "validator_id", .text validatorId)]

end Response

end TokenIntake
