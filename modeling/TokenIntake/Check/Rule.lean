import TokenIntake.Check.Context
import TokenIntake.Log

namespace TokenIntake

structure Rule where
  name : Text
  description : Text
  enabled : Bool
  /-- What else has to be so for the rule to be run. -/
  isApplicable : Context → Bool := fun c => c.message.isSome
  check : Context → Traced (Except Text (Context × Bool))

namespace Rule

def logger (name : Text) : Text := "validator.rules." ++ name

def applies (r : Rule) (c : Context) : Bool := r.enabled && r.isApplicable c

def reject (name : Text) (c : Context) (r : Rejection) : Traced Context := do
  Traced.log (logger name) .debug ("Rule " ++ name ++ " rejected message: " ++ r.message)
  return c.addError name r.message (some r.kind.label)

def ofMessage (name description : Text) (check : Message → Context → Traced (Context × Bool)) : Rule where
  name := name
  description := description
  enabled := true
  check c :=
    match c.message with
    | some m => do return .ok (← check m c)
    | none => return .ok (c, true)

end Rule

end TokenIntake
