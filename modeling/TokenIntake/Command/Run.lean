import TokenIntake.Command.Help
import TokenIntake.Command.Terminal

namespace TokenIntake.Command

inductive Stop where
  | exit (code : Nat)
  | misuse (spec : Spec) (fault : Fault)
  | error (message : Text) (code : Nat)
  | failure (message : Text)
deriving DecidableEq

abbrev Run (α : Type) := ExceptT Stop (StateM Terminal) α

namespace Run

def stop {α : Type} (s : Stop) : Run α := throw s

def print (line : Text) : Run Unit := do
  match (← get).print line with
  | .ok t => set t
  | .error message => stop (.failure message)

def printError (line : Text) : Run Unit := modify (·.printError line)

def own {α : Type} (x : Traced α) : Run α := do
  modify (·.showOwn x.events)
  return x.value

def checks {α : Type} (x : Traced α) : Run α := do
  modify (·.showChecks x.events)
  return x.value

def log (level : Log.Level) (message : Text) : Run Unit := own (Traced.log "tokenmsg-cli" level message)

end Run

def failureLines (message : Text) (detailed : Bool) : List Text :=
  ["Error: " ++ message] ++ (if detailed then ([] : List Text) else ["Use -vv for detailed error information."])

inductive Ending (α : Type) where
  | finished (result : α)
  | left (code : Nat)
  | interrupted
  | failed (message : Text)
deriving DecidableEq

def interruptedCode : Nat := 130

def Ending.conclude {α : Type} (detailed : Bool) : Ending α → Terminal → Nat × Terminal
  | .finished _, t => (0, t)
  | .left code, t => (code, t)
  | .interrupted, t => (interruptedCode, t.printError "\nOperation cancelled by user.")
  | .failed message, t => (1, (failureLines message detailed).foldl Terminal.printError t)

def Stop.conclude : Stop → Terminal → Nat × Terminal
  | .exit code, t => (code, t)
  | .misuse spec fault, t =>
    let t := if fault.showsUsage then t.printError (usageNote spec) else t
    (2, t.printError ("Error: " ++ fault.message))
  | .error message code, t => (code, t.printError ("Error: " ++ message))
  | .failure message, t => (Ending.failed message : Ending Unit).conclude false t

def conclude (run : Run Unit) (t : Terminal) : Nat × Terminal :=
  match run.run.run t with
  | (.ok (), t) => (0, t)
  | (.error stop, t) => stop.conclude t

end TokenIntake.Command
