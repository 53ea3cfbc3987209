import TokenIntake.Check.Options
import TokenIntake.Command.Run
import TokenIntake.Settings.Manager

namespace TokenIntake.Command

structure Session where
  file : Option Text
  profile : Option Text
  format : Text
  verbosity : Int
  settings : Mapping
  manager : Option Settings.Manager

namespace Session

def new (file profile : Option Text) : Session := ⟨file, profile, "table", 0, [], none⟩

/-- How much is logged: the more verbose, the more, and everything for a verbosity below zero. -/
def threshold (verbosity : Int) : Log.Level :=
  if verbosity = 0 then .warning else if verbosity = 1 then .info else .debug

def load (s : Session) (w : Settings.World) : Traced (Session × Except Settings.Fault Unit) := do
  let (manager, result) ← (Settings.Manager.new s.file s.profile).load w
  let s := { s with manager := some manager }
  match result with
  | .error f => return (s, .error f)
  | .ok settings =>
    Traced.log "tokenmsg-cli" .debug ("Configuration sources: " ++ Text.join ", " manager.sources)
    return ({ s with settings := settings }, .ok ())

/-- The value under a dotted key. Settings that could not be loaded are tried again. -/
def get? (s : Session) (w : Settings.World) (key : Text) : Traced (Except Settings.Fault (Option Value)) :=
  match s.manager with
  | none => return .ok none
  | some manager => do
    let (_, result) ← manager.get? w key
    return result

/-- Options for an engine. Any verbosity goes before the level that is set. -/
def engineOptions (s : Session) (configured : Option Value) : Except Mapping.PairsFault Mapping :=
  (Options.ofGiven (configured.getD .null)).map fun options =>
    if s.verbosity = 0 then options
    else Mapping.put options (.text "log_level") (.text (if 2 ≤ s.verbosity then "DEBUG" else "INFO"))

def render (s : Session) (format : Option Text) (v : Value) : Except Render.Fault Text :=
  let label := match format with
    | some (c :: t) => c :: t
    | _ => s.format
  Render.renderAs label Render.defaultKeyWidth v

def present (s : Session) (format : Option Text) (v : Value) : Run Unit := do
  match s.render format v with
  | .ok t => Run.print t
  | .error e => Run.stop (.failure e.message)

end Session

end TokenIntake.Command
