import TokenIntake.Command.Inspect
import TokenIntake.Command.Instantiate

namespace TokenIntake.Command

def version : Text := "0.1.0"

def rootSpec : Spec where
  path := "tokenmsg"
  paragraphs := [
    "Token instantiation message tools.",
    "Check fungible-token instantiation messages (name, symbol, decimals) before submitting them, and inspect "
      ++ "their minting configuration.",
    "Examples:     tokenmsg instantiate validate msg.json     tokenmsg -o json instantiate cap msg.yml     "
      ++ "tokenmsg instantiate schema     tokenmsg config show"]
  switches := [
    ⟨"--config-file", some 'c', .file, "Path to configuration file"⟩,
    ⟨"--profile", none, .choice (Profile.all.map Profile.label), "Configuration profile"⟩,
    ⟨"--output-format", some 'o', .choice (Format.all.map Format.label),
      "Output format (defaults to cli.output_format)"⟩,
    ⟨"--verbose", some 'v', .nothing, "Increase verbosity (-v for INFO, -vv for DEBUG)"⟩,
    ⟨"--version", none, .nothing, "Show version information"⟩]
  argument := none
  subcommands := [
    ("config", "Configuration management commands."),
    ("instantiate", "Instantiation message commands.")]
  standalone := true

/-- Takes the arguments of a command apart. A call for help is answered before anything else is checked,
and so is a group called with nothing. -/
def parse (spec : Spec) (args : List Text) : Run Line := do
  if args.isEmpty && spec.isGroup && !spec.standalone then
    Run.printError (helpPage spec)
    Run.stop (.exit 2)
  match takeApart spec args.length args with
  | .error fault => Run.stop (.misuse spec fault)
  | .ok line =>
    if line.has helpSwitch.long then
      Run.print (helpPage spec)
      Run.stop (.exit 0)
    let files := (← get).files
    match checkLine spec (fun p => if p.isEmpty then none else files.flaw? (Path.ofText p)) line with
    | .error (.badPath message) => Run.stop (.failure message)
    | .error fault => Run.stop (.misuse spec fault)
    | .ok () => return line

/-- The subcommand that comes first. What begins with a dash may still be an option, and then gets the
answer of one. -/
def resolve (spec : Spec) : List Text → Run (Text × List Text)
  | [] => Run.stop (.misuse spec .missingCommand)
  | name :: args => do
    if spec.subcommands.any fun s => s.1 = name then return (name, args)
    else
      if Text.startsWith name "-" then discard (parse spec (name :: args))
      Run.stop (.misuse spec (.noSuchCommand name (Text.alike name (spec.subcommands.map Prod.fst))))

inductive VerbosityFault where
  | notInteger
  | infinite
deriving DecidableEq

/-- An integer, or what stands for one: a truth value, a number cut off at its point, text, or bytes. -/
def verbosityOf : Value → Except VerbosityFault Int
  | .scalar (.int i) => .ok i
  | .scalar (.bool b) => .ok (if b then 1 else 0)
  | .scalar (.float (.infinite _)) => .error .infinite
  | .scalar (.float x) => match x.truncate? with
    | some i => .ok i
    | none => .error .notInteger
  | .scalar (.text t) => match t.int? with
    | some i => .ok i
    | none => .error .notInteger
  | .scalar (.bytes bs) => match if bs.all (· < 0x80) then (Text.ofBytes bs).int? else none with
    | some i => .ok i
    | none => .error .notInteger
  | _ => .error .notInteger

def refuseSetting {α : Type} (hint complaint : Text) (v : Value) : Run α :=
  match v.shown with
  | .ok t => Run.stop (.misuse rootSpec (.badValue hint (complaint ++ t)))
  | .error u => Run.stop (.failure u.message)

/-- The verbosity that the settings ask for; what is empty asks for none. -/
def configuredVerbosity (configured : Option Value) : Run Int :=
  let v := configured.getD .null
  let v := if v.truthy then v else .int 0
  match verbosityOf v with
  | .ok i => return i
  | .error .infinite => Run.stop (.failure "cannot convert float infinity to integer")
  | .error .notInteger => refuseSetting "cli.verbose" "Verbosity in configuration must be an integer: " v

def chosenFormat (asked : Option Text) (configured : Option Value) : Run Text :=
  let v : Value := match asked with
    | some t => .text t
    | none => configured.getD (.text Format.table.label)
  match v with
  | .text t =>
    if (Format.ofLabel? t).isSome then return t else unsupported v
  | v => unsupported v
where
  unsupported (v : Value) : Run Text :=
    refuseSetting "cli.output_format" "Unsupported output format in configuration: " v

def setVerbosity (verbosity : Int) : Run Unit := modify (·.setThresholds (Session.threshold verbosity))

def lookUp (s : Session) (w : Settings.World) (key : Text) : Run (Option Value) := do
  match ← Run.own (s.get? w key) with
  | .ok found => return found
  | .error f => Run.stop (.failure f.message)

def openSession (w : Settings.World) (line : Line) : Run Session := do
  if line.has "--version" then
    Run.print ("tokenmsg v" ++ version)
    Run.stop (.exit 0)
  let verbosity : Int := line.count "--verbose"
  setVerbosity verbosity
  let s := { Session.new (line.value? "--config-file") (line.value? "--profile") with verbosity := verbosity }
  let (s, result) ← Run.own (s.load w)
  match result with
  | .error (.refused r) => Run.stop (.error r.message 1)
  | .error f => Run.stop (.failure f.message)
  | .ok () =>
    let s ← if verbosity = 0 then do
        let verbosity ← configuredVerbosity (← lookUp s w "cli.verbose")
        if verbosity != 0 then setVerbosity verbosity
        pure { s with verbosity := verbosity }
      else pure s
    let format ← chosenFormat (line.value? "--output-format") (← lookUp s w "cli.output_format")
    Run.log .debug "CLI initialized with context"
    return { s with format := format }

inductive Call where
  | help
  | validate (files : List Text)
  | cap (file : Text)
  | schema (file : Option Text)
  | «show» (key : Option Text) (sources : Bool)
  | profiles
deriving DecidableEq

def readInstantiate (args : List Text) : Run Call := do
  let line ← parse Instantiate.spec args
  let (name, args) ← resolve Instantiate.spec line.rest
  Run.log .debug "Instantiate command group invoked"
  if name = ("validate" : Text) then
    let line ← parse Instantiate.validateSpec args
    return .validate line.rest
  else if name = ("cap" : Text) then
    let line ← parse Instantiate.capSpec args
    return .cap (line.rest.headD [])
  else
    let line ← parse Instantiate.schemaSpec args
    return .schema (line.value? "--output-file")

def readInspect (args : List Text) : Run Call := do
  let line ← parse Inspect.spec args
  let (name, args) ← resolve Inspect.spec line.rest
  Run.log .debug "Config command group invoked"
  if name = ("show" : Text) then
    let line ← parse Inspect.showSpec args
    return .show (line.value? "--key") (line.has "--sources")
  else
    discard (parse Inspect.profilesSpec args)
    return .profiles

def select (w : Settings.World) (args : List Text) : Run (Session × Call) := do
  let line ← parse rootSpec args
  let sub ← if line.rest.isEmpty then pure none else some <$> resolve rootSpec line.rest
  let s ← openSession w line
  match sub with
  | none => return (s, .help)
  | some (name, args) =>
    return (s, ← if name = ("config" : Text) then readInspect args else readInstantiate args)

def Call.perform (s : Session) (w : Settings.World) (now : Nat) : Call → Run Unit
  | .help => Run.print (helpPage rootSpec)
  | .validate files => Instantiate.validate s w now files
  | .cap file => Instantiate.cap s file
  | .schema file => Instantiate.schema s file
  | .show key sources => Inspect.show s w key sources
  | .profiles => Inspect.profiles s

def run (w : Settings.World) (now : Nat) (args : List Text) : Run Unit := do
  let (s, call) ← select w args
  call.perform s w now

def program (w : Settings.World) (now : Nat) (args : List Text) : Nat × Terminal :=
  conclude (run w now args) (Terminal.new w.files)

end TokenIntake.Command
