import TokenIntake.Check.Engine
import TokenIntake.Command.MessageFile
import TokenIntake.Command.Session
import TokenIntake.Message.Schema

namespace TokenIntake.Command

namespace Instantiate

def path : Text := "tokenmsg instantiate"

def spec : Spec where
  path := path
  paragraphs := ["Instantiation message commands.", "Validate messages and inspect their minting configuration."]
  switches := []
  argument := none
  subcommands := [
    ("cap", "Show the supply cap and minting policy of a message."),
    ("schema", "Print the JSON schema of the instantiation message."),
    ("validate", "Validate one or more instantiation messages.")]
  standalone := false

def validateSpec : Spec where
  path := path ++ " validate"
  paragraphs := [
    "Validate one or more instantiation messages.",
    "Each file holds a JSON or YAML message. Checks run in order (name, symbol, decimals) and only the first "
      ++ "failure is reported. Exits with status 1 if any message is rejected.",
    "Examples:     tokenmsg instantiate validate msg.json     tokenmsg -o json instantiate validate a.json b.yml"]
  switches := []
  argument := some ⟨"MSG_FILES", true⟩
  subcommands := []
  standalone := false

def capSpec : Spec where
  path := path ++ " cap"
  paragraphs := [
    "Show the supply cap and minting policy of a message.",
    "The cap is reported as \"-\" both when minting is disabled and when the minter is uncapped; the minting "
      ++ "policy tells the two apart."]
  switches := []
  argument := some ⟨"MSG_FILE", false⟩
  subcommands := []
  standalone := false

def schemaSpec : Spec where
  path := path ++ " schema"
  paragraphs := ["Print the JSON schema of the instantiation message."]
  switches := [
    ⟨"--mode", none, .choice ["validation", "serialization"], "Schema for decoding or for encoding"⟩,
    ⟨"--output-file", none, .file, "Write the schema to a file instead of stdout"⟩]
  argument := none
  subcommands := []
  standalone := false

def engine (s : Session) (w : Settings.World) : Run Engine := do
  match ← Run.own (s.get? w "validator") with
  | .error f => Run.stop (.failure f.message)
  | .ok configured =>
    match s.engineOptions configured with
    | .error f => Run.stop (.failure f.message)
    | .ok options =>
      match ← Run.checks (Engine.buildDefault (.map options)) with
      | .ok e => return e
      | .error (.pairs f) => Run.stop (.failure f.message)
      | .error (.unwritable u) => Run.stop (.failure u.message)
      | .error f => Run.stop (.error ("Invalid validator configuration: " ++ f.message) 1)

abbrev Result := Text × Context

def checkFiles (e : Engine) (now : Nat) : List Text → Run (List Result)
  | [] => return []
  | file :: rest => do
    let m ← (MessageFile.read (← get).files file : Except Stop Message)
    let (e, result) ← Run.checks (e.check now m)
    match result with
    | .error message => Run.stop (.failure message)
    | .ok c => return (file, c) :: (← checkFiles e now rest)

def row (r : Result) : Value :=
  .map [
    (.text "file", .text (Path.ofText r.1).name),
    (.text "symbol", Summary.textOrNull (r.2.message.map Message.symbol)),
    (.text "result", .text r.2.summary.outcome.label),
    (.text "error", Summary.textOrNull r.2.error)]

def report : List Result → Value
  | [r] => r.2.summary.toValue
  | rs => .list (rs.map row)

def rejectedCode : Nat := 1

def verdict (results : List Result) : Run Unit := do
  let rejected := results.filter fun r => r.2.hasErrors
  if rejected.isEmpty then
    Run.printError (Text.ofNat results.length ++ " instantiate message(s) valid")
  else
    rejected.forM fun r => Run.printError ("Rejected " ++ r.1 ++ ": " ++ r.2.error.getD [])
    Run.stop (.exit rejectedCode)

def validate (s : Session) (w : Settings.World) (now : Nat) (files : List Text) : Run Unit := do
  let e ← engine s w
  let results ← checkFiles e now files
  s.present none (report results)
  verdict results

def capReport (m : Message) : Value :=
  .map [
    (.text "minting_policy", .text m.mintingPolicy.label),
    (.text "minter", Summary.textOrNull (m.mint.map Minter.minter)),
    (.text "cap", Summary.textOrNull (m.cap.map Uint128.text))]

def cap (s : Session) (file : Text) : Run Unit := do
  let m ← (MessageFile.read (← get).files file : Except Stop Message)
  s.present none (capReport m)

def writeText (p : Path) (t : Text) : Run Unit := do
  let fs := (← get).files
  match fs.makeDirectories p.parent with
  | .error (at?, f) => Run.stop (.failure (f.message at?.text))
  | .ok fs =>
    match fs.write p t.utf8 with
    | .error f => Run.stop (.failure (f.message p.text))
    | .ok fs => modify fun t => { t with files := fs }

def schema (s : Session) (file : Option Text) : Run Unit :=
  match file with
  | some (c :: t) => do
    let p := Path.ofText (c :: t)
    match Json.print Schema.message with
    | .error e => Run.stop (.failure e.message)
    | .ok document =>
      writeText p document
      Run.log .info ("Schema written to " ++ p.text)
      Run.printError ("Schema written to " ++ p.text)
  | _ => s.present (some Format.json.label) Schema.message

end Instantiate

end TokenIntake.Command
