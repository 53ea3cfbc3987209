import TokenIntake.Command.Run
import TokenIntake.Message.Decode
import TokenIntake.Settings.Source

namespace TokenIntake.Command

def unusableCode : Nat := 2

def unusable (message : Text) : Stop := .error message unusableCode

namespace MessageFile

def faultStop (source : Text) (f : DataFile.Fault) : Stop :=
  match f with
  | .files .. | .encoding _ => unusable ("Cannot read " ++ source ++ ": " ++ f.message)
  | .json (.malformed ..) => unusable ("Invalid JSON in " ++ source ++ ": " ++ f.message)
  | .yaml .malformed => unusable ("Invalid YAML in " ++ source ++ ": " ++ f.message)
  | .json _ | .yaml _ => .failure f.message

def readData (fs : Files) (source : Text) : Except Stop Mapping := do
  let path := Path.ofText source
  if !(← (fs.exists? path).mapError fun f => Stop.failure (f.message path.text)) then
    .error (unusable ("File not found: " ++ source))
  else
    let bytes ← (DataFile.contents fs path).mapError (faultStop source)
    let data ← (if DataFile.isYaml path then DataFile.ofYaml bytes else DataFile.ofJson bytes).mapError
      (faultStop source)
    match data.entries? with
    | some entries => .ok entries
    | none => .error (unusable (source ++ " must contain a single message object"))

def decode (source : Text) (data : Mapping) : Except Stop Message :=
  match Message.decode (.map data) with
  | .good m => .ok m
  | .bad issues => .error (unusable (Issue.report source issues))

def read (fs : Files) (source : Text) : Except Stop Message := do
  decode source (← readData fs source)

end MessageFile

end TokenIntake.Command
