import TokenIntake.Files
import TokenIntake.Json.Reader
import TokenIntake.Yaml.Reader

namespace TokenIntake

namespace DataFile

inductive Fault where
  | files (path : Text) (f : Files.Fault)
  | encoding (f : Utf8.Fault)
  | json (e : Json.Error)
  | yaml (f : Yaml.Fault)
deriving DecidableEq

def Fault.message : Fault → Text
  | .files path f => f.message path
  | .encoding f => f.message
  | .json e => e.message
  | .yaml f => f.message

def isYaml (p : Path) : Bool := p.extension = (".yml" : Text) || p.extension = (".yaml" : Text)

def isJson (p : Path) : Bool := p.extension = (".json" : Text)

def contents (fs : Files) (p : Path) : Except Fault (List UInt8) := (fs.read p).mapError (.files p.text)

def Fault.ofYaml : Yaml.Fault → Fault
  | .encoding f => .encoding f
  | f => .yaml f

def ofYaml (bytes : List UInt8) : Except Fault Value := (Yaml.read (.ofBytes bytes)).mapError .ofYaml

def ofJson (bytes : List UInt8) : Except Fault Value :=
  match Utf8.decode bytes with
  | .error f => .error (.encoding f)
  | .ok t => (Json.parse (Text.unixLines t)).mapError .json

end DataFile

end TokenIntake
