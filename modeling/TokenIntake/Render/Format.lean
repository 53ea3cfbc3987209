import TokenIntake.Json.Indented
import TokenIntake.Render.Table
import TokenIntake.Yaml.Writer

namespace TokenIntake

inductive Format where
  | table
  | json
  | yaml
deriving DecidableEq

namespace Format

def all : List Format := [table, json, yaml]

def label : Format → Text
  | .table => "table"
  | .json => "json"
  | .yaml => "yaml"

def ofLabel? (label : Text) : Option Format := all.find? fun f => f.label = label

end Format

namespace Render

def defaultKeyWidth : Int := 20

def render (format : Format) (keyWidth : Int) (v : Value) : Except Fault Text :=
  match format with
  | .table => table keyWidth v
  | .json => (Json.print v).mapError .unwritable
  | .yaml => (Yaml.print v).mapError .unwritable

def renderAs (label : Text) (keyWidth : Int) (v : Value) : Except Fault Text :=
  match Format.ofLabel? label with
  | some format => render format keyWidth v
  | none => .error (.unsupportedFormat label)

end Render

end TokenIntake
