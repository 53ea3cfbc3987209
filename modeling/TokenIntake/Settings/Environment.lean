import TokenIntake.Log
import TokenIntake.Number.Numeral
import TokenIntake.Value.Mapping

namespace TokenIntake

abbrev Environment := List (Text × Text)

namespace Environment

def set (env : Environment) (name value : Text) : Environment := Assoc.put id env name value

def unset (env : Environment) (name : Text) : Environment := Assoc.erase id env name

def nameStart : Text := "TOKENMSG_"

def parseValue (t : Text) : Scalar :=
  let word := t.lower
  if word = ("true" : Text) ∨ word = ("yes" : Text) then .bool true
  else if word = ("false" : Text) ∨ word = ("no" : Text) then .bool false
  else match t.int? with
    | some i => .int i
    | none =>
      match t.float? with
      | some x => .float x
      | none => .text t

inductive Role where
  | foreign
  | incomplete
  | option (part option : Text)
deriving DecidableEq

def role (name : Text) : Role :=
  if nameStart.isPrefixOf name then
    let (part, option) := Text.cut (Text.lower (name.drop nameStart.length)) '_'
    if part.isEmpty || option.isEmpty then .incomplete else .option part option
  else .foreign

def bind (m : Mapping) (part option : Text) (v : Scalar) : Mapping :=
  let options := match Mapping.field? m part with
    | some (.map options) => options
    | _ => []
  Mapping.put m (.text part) (.map (Mapping.put options (.text option) (.scalar v)))

def layer : Environment → Mapping → Traced Mapping
  | [], m => return m
  | (name, value) :: rest, m =>
    match role name with
    | .foreign => layer rest m
    | .incomplete => do
      Traced.log "tokenmsg-cli.config" .debug ("Ignoring environment variable " ++ name)
      layer rest m
    | .option part option => layer rest (bind m part option (parseValue value))

end Environment

end TokenIntake
