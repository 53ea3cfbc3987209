import TokenIntake.Log
import TokenIntake.Text.LowerCase
import TokenIntake.Value.Display
import TokenIntake.Value.Pairs

namespace TokenIntake

namespace Options

inductive Fault where
  | pairs (fault : Mapping.PairsFault)
  | validatorId
  | logLevel (shown : Text)
  | unwritable (u : Unwritable)
deriving DecidableEq

def Fault.message : Fault → Text
  | .pairs fault => fault.message
  | .validatorId => "validator_id must be a non-empty string"
  | .logLevel shown => "Unknown log level: " ++ shown
  | .unwritable u => u.message

def ofGiven (given : Value) : Except Mapping.PairsFault Mapping :=
  if given.truthy then Mapping.ofValue given else .ok []

/-- The entries of `defaults` that `m` has no value for, behind those of `m`. -/
def fill (m defaults : Mapping) : Mapping :=
  defaults.foldl (fun m (k, v) => if m.contains k then m else m ++ [(k, v)]) m

def defaults : Mapping :=
  [(.text "validator_id", .text "tokenmsg_validator_v1"), (.text "log_level", .null)]

def validatorId? (m : Mapping) : Option Text :=
  match m.field? "validator_id" with
  | some (.text (c :: t)) => some (c :: t)
  | _ => none

/-- The threshold that a level asks for. Nothing is asked for by an empty level. -/
def threshold? (level : Value) : Except Fault (Option (Option Log.Level)) :=
  if level.truthy then do
    let shown ← level.shown.mapError .unwritable
    match Log.threshold? shown.upperAscii with
    | some least => .ok (some least)
    | none => .error (.logLevel shown)
  else .ok none

end Options

end TokenIntake
