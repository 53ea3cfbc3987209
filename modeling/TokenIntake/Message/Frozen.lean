import TokenIntake.Message.Wire

namespace TokenIntake

namespace Message

/-- Why an attribute cannot be assigned. There is always a reason: no object of a message takes an assignment. -/
inductive AssignFault where
  | frozen (name : Text)
  | noAttribute (owner name : Text)
  | outOfRange
deriving DecidableEq

def AssignFault.message : AssignFault → Text
  | .frozen _ => (Issue.Complaint.frozen.message? .value).getD []
  | .noAttribute owner name => "'" ++ owner ++ "' object has no attribute '" ++ name ++ "'"
  | .outOfRange => "list index out of range"

def shapeOf? (field : Text) : Option Shape :=
  let shapes : List (Text × Shape) := [("mint", .minter), ("initial_balances", .allocation), ("marketing", .marketing),
    ("logo", .logo), ("embedded", .image)]
  shapes.lookup field

/-- What stands in the way of an assignment to a name of the object at the end of a path through the wire form. -/
def assignFault (name : Text) : Shape → Value → List Issue.Step → AssignFault
  | _, .map _, [] => .frozen name
  | shape, .map es, .field field :: rest =>
    match Mapping.field? es field with
    | some inner => assignFault name ((shapeOf? field).getD shape) inner rest
    | none => .noAttribute shape.label field
  | shape, .list xs, .index i :: rest =>
    match xs[i]? with
    | some inner => assignFault name shape inner rest
    | none => .outOfRange
  | _, part, [] => .noAttribute part.kindName name
  | _, part, step :: _ => .noAttribute part.kindName step.text

/-- The message behind an attempt to assign, and why that failed. -/
def assign (m : Message) (path : List Issue.Step) (name : Text) : Message × AssignFault :=
  (m, assignFault name .message m.wire path)

end Message

end TokenIntake
