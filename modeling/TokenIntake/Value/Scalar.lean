import TokenIntake.Number.Binary64
import TokenIntake.Text.Basic
import TokenIntake.Value.Timestamp

namespace TokenIntake

inductive Scalar where
  | null
  | bool (b : Bool)
  | int (i : Int)
  | float (x : Binary64)
  | text (t : Text)
  | bytes (bs : List UInt8)
  | time (t : Timestamp)
deriving DecidableEq

namespace Scalar

/-- What is equal as a key becomes the same: truth values and whole numbers are integers, and instants
have no offset. -/
def canon : Scalar → Scalar
  | .bool b => .int (if b then 1 else 0)
  | .float x => match x.toInt? with
    | some i => .int i
    | none => .float x
  | .time t => .time t.utc
  | s => s

end Scalar

end TokenIntake
