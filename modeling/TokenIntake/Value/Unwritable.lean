import TokenIntake.Number.Numeral
import TokenIntake.Value.Depth

namespace TokenIntake

inductive Unwritable where
  | key (kind : Text)
  | circular
  | longInteger
  | tooDeep (during : Text)
deriving DecidableEq

def Unwritable.message : Unwritable → Text
  | .key kind => "keys must be str, int, float, bool or None, not " ++ kind
  | .circular => "Circular reference detected"
  | .longInteger =>
    "Exceeds the limit (4300 digits) for integer string conversion; "
      ++ "use sys.set_int_max_str_digits() to increase the limit"
  | .tooDeep during => tooDeepMessage during

def Scalar.isLong : Scalar → Bool
  | .int i => Binary64.pow10 maxIntDigits ≤ i.natAbs
  | _ => false

end TokenIntake
