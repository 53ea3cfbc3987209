import TokenIntake.Text.Utf8
import TokenIntake.Value.Depth
import TokenIntake.Yaml.Scalar

namespace TokenIntake.Yaml

inductive Fault where
  | malformed
  | encoding (f : Utf8.Fault)
  | character (code : Nat)
  | unreadable (u : Unreadable)
  | tooDeep
deriving DecidableEq

def Fault.message : Fault → Text
  | .malformed => "not a single YAML document"
  | .encoding f => f.message
  | .character code =>
    if code < 0x80000000 then "chr() arg not in range(0x110000)" else "Python int too large to convert to C int"
  | .unreadable u => u.message
  | .tooDeep => tooDeepMessage []

end TokenIntake.Yaml
