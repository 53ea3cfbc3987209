import TokenIntake.Value.Unwritable

namespace TokenIntake.Render

inductive Fault where
  | unsupportedFormat (label : Text)
  | notRow (kind : Text)
  | negativeWidth
  | widthOverflow
  | outOfMemory
  | unwritable (u : Unwritable)
deriving DecidableEq

def Fault.message : Fault → Text
  | .unsupportedFormat label => "Unsupported output format: " ++ label
  | .notRow kind => "'" ++ kind ++ "' object has no attribute 'get'"
  | .negativeWidth => "Sign not allowed in string format specifier"
  | .widthOverflow => "Too many decimal digits in format string"
  | .outOfMemory => []
  | .unwritable u => u.message

end TokenIntake.Render
