import TokenIntake.Message.Issue
import TokenIntake.Text.Utf8
import TokenIntake.Value.Display
import TokenIntake.Value.Sharing

namespace TokenIntake

namespace Text

def fitting : Nat → Text → Text
  | _, [] => []
  | size, c :: rest => if c.utf8.length ≤ size then c :: fitting (size - c.utf8.length) rest else []

/-- A text that takes more bytes loses its middle. -/
def shortened (size : Nat) (t : Text) : Text :=
  if t.utf8Size ≤ size then t
  else
    let half := (size + 1) / 2
    fitting half t ++ "..." ++ (fitting (half - 1) t.reverse).reverse

end Text

namespace Value

def typeName (v : Value) : Text := (v.kindName.splitOn '.').getLastD []

/-- The value as it is quoted where nothing may fail. -/
def quotedOrNamed (v : Value) : Text :=
  match v.read displayable 0 with
  | .ok () => v.quoted
  | .error _ => "<unprintable " ++ v.typeName ++ " object>"

/-- The innermost part on the way to a place; where a field is missing, what misses it. -/
def inputAt (v : Value) : List Issue.Step → Value
  | [] => v
  | .field name :: rest =>
    match v.entries?.bind fun es => Mapping.field? es name with
    | some inner => inputAt inner rest
    | none => v
  | .index i :: rest =>
    match v.items?.bind fun xs => xs[i]? with
    | some inner => inputAt inner rest
    | none => v

end Value

namespace Issue

def maxInput : Nat := 50

def account (v : Value) (i : Issue) : Text :=
  let input := v.inputAt i.place
  Text.join "." (i.place.map Step.text) ++ "\n  " ++ (i.complaint.message? .value).getD [] ++ " [type="
    ++ i.complaint.label ++ ", input_value=" ++ input.quotedOrNamed.shortened maxInput ++ ", input_type="
    ++ input.typeName ++ "]"

/-- All issues of a value of a shape. The links to explanations, which can be switched off, are left out. -/
def accounts (shape : Shape) (v : Value) (issues : List Issue) : Text :=
  Text.ofNat issues.length ++ " validation error" ++ (if issues.length = 1 then ([] : Text) else "s") ++ " for "
    ++ shape.label ++ "\n" ++ Text.join "\n" (issues.map (account v))

end Issue

end TokenIntake
