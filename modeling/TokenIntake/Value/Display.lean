import TokenIntake.Number.Notation
import TokenIntake.Text.Quoted
import TokenIntake.Value.Reading
import TokenIntake.Value.Unwritable

namespace TokenIntake

def Scalar.quoted : Scalar → Text
  | .null => "None"
  | .bool b => if b then "True" else "False"
  | .int i => Text.ofInt i
  | .float x => x.text
  | .text t => t.quoted
  | .bytes bs => Text.quotedBytes bs
  | .time t => t.display

def Scalar.display : Scalar → Text
  | .text t => t
  | .time t => t.iso ' '
  | s => s.quoted

namespace Value

def setText (elements : List Scalar) : Text :=
  if elements.isEmpty then "set()" else "\x7b" ++ Text.join ", " (elements.map Scalar.quoted) ++ "\x7d"

def quotedReading : Reading Text where
  scalar := Scalar.quoted
  list ts := "[" ++ Text.join ", " ts ++ "]"
  map es := "\x7b" ++ Text.join ", " (es.map fun e => e.1.quoted ++ ": " ++ e.2) ++ "\x7d"
  set := setText
  pair first second := "(" ++ first ++ ", " ++ second ++ ")"
  listAgain := "[...]"
  mapAgain := "\x7b...\x7d"
  pairAgain := "(...)"

def quoted (v : Value) : Text := v.read quotedReading

def display (v : Value) : Text :=
  match v.top with
  | .scalar s => s.display
  | _ => v.quoted

/-- Nothing is displayed that lies in more collections than this. -/
def maxDisplayLevel : Nat := 991

def displayedAt (level : Nat) (inside : Except Unwritable Unit) : Except Unwritable Unit :=
  if maxDisplayLevel < level then .error (.tooDeep duringDisplay) else inside

def displayScalar (s : Scalar) (level : Nat) : Except Unwritable Unit :=
  displayedAt level (if s.isLong then .error .longInteger else .ok ())

/-- Whether a value can be displayed, from how many collections it lies in. A set is displayed as a list in a set. -/
def displayable : Reading (Nat → Except Unwritable Unit) where
  scalar := displayScalar
  list xs level := displayedAt level (xs.forM fun x => x (level + 1))
  map es level := displayedAt level (es.forM fun (k, x) => do
    displayScalar k (level + 1)
    x (level + 1))
  set elements level := displayedAt level (elements.forM fun s => displayScalar s (level + 2))
  pair first second level := displayedAt level (do
    first (level + 1)
    second (level + 1))
  listAgain level := displayedAt level (.ok ())
  mapAgain level := displayedAt level (.ok ())
  pairAgain level := displayedAt level (.ok ())

def shown (v : Value) : Except Unwritable Text := do
  v.read displayable 0
  return v.display

end Value

end TokenIntake
