import TokenIntake.Json.Compact
import TokenIntake.Value.Display

namespace TokenIntake.Json

def newLine (level : Nat) : Text := ('\n' : CodePoint) :: Text.spaces (2 * level)

/-- Nothing is written that lies in more collections than this. -/
def maxLevel : Nat := 988

def writtenAt {α : Type} (level : Nat) (inside : Except Unwritable α) : Except Unwritable α :=
  if maxLevel < level then .error (.tooDeep duringCall) else inside

/-- What has no form of its own is first made a text, which goes two calls deeper. -/
def writeScalar (s : Scalar) (level : Nat) : Except Unwritable Text :=
  let text := if s.isLong then .error .longInteger else .ok (scalarText asciiString s)
  match s with
  | .bytes _ | .time _ => writtenAt (level + 2) text
  | _ => text

def nameText : Scalar → Except Unwritable Text
  | .bytes _ => .error (.key "bytes")
  | .time t => .error (.key (t.kindName.drop ("datetime." : Text).length))
  | s => if s.isLong then .error .longInteger else .ok (asciiString (keyText s))

abbrev Indented := Nat → Except Unwritable (List Text)

def lines (level : Nat) : List (Except Unwritable (List Text)) → Except Unwritable (List Text)
  | [] => .ok []
  | part :: rest => do
    let pieces ← part
    let more ← lines level rest
    .ok ([newLine level] ++ pieces ++ (if rest.isEmpty then [] else [("," : Text)]) ++ more)

def bracketed (left right : Text) (level : Nat) (parts : List (Except Unwritable (List Text))) :
    Except Unwritable (List Text) :=
  if parts.isEmpty then writtenAt level (.ok [left ++ right])
  else writtenAt (level + 1) (do
    let body ← lines (level + 1) parts
    .ok ([left] ++ body ++ [newLine level, right]))

def member (level : Nat) (e : Scalar × Indented) : Except Unwritable (List Text) := do
  let name ← nameText e.1
  let pieces ← e.2 level
  .ok (name :: ": " :: pieces)

def writeSet (elements : List Scalar) (level : Nat) : Except Unwritable Text :=
  writtenAt (level + 2)
    (if elements.any Scalar.isLong then .error .longInteger else .ok (asciiString (Value.setText elements)))

def indentedReading : Reading Indented where
  scalar s level := (writeScalar s level).map fun t => [t]
  list xs level := bracketed "[" "]" level (xs.map fun x => x (level + 1))
  map es level := bracketed "\x7b" "\x7d" level (es.map (member (level + 1)))
  set elements level := (writeSet elements level).map fun t => [t]
  pair first second level := bracketed "[" "]" level [first (level + 1), second (level + 1)]
  listAgain _ := .error .circular
  mapAgain _ := .error .circular
  pairAgain _ := .error .circular

def print (v : Value) : Except Unwritable Text := (v.read indentedReading 0).map List.flatten

end TokenIntake.Json
