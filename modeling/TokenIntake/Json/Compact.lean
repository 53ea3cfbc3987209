import TokenIntake.Json.Escape
import TokenIntake.Number.Notation
import TokenIntake.Text.Quoted
import TokenIntake.Value.Reading

namespace TokenIntake.Json

def floatText : Binary64 → Text
  | .nan => "NaN"
  | .infinite negative => if negative then "-Infinity" else "Infinity"
  | x => x.text

def scalarText (string : Text → Text) : Scalar → Text
  | .null => "null"
  | .bool b => if b then "true" else "false"
  | .int i => Text.ofInt i
  | .float x => floatText x
  | .text t => string t
  | .bytes bs => string (Text.quotedBytes bs)
  | .time t => string (t.iso ' ')

def keyText : Scalar → Text
  | .text t => t
  | s => scalarText id s

def compactReading (string : Text → Text) : Reading Text where
  scalar := scalarText string
  list ts := "[" ++ Text.join "," ts ++ "]"
  map es := "\x7b" ++ Text.join "," (es.map fun e => string (keyText e.1) ++ ":" ++ e.2) ++ "\x7d"
  set elements := "[" ++ Text.join "," (elements.map (scalarText string)) ++ "]"
  pair first second := "[" ++ first ++ "," ++ second ++ "]"
  listAgain := "[]"
  mapAgain := "\x7b\x7d"
  pairAgain := "[]"

def compact (string : Text → Text) (v : Value) : Text := v.read (compactReading string)

end TokenIntake.Json
