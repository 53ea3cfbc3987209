import TokenIntake.Text.Basic

namespace TokenIntake.Json

def shortEscape? (c : CodePoint) : Option Text :=
  if c = '"' then some "\\\""
  else if c = '\\' then some "\\\\"
  else if c = '\x08' then some "\\b"
  else if c = '\x0c' then some "\\f"
  else if c = '\n' then some "\\n"
  else if c = '\r' then some "\\r"
  else if c = '\t' then some "\\t"
  else none

def unicodeEscape (n : Nat) : Text := "\\u" ++ Text.hex 4 n

/-- Printable ASCII as it is, everything else by number, above the first plane as two surrogates. -/
def asciiEscape (c : CodePoint) : Text :=
  match shortEscape? c with
  | some t => t
  | none =>
    if 0x20 ≤ c.val ∧ c.val < 0x7F then [c]
    else if c.val < 0x10000 then unicodeEscape c.val
    else unicodeEscape c.toSurrogates.1 ++ unicodeEscape c.toSurrogates.2

def asciiString (t : Text) : Text := "\"" ++ t.flatMap asciiEscape ++ "\""

def rawEscape (c : CodePoint) : Text :=
  match shortEscape? c with
  | some t => t
  | none => if c.val < 0x20 then unicodeEscape c.val else [c]

def rawString (t : Text) : Text := "\"" ++ t.flatMap rawEscape ++ "\""

end TokenIntake.Json
