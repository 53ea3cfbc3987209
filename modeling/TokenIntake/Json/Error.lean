import TokenIntake.Text.Basic

namespace TokenIntake.Json

inductive Complaint where
  | byteOrderMark
  | expectingValue
  | expectingName
  | expectingColon
  | expectingComma
  | extraData
  | unterminatedString
  | controlCharacter
  | invalidEscape
  | invalidUnicodeEscape
deriving DecidableEq

def Complaint.message : Complaint → Text
  | .byteOrderMark => "Unexpected UTF-8 BOM (decode using utf-8-sig)"
  | .expectingValue => "Expecting value"
  | .expectingName => "Expecting property name enclosed in double quotes"
  | .expectingColon => "Expecting ':' delimiter"
  | .expectingComma => "Expecting ',' delimiter"
  | .extraData => "Extra data"
  | .unterminatedString => "Unterminated string starting at"
  | .controlCharacter => "Invalid control character at"
  | .invalidEscape => "Invalid \\escape"
  | .invalidUnicodeEscape => "Invalid \\uXXXX escape"

inductive Collection where
  | array
  | object
deriving DecidableEq

def Collection.label : Collection → Text
  | .array => "array"
  | .object => "object"

/-- Why reading stopped: a complaint with the text that begins at its place, an integer with more digits
than are read, or a collection that lies deeper than is read. -/
inductive Stop where
  | complaint (c : Complaint) (place : Text)
  | tooManyDigits (count : Nat)
  | tooDeep (c : Collection)
deriving DecidableEq

inductive Error where
  | malformed (complaint : Complaint) (line column offset : Nat)
  | tooManyDigits (count : Nat)
  | tooDeep (c : Collection)
deriving DecidableEq

def tooManyDigitsMessage (count : Nat) : Text :=
  "Exceeds the limit (4300 digits) for integer string conversion: value has " ++ Text.ofNat count
    ++ " digits; use sys.set_int_max_str_digits() to increase the limit"

namespace Error

def message : Error → Text
  | .malformed c line column offset =>
    c.message ++ ": line " ++ Text.ofNat line ++ " column " ++ Text.ofNat column
      ++ " (char " ++ Text.ofNat offset ++ ")"
  | .tooManyDigits count => tooManyDigitsMessage count
  | .tooDeep c =>
    "maximum recursion depth exceeded while decoding a JSON " ++ c.label ++ " from a unicode string"

def ofStop (text : Text) : Stop → Error
  | .complaint c place =>
    let before := text.take (text.length - place.length)
    let lineStart := before.reverse.takeWhile (!CodePoint.is '\n' ·)
    .malformed c (before.countP (CodePoint.is '\n') + 1) (lineStart.length + 1) before.length
  | .tooManyDigits count => .tooManyDigits count
  | .tooDeep c => .tooDeep c

end Error

end TokenIntake.Json
