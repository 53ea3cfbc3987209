import TokenIntake.Text.Pattern

namespace TokenIntake.Yaml

inductive Tag where
  | null
  | bool
  | int
  | float
  | binary
  | timestamp
  | text
  | sequence
  | mapping
  | set
  | omap
  | pairs
  | merge
  | value
  | unknown
deriving DecidableEq

namespace Tag

def name : Tag → Text
  | .null => "null"
  | .bool => "bool"
  | .int => "int"
  | .float => "float"
  | .binary => "binary"
  | .timestamp => "timestamp"
  | .text => "str"
  | .sequence => "seq"
  | .mapping => "map"
  | .set => "set"
  | .omap => "omap"
  | .pairs => "pairs"
  | .merge => "merge"
  | .value => "value"
  | .unknown => []

def known : List Tag :=
  [null, bool, int, float, binary, timestamp, text, sequence, mapping, set, omap, pairs, merge, value]

def start : Text := "tag:yaml.org,2002:"

def ofText (t : Text) : Tag := (known.find? fun tag => t = start ++ tag.name).getD unknown

def isForeign : Tag → Bool
  | .merge | .value | .unknown => true
  | _ => false

def written (tag : Tag) : Text := "!!" ++ tag.name

end Tag

open Pattern

def truePatterns : List Text := ["yes", "Yes", "YES", "true", "True", "TRUE", "on", "On", "ON"]

def falsePatterns : List Text := ["no", "No", "NO", "false", "False", "FALSE", "off", "Off", "OFF"]

def sign : Pattern := opt (oneOf "-+")

def digits : Pattern := .seq digit (.many (.one fun c => c.isDigit || c = '_'))

def digitsFromOne : Pattern :=
  .seq (.one fun c => c.isDigit && c != '0') (.many (.one fun c => c.isDigit || c = '_'))

def sixties : Pattern := atLeastOne (all [word ":", opt (oneOf "012345"), digit])

def exponent : Pattern := opt (all [oneOf "eE", oneOf "-+", atLeastOne digit])

def fraction : Pattern := .many (.one fun c => c.isDigit || c = '_')

def floatPattern : Pattern := any [
  all [sign, digits, word ".", fraction, exponent],
  all [word ".", digits, exponent],
  all [sign, digits, sixties, word ".", fraction],
  all [sign, anyWord [".inf", ".Inf", ".INF"]],
  anyWord [".nan", ".NaN", ".NAN"]]

def intPattern : Pattern := any [
  all [sign, word "0b", atLeastOne (oneOf "01_")],
  all [sign, word "0", atLeastOne (oneOf "01234567_")],
  all [sign, .either (word "0") digitsFromOne],
  all [sign, word "0x", atLeastOne (.one fun c => c.hexValue?.isSome || c = '_')],
  all [sign, digitsFromOne, sixties]]

def nullPattern : Pattern := anyWord ["~", "null", "Null", "NULL", ""]

def twoDigits : Pattern := .seq digit digit

def oneOrTwoDigits : Pattern := .seq digit (opt digit)

def blanks : Pattern := .many (oneOf " \t")

def clockPattern : Pattern := all [
  .either (oneOf "Tt") (atLeastOne (oneOf " \t")),
  oneOrTwoDigits, word ":", twoDigits, word ":", twoDigits, opt (.seq (word ".") (.many digit)),
  opt (.seq blanks (.either (word "Z") (all [oneOf "-+", oneOrTwoDigits, opt (.seq (word ":") twoDigits)])))]

def shortDate : Pattern := all [twoDigits, twoDigits, word "-", oneOrTwoDigits, word "-", oneOrTwoDigits]

def timestampPattern : Pattern := any [
  all [twoDigits, twoDigits, word "-", twoDigits, word "-", twoDigits],
  .seq shortDate clockPattern]

/-- The text without the line break at its end, which no pattern takes notice of. -/
def withoutBreak (t : Text) : Text := if t.getLast? = some '\n' then t.dropLast else t

def forms : List (Tag × Pattern) := [
  (.bool, anyWord (truePatterns ++ falsePatterns)),
  (.float, floatPattern),
  (.int, intPattern),
  (.merge, word "<<"),
  (.null, nullPattern),
  (.timestamp, timestampPattern),
  (.value, word "="),
  (.unknown, anyWord ["!", "&", "*"])]

def resolve (t : Text) : Tag :=
  if t = ("\n" : Text) then .text
  else match forms.find? fun (_, p) => p.Matches (withoutBreak t) with
    | some (tag, _) => tag
    | none => .text

end TokenIntake.Yaml
