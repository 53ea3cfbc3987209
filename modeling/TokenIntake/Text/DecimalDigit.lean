import TokenIntake.Text.Basic

namespace TokenIntake

namespace CodePoint

/-- The zero digits outside ASCII; each begins a run of ten digits in ascending order. -/
def zeroDigits : List Nat := [
  0x660, 0x6F0, 0x7C0, 0x966, 0x9E6, 0xA66, 0xAE6, 0xB66, 0xBE6, 0xC66, 0xCE6, 0xD66, 0xDE6, 0xE50, 0xED0,
  0xF20, 0x1040, 0x1090, 0x17E0, 0x1810, 0x1946, 0x19D0, 0x1A80, 0x1A90, 0x1B50, 0x1BB0, 0x1C40, 0x1C50,
  0xA620, 0xA8D0, 0xA900, 0xA9D0, 0xA9F0, 0xAA50, 0xABF0, 0xFF10, 0x104A0, 0x10D30, 0x11066, 0x110F0,
  0x11136, 0x111D0, 0x112F0, 0x11450, 0x114D0, 0x11650, 0x116C0, 0x11730, 0x118E0, 0x11950, 0x11C50,
  0x11D50, 0x11DA0, 0x16A60, 0x16AC0, 0x16B50, 0x1D7CE, 0x1D7D8, 0x1D7E2, 0x1D7EC, 0x1D7F6, 0x1E140,
  0x1E2F0, 0x1E950, 0x1FBF0]

def decimalValue? (c : CodePoint) : Option Nat :=
  if c.isDigit then some c.digitValue
  else (zeroDigits.find? fun first => first ≤ c.val && c.val < first + 10).map (c.val - ·)

def isAsciiBlank (c : CodePoint) : Bool := c.val = 0x20 || 0x09 ≤ c.val && c.val ≤ 0x0D

def isBlank (c : CodePoint) : Bool :=
  c.isAsciiBlank || 0x1C ≤ c.val && c.val ≤ 0x1F || c.val = 0x85 || c.val = 0xA0 || c.val = 0x1680
    || 0x2000 ≤ c.val && c.val ≤ 0x200A || c.val = 0x2028 || c.val = 0x2029 || c.val = 0x202F
    || c.val = 0x205F || c.val = 0x3000

def asciiNumeral? (c : CodePoint) : Option CodePoint :=
  if c.isAscii then some c
  else if c.isBlank then some ' '
  else c.decimalValue?.bind fun v => ofNat? (0x30 + v)

end CodePoint

/-- A text as a number reader sees it: ASCII only and without blanks around it. A text with any
other character denotes no number. -/
def Text.asNumeral? (t : Text) : Option Text :=
  (t.mapM CodePoint.asciiNumeral?).map fun t =>
    Text.dropEndWhile (t.dropWhile CodePoint.isAsciiBlank) CodePoint.isAsciiBlank

end TokenIntake
