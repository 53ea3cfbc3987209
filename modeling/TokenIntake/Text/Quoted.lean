import TokenIntake.Text.Basic
import TokenIntake.Text.Printable

namespace TokenIntake

def CodePoint.quoted (mark c : CodePoint) : Text :=
  if c = mark ∨ c = '\\' then ['\\', c]
  else if c = '\t' then "\\t"
  else if c = '\n' then "\\n"
  else if c = '\r' then "\\r"
  else if c.isPrintable then [c]
  else if c.val < 0x100 then "\\x" ++ Text.hex 2 c.val
  else if c.val < 0x10000 then "\\u" ++ Text.hex 4 c.val
  else "\\U" ++ Text.hex 8 c.val

/-- The marks are single, unless the text has a single mark and no double one. -/
def Text.quoteMark (t : Text) : CodePoint := if t.contains '\'' && !t.contains '"' then '"' else '\''

def Text.quoted (t : Text) : Text := t.quoteMark :: t.flatMap (CodePoint.quoted t.quoteMark) ++ [t.quoteMark]

def Text.ofBytes (bytes : List UInt8) : Text :=
  bytes.map fun b => ⟨b.toNat, Nat.lt_trans b.toNat_lt (by decide)⟩

def Text.quotedBytes (bytes : List UInt8) : Text :=
  let t := Text.ofBytes bytes
  let byte (c : CodePoint) : Text := if c.isAscii then CodePoint.quoted t.quoteMark c else "\\x" ++ Text.hex 2 c.val
  "b" ++ (t.quoteMark :: t.flatMap byte) ++ [t.quoteMark]

end TokenIntake
