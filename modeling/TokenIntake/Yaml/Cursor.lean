import TokenIntake.Yaml.Source
import TokenIntake.Yaml.Style

namespace TokenIntake.Yaml

structure Cursor where
  rest : Text
  left : Nat
  stop : Option Fault
  index : Nat
  line : Nat
  column : Nat

namespace Cursor

def start (s : Source) : Cursor := ⟨s.text, s.text.length, s.stop, 0, 0, 0⟩

/-- One code point on. A byte order mark takes no column. -/
def next (c : Cursor) : Cursor :=
  match c.rest with
  | [] => c
  | d :: rest =>
    if isBreak d then ⟨rest, c.left - 1, c.stop, c.index + 1, c.line + 1, 0⟩
    else ⟨rest, c.left - 1, c.stop, c.index + 1, c.line, if d.val = 0xFEFF then c.column else c.column + 1⟩

def skip : Nat → Cursor → Cursor
  | 0, c => c
  | n + 1, c => skip n c.next

def run (c : Cursor) (p : CodePoint → Bool) : Text := c.rest.takeWhile p

def skipWhile (c : Cursor) (p : CodePoint → Bool) : Cursor := c.skip (c.run p).length

def atEnd (c : Cursor) : Bool := c.rest.isEmpty

def endFault (c : Cursor) : Fault := c.stop.getD .malformed

def faultHere (c : Cursor) : Fault := if c.atEnd then c.endFault else .malformed

def checkStop (c : Cursor) : Except Fault Unit :=
  match c.rest, c.stop with
  | [], some f => .error f
  | _, _ => .ok ()

def at? (c : Cursor) (p : CodePoint → Bool) : Bool :=
  match c.rest with
  | d :: _ => p d
  | [] => false

def atChar (c : Cursor) (char : Char) : Bool := c.at? (CodePoint.is char)

def spaceAt (c : Cursor) (n : Nat) : Bool := spaceFollows (c.rest.drop n)

def atBreak (c : Cursor) : Bool := c.at? isBreak

def skipSpaces (c : Cursor) : Cursor := c.skipWhile (CodePoint.is ' ')

def skipComment (c : Cursor) : Cursor := if c.atChar '#' then c.skipWhile (!isBreak ·) else c

def lineBreak? (c : Cursor) : Option (CodePoint × Cursor) :=
  match c.rest with
  | d :: _ =>
    if d.val = 0x2028 || d.val = 0x2029 then some (d, c.next)
    else if isBreak d then some ('\n', c.next)
    else none
  | [] => none

def atMarker (c : Cursor) : Bool :=
  (Text.startsWith c.rest "---" || Text.startsWith c.rest "...") && c.spaceAt 3

end Cursor

end TokenIntake.Yaml
