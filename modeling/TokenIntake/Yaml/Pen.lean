import TokenIntake.Yaml.Style

namespace TokenIntake.Yaml

/-- What is on the paper is kept in `written`, the last code point first. -/
structure Pen where
  written : Text
  column : Nat
  blank : Bool
  indention : Bool

namespace Pen

def fresh : Pen := ⟨[], 0, true, true⟩

def text (p : Pen) : Text := p.written.reverse

def put (p : Pen) (t : Text) : Pen :=
  { p with written := t.reverse ++ p.written, column := p.column + t.length }

def lineBreak (p : Pen) : Pen := ⟨('\n' : CodePoint) :: p.written, 0, true, true⟩

def indent (p : Pen) (indent : Nat) : Pen :=
  let p := if !p.indention || indent < p.column || p.column = indent && !p.blank then p.lineBreak else p
  if p.column < indent then { p.put (Text.spaces (indent - p.column)) with blank := true } else p

def indicator (p : Pen) (t : Text) (apart : Bool) (blank indention : Bool := false) : Pen :=
  let p' := p.put (if p.blank || !apart then t else (' ' : CodePoint) :: t)
  { p' with blank := blank, indention := p.indention && indention }

def literal (p : Pen) (ind : Nat) (lines : List Text) : Pen :=
  lines.foldl (fun p line => ((p.indent ind).put line).lineBreak) (p.indicator "|" true).lineBreak

def inText (p : Pen) : Pen := { p with blank := false, indention := false }

/-- Lines are folded behind this column. -/
def width : Nat := 80

def plainParts (p : Pen) (fold : Bool) (ind : Nat) : List (Bool × Text) → Pen
  | [] => p
  | (space, part) :: rest =>
    if space && part.length = 1 && width < p.column && fold then
      plainParts (p.indent ind).inText fold ind rest
    else plainParts (p.put part) fold ind rest

def plain (p : Pen) (t : Text) (fold : Bool) (ind : Nat) : Pen :=
  if t.isEmpty then p
  else
    let p := if p.blank then p else p.put " "
    plainParts p.inText fold ind (Text.runs (CodePoint.is ' ') t)

inductive Kind where
  | space
  | break
  | mark
  | other
deriving DecidableEq

def kind (c : CodePoint) : Kind :=
  if c.is ' ' then .space else if isBreak c then .break else if c.is '\'' then .mark else .other

/-- The runs inside single quotes. A line break is written twice, quote marks are doubled, and a single
space past the width becomes a new line unless it begins or ends the text. -/
def singleParts (p : Pen) (fold : Bool) (ind : Nat) (first : Bool) : List (Kind × Text) → Pen
  | [] => p
  | (.space, part) :: rest =>
    if part.length = 1 && width < p.column && fold && !first && !rest.isEmpty then
      singleParts (p.indent ind) fold ind false rest
    else singleParts (p.put part) fold ind false rest
  | (.break, part) :: rest =>
    let p := part.foldl (fun p _ => p.lineBreak) p.lineBreak
    singleParts (p.indent ind) fold ind false rest
  | (.mark, part) :: rest => singleParts (p.put (part ++ part)) fold ind false rest
  | (.other, part) :: rest => singleParts (p.put part) fold ind false rest

def singleQuoted (p : Pen) (t : Text) (fold : Bool) (ind : Nat) : Pen :=
  (singleParts (p.indicator "'" true) fold ind true (Text.runs kind t)).indicator "'" false

def letters : List (Nat × Char) :=
  [(0x00, '0'), (0x07, 'a'), (0x08, 'b'), (0x09, 't'), (0x0A, 'n'), (0x0B, 'v'), (0x0C, 'f'), (0x0D, 'r'),
    (0x1B, 'e'), (0x22, '"'), (0x5C, '\\'), (0x85, 'N'), (0xA0, '_'), (0x2028, 'L'), (0x2029, 'P')]

def escape? (c : CodePoint) : Option Text :=
  match letters.find? fun (n, _) => n = c.val with
  | some (_, letter) => some ['\\', letter]
  | none =>
    if 0x20 ≤ c.val && c.val ≤ 0x7E then none
    else if c.val ≤ 0xFF then some ("\\x" ++ Text.upperHex 2 c.val)
    else if c.val ≤ 0xFFFF then some ("\\u" ++ Text.upperHex 4 c.val)
    else some ("\\U" ++ Text.upperHex 8 c.val)

/-- The text inside double quotes from position `i` on; `held` is what of it is decided but not yet
written, the last code point first. Past the width the line is broken behind a backslash, at a space
or next to an escape; a space that then begins the new line gets a backslash as well. -/
def doubleParts (p : Pen) (fold : Bool) (ind last i : Nat) (held : Text) : Text → Pen
  | [] => p.put held.reverse
  | c :: rest =>
    let breakable := 0 < i && i < last && fold
    match escape? c with
    | some e =>
      let p := (p.put held.reverse).put e
      if breakable && width + 1 < p.column then
        let p := ((p.put "\\").indent ind).inText
        let p := if (rest.headD c).is ' ' then p.put "\\" else p
        doubleParts p fold ind last (i + 1) [] rest
      else doubleParts p fold ind last (i + 1) [] rest
    | none =>
      if breakable && (c.is ' ' || held.isEmpty) && width < p.column + held.length then
        let p := (((p.put held.reverse).put "\\").indent ind).inText
        let p := if c.is ' ' then p.put "\\" else p
        doubleParts p fold ind last (i + 1) [c] rest
      else doubleParts p fold ind last (i + 1) (c :: held) rest

def doubleQuoted (p : Pen) (t : Text) (fold : Bool) (ind : Nat) : Pen :=
  (doubleParts (p.indicator "\"" true) fold ind (t.length - 1) 0 [] t).indicator "\"" false

end Pen

end TokenIntake.Yaml
