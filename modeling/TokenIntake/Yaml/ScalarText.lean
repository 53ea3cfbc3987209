import TokenIntake.Yaml.Cursor

namespace TokenIntake.Yaml

def endsPlain (flow : Bool) (c : CodePoint) (rest : Text) : Bool :=
  isSpaceOrBreak c
    || c.is ':' && (spaceFollows rest || flow && (rest.head?.any fun d => (",[]\x7b\x7d" : Text).contains d))
    || flow && (",?[]\x7b\x7d" : Text).contains c

def plainWord (flow : Bool) : Text → Text
  | [] => []
  | c :: rest => if endsPlain flow c rest then [] else c :: plainWord flow rest

def folded (first : CodePoint) (more : Text) : Text :=
  (if first != '\n' then [first] else if more.isEmpty then [(' ' : CodePoint)] else []) ++ more

def plainBreaks : Nat → Cursor → Text → Option Text × Cursor
  | 0, c, done => (some done, c)
  | fuel + 1, c, done =>
    match c.lineBreak? with
    | some (b, c) => if c.atMarker then (none, c) else plainBreaks fuel c (done ++ [b])
    | none => if c.atChar ' ' then plainBreaks fuel c.next done else (some done, c)

def plainGap (c : Cursor) : Text × Bool × Cursor :=
  let blanks := c.run (CodePoint.is ' ')
  let c := c.skipSpaces
  match c.lineBreak? with
  | none => (blanks, false, c)
  | some (b, c) =>
    if c.atMarker then ([], true, c)
    else match plainBreaks c.left c [] with
      | (some more, c) => (folded b more, true, c)
      | (none, c) => ([], true, c)

/-- The words of a plain scalar and the gaps between them, the last one first; whether a simple key may
follow, and where it ends. -/
def plainWords (flow : Bool) (indent : Int) : Nat → Cursor → List Text → Text → Bool → List Text × Bool × Cursor
  | 0, c, done, _, keyMayFollow => (done, keyMayFollow, c)
  | fuel + 1, c, done, gap, keyMayFollow =>
    let word := plainWord flow c.rest
    if c.atChar '#' || word.isEmpty then (done, keyMayFollow, c)
    else
      let (nextGap, broken, c) := plainGap (c.skip word.length)
      let done := word :: gap :: done
      if nextGap.isEmpty || c.atChar '#' || !flow && (c.column : Int) < indent then (done, broken, c)
      else plainWords flow indent fuel c done nextGap broken

def plainScalar (flow : Bool) (indent : Int) (c : Cursor) : Text × Bool × Cursor :=
  let (parts, keyMayFollow, c) := plainWords flow indent (c.left + 1) c [] [] false
  (parts.reverse.flatten, keyMayFollow, c)

def quotedBlank (c : CodePoint) : Bool := c.is ' ' || c.is '\t'

def quotedBreaks : Nat → Cursor → Text → Except Fault (Text × Cursor)
  | 0, c, done => .ok (done, c)
  | fuel + 1, c, done =>
    if c.atMarker then .error (c.skip 3).faultHere
    else
      let c := c.skipWhile quotedBlank
      match c.lineBreak? with
      | some (b, c) => quotedBreaks fuel c (done ++ [b])
      | none => .ok (done, c)

def quotedGap (c : Cursor) : Except Fault (Text × Cursor) :=
  let blanks := c.run quotedBlank
  let c := c.skipWhile quotedBlank
  match c.lineBreak? with
  | none => if c.atEnd then .error c.endFault else .ok (blanks, c)
  | some (b, c) => do
    let (more, c) ← quotedBreaks (c.left + 1) c []
    .ok (folded b more, c)

def letterEscapes : List (Char × Nat) :=
  [('0', 0x00), ('a', 0x07), ('b', 0x08), ('t', 0x09), ('\t', 0x09), ('n', 0x0A), ('v', 0x0B), ('f', 0x0C),
    ('r', 0x0D), ('e', 0x1B), (' ', 0x20), ('"', 0x22), ('\\', 0x5C), ('/', 0x2F), ('N', 0x85), ('_', 0xA0),
    ('L', 0x2028), ('P', 0x2029)]

def numberEscapes : List (Char × Nat) := [('x', 2), ('u', 4), ('U', 8)]

def escaped (c : Cursor) : Except Fault (Text × Cursor) :=
  match c.rest with
  | [] => .error c.endFault
  | d :: rest =>
    match letterEscapes.find? fun (letter, _) => d.is letter with
    | some (_, code) => .ok ((CodePoint.ofNat? code).toList, c.next)
    | none =>
      match numberEscapes.find? fun (letter, _) => d.is letter with
      | some (_, size) =>
        match Text.hexValue? (rest.take size) with
        | none => .error .malformed
        | some code =>
          if rest.length < size then .error c.endFault
          else match CodePoint.ofNat? code with
            | some u => .ok ([u], c.skip (size + 1))
            | none => .error (.character code)
      | none =>
        match c.lineBreak? with
        | some (_, c) => quotedBreaks (c.left + 1) c []
        | none => .error .malformed

def quotedParts (double : Bool) : Nat → Cursor → List Text → Except Fault (List Text × Cursor)
  | 0, _, _ => .error .malformed
  | fuel + 1, c, done =>
    match c.rest with
    | [] => .error c.endFault
    | d :: rest =>
      if d.is (if double then '"' else '\'') then
        if !double && (rest.head?.any (CodePoint.is '\'')) then quotedParts double fuel (c.skip 2) ([d] :: done)
        else .ok (done, c.next)
      else if double && d.is '\\' then do
        let (t, c) ← escaped c.next
        quotedParts double fuel c (t :: done)
      else if quotedBlank d || isBreak d then do
        let (t, c) ← quotedGap c
        quotedParts double fuel c (t :: done)
      else
        let word := c.run fun d => !(d.is '\'' || d.is '"' || d.is '\\' || isSpaceOrBreak d)
        if word.isEmpty then quotedParts double fuel c.next ([d] :: done)
        else quotedParts double fuel (c.skip word.length) (word :: done)

def quotedScalar (double : Bool) (c : Cursor) : Except Fault (Text × Cursor) :=
  (quotedParts double (c.left + 1) c []).map fun (parts, c) => (parts.reverse.flatten, c)

inductive Chomping where
  | strip
  | clip
  | keep
deriving DecidableEq

def chomping? (c : Cursor) : Option Chomping :=
  if c.atChar '+' then some .keep else if c.atChar '-' then some .strip else none

def increment? (c : Cursor) : Except Fault (Option Nat) :=
  match c.rest with
  | d :: _ =>
    if d.isDigit then if d.is '0' then .error .malformed else .ok (some d.digitValue) else .ok none
  | [] => .ok none

def blockHeader (c : Cursor) : Except Fault (Chomping × Option Nat × Cursor) := do
  let (chomping, increment, c) ← match chomping? c with
    | some chomping => do
      let c := c.next
      let increment ← increment? c
      pure (chomping, increment, if increment.isSome then c.next else c)
    | none => do
      let increment ← increment? c
      let c := if increment.isSome then c.next else c
      match if increment.isSome then chomping? c else none with
      | some chomping => pure (chomping, increment, c.next)
      | none => pure (.clip, increment, c)
  if !(c.atEnd || c.atBreak || c.atChar ' ') then .error .malformed
  else
    let c := c.skipSpaces.skipComment
    if c.atEnd then .ok (chomping, increment, c)
    else match c.lineBreak? with
      | some (_, c) => .ok (chomping, increment, c)
      | none => .error .malformed

def leadingLines : Nat → Cursor → Text → Nat → Text × Nat × Cursor
  | 0, c, breaks, widest => (breaks, widest, c)
  | fuel + 1, c, breaks, widest =>
    match c.lineBreak? with
    | some (b, c) => leadingLines fuel c (breaks ++ [b]) widest
    | none =>
      if c.atChar ' ' then leadingLines fuel c.next breaks (max widest c.next.column) else (breaks, widest, c)

def skipIndent (indent : Nat) (c : Cursor) : Cursor :=
  c.skip (min (indent - c.column) (c.run (CodePoint.is ' ')).length)

def blankLines (indent : Nat) : Nat → Cursor → Text → Text × Cursor
  | 0, c, breaks => (breaks, c)
  | fuel + 1, c, breaks =>
    let c := skipIndent indent c
    match c.lineBreak? with
    | some (b, c) => blankLines indent fuel c (breaks ++ [b])
    | none => (breaks, c)

/-- The lines of a block at an indentation and what is between them, the last one first, with the breaks
that come before the first; the break behind the last line and those after it stand apart. -/
def blockLines (fold : Bool) (indent : Nat) : Nat → Cursor → Text → List Text → List Text × Text × Text × Cursor
  | 0, c, breaks, done => (done, [], breaks, c)
  | fuel + 1, c, breaks, done =>
    let line := c.run (!isBreak ·)
    let done := line :: breaks :: done
    let after := c.skip line.length
    let (lineBreak, after) := match after.lineBreak? with
      | some (b, after) => ([b], after)
      | none => ([], after)
    let (breaks, after) := blankLines indent (after.left + 1) after []
    if after.column = indent && !after.atEnd then
      let joined : Text :=
        if fold && lineBreak = ("\n" : Text) && !c.at? quotedBlank && !after.at? quotedBlank then
          if breaks.isEmpty then [' '] else []
        else lineBreak
      blockLines fold indent fuel after breaks (joined :: done)
    else (done, lineBreak, breaks, after)

def blockScalar (fold : Bool) (parent : Int) (c : Cursor) : Except Fault (Text × Cursor) := do
  let (chomping, increment, c) ← blockHeader c
  let least := (max (parent + 1) 1).toNat
  let (breaks, indent, c) := match increment with
    | none =>
      let (breaks, widest, c) := leadingLines (c.left + 1) c [] 0
      (breaks, max least widest, c)
    | some n =>
      let indent := least + n - 1
      let (breaks, c) := blankLines indent (c.left + 1) c []
      (breaks, indent, c)
  let (parts, lineBreak, breaks, c) :=
    if c.column = indent && !c.atEnd then blockLines fold indent (c.left + 1) c breaks []
    else ([], [], breaks, c)
  let text : Text := parts.reverse.flatten
  .ok (match chomping with
    | .strip => text
    | .clip => text ++ lineBreak
    | .keep => text ++ lineBreak ++ breaks, c)

end TokenIntake.Yaml
