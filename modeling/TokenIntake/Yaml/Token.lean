import TokenIntake.Yaml.ScalarText

namespace TokenIntake.Yaml

inductive Directive where
  | version (major : Nat)
  | tag (handle start : Text)
  | other
deriving DecidableEq

inductive Token where
  | directive (d : Directive)
  | documentStart
  | documentEnd
  | streamEnd
  | blockSequenceStart
  | blockMappingStart
  | blockEnd
  | blockEntry
  | flowSequenceStart
  | flowSequenceEnd
  | flowMappingStart
  | flowMappingEnd
  | flowEntry
  | key
  | value
  | anchor (name : Text)
  | alias (name : Text)
  | tag (handle : Option Text) (suffix : Text)
  | scalar (text : Text) (plain : Bool)
deriving DecidableEq

/-- Something that may turn out to be a key: the place for its token, where it stands, and whether it
must be one. -/
structure PossibleKey where
  position : Nat
  required : Bool
  index : Nat
  line : Nat
  column : Nat

/-- Tokens so far, the last one first, and how many; what is open; and what may still be a key, by flow
level. -/
structure Scanner where
  cursor : Cursor
  tokens : List Token
  count : Nat
  flowLevel : Nat
  indent : Int
  indents : List Int
  keyAllowed : Bool
  keys : List (Nat × PossibleKey)

namespace Scanner

def start (s : Source) : Scanner :=
  let c := Cursor.start s
  ⟨if c.at? fun d => d.val = 0xFEFF then c.next else c, [], 0, 0, -1, [], true, []⟩

def inFlow (s : Scanner) : Bool := 0 < s.flowLevel

def emit (s : Scanner) (t : Token) : Scanner := { s with tokens := t :: s.tokens, count := s.count + 1 }

def move (s : Scanner) (n : Nat) : Scanner := { s with cursor := s.cursor.skip n }

def insertAt (s : Scanner) (position : Nat) (ts : List Token) : Scanner :=
  let behind := s.count - position
  { s with
    tokens := s.tokens.take behind ++ ts.reverse ++ s.tokens.drop behind
    count := s.count + ts.length }

def unwind (column : Int) : List Int → Scanner → Scanner
  | [], s => s
  | outer :: more, s =>
    if column < s.indent then unwind column more ({ s with indent := outer, indents := more }.emit .blockEnd)
    else s

def unwindTo (s : Scanner) (column : Int) : Scanner := if s.inFlow then s else unwind column s.indents s

def pushIndent? (s : Scanner) (column : Nat) : Option Scanner :=
  if s.indent < column then some { s with indent := column, indents := s.indent :: s.indents } else none

def openBlock (s : Scanner) (t : Token) : Scanner :=
  match s.pushIndent? s.cursor.column with
  | some s => s.emit t
  | none => s

def dropKey (s : Scanner) : Except Fault Scanner :=
  match s.keys.lookup s.flowLevel with
  | some k => if k.required then .error .malformed else .ok { s with keys := s.keys.filter (·.1 != s.flowLevel) }
  | none => .ok s

def rememberKey (s : Scanner) : Except Fault Scanner :=
  if s.keyAllowed then do
    let s ← s.dropKey
    let c := s.cursor
    let k : PossibleKey := ⟨s.count, !s.inFlow && s.indent = c.column, c.index, c.line, c.column⟩
    .ok { s with keys := (s.flowLevel, k) :: s.keys }
  else .ok s

/-- A key is no longer one behind its line or 1024 code points on. -/
def isStale (s : Scanner) (k : PossibleKey) : Bool := k.line != s.cursor.line || 1024 < s.cursor.index - k.index

def dropStaleKeys (s : Scanner) : Except Fault Scanner :=
  if s.keys.any fun (_, k) => s.isStale k && k.required then .error .malformed
  else .ok { s with keys := s.keys.filter fun (_, k) => !s.isStale k }

def skipGap : Nat → Scanner → Scanner
  | 0, s => s
  | fuel + 1, s =>
    let c := s.cursor.skipSpaces.skipComment
    match c.lineBreak? with
    | some (_, c) => skipGap fuel { s with cursor := c, keyAllowed := s.keyAllowed || !s.inFlow }
    | none => { s with cursor := c }

def nameChar (c : CodePoint) : Bool := c.isDigit || c.isLetter || c.is '-' || c.is '_'

def directiveEnd (c : Cursor) : Bool := c.atEnd || c.atBreak || c.atChar ' '

def version? (c : Cursor) : Option (Nat × Cursor) :=
  let c := c.skipSpaces
  let major := c.run CodePoint.isDigit
  let c := c.skip major.length
  let minor := c.next.run CodePoint.isDigit
  let after := c.next.skip minor.length
  if major.isEmpty || !c.atChar '.' || minor.isEmpty || !directiveEnd after then none
  else some (Text.digitsValue major, after)

def uriChar (c : CodePoint) : Bool :=
  c.isDigit || c.isLetter || ("-;/?:@&=+$,_.!~*'()[]" : Text).contains c

def escapedBytes : Nat → Cursor → Except Fault (List UInt8 × Cursor)
  | 0, c => .ok ([], c)
  | fuel + 1, c =>
    if !c.atChar '%' then .ok ([], c)
    else
      let digits := c.next.rest.take 2
      match Text.hexValue? digits with
      | none => .error .malformed
      | some code =>
        if digits.length < 2 then .error c.endFault
        else do
          let (bytes, c) ← escapedBytes fuel (c.skip 3)
          .ok (code.toUInt8 :: bytes, c)

def tagParts : Nat → Cursor → Except Fault (List Text × Cursor)
  | 0, c => .ok ([], c)
  | fuel + 1, c =>
    let plain := c.run uriChar
    let c := c.skip plain.length
    if c.atChar '%' then do
      let (bytes, c) ← escapedBytes c.left c
      match Utf8.decode bytes with
      | .error _ => .error .malformed
      | .ok t => do
        let (parts, c) ← tagParts fuel c
        .ok (plain :: t :: parts, c)
    else if plain.isEmpty then .ok ([], c)
    else .ok ([plain], c)

def tagUri (c : Cursor) : Except Fault (Text × Cursor) := do
  let (parts, after) ← tagParts (c.left + 1) c
  if parts.isEmpty then .error c.faultHere else .ok (parts.flatten, after)

def tagHandle (c : Cursor) : Except Fault (Text × Cursor) :=
  if !c.atChar '!' then .error c.faultHere
  else
    let name := c.next.run nameChar
    let after := c.next.skip name.length
    if c.next.atChar ' ' then .ok ("!", c.next)
    else if after.atChar '!' then .ok ("!" ++ name ++ "!", after.next)
    else .error after.faultHere

def tagDirective (c : Cursor) : Except Fault (Directive × Cursor) := do
  let (handle, c) ← tagHandle c.skipSpaces
  if !c.atChar ' ' then .error c.faultHere
  else
    let (start, c) ← tagUri c.skipSpaces
    if directiveEnd c then .ok (.tag handle start, c) else .error .malformed

def directive (s : Scanner) : Except Fault Scanner := do
  let s ← (s.unwindTo (-1)).dropKey
  let c := s.cursor.next
  let name := c.run nameChar
  let c := c.skip name.length
  if name.isEmpty || !directiveEnd c then .error c.faultHere
  else
    let (d, c) ← if name = ("YAML" : Text) then
        match version? c with
        | some (major, c) => pure (Directive.version major, c)
        | none => .error .malformed
      else if name = ("TAG" : Text) then tagDirective c
      else pure (Directive.other, c.skipWhile (!isBreak ·))
    let c := c.skipSpaces.skipComment
    match c.lineBreak? with
    | some (_, c) => .ok ({ s with cursor := c, keyAllowed := false }.emit (.directive d))
    | none =>
      if c.atEnd then .ok ({ s with cursor := c, keyAllowed := false }.emit (.directive d)) else .error .malformed

def documentMarker (s : Scanner) (t : Token) : Except Fault Scanner := do
  let s ← (s.unwindTo (-1)).dropKey
  .ok (({ s with keyAllowed := false }.move 3).emit t)

def flowStart (s : Scanner) (t : Token) : Except Fault Scanner := do
  let s ← s.rememberKey
  .ok (({ s with flowLevel := s.flowLevel + 1, keyAllowed := true }.move 1).emit t)

def flowEnd (s : Scanner) (t : Token) : Except Fault Scanner :=
  if s.inFlow then do
    let s ← s.dropKey
    .ok (({ s with flowLevel := s.flowLevel - 1, keyAllowed := false }.move 1).emit t)
  else .error .malformed

def flowEntry (s : Scanner) : Except Fault Scanner := do
  let s ← { s with keyAllowed := true }.dropKey
  .ok ((s.move 1).emit .flowEntry)

def blockEntry (s : Scanner) : Except Fault Scanner :=
  if !s.inFlow && !s.keyAllowed then .error .malformed
  else do
    let s := if s.inFlow then s else s.openBlock .blockSequenceStart
    let s ← { s with keyAllowed := true }.dropKey
    .ok ((s.move 1).emit .blockEntry)

def explicitKey (s : Scanner) : Except Fault Scanner :=
  if !s.inFlow && !s.keyAllowed then .error .malformed
  else do
    let s := if s.inFlow then s else s.openBlock .blockMappingStart
    let s ← { s with keyAllowed := !s.inFlow }.dropKey
    .ok ((s.move 1).emit .key)

def value (s : Scanner) : Except Fault Scanner :=
  match s.keys.lookup s.flowLevel with
  | some k =>
    let s := { s with keys := s.keys.filter (·.1 != s.flowLevel), keyAllowed := false }
    let s := match if s.inFlow then none else s.pushIndent? k.column with
      | some s => s.insertAt k.position [.blockMappingStart, .key]
      | none => s.insertAt k.position [.key]
    .ok ((s.move 1).emit .value)
  | none =>
    if !s.inFlow && !s.keyAllowed then .error .malformed
    else
      let s := if s.inFlow then s else s.openBlock .blockMappingStart
      .ok (({ s with keyAllowed := !s.inFlow }.move 1).emit .value)

def named (s : Scanner) (token : Text → Token) : Except Fault Scanner := do
  let s ← s.rememberKey
  let c := s.cursor.next
  let name := c.run nameChar
  let c := c.skip name.length
  let ends := c.spaceAt 0 || c.at? fun d => ("?:,]\x7d%@\x60" : Text).contains d
  if name.isEmpty || !ends then .error c.faultHere
  else .ok ({ s with cursor := c, keyAllowed := false }.emit (token name))

def tagProperty (c : Cursor) : Except Fault (Option Text × Text × Cursor) := do
  let inside := c.next
  if inside.atChar '<' then
    let (suffix, after) ← tagUri inside.next
    if after.atChar '>' then .ok (none, suffix, after.next) else .error after.faultHere
  else if inside.spaceAt 0 then .ok (none, "!", inside)
  else
    let word := inside.run fun d => !(d.is ' ' || isBreak d)
    let (handle, after) ← if word.contains '!' then tagHandle c else .ok ("!", inside)
    let (suffix, after) ← tagUri after
    .ok (some handle, suffix, after)

def tagged (s : Scanner) : Except Fault Scanner := do
  let s ← s.rememberKey
  let (handle, suffix, c) ← tagProperty s.cursor
  if directiveEnd c then .ok ({ s with cursor := c, keyAllowed := false }.emit (.tag handle suffix))
  else .error .malformed

def block (s : Scanner) (fold : Bool) : Except Fault Scanner := do
  let s ← { s with keyAllowed := true }.dropKey
  let (t, c) ← blockScalar fold s.indent s.cursor.next
  .ok ({ s with cursor := c }.emit (.scalar t false))

def quoted (s : Scanner) (double : Bool) : Except Fault Scanner := do
  let s ← s.rememberKey
  let c := s.cursor.next
  let (t, c) ← quotedScalar double c
  .ok ({ s with cursor := c, keyAllowed := false }.emit (.scalar t false))

def plain (s : Scanner) : Except Fault Scanner := do
  let s ← s.rememberKey
  let (t, keyMayFollow, c) := plainScalar s.inFlow (s.indent + 1) s.cursor
  .ok ({ s with cursor := c, keyAllowed := keyMayFollow }.emit (.scalar t true))

def beginsPlain (s : Scanner) (d : CodePoint) : Bool :=
  !(isSpaceOrBreak d || isIndicator d || d.is '-' || d.is '?' || d.is ':')
    || !s.cursor.spaceAt 1 && (d.is '-' || !s.inFlow && (d.is '?' || d.is ':'))

def token (s : Scanner) (d : CodePoint) : Except Fault Scanner :=
  let c := s.cursor
  if d.is '%' && c.column = 0 then s.directive
  else if d.is '-' && c.column = 0 && c.atMarker then s.documentMarker .documentStart
  else if d.is '.' && c.column = 0 && c.atMarker then s.documentMarker .documentEnd
  else if d.is '[' then s.flowStart .flowSequenceStart
  else if d.is '{' then s.flowStart .flowMappingStart
  else if d.is ']' then s.flowEnd .flowSequenceEnd
  else if d.is '}' then s.flowEnd .flowMappingEnd
  else if d.is ',' then s.flowEntry
  else if d.is '-' && c.spaceAt 1 then s.blockEntry
  else if d.is '?' && (s.inFlow || c.spaceAt 1) then s.explicitKey
  else if d.is ':' && (s.inFlow || c.spaceAt 1) then s.value
  else if d.is '*' then s.named .alias
  else if d.is '&' then s.named .anchor
  else if d.is '!' then s.tagged
  else if d.is '|' && !s.inFlow then s.block false
  else if d.is '>' && !s.inFlow then s.block true
  else if d.is '\'' then s.quoted false
  else if d.is '"' then s.quoted true
  else if s.beginsPlain d then s.plain
  else .error .malformed

def finish (s : Scanner) : Except Fault Scanner := do
  let s ← (s.unwindTo (-1)).dropKey
  .ok (s.emit .streamEnd)

def step? (s : Scanner) : Except Fault (Option Scanner) := do
  let s := skipGap (s.cursor.left + 1) s
  s.cursor.checkStop
  let s := (← s.dropStaleKeys).unwindTo s.cursor.column
  match s.cursor.rest with
  | [] => .ok none
  | d :: _ =>
    let s ← s.token d
    s.cursor.checkStop
    .ok (some (← s.dropStaleKeys))

/-- The tokens in front of which nothing more can come. -/
def settled (s : Scanner) : List Token :=
  let least := (s.keys.map fun (_, k) => k.position).foldl min s.count
  (s.tokens.drop (s.count - least)).reverse

end Scanner

/-- The tokens of a text, up to where something is wrong with it. -/
structure Tokens where
  list : List Token
  fault : Option Fault

namespace Tokens

def scan : Nat → Scanner → Tokens
  | 0, s => ⟨s.settled, some .malformed⟩
  | fuel + 1, s =>
    match s.step? with
    | .ok (some next) => scan fuel next
    | .ok none =>
      match s.finish with
      | .ok s => ⟨s.tokens.reverse, none⟩
      | .error f => ⟨s.settled, some f⟩
    | .error f => ⟨s.settled, some f⟩

def ofSource (s : Source) : Tokens := scan (s.text.length + 1) (Scanner.start s)

end Tokens

end TokenIntake.Yaml
