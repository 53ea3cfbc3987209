import TokenIntake.Number.Notation
import TokenIntake.Text.Base64
import TokenIntake.Yaml.Anchor
import TokenIntake.Yaml.Pen
import TokenIntake.Yaml.Resolve

namespace TokenIntake.Yaml

def floatText (x : Binary64) : Text :=
  match x with
  | .nan => ".nan"
  | .infinite negative => if negative then "-.inf" else ".inf"
  | x =>
    let t := x.text
    if t.contains '.' then t else t.flatMap fun c => if c.is 'e' then ".0e" else [c]

def scalarText : Scalar → Text
  | .null => "null"
  | .bool b => if b then "true" else "false"
  | .int i => Text.ofInt i
  | .float x => floatText x
  | .text t => t
  | .bytes bs => Text.join "\n" (Base64.encodeLines bs)
  | .time t => t.iso ' '

def tagOf : Scalar → Tag
  | .null => .null
  | .bool _ => .bool
  | .int _ => .int
  | .float _ => .float
  | .text _ => .text
  | .bytes _ => .binary
  | .time _ => .timestamp

inductive Place where
  | root
  | item
  | key
  | value
deriving DecidableEq

def writeBytes (p : Pen) (indent : Nat) (bytes : List UInt8) : Pen :=
  let p := p.indicator Tag.binary.written true
  match Base64.encodeLines bytes with
  | [] => p.doubleQuoted [] true indent
  | lines => p.literal indent lines

def writeText (p : Pen) (indent : Nat) (simpleKey resolves : Bool) (t : Text) : Pen :=
  match style resolves simpleKey t with
  | .plain => p.plain t (!simpleKey) indent
  | .singleQuoted => p.singleQuoted t (!simpleKey) indent
  | .doubleQuoted => p.doubleQuoted t (!simpleKey) indent

def writeScalar (p : Pen) (indent : Option Nat) (place : Place) (s : Scalar) : Pen :=
  let inner := (indent.map (· + 2)).getD 2
  match s with
  | .bytes bs => writeBytes p inner bs
  | _ => writeText p inner (place = .key) (resolve (scalarText s) = tagOf s) (scalarText s)

def isSimpleKey (s : Scalar) : Bool :=
  let t := scalarText s
  match s with
  | .bytes _ => false
  | _ => !t.isEmpty && !(analyze t).multiline && t.length + (tagOf s).written.length < 128

structure Sheet where
  pen : Pen
  written : Array Bool

namespace Sheet

def map (s : Sheet) (f : Pen → Pen) : Sheet := { s with pen := f s.pen }

def alias? (s : Sheet) (g : Graph) (anchors : Anchors) (n : Nat) : Option Sheet :=
  if Graph.canBeShared (g.cell n) && s.written[n]?.getD false then
    some (s.map fun p => p.indicator ("*" ++ (anchors.name? n).getD []) true)
  else none

def begin (s : Sheet) (anchors : Anchors) (n : Nat) : Sheet where
  pen := match anchors.name? n with
    | some name => s.pen.indicator ("&" ++ name) true
    | none => s.pen
  written := s.written.setIfInBounds n true

def writeKey (s : Sheet) (g : Graph) (anchors : Anchors) (indent : Nat) (place : Place) (n : Nat) : Sheet :=
  (s.alias? g anchors n).getD
    ((s.begin anchors n).map fun p => writeScalar p (some indent) place (g.keyAt n))

def writeName (s : Sheet) (g : Graph) (anchors : Anchors) (indent n : Nat) : Sheet :=
  let s := s.map fun p => p.indent indent
  if isSimpleKey (g.keyAt n) then
    (s.writeKey g anchors indent .key n).map fun p => p.indicator ":" false
  else
    let s := (s.map fun p => p.indicator "?" true false true).writeKey g anchors indent .value n
    s.map fun p => (p.indent indent).indicator ":" true false true

def writeItems (s : Sheet) (indent : Option Nat) (place : Place) (item : Nat → Sheet → Nat → Sheet)
    (ns : List Nat) : Sheet :=
  if ns.isEmpty then s.map fun p => (p.indicator "[" true true).indicator "]" false
  else
    let inner := match indent with
      | none => 0
      | some i => if place = .value && !s.pen.indention then i else i + 2
    ns.foldl (fun s n => item inner (s.map fun p => (p.indent inner).indicator "-" true false true) n) s

def writeMembers {α : Type} (s : Sheet) (g : Graph) (anchors : Anchors) (indent : Option Nat)
    (member : Nat → Sheet → α → Sheet) (key : α → Nat) (es : List α) : Sheet :=
  if es.isEmpty then s.map fun p => (p.indicator "\x7b" true true).indicator "\x7d" false
  else
    let inner := (indent.map (· + 2)).getD 0
    es.foldl (fun s e => member inner (s.writeName g anchors inner (key e)) e) s

/-- Writes a cell and all that it leads to. No cell is written twice, so no path is longer than the table. -/
def write (g : Graph) (anchors : Anchors) : Nat → Option Nat → Place → Sheet → Nat → Sheet
  | 0, _, _, s, _ => s
  | fuel + 1, indent, place, s, n =>
    match s.alias? g anchors n with
    | some s => s
    | none =>
      let s := s.begin anchors n
      match g.cell n with
      | .scalar x => s.map fun p => writeScalar p indent place x
      | .list ns => s.writeItems indent place (fun inner s m => write g anchors fuel (some inner) .item s m) ns
      | .pair l m => s.writeItems indent place (fun inner s m => write g anchors fuel (some inner) .item s m) [l, m]
      | .map es =>
        s.writeMembers g anchors indent (fun inner s e => write g anchors fuel (some inner) .value s e.2) Prod.fst es
      | .set ns =>
        (s.map fun p => p.indicator Tag.set.written true).writeMembers g anchors indent
          (fun inner s _ => s.map fun p => writeScalar p (some inner) .value .null) id ns

end Sheet

/-- A plain scalar alone has no end that shows, so one is marked. -/
def isOpenEnded : Cell → Bool
  | .scalar s => style (resolve (scalarText s) = tagOf s) false (scalarText s) = .plain
  | _ => false

def print (v : Value) : Except Unwritable Text := do
  let g := Graph.ofValue v
  let anchors ← Anchors.ofGraph g
  let size := g.cells.size
  let p := (Sheet.write g anchors (size + 1) none .root ⟨Pen.fresh, Array.replicate size false⟩ g.root).pen.indent 0
  let t := if isOpenEnded (g.cell g.root) then p.text ++ "...\n" else p.text
  return t.dropEndWhile (CodePoint.is '\n')

end TokenIntake.Yaml
