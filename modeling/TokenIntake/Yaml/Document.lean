import TokenIntake.Yaml.Resolve
import TokenIntake.Yaml.Token

namespace TokenIntake.Yaml

inductive Content where
  | scalar (text : Text)
  | sequence (items : List Nat)
  | mapping (entries : List (Nat × Nat))

structure Node where
  tag : Tag
  content : Content

instance : Inhabited Node := ⟨⟨.null, .scalar []⟩⟩

structure Document where
  nodes : Array Node
  root : Nat

namespace Document

/-- Tokens still to come, with the fault behind them; the nodes so far, and which of them have anchors; and what the
handles of tags stand for. -/
structure Draft where
  tokens : Tokens
  nodes : Array Node
  anchors : List (Text × Nat)
  handles : List (Text × Text)

abbrev Drafting (α : Type) := StateT Draft (Except Fault) α

def malformed {α : Type} : Drafting α := throw .malformed

def peek : Drafting Token := do
  let ts := (← get).tokens
  match ts.list with
  | t :: _ => return t
  | [] => throw (ts.fault.getD .malformed)

def drop : Drafting Unit := modify fun d => { d with tokens := { d.tokens with list := d.tokens.list.drop 1 } }

def next? (ts : List Token) : Drafting Bool := return ts.contains (← peek)

def expect (t : Token) : Drafting Unit := do
  if ← next? [t] then drop else malformed

def add (n : Node) : Drafting Nat := do
  let number := (← get).nodes.size
  modify fun d => { d with nodes := d.nodes.push n }
  return number

/-- The tag of a scalar: the one it is given, or else, also for a lone exclamation mark, what its form says. A quoted
scalar is a text. -/
def scalarTag (given : Option Text) (plain : Bool) (t : Text) : Tag :=
  match given with
  | none => if plain then resolve t else .text
  | some name => if name = ("!" : Text) then resolve t else .ofText name

def collectionTag (given : Option Text) (otherwise : Tag) : Tag :=
  match given with
  | none => otherwise
  | some name => if name = ("!" : Text) then otherwise else .ofText name

def scalarNode (given : Option Text) (plain : Bool) (t : Text) : Node := ⟨scalarTag given plain t, .scalar t⟩

def absent : Drafting Nat := add default

def isTaken (anchor : Option Text) : Drafting Bool := do
  let anchors := (← get).anchors
  return anchor.any fun a => (anchors.lookup a).isSome

def name (anchor : Option Text) (number : Nat) : Drafting Unit :=
  match anchor with
  | none => return
  | some a => modify fun d => { d with anchors := (a, number) :: d.anchors }

/-- A collection begins: its number is there before its contents are. -/
def begin (anchor : Option Text) : Drafting Nat := do
  let number ← add default
  name anchor number
  return number

def finish (number : Nat) (n : Node) : Drafting Nat := do
  modify fun d => { d with nodes := d.nodes.setIfInBounds number n }
  return number

def finishSequence (number : Nat) (given : Option Text) (items : List Nat) : Drafting Nat :=
  finish number ⟨collectionTag given .sequence, .sequence items⟩

def finishMapping (number : Nat) (given : Option Text) (entries : List (Nat × Nat)) : Drafting Nat :=
  finish number ⟨collectionTag given .mapping, .mapping entries⟩

inductive Context where
  | block
  | blockOrIndentless
  | flow
deriving DecidableEq

inductive Shape where
  | scalar (text : Text) (plain : Bool)
  | indentless
  | flowSequence
  | flowMapping
  | blockSequence
  | blockMapping

structure Properties where
  anchor : Option Text
  tag : Option Text

def Properties.any (p : Properties) : Bool := p.anchor.isSome || p.tag.isSome

/-- The shape of a node behind its properties, from the next token. With properties, nothing may follow. -/
def shape (ctx : Context) (p : Properties) : Drafting Shape := do
  match ← peek with
  | .blockEntry => if ctx = .blockOrIndentless then return .indentless
  | .scalar t plain =>
    drop
    return .scalar t plain
  | .flowSequenceStart => return .flowSequence
  | .flowMappingStart => return .flowMapping
  | .blockSequenceStart => if ctx != .flow then return .blockSequence
  | .blockMappingStart => if ctx != .flow then return .blockMapping
  | _ => pure ()
  if p.any then return .scalar [] true else malformed

def anchor? : Drafting (Option Text) := do
  match ← peek with
  | .anchor a =>
    drop
    return some a
  | _ => return none

def givenTag? : Drafting (Option (Option Text × Text)) := do
  match ← peek with
  | .tag handle suffix =>
    drop
    return some (handle, suffix)
  | _ => return none

def resolveTag (handle : Option Text) (suffix : Text) : Drafting Text := do
  match handle with
  | none => return suffix
  | some h =>
    match (← get).handles.lookup h with
    | some start => return start ++ suffix
    | none => malformed

def properties : Drafting Properties := do
  let before ← anchor?
  let given ← givenTag?
  let anchor ← if before.isSome || given.isNone then pure before else anchor?
  match given with
  | none => return ⟨anchor, none⟩
  | some (handle, suffix) => return ⟨anchor, some (← resolveTag handle suffix)⟩

/-- No collection is read inside more than this many others. -/
def maxNesting : Nat := 487

mutual

/-- A node inside which `room` collections may lie in one another. -/
def parse : Nat → Nat → Context → Drafting Nat
  | 0, _, _ => malformed
  | fuel + 1, room, ctx => do
    match ← peek with
    | .alias a =>
      drop
      match (← get).anchors.lookup a with
      | some number => return number
      | none => malformed
    | _ =>
      let p ← properties
      let shape ← shape ctx p
      if ← isTaken p.anchor then malformed
      match shape, room with
      | .scalar t plain, _ =>
        let number ← add (scalarNode p.tag plain t)
        name p.anchor number
        return number
      | _, 0 => throw .tooDeep
      | .indentless, room + 1 =>
        let number ← begin p.anchor
        finishSequence number p.tag (← parseIndentless fuel room)
      | .flowSequence, room + 1 =>
        let number ← begin p.anchor
        drop
        finishSequence number p.tag (← parseFlowItems fuel room true)
      | .flowMapping, room + 1 =>
        let number ← begin p.anchor
        drop
        finishMapping number p.tag (← parseFlowEntries fuel room true)
      | .blockSequence, room + 1 =>
        let number ← begin p.anchor
        drop
        finishSequence number p.tag (← parseBlockItems fuel room)
      | .blockMapping, room + 1 =>
        let number ← begin p.anchor
        drop
        finishMapping number p.tag (← parseBlockEntries fuel room)

def parseUnless : Nat → Nat → Context → List Token → Drafting Nat
  | 0, _, _, _ => malformed
  | fuel + 1, room, ctx, stops => do if ← next? stops then absent else parse fuel room ctx

def parseValue : Nat → Nat → Context → List Token → Drafting Nat
  | 0, _, _, _ => malformed
  | fuel + 1, room, ctx, stops => do
    if ← next? [.value] then
      drop
      parseUnless fuel room ctx stops
    else absent

def parseBlockItems : Nat → Nat → Drafting (List Nat)
  | 0, _ => malformed
  | fuel + 1, room => do
    if ← next? [.blockEntry] then
      drop
      let x ← parseUnless fuel room .block [.blockEntry, .blockEnd]
      return x :: (← parseBlockItems fuel room)
    else
      expect .blockEnd
      return []

/-- The items of a sequence that is not indented further than the key it belongs to. -/
def parseIndentless : Nat → Nat → Drafting (List Nat)
  | 0, _ => malformed
  | fuel + 1, room => do
    if ← next? [.blockEntry] then
      drop
      let x ← parseUnless fuel room .block [.blockEntry, .key, .value, .blockEnd]
      return x :: (← parseIndentless fuel room)
    else return []

def parseBlockEntries : Nat → Nat → Drafting (List (Nat × Nat))
  | 0, _ => malformed
  | fuel + 1, room => do
    let stops : List Token := [.key, .value, .blockEnd]
    if ← next? [.key] then
      drop
      let k ← parseUnless fuel room .blockOrIndentless stops
      let v ← parseValue fuel room .blockOrIndentless stops
      return (k, v) :: (← parseBlockEntries fuel room)
    else
      expect .blockEnd
      return []

def parseFlowItems : Nat → Nat → Bool → Drafting (List Nat)
  | 0, _, _ => malformed
  | fuel + 1, room, first => do
    let stops : List Token := [.flowEntry, .flowSequenceEnd]
    if ← next? [.flowSequenceEnd] then
      drop
      return []
    if !first then expect .flowEntry
    if ← next? [.key] then
      match room with
      | 0 => throw .tooDeep
      | inner + 1 =>
        let number ← begin none
        drop
        let k ← parseUnless fuel inner .flow (.value :: stops)
        let v ← parseValue fuel inner .flow stops
        let x ← finishMapping number none [(k, v)]
        return x :: (← parseFlowItems fuel (inner + 1) false)
    else if ← next? [.flowSequenceEnd] then
      drop
      return []
    else
      let x ← parse fuel room .flow
      return x :: (← parseFlowItems fuel room false)

def parseFlowEntries : Nat → Nat → Bool → Drafting (List (Nat × Nat))
  | 0, _, _ => malformed
  | fuel + 1, room, first => do
    let stops : List Token := [.flowEntry, .flowMappingEnd]
    if ← next? [.flowMappingEnd] then
      drop
      return []
    if !first then expect .flowEntry
    if ← next? [.key] then
      drop
      let k ← parseUnless fuel room .flow (.value :: stops)
      let v ← parseValue fuel room .flow stops
      return (k, v) :: (← parseFlowEntries fuel room false)
    else if ← next? [.flowMappingEnd] then
      drop
      return []
    else
      let k ← parse fuel room .flow
      let v ← absent
      return (k, v) :: (← parseFlowEntries fuel room false)

end

def standardHandles : List (Text × Text) := [("!", "!"), ("!!", Tag.start)]

def takeDirectives : Nat → Bool → List (Text × Text) → Drafting Unit
  | 0, _, _ => malformed
  | fuel + 1, seen, given => do
    match ← peek with
    | .directive .other =>
      drop
      takeDirectives fuel seen given
    | .directive (.version major) =>
      if seen || major != 1 then malformed
      else
        drop
        takeDirectives fuel true given
    | .directive (.tag handle start) =>
      if (given.lookup handle).isSome then malformed
      else
        drop
        takeDirectives fuel seen ((handle, start) :: given)
    | _ => modify fun d => { d with handles := given ++ standardHandles }

def dropDocumentEnds : Nat → Drafting Unit
  | 0 => malformed
  | fuel + 1 => do
    if ← next? [.documentEnd] then
      drop
      dropDocumentEnds fuel

def parseStart (fuel : Nat) : Drafting Bool := do
  match ← peek with
  | .directive _ | .documentStart =>
    takeDirectives fuel false []
    expect .documentStart
    return true
  | _ => return false

def parseContent (fuel : Nat) (explicit : Bool) : Drafting Nat := do
  let empty := match ← peek with
    | .directive _ | .documentStart | .documentEnd | .streamEnd => explicit
    | _ => false
  if empty then absent else parse fuel maxNesting .block

def parseEnd (fuel : Nat) : Drafting Unit := do
  dropDocumentEnds fuel
  if !(← next? [.streamEnd]) then
    takeDirectives fuel false []
    malformed

def parseStream (fuel : Nat) : Drafting (Option Nat) := do
  if ← next? [.streamEnd] then return none
  let explicit ← parseStart fuel
  let root ← parseContent fuel explicit
  parseEnd fuel
  return some root

def ofTokens (ts : Tokens) : Except Fault (Option Document) := do
  let (root, draft) ← (parseStream (4 * ts.list.length + 5)).run ⟨ts, #[], [], standardHandles⟩
  return root.map fun root => ⟨draft.nodes, root⟩

end Document

end TokenIntake.Yaml
