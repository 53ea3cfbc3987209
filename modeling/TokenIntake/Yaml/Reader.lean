import TokenIntake.Value.Sharing
import TokenIntake.Yaml.Document

namespace TokenIntake.Yaml

def scalarValue (tag : Tag) (t : Text) : Except Fault Scalar :=
  match tag with
  | .null => .ok .null
  | .bool => ((readTruth t).map Scalar.bool).mapError .unreadable
  | .int => ((readInteger t).map Scalar.int).mapError .unreadable
  | .float => ((readFloat t).map Scalar.float).mapError .unreadable
  | .timestamp => ((readTimestamp t).map Scalar.time).mapError .unreadable
  | .text => .ok (.text t)
  | .binary =>
    match if t.all CodePoint.isAscii then Base64.decode? t else none with
    | some bytes => .ok (.bytes bytes)
    | none => .error .malformed
  | .sequence | .mapping | .set | .omap | .pairs | .merge | .value | .unknown => .error .malformed

/-- A document on the way to its values: its nodes, without the merge keys that have been replaced; the cells of the
nodes met so far, and behind them those of pairs; and the collections of the next level, the last one first. -/
structure Survey where
  nodes : Array Node
  cells : Array (Option Cell)
  below : List Nat

namespace Survey

def node (s : Survey) (n : Nat) : Node := s.nodes[n]?.getD default

def tag (s : Survey) (n : Nat) : Tag := (s.node n).tag

def content (s : Survey) (n : Nat) : Content := (s.node n).content

def entries? (s : Survey) (n : Nat) : Option (List (Nat × Nat)) :=
  match s.content n with
  | .mapping es => some es
  | .scalar _ | .sequence _ => none

def setEntries (s : Survey) (n : Nat) (es : List (Nat × Nat)) : Survey :=
  { s with nodes := s.nodes.setIfInBounds n ⟨s.tag n, .mapping es⟩ }

def fill (s : Survey) (n : Nat) (c : Cell) : Survey := { s with cells := s.cells.setIfInBounds n (some c) }

/-- No text and no merged mapping is looked for further away than this. -/
def maxSteps : Nat := 975

/-- The text of a node. A mapping stands for what is under its equals sign. -/
def text (s : Survey) : Nat → Nat → Except Fault Text
  | 0, _ => .error .tooDeep
  | steps + 1, n =>
    match s.content n with
    | .scalar t => .ok t
    | .sequence _ => .error .malformed
    | .mapping es =>
      match es.find? fun e => s.tag e.1 = .value with
      | some e => text s steps e.2
      | none => .error .malformed

def scalarAt (s : Survey) (n : Nat) : Except Fault Scalar :=
  if (s.tag n).isForeign then .error .malformed
  else do
    let t ← s.text maxSteps n
    if s.tag n = .timestamp && (s.entries? n).isSome then .error (.unreadable .mappingTimestamp)
    else scalarValue (s.tag n) t

def emptyCell? : Tag → Option Cell
  | .sequence | .omap | .pairs => some (.list [])
  | .mapping => some (.map [])
  | .set => some (.set [])
  | _ => none

def meet (s : Survey) (n : Nat) : Except Fault Survey :=
  if (s.cells[n]?.getD none).isSome then .ok s
  else match emptyCell? (s.tag n) with
    | some c => .ok { s.fill n c with below := n :: s.below }
    | none => (s.scalarAt n).map fun x => s.fill n (.scalar x)

def isScalar (s : Survey) (n : Nat) : Bool :=
  match s.cells[n]? with
  | some (some (.scalar _)) => true
  | _ => false

def meetEntry (s : Survey) (e : Nat × Nat) : Except Fault Survey := do
  let s ← s.meet e.1
  if s.isScalar e.1 then s.meet e.2 else .error .malformed

def sources? (s : Survey) (n : Nat) : Option (List Nat) :=
  match s.content n with
  | .mapping _ => some [n]
  | .sequence ns => some ns
  | .scalar _ => none

def gather (flatten : Survey → Nat → Except Fault Survey) (s : Survey) (ns : List Nat) :
    Except Fault (Survey × List (Nat × Nat)) :=
  ns.foldlM (fun (s, gathered) n =>
    if (s.entries? n).isNone then .error .malformed
    else do
      let s ← flatten s n
      .ok (s, (s.entries? n).getD [] ++ gathered)) (s, [])

/-- Takes the merge keys out of a mapping one after the other, at most `count` of them, and gives what they
stand for. -/
def takeMerges (flatten : Survey → Nat → Except Fault Survey) (n : Nat) :
    Nat → Survey → List (Nat × Nat) → Except Fault (Survey × List (Nat × Nat))
  | 0, s, merged => .ok (s, merged)
  | count + 1, s, merged =>
    let es := (s.entries? n).getD []
    match es.find? fun e => s.tag e.1 = .merge with
    | none => .ok (s, merged)
    | some e =>
      match s.sources? e.2 with
      | none => .error .malformed
      | some ns => do
        let (s, gathered) ← gather flatten (s.setEntries n (es.eraseP fun e => s.tag e.1 = .merge)) ns
        takeMerges flatten n count s (merged ++ gathered)

/-- An equals sign is a text from where it is a key on. -/
def settleKey (s : Survey) (k : Nat) : Survey :=
  if s.tag k = .value then { s with nodes := s.nodes.setIfInBounds k ⟨.text, s.content k⟩ } else s

/-- Puts what merge keys stand for in front of the other entries of a mapping. -/
def flatten : Nat → Survey → Nat → Except Fault Survey
  | 0, _, _ => .error .tooDeep
  | steps + 1, s, n => do
    let count := ((s.entries? n).getD []).length
    let (s, merged) ← takeMerges (flatten steps) n count s []
    let es := merged ++ (s.entries? n).getD []
    .ok (es.foldl (fun s e => s.settleKey e.1) (s.setEntries n es))

def meetPair (s : Survey) (n : Nat) : Except Fault (Survey × Nat) :=
  match s.entries? n with
  | some [(k, v)] => do
    let s ← (← s.meet k).meet v
    .ok ({ s with cells := s.cells.push (some (.pair k v)) }, s.cells.size)
  | _ => .error .malformed

def meetPairs (s : Survey) : List Nat → Except Fault (Survey × List Nat)
  | [] => .ok (s, [])
  | n :: ns => do
    let (s, pair) ← s.meetPair n
    let (s, pairs) ← s.meetPairs ns
    .ok (s, pair :: pairs)

def enter (s : Survey) (n : Nat) : Except Fault Survey :=
  match s.tag n, s.content n with
  | .sequence, .sequence ns => do
    let s ← ns.foldlM meet s
    .ok (s.fill n (.list ns))
  | .omap, .sequence ns | .pairs, .sequence ns => do
    let (s, pairs) ← s.meetPairs ns
    .ok (s.fill n (.list pairs))
  | .mapping, .mapping _ => do
    let s ← flatten maxSteps s n
    let es := (s.entries? n).getD []
    let s ← es.foldlM meetEntry s
    .ok (s.fill n (.map es))
  | .set, .mapping _ => do
    let s ← flatten maxSteps s n
    let es := (s.entries? n).getD []
    let s ← es.foldlM meetEntry s
    .ok (s.fill n (.set (es.map Prod.fst)))
  | _, _ => .error .malformed

def enterLevels : Nat → Survey → Except Fault Survey
  | 0, s => .ok s
  | fuel + 1, s =>
    if s.below.isEmpty then .ok s
    else do enterLevels fuel (← s.below.reverse.foldlM enter { s with below := [] })

end Survey

/-- A cell with every key at the first of its places only. -/
def Cell.settled (keyAt : Nat → Scalar) : Cell → Cell
  | .map es => .map (Assoc.ofPairs (fun k => (keyAt k).canon) es)
  | .set ns => .set ((Assoc.ofPairs (fun k => (keyAt k).canon) (ns.map fun n => (n, ()))).map Prod.fst)
  | c => c

namespace Document

def survey (d : Document) : Except Fault Survey := do
  let s ← Survey.meet ⟨d.nodes, Array.replicate d.nodes.size none, []⟩ d.root
  s.enterLevels d.nodes.size

def value (d : Document) : Except Fault Value := do
  let s ← d.survey
  let g : Graph := ⟨s.cells.map fun c => c.getD (.scalar .null), d.root⟩
  return Graph.value { g with cells := g.cells.map (Cell.settled g.keyAt) }

end Document

def read (s : Source) : Except Fault Value := do
  match ← Document.ofTokens (.ofSource s) with
  | some d => d.value
  | none => .ok .null

end TokenIntake.Yaml
