import TokenIntake.Value.Sharing
import TokenIntake.Value.Unwritable

namespace TokenIntake.Yaml

structure Meetings where
  met : Array Bool
  again : List Nat

namespace Meetings

/-- No collection is written inside more than this many others. -/
def maxNesting : Nat := 327

def meetAgain (m : Meetings) (n : Nat) : Meetings :=
  if m.again.contains n then m else { m with again := n :: m.again }

/-- Meets all cells from a cell on, inside which `room` collections may lie in one another. -/
def meetFrom (g : Graph) : Nat → Meetings → Nat → Except Unwritable Meetings
  | room, m, n =>
    let c := g.cell n
    if Graph.canBeShared c && m.met[n]?.getD false then .ok (m.meetAgain n)
    else
      let m := { m with met := m.met.setIfInBounds n true }
      match c, room with
      | .scalar s, _ => if s.isLong then .error .longInteger else .ok m
      | .list _, 0 | .map _, 0 | .set _, 0 | .pair .., 0 => .error (.tooDeep [])
      | .list ns, room + 1 => ns.foldlM (meetFrom g room) m
      | .map es, room + 1 => es.foldlM (fun m e => do meetFrom g room (← meetFrom g room m e.1) e.2) m
      | .set ns, room + 1 => ns.foldlM (meetFrom g room) m
      | .pair l n, room + 1 => do meetFrom g room (← meetFrom g room m l) n

end Meetings

abbrev Anchors := List Nat

namespace Anchors

def ofGraph (g : Graph) : Except Unwritable Anchors := do
  let m ← Meetings.meetFrom g (Meetings.maxNesting) ⟨Array.replicate g.cells.size false, []⟩ g.root
  return m.again.reverse

def name? (as : Anchors) (n : Nat) : Option Text :=
  (as.findIdx? (· = n)).map fun i => "id" ++ Text.padded 3 (i + 1)

end Anchors

end TokenIntake.Yaml
