import TokenIntake.Render.Fault
import TokenIntake.Value.Display
import TokenIntake.Value.Sharing

namespace TokenIntake.Render

def shown (v : Value) : Except Fault Text := v.shown.mapError .unwritable

def cell (v : Value) : Except Fault Text :=
  match v.opened with
  | .null => .ok "-"
  | .list [] => .ok "-"
  | .list xs => (xs.mapM shown).map (Text.join ", ")
  | _ => shown v

def rowWidth : Nat := 15

def rowCell (t : Text) : Text := Text.padEnd (t.take rowWidth) rowWidth

def cellUnder (item : Value) (header : Scalar) : Except Fault Text :=
  match item.entries? with
  | none => .error (.notRow item.kindName)
  | some entries =>
    match Mapping.get? entries header with
    | some v => (cell v).map rowCell
    | none => .ok (rowCell [])

def row (headers : List Scalar) (item : Value) : Except Fault Text :=
  (headers.mapM (cellUnder item)).map (Text.join " | ")

def rows (headers : List Scalar) (items : List Value) : Except Fault Text := do
  let lines ← items.mapM (row headers)
  let title := Text.join " | " (headers.map fun h => Text.padEnd h.display rowWidth)
  .ok (Text.join "\n" (title :: List.replicate (headers.length * 17) ('-' : CodePoint) :: lines))

def maxWidth : Nat := 0x7FFFFFFFFFFFFFFF

/-- A text of this width is more than memory holds. -/
def unholdableWidth : Nat := 0x80000000

def checkedWidth (keyWidth : Int) : Except Fault Nat :=
  if maxWidth < keyWidth.natAbs then .error .widthOverflow
  else if keyWidth < 0 then .error .negativeWidth
  else if unholdableWidth ≤ keyWidth.toNat then .error .outOfMemory
  else .ok keyWidth.toNat

def pair (keyWidth : Int) (e : Scalar × Value) : Except Fault Text := do
  let width ← checkedWidth keyWidth
  let text ← cell e.2
  .ok (Text.padEnd e.1.display width ++ " " ++ text)

def pairs (keyWidth : Int) (entries : Mapping) : Except Fault Text :=
  (entries.mapM (pair keyWidth)).map (Text.join "\n")

def table (keyWidth : Int) (v : Value) : Except Fault Text :=
  match v.opened with
  | .map entries => pairs keyWidth entries
  | .list (first :: rest) =>
    match first.entries? with
    | some entries => rows (entries.map Prod.fst) (first :: rest)
    | none => ((first :: rest).mapM shown).map (Text.join "\n")
  | .list [] => .ok []
  | _ => shown v

end TokenIntake.Render
