import TokenIntake.Proofs.Except
import TokenIntake.Proofs.Text.Ascii
import TokenIntake.Proofs.Value.Depth
import TokenIntake.Proofs.Value.Reading
import TokenIntake.Render.Table

namespace TokenIntake.Render

inductive Tidy : Value → Prop where
  | null : Tidy .null
  | int {i : Int} (short : Scalar.isLong (.int i) = false) : Tidy (.int i)
  | text {t : Text} (whole : t.hasSurrogate = false) : Tidy (.text t)
  | texts {ts : List Text} (whole : ∀ t ∈ ts, t.hasSurrogate = false) : Tidy (.list (ts.map .text))

theorem Tidy.plain {v : Value} (tidy : Tidy v) : v.Plain := by
  cases tidy with
  | null => exact .scalar rfl
  | int short => exact .int short
  | text whole => exact .text _
  | texts whole =>
    refine .list fun x inside => ?_
    obtain ⟨t, _, rfl⟩ := List.mem_map.mp inside
    exact .text t

theorem Tidy.depth {v : Value} (tidy : Tidy v) : v.depth ≤ 1 := by
  cases tidy with
  | null => exact Nat.zero_le 1
  | int short => exact Nat.zero_le 1
  | text whole => exact Nat.zero_le 1
  | texts whole =>
    refine Value.depth_list_le fun x inside => ?_
    obtain ⟨t, _, rfl⟩ := List.mem_map.mp inside
    exact Nat.le_refl 0

@[simp] theorem shown_text (t : Text) : shown (.text t) = .ok t := rfl

@[simp] theorem cell_text (t : Text) : cell (.text t) = .ok t := rfl

def listed : List Text → Text
  | [] => "-"
  | ts => Text.join ", " ts

theorem cell_texts (ts : List Text) : cell (.list (ts.map .text)) = .ok (listed ts) := by
  cases ts with
  | nil => rfl
  | cons t ts =>
    have items : ((t :: ts).map Value.text).mapM shown = .ok (t :: ts) := by
      rw [List.mapM_map, mapM_eq_map (g := id) fun u _ => ?_, List.map_id]
      exact shown_text u
    show (((t :: ts).map Value.text).mapM shown).map (Text.join ", ") = _
    rw [items]
    rfl

theorem cell_int (i : Int) :
    cell (.int i) = if Scalar.isLong (.int i) then .error (.unwritable .longInteger) else .ok (Text.ofInt i) := by
  have asked : Value.read Value.displayable (.int i) 0 =
      if Scalar.isLong (.int i) then .error .longInteger else .ok () := by
    simp only [Value.read, Value.displayable, Value.displayScalar, Value.displayedAt, Nat.not_lt_zero, if_false]
  have shows : cell (.int i) = shown (.int i) := rfl
  rw [shows, shown, Value.shown, asked]
  split <;> rfl

theorem cell_of_tidy {v : Value} (tidy : Tidy v) : ∃ t, cell v = .ok t ∧ t.hasSurrogate = false := by
  cases tidy with
  | null => exact ⟨_, rfl, by decide⟩
  | @int i short => exact ⟨Text.ofInt i, by rw [cell_int, short]; rfl, (Text.legible_ofInt i).hasSurrogate⟩
  | text whole => exact ⟨_, rfl, whole⟩
  | @texts ts whole =>
    refine ⟨listed ts, cell_texts ts, ?_⟩
    cases ts with
    | nil => decide
    | cons t ts =>
      have joined : listed (t :: ts) = Text.join ", " (t :: ts) := rfl
      rw [joined, Text.hasSurrogate_join (by decide), List.any_eq_false]
      exact fun u inside => by simp [whole u inside]

theorem table_of_tidy {keyWidth : Int} {width : Nat} (possible : checkedWidth keyWidth = .ok width) {es : Mapping}
    (tidy : ∀ e ∈ es, (∃ t, e.1 = .text t ∧ Text.hasSurrogate t = false) ∧ Tidy e.2) :
    ∃ t, table keyWidth (.map es) = .ok t ∧ t.hasSurrogate = false := by
  have line : ∀ e ∈ es, ∃ t, pair keyWidth e = .ok t ∧ Text.hasSurrogate t = false := by
    intro e inside
    obtain ⟨⟨key, named, wholeKey⟩, field⟩ := tidy e inside
    obtain ⟨t, shown, whole⟩ := cell_of_tidy field
    have display : e.1.display = key := by rw [named]; rfl
    refine ⟨Text.padEnd e.1.display width ++ " " ++ t, ?_, ?_⟩
    · simp only [pair, possible, shown, bind, Except.bind]
    · rw [Text.hasSurrogate_append, Text.hasSurrogate_append, Text.hasSurrogate_padEnd, display, wholeKey, whole]
      decide
  obtain ⟨lines, shown, whole⟩ := mapM_ok line
  refine ⟨Text.join "\n" lines, ?_, ?_⟩
  · show (es.mapM (pair keyWidth)).map (Text.join "\n") = _
    rw [shown]
    rfl
  · rw [Text.hasSurrogate_join (by decide), List.any_eq_false]
    exact fun t inside => by simp [whole t inside]

end TokenIntake.Render
