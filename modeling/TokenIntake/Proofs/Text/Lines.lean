import TokenIntake.Proofs.Text.Ascii
import TokenIntake.Proofs.Text.Digits

namespace TokenIntake.Text

def lines (t : Text) : List Text := t.splitOn '\n'

def breaks (t : Text) : Nat := t.count ('\n' : CodePoint)

theorem breaks_eq_zero_iff {t : Text} : t.breaks = 0 ↔ ('\n' : CodePoint) ∉ t := List.count_eq_zero

@[simp] theorem breaks_append (t u : Text) : (t ++ u).breaks = t.breaks + u.breaks := List.count_append

theorem length_lines (t : Text) : t.lines.length = t.breaks + 1 := by
  induction t with
  | nil => rfl
  | cons c cs ih =>
    obtain ⟨part, parts, split⟩ := List.exists_cons_of_ne_nil (splitOn_ne_nil cs '\n')
    rw [lines, split] at ih
    by_cases same : c = '\n'
    · simp [lines, breaks, splitOn, same, split] at ih ⊢
      exact ih
    · simp [lines, breaks, splitOn, same, split] at ih ⊢
      exact ih

theorem lines_append_break (t u : Text) : (t ++ ('\n' : CodePoint) :: u).lines = t.lines ++ u.lines := by
  induction t with
  | nil => simp [lines, splitOn]
  | cons c cs ih =>
    obtain ⟨part, parts, split⟩ := List.exists_cons_of_ne_nil (splitOn_ne_nil cs '\n')
    rw [lines, lines, split, lines, List.cons_append] at ih
    by_cases same : c = '\n'
    · simp [lines, splitOn, same, split, ih]
    · simp [lines, splitOn, same, split, ih]

theorem lines_join {parts : List Text} (some : parts ≠ []) : (join "\n" parts).lines = parts.flatMap lines := by
  induction parts with
  | nil => exact (some rfl).elim
  | cons t ts ih =>
    cases ts with
    | nil => rw [join, List.flatMap_singleton]
    | cons u us =>
      have joined : join "\n" (t :: u :: us) = t ++ ('\n' : CodePoint) :: join "\n" (u :: us) :=
        List.append_assoc t _ _
      rw [joined, lines_append_break, ih (List.cons_ne_nil u us)]
      rfl

theorem breaks_join {sep : Text} (unbroken : ('\n' : CodePoint) ∉ sep) (ts : List Text) :
    (join sep ts).breaks = (ts.map breaks).sum := by
  induction ts with
  | nil => rfl
  | cons t ts ih =>
    cases ts with
    | nil => rw [join, List.map_singleton, List.sum_singleton]
    | cons u us =>
      have joined : join sep (t :: u :: us) = t ++ sep ++ join sep (u :: us) := rfl
      rw [joined, breaks_append, breaks_append, breaks_eq_zero_iff.mpr unbroken, ih, Nat.add_zero]
      rfl

theorem sum_breaks_eq_zero_iff {ts : List Text} : (ts.map breaks).sum = 0 ↔ ∀ t ∈ ts, ('\n' : CodePoint) ∉ t := by
  induction ts with
  | nil => simp
  | cons t ts ih => simp only [List.map_cons, List.sum_cons, Nat.add_eq_zero_iff, ih, List.forall_mem_cons,
      breaks_eq_zero_iff]

theorem length_flatMap_lines (parts : List Text) :
    (parts.flatMap lines).length = parts.length + (parts.map breaks).sum := by
  induction parts with
  | nil => rfl
  | cons t ts ih =>
    rw [List.flatMap_cons, List.length_append, length_lines, ih, List.length_cons, List.map_cons, List.sum_cons]
    omega

theorem flatMap_lines_eq_self_iff {parts : List Text} :
    parts.flatMap lines = parts ↔ ∀ t ∈ parts, ('\n' : CodePoint) ∉ t := by
  constructor
  · intro same
    have count := length_flatMap_lines parts
    rw [same] at count
    exact sum_breaks_eq_zero_iff.mp (by omega)
  · intro unbroken
    calc parts.flatMap lines = parts.flatMap fun t => [t] :=
          List.flatMap_congr fun t isPart => splitOn_of_not_mem (unbroken t isPart)
      _ = parts := List.flatMap_singleton' parts

@[simp] theorem breaks_padEnd (t : Text) (width : Nat) : (t.padEnd width).breaks = t.breaks := by
  have padding : breaks (List.replicate (width - t.length) (' ' : CodePoint)) = 0 :=
    breaks_eq_zero_iff.mpr fun inside => absurd (List.eq_of_mem_replicate inside) (by decide)
  rw [padEnd, breaks_append, padding, Nat.add_zero]

@[simp] theorem breaks_ofNat (n : Nat) : (ofNat n).breaks = 0 :=
  breaks_eq_zero_iff.mpr fun inside => absurd (isDigit_of_mem_ofNat inside) (by decide)

theorem unbroken_hex (width n : Nat) : ('\n' : CodePoint) ∉ hex width n := by
  intro inside
  rcases List.mem_append.mp inside with padding | digits
  · exact absurd (List.eq_of_mem_replicate padding) (by decide)
  · exact forall_mem_toDigits (p := (· ≠ '\n')) (by decide) (by decide) (by decide) n _ digits rfl

theorem unbroken_codePointQuoted {mark c : CodePoint} (visible : mark ≠ '\n') : ('\n' : CodePoint) ∉ mark.quoted c := by
  have escape : ∀ (start : Text) (width : Nat), ('\n' : CodePoint) ∉ start →
      ('\n' : CodePoint) ∉ start ++ hex width c.val := fun start width unbroken inside =>
    (List.mem_append.mp inside).elim unbroken (unbroken_hex width c.val)
  unfold CodePoint.quoted
  split
  · rename_i special
    have other : c ≠ '\n' := by
      rcases special with rfl | rfl
      · exact visible
      · decide
    simp only [List.mem_cons, List.not_mem_nil, or_false, not_or]
    exact ⟨by decide, other.symm⟩
  · split
    · decide
    · split
      · decide
      · rename_i other
        split
        · decide
        · split
          · simpa using Ne.symm other
          · split
            · exact escape "\\x" 2 (by decide)
            · split
              · exact escape "\\u" 4 (by decide)
              · exact escape "\\U" 8 (by decide)

theorem unbroken_quoted (t : Text) : ('\n' : CodePoint) ∉ t.quoted := by
  have mark : (if t.contains '\'' && !t.contains '"' then ('"' : CodePoint) else '\'') ≠ '\n' := by
    split <;> decide
  rw [Text.quoted]
  intro inside
  rcases List.mem_append.mp inside with inBody | inEnd
  · rcases List.mem_cons.mp inBody with isMark | inPieces
    · exact mark isMark.symm
    · obtain ⟨d, _, inPiece⟩ := List.mem_flatMap.mp inPieces
      exact unbroken_codePointQuoted mark inPiece
  · exact mark (List.mem_singleton.mp inEnd).symm

end TokenIntake.Text
