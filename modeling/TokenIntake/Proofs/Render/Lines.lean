import Mathlib.Data.List.Forall2
import TokenIntake.Proofs.Render.Table
import TokenIntake.Proofs.Text.Lines

namespace TokenIntake.Render

open Text

theorem breaks_getD (o : Option Text) : (o.getD "-").breaks = (o.toList.map breaks).sum := by
  cases o with
  | none => rfl
  | some t => exact (Nat.add_zero _).symm

theorem breaks_listed (ts : List Text) : (listed ts).breaks = (ts.map breaks).sum := by
  cases ts with
  | nil => rfl
  | cons t ts => exact breaks_join (by decide) (t :: ts)

def fieldLine (width : Nat) (key shown : Text) : Text := key.padEnd width ++ " " ++ shown

section

variable {keyWidth : Int} {width : Nat} (possible : checkedWidth keyWidth = .ok width)

include possible

theorem pair_of_cell (key : Text) (v : Value) :
    pair keyWidth (.text key, v) = (cell v).map (fieldLine width key) := by
  rw [pair, possible]
  cases cell v <;> rfl

theorem pairs_ok {keys cells : List Text} {values : List Value}
    (shown : List.Forall₂ (fun v t => cell v = .ok t) values cells) :
    pairs keyWidth (keys.zipWith (fun key v => (.text key, v)) values) =
      .ok (join "\n" (keys.zipWith (fieldLine width) cells)) := by
  have lines : (keys.zipWith (fun key v => (Scalar.text key, v)) values).mapM (pair keyWidth) =
      .ok (keys.zipWith (fieldLine width) cells) := by
    induction shown generalizing keys with
    | nil => cases keys <;> rfl
    | cons here _ ih =>
      cases keys with
      | nil => rfl
      | cons key keys =>
        rw [List.zipWith_cons_cons, List.mapM_cons, pair_of_cell possible, here, ih]
        rfl
  rw [pairs, lines]
  rfl

theorem pairs_error {keys : List Text} {values : List Value} {f : Fault} (paired : values.length ≤ keys.length)
    (each : ∀ v ∈ values, (∃ t, cell v = .ok t) ∨ cell v = .error f) (some : ∃ v ∈ values, cell v = .error f) :
    pairs keyWidth (keys.zipWith (fun key v => (.text key, v)) values) = .error f := by
  have refused : (keys.zipWith (fun key v => (Scalar.text key, v)) values).mapM (pair keyWidth) = .error f := by
    apply mapM_error
    · intro e inside
      rw [← List.map_uncurry_zip_eq_zipWith] at inside
      obtain ⟨⟨key, v⟩, isPair, rfl⟩ := List.mem_map.mp inside
      rw [Function.uncurry_apply_pair, pair_of_cell possible]
      rcases each v (List.of_mem_zip isPair).2 with ⟨t, shown⟩ | failed
      · exact .inl ⟨_, by rw [shown]; rfl⟩
      · exact .inr (by rw [failed]; rfl)
    · obtain ⟨v, inside, failed⟩ := some
      obtain ⟨i, bound, rfl⟩ := List.getElem_of_mem inside
      refine ⟨_, List.mem_iff_getElem.mpr ⟨i, by simp; omega, rfl⟩, ?_⟩
      rw [List.getElem_zipWith, pair_of_cell possible, failed]
      rfl
  rw [pairs, refused]
  rfl

end

section

variable (width : Nat) {keys cells : List Text} (paired : keys.length = cells.length)

include paired

theorem length_fieldLines : (keys.zipWith (fieldLine width) cells).length = keys.length := by
  simp [paired]

theorem breaks_fieldLines (unbroken : ∀ key ∈ keys, ('\n' : CodePoint) ∉ key) :
    ((keys.zipWith (fieldLine width) cells).map breaks).sum = (cells.map breaks).sum := by
  induction keys generalizing cells with
  | nil =>
    cases cells with
    | nil => rfl
    | cons => cases paired
  | cons key keys ih =>
    cases cells with
    | nil => cases paired
    | cons shown cells =>
      obtain ⟨here, others⟩ := List.forall_mem_cons.mp unbroken
      have blank : Text.breaks (" " : Text) = 0 := rfl
      rw [List.zipWith_cons_cons, List.map_cons, List.sum_cons, ih (Nat.succ.inj paired) others, fieldLine,
        breaks_append, breaks_append, breaks_padEnd, breaks_eq_zero_iff.mpr here, blank, List.map_cons, List.sum_cons,
        Nat.add_zero, Nat.zero_add]

theorem fieldLines_start :
    List.Forall₂ (fun key line => Text.padEnd key width <+: line) keys (keys.zipWith (fieldLine width) cells) := by
  induction keys generalizing cells with
  | nil => exact .nil
  | cons key keys ih =>
    cases cells with
    | nil => cases paired
    | cons shown cells =>
      refine .cons ?_ (ih (Nat.succ.inj paired))
      rw [fieldLine, List.append_assoc]
      exact List.prefix_append _ _

theorem lines_of_fields (some : keys ≠ []) (unbroken : ∀ key ∈ keys, ('\n' : CodePoint) ∉ key) :
    (join "\n" (keys.zipWith (fieldLine width) cells)).lines.length = keys.length + (cells.map breaks).sum ∧
      (List.Forall₂ (fun key line => Text.padEnd key width <+: line) keys
        (join "\n" (keys.zipWith (fieldLine width) cells)).lines ↔ (cells.map breaks).sum = 0) := by
  have nonempty : keys.zipWith (fieldLine width) cells ≠ [] := by
    intro none
    have count := length_fieldLines width paired
    rw [none] at count
    exact some (List.length_eq_zero_iff.mp count.symm)
  have count : (join "\n" (keys.zipWith (fieldLine width) cells)).lines.length =
      keys.length + (cells.map breaks).sum := by
    rw [lines_join nonempty, length_flatMap_lines, length_fieldLines width paired,
      breaks_fieldLines width paired unbroken]
  refine ⟨count, fun inPlace => ?_, fun none => ?_⟩
  · have same := inPlace.length_eq
    omega
  · rw [← breaks_fieldLines width paired unbroken, sum_breaks_eq_zero_iff] at none
    rw [lines_join nonempty, flatMap_lines_eq_self_iff.mpr none]
    exact fieldLines_start width paired

end

end TokenIntake.Render
