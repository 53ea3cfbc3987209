import TokenIntake.Json.Indented
import TokenIntake.Proofs.Except
import TokenIntake.Proofs.Text.Ascii
import TokenIntake.Proofs.Value.Reading

namespace TokenIntake.Json

open Text

theorem legible_unicodeEscape (n : Nat) : Legible (unicodeEscape n) :=
  (legible_append _ _).mpr ⟨by decide, legible_hex 4 n⟩

theorem legible_shortEscape {c : CodePoint} {t : Text} (escaped : shortEscape? c = some t) : Legible t := by
  unfold shortEscape? at escaped
  repeat' split at escaped
  all_goals cases escaped
  all_goals decide

theorem legible_asciiEscape (c : CodePoint) : Legible (asciiEscape c) := by
  unfold asciiEscape
  split
  · rename_i escaped
    exact legible_shortEscape escaped
  · split
    · rename_i printable
      have small : c.isLegible = true := CodePoint.isLegible_of_range (by omega) (by omega)
      simpa using small
    · split
      · exact legible_unicodeEscape _
      · exact (legible_append _ _).mpr ⟨legible_unicodeEscape _, legible_unicodeEscape _⟩

theorem legible_asciiString (t : Text) : Legible (asciiString t) := by
  simp only [asciiString, legible_append]
  exact ⟨⟨by decide, legible_flatMap fun c _ => legible_asciiEscape c⟩, by decide⟩

theorem legible_floatText (x : Binary64) : Legible (floatText x) := by
  cases x with
  | nan => decide
  | infinite negative => cases negative <;> decide
  | finite negative m e => exact Binary64.legible_text (.finite negative m e)

theorem legible_scalarText (s : Scalar) : Legible (scalarText asciiString s) := by
  cases s with
  | null => decide
  | bool b => cases b <;> decide
  | int i => exact legible_ofInt i
  | float x => exact legible_floatText x
  | text t => exact legible_asciiString t
  | bytes bs => exact legible_asciiString _
  | time t => exact legible_asciiString _

theorem legible_newLine (level : Nat) : Legible (newLine level) :=
  (legible_cons _ _).mpr ⟨by decide, legible_spaces _⟩

theorem legible_nameText {s : Scalar} {t : Text} (written : nameText s = .ok t) : Legible t := by
  unfold nameText at written
  split at written
  · cases written
  · cases written
  · split at written
    · cases written
    · cases written
      exact legible_asciiString _

theorem eq_of_writtenAt {α : Type} {level : Nat} {inside : Except Unwritable α} {a : α}
    (written : writtenAt level inside = .ok a) : inside = .ok a := by
  unfold writtenAt at written
  split at written
  · cases written
  · exact written

theorem legible_writeScalar {s : Scalar} {level : Nat} {t : Text} (written : writeScalar s level = .ok t) :
    Legible t := by
  have text : (if s.isLong then .error .longInteger else .ok (scalarText asciiString s) : Except Unwritable Text) =
      .ok t := by
    cases s with
    | bytes bs => exact eq_of_writtenAt written
    | time at? => exact eq_of_writtenAt written
    | _ => exact written
  split at text
  · cases text
  · cases text
    exact legible_scalarText s

theorem legible_writeSet {elements : List Scalar} {level : Nat} {t : Text} (written : writeSet elements level = .ok t) :
    Legible t := by
  have text := eq_of_writtenAt written
  split at text
  · cases text
  · cases text
    exact legible_asciiString _

def AllLegible (written : Except Unwritable (List Text)) : Prop := ∀ ps, written = .ok ps → ∀ p ∈ ps, Legible p

theorem lines_legible (level : Nat) (parts : List (Except Unwritable (List Text)))
    (each : ∀ part ∈ parts, AllLegible part) : AllLegible (lines level parts) := by
  induction parts with
  | nil =>
    intro ps written
    cases written
    simp
  | cons part rest ih =>
    have later := ih fun other inside => each other (List.mem_cons_of_mem part inside)
    intro ps written
    obtain ⟨pieces, now, written⟩ := bind_eq_ok written
    obtain ⟨others, more, written⟩ := bind_eq_ok written
    cases written
    have comma : ∀ p ∈ (if rest.isEmpty then [] else [("," : Text)]), Legible p := by
      split
      · simp
      · decide
    simp only [List.forall_mem_append, List.forall_mem_singleton]
    exact ⟨⟨⟨legible_newLine level, each part List.mem_cons_self pieces now⟩, comma⟩, later others more⟩

theorem bracketed_legible {left right : Text} (opening : Legible left) (closing : Legible right) (level : Nat)
    (parts : List (Except Unwritable (List Text))) (each : ∀ part ∈ parts, AllLegible part) :
    AllLegible (bracketed left right level parts) := by
  intro ps written
  unfold bracketed at written
  split at written
  · cases eq_of_writtenAt written
    simpa using ⟨opening, closing⟩
  · replace written := eq_of_writtenAt written
    obtain ⟨body, inner, written⟩ := bind_eq_ok written
    cases written
    simp only [List.forall_mem_append, List.forall_mem_cons]
    exact ⟨⟨⟨opening, by simp⟩, lines_legible (level + 1) parts each body inner⟩, legible_newLine level, closing,
      by simp⟩

theorem member_legible {level : Nat} {e : Scalar × Indented} (value : AllLegible (e.2 level)) :
    AllLegible (member level e) := by
  intro ps written
  obtain ⟨t, name, written⟩ := bind_eq_ok written
  obtain ⟨others, pieces, written⟩ := bind_eq_ok written
  cases written
  simp only [List.forall_mem_cons]
  exact ⟨legible_nameText name, by decide, value others pieces⟩

theorem indentedReading_keeps_legible : indentedReading.Keeps fun x => ∀ level, AllLegible (x level) where
  scalar s level ps written := by
    obtain ⟨t, text, rfl⟩ := map_eq_ok written
    exact List.forall_mem_singleton.mpr (legible_writeScalar text)
  list xs each level := by
    refine bracketed_legible (by decide) (by decide) level _ fun part inside => ?_
    obtain ⟨x, isItem, rfl⟩ := List.mem_map.mp inside
    exact each x isItem (level + 1)
  map es each level := by
    refine bracketed_legible (by decide) (by decide) level _ fun part inside => ?_
    obtain ⟨e, isEntry, rfl⟩ := List.mem_map.mp inside
    exact member_legible (each e isEntry (level + 1))
  set elements level ps written := by
    obtain ⟨t, text, rfl⟩ := map_eq_ok written
    exact List.forall_mem_singleton.mpr (legible_writeSet text)
  pair first second one other level :=
    bracketed_legible (by decide) (by decide) level _
      (List.forall_mem_cons.mpr ⟨one (level + 1), List.forall_mem_singleton.mpr (other (level + 1))⟩)
  listAgain level ps written := by cases written
  mapAgain level ps written := by cases written
  pairAgain level ps written := by cases written

theorem print_legible {v : Value} {t : Text} (printed : print v = .ok t) : Legible t := by
  unfold print at printed
  cases pieces : v.read indentedReading 0 with
  | error u =>
    rw [pieces] at printed
    cases printed
  | ok ps =>
    rw [pieces] at printed
    cases printed
    exact legible_flatten (indentedReading_keeps_legible.read v 0 ps pieces)

end TokenIntake.Json
