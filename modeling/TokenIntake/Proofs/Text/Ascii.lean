import TokenIntake.Number.Notation
import TokenIntake.Text.Quoted
import TokenIntake.Value.Timestamp

namespace TokenIntake

def CodePoint.isLegible (c : CodePoint) : Bool := c.val = 0x0A || 0x20 ≤ c.val && c.val ≤ 0x7E

theorem CodePoint.isLegible_of_range {c : CodePoint} (least : 0x20 ≤ c.val) (most : c.val ≤ 0x7E) :
    c.isLegible = true := by
  simp [isLegible, least, most]

namespace Text

def Legible (t : Text) : Prop := ∀ c ∈ t, c.isLegible = true

instance (t : Text) : Decidable t.Legible := inferInstanceAs (Decidable (∀ c ∈ t, c.isLegible = true))

@[simp] theorem legible_nil : Legible [] := by simp [Legible]

@[simp] theorem legible_cons (c : CodePoint) (t : Text) : Legible (c :: t) ↔ c.isLegible = true ∧ Legible t := by
  simp [Legible]

@[simp] theorem legible_append (t u : Text) : Legible (t ++ u) ↔ Legible t ∧ Legible u := List.forall_mem_append

@[simp] theorem legible_reverse (t : Text) : Legible t.reverse ↔ Legible t := by
  simp [Legible]

theorem legible_flatMap {α : Type} {f : α → Text} {xs : List α} (each : ∀ x ∈ xs, Legible (f x)) :
    Legible (xs.flatMap f) := by
  intro c inside
  obtain ⟨x, isItem, inItem⟩ := List.mem_flatMap.mp inside
  exact each x isItem c inItem

theorem legible_flatten {ts : List Text} (each : ∀ t ∈ ts, Legible t) : Legible ts.flatten := by
  intro c inside
  obtain ⟨t, isItem, inItem⟩ := List.mem_flatten.mp inside
  exact each t isItem c inItem

theorem legible_replicate (n : Nat) {c : CodePoint} (legible : c.isLegible = true) : Legible (List.replicate n c) := by
  intro d inside
  rw [List.eq_of_mem_replicate inside]
  exact legible

theorem legible_spaces (n : Nat) : Legible (spaces n) := legible_replicate n (by decide)

theorem Legible.subset {t u : Text} (legible : Legible u) (within : t ⊆ u) : Legible t :=
  fun c inside => legible c (within inside)

theorem dropEndWhile_subset (t : Text) (p : CodePoint → Bool) : t.dropEndWhile p ⊆ t := by
  intro c inside
  have kept := List.mem_reverse.mp inside
  exact List.mem_reverse.mp ((List.dropWhile_sublist p).subset kept)

theorem mem_join {sep : Text} {c : CodePoint} {ts : List Text} (inside : c ∈ join sep ts) :
    c ∈ sep ∨ ∃ t ∈ ts, c ∈ t := by
  induction ts with
  | nil => cases inside
  | cons t ts ih =>
    cases ts with
    | nil => exact .inr ⟨t, List.mem_cons_self, inside⟩
    | cons u us =>
      rw [join] at inside
      · rcases List.mem_append.mp inside with first | later
        · rcases List.mem_append.mp first with inPart | inSep
          · exact .inr ⟨t, List.mem_cons_self, inPart⟩
          · exact .inl inSep
        · rcases ih later with inSep | ⟨u', isPart, inPart⟩
          · exact .inl inSep
          · exact .inr ⟨u', List.mem_cons_of_mem t isPart, inPart⟩
      · intro none
        cases none

theorem subset_join {sep t : Text} {ts : List Text} (isPart : t ∈ ts) : t ⊆ join sep ts := by
  induction ts with
  | nil => cases isPart
  | cons first ts ih =>
    intro c inside
    cases ts with
    | nil =>
      rw [List.mem_singleton] at isPart
      exact isPart ▸ inside
    | cons u us =>
      have joined : join sep (first :: u :: us) = first ++ sep ++ join sep (u :: us) := rfl
      rw [joined]
      rcases List.mem_cons.mp isPart with same | later
      · exact List.mem_append_left _ (List.mem_append_left _ (same ▸ inside))
      · exact List.mem_append_right _ (ih later inside)

theorem subset_of_mem_splitOn {t part : Text} {sep : CodePoint} (isPart : part ∈ t.splitOn sep) : part ⊆ t := by
  have inside : part ⊆ join [sep] (t.splitOn sep) := subset_join isPart
  rwa [join_splitOn] at inside

theorem forall_mem_toDigits {base : Nat} {p : CodePoint → Prop} (least : 1 < base) (most : base ≤ 16)
    (digit : ∀ d < 16, p (CodePoint.ofChar d.digitChar)) (n : Nat) :
    ∀ c ∈ (Nat.toDigits base n).map CodePoint.ofChar, p c := by
  induction n using Nat.strongRecOn with
  | ind n ih =>
    by_cases small : n < base
    · rw [Nat.toDigits_of_lt_base small]
      simpa using digit n (by omega)
    · rw [Nat.toDigits_of_base_le least (by omega), List.map_append, List.forall_mem_append]
      have last : n % base < base := Nat.mod_lt n (by omega)
      exact ⟨ih (n / base) (Nat.div_lt_self (by omega) least), by simpa using digit (n % base) (by omega)⟩

theorem legible_toDigits {base : Nat} (least : 1 < base) (most : base ≤ 16) (n : Nat) :
    Legible ((Nat.toDigits base n).map .ofChar) :=
  forall_mem_toDigits least most (by decide) n

theorem legible_ofNat (n : Nat) : Legible (ofNat n) := legible_toDigits (by decide) (by decide) n

theorem legible_ofInt (i : Int) : Legible (ofInt i) := by
  cases i with
  | ofNat n => exact legible_ofNat n
  | negSucc n => exact (legible_cons _ _).mpr ⟨by decide, legible_ofNat (n + 1)⟩

theorem legible_padded (width n : Nat) : Legible (padded width n) :=
  (legible_append _ _).mpr ⟨legible_replicate _ (by decide), legible_ofNat n⟩

theorem legible_hex (width n : Nat) : Legible (hex width n) :=
  (legible_append _ _).mpr ⟨legible_replicate _ (by decide), legible_toDigits (by decide) (by decide) n⟩

theorem legible_upperHex (width n : Nat) : Legible (upperHex width n) := by
  intro c inside
  obtain ⟨d, isDigit, rfl⟩ := List.mem_map.mp inside
  have legible := legible_hex width n d isDigit
  unfold CodePoint.asciiUpper
  split
  · rename_i lower
    simp only [CodePoint.isLegible, CodePoint.isLower, Bool.and_eq_true, Bool.or_eq_true, decide_eq_true_eq] at lower ⊢
    omega
  · exact legible

theorem Legible.hasSurrogate {t : Text} (legible : Legible t) : t.hasSurrogate = false := by
  rw [Text.hasSurrogate, List.any_eq_false]
  intro c inside surrogate
  have small := legible c inside
  simp only [CodePoint.isLegible, CodePoint.isSurrogate, decide_eq_true_eq, Bool.and_eq_true, Bool.or_eq_true]
    at small surrogate
  omega

theorem hasSurrogate_eq_false_iff (t : Text) : t.hasSurrogate = false ↔ ∀ c ∈ t, c.isSurrogate = false := by
  simp [hasSurrogate]

theorem hasSurrogate_of_subset {t u : Text} (within : t ⊆ u) (without : u.hasSurrogate = false) :
    t.hasSurrogate = false :=
  (hasSurrogate_eq_false_iff t).mpr fun c inside => (hasSurrogate_eq_false_iff u).mp without c (within inside)

@[simp] theorem hasSurrogate_append (t u : Text) : (t ++ u).hasSurrogate = (t.hasSurrogate || u.hasSurrogate) :=
  List.any_append

theorem hasSurrogate_join {sep : Text} (apart : sep.hasSurrogate = false) (ts : List Text) :
    (join sep ts).hasSurrogate = ts.any hasSurrogate := by
  cases parts : ts.any hasSurrogate with
  | false =>
    rw [hasSurrogate_eq_false_iff]
    intro c inside
    rcases mem_join inside with inSep | ⟨t, isPart, inPart⟩
    · exact (hasSurrogate_eq_false_iff sep).mp apart c inSep
    · have without := List.any_eq_false.mp parts t isPart
      exact (hasSurrogate_eq_false_iff t).mp (by simpa using without) c inPart
  | true =>
    obtain ⟨t, isPart, found⟩ := List.any_eq_true.mp parts
    cases joined : (join sep ts).hasSurrogate with
    | true => rfl
    | false => rw [hasSurrogate_of_subset (subset_join isPart) joined] at found; cases found

@[simp] theorem hasSurrogate_padEnd (t : Text) (width : Nat) : (t.padEnd width).hasSurrogate = t.hasSurrogate := by
  have padding : Text.hasSurrogate (List.replicate (width - t.length) (' ' : CodePoint)) = false :=
    (legible_replicate _ (by decide)).hasSurrogate
  rw [padEnd, hasSurrogate_append, padding, Bool.or_false]

theorem not_isPrintable_of_isSurrogate {c : CodePoint} (surrogate : c.isSurrogate = true) : c.isPrintable = false := by
  simp only [CodePoint.isSurrogate, Bool.and_eq_true, decide_eq_true_eq] at surrogate
  have notAscii : c.isAscii = false := by
    simp only [CodePoint.isAscii, decide_eq_false_iff_not]
    omega
  have listed : (0xD7FC, 0xF8FF) ∈ CodePoint.unprintable := by decide +kernel
  simp only [CodePoint.isPrintable, notAscii, Bool.false_eq_true, if_false, Bool.not_eq_false', List.any_eq_true]
  refine ⟨_, listed, ?_⟩
  simp only [Bool.and_eq_true, decide_eq_true_eq]
  omega

theorem hasSurrogate_codePointQuoted {mark : CodePoint} (whole : mark.isSurrogate = false) (c : CodePoint) :
    hasSurrogate (mark.quoted c) = false := by
  have escape : ∀ (start : Text) (width : Nat), Legible start → hasSurrogate (start ++ hex width c.val) = false :=
    fun start width legible => ((legible_append _ _).mpr ⟨legible, legible_hex width c.val⟩).hasSurrogate
  unfold CodePoint.quoted
  split
  · rename_i escaped
    rw [hasSurrogate_eq_false_iff]
    simp only [List.forall_mem_cons]
    refine ⟨by decide, ?_, by simp⟩
    rcases escaped with rfl | rfl
    · exact whole
    · decide
  · split
    · decide
    · split
      · decide
      · split
        · decide
        · split
          · rename_i printable
            have noSurrogate : c.isSurrogate = false := Bool.eq_false_iff.mpr fun surrogate => by
              rw [not_isPrintable_of_isSurrogate surrogate] at printable
              cases printable
            simpa [hasSurrogate] using noSurrogate
          · split
            · exact escape "\\x" 2 (by decide)
            · split
              · exact escape "\\u" 4 (by decide)
              · exact escape "\\U" 8 (by decide)

theorem hasSurrogate_quoted (t : Text) : t.quoted.hasSurrogate = false := by
  have mark : CodePoint.isSurrogate (if t.contains '\'' && !t.contains '"' then '"' else '\'') = false := by
    split <;> decide
  rw [Text.quoted, hasSurrogate_eq_false_iff]
  intro c inside
  rcases List.mem_append.mp inside with inBody | inEnd
  · rcases List.mem_cons.mp inBody with rfl | inPieces
    · exact mark
    · obtain ⟨d, _, inPiece⟩ := List.mem_flatMap.mp inPieces
      exact (hasSurrogate_eq_false_iff _).mp (hasSurrogate_codePointQuoted mark d) c inPiece
  · rw [List.mem_singleton.mp inEnd]
    exact mark

end Text

open Text

theorem Binary64.legible_positional {digits : Text} (legible : Legible digits) (point : Int) :
    Legible (positional digits point) := by
  have zeros : ∀ n, Legible (List.replicate n ('0' : CodePoint)) := fun n => legible_replicate n (by decide)
  have fraction : Legible (if digits.length ≤ point.toNat then ("0" : Text) else digits.drop point.toNat) := by
    split
    · decide
    · exact legible.subset (List.drop_subset _ _)
  unfold positional
  split
  · simp only [legible_append]
    exact ⟨⟨by decide, zeros _⟩, legible⟩
  · simp only [legible_append]
    exact ⟨⟨⟨legible.subset (List.take_subset _ _), zeros _⟩, by decide⟩, fraction⟩

theorem Binary64.legible_scientific {digits : Text} (legible : Legible digits) (point : Int) :
    Legible (scientific digits point) := by
  have size := legible_ofNat (point - 1).natAbs
  have fraction : Legible (if digits.length ≤ 1 then ([] : Text) else "." ++ digits.drop 1) := by
    split
    · exact legible_nil
    · exact (legible_append _ _).mpr ⟨by decide, legible.subset (List.drop_subset _ _)⟩
  have sign : Legible (if point - 1 < 0 then ("-" : Text) else "+") := by split <;> decide
  have exponent : Legible (if (ofNat (point - 1).natAbs).length < 2 then ("0" : Text) ++ ofNat (point - 1).natAbs
      else ofNat (point - 1).natAbs) := by
    split
    · exact (legible_append _ _).mpr ⟨by decide, size⟩
    · exact size
  simp only [scientific, legible_append]
  exact ⟨⟨⟨⟨legible.subset (List.take_subset _ _), fraction⟩, by decide⟩, sign⟩, exponent⟩

theorem Binary64.legible_text (x : Binary64) : Legible x.text := by
  cases x with
  | nan => decide
  | infinite negative => cases negative <;> decide
  | finite negative m e =>
    have sign : Legible (if negative then ("-" : Text) else []) := by split <;> decide
    refine (legible_append _ _).mpr ⟨sign, ?_⟩
    split
    · decide
    · rcases shortest m e with ⟨n, exponent⟩
      have digits := legible_ofNat n
      dsimp only
      split
      · exact legible_positional digits _
      · exact legible_scientific digits _

end TokenIntake
