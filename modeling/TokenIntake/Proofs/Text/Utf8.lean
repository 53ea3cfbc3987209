import TokenIntake.Text.Utf8

namespace TokenIntake

theorem high_toUInt8 {n : Nat} (low : 0x80 ≤ n) (bound : n < 0x100) : 0x80 ≤ n.toUInt8 := by
  rw [UInt8.le_iff_toNat_le, UInt8.toNat_ofNat', Nat.mod_eq_of_lt bound]
  exact low

namespace CodePoint

variable {c : CodePoint}

theorem isAscii_iff : c.isAscii = true ↔ c.val < 0x80 := by
  rw [isAscii, decide_eq_true_iff]

theorem utf8_of_ascii (ascii : c.isAscii = true) : c.utf8 = [c.val.toUInt8] := by
  rw [utf8, if_pos (isAscii_iff.mp ascii)]

theorem utf8_of_not_ascii (other : c.isAscii = false) : 1 < c.utf8.length ∧ ∀ b ∈ c.utf8, 0x80 ≤ b := by
  have bound := c.val_lt
  have wide : ¬c.val < 0x80 := by rwa [← isAscii_iff, Bool.not_eq_true]
  -- one case for each length that an encoding can have
  unfold utf8
  rw [if_neg wide]
  split
  · simp only [List.forall_mem_cons]
    exact ⟨by simp, high_toUInt8 (by omega) (by omega), high_toUInt8 (by omega) (by omega), by simp⟩
  · split
    · simp only [List.forall_mem_cons]
      exact ⟨by simp, high_toUInt8 (by omega) (by omega), high_toUInt8 (by omega) (by omega),
        high_toUInt8 (by omega) (by omega), by simp⟩
    · simp only [List.forall_mem_cons]
      exact ⟨by simp, high_toUInt8 (by omega) (by omega), high_toUInt8 (by omega) (by omega),
        high_toUInt8 (by omega) (by omega), high_toUInt8 (by omega) (by omega), by simp⟩

theorem utf8_length_pos (c : CodePoint) : 0 < c.utf8.length := by
  cases ascii : c.isAscii with
  | true => simp [utf8_of_ascii ascii]
  | false => exact Nat.lt_of_succ_lt (utf8_of_not_ascii ascii).1

end CodePoint

namespace Text

theorem length_le_utf8Size (t : Text) : t.length ≤ t.utf8Size := by
  induction t with
  | nil => exact Nat.le_refl 0
  | cons c rest ih =>
    have some := c.utf8_length_pos
    rw [List.length_cons, utf8Size_cons]
    omega

theorem utf8Size_eq_length_iff {t : Text} : t.utf8Size = t.length ↔ ∀ c ∈ t, c.isAscii = true := by
  induction t with
  | nil => simp
  | cons c rest ih =>
    rw [utf8Size_cons, List.length_cons, List.forall_mem_cons, ← ih]
    have least := length_le_utf8Size rest
    cases ascii : c.isAscii with
    | true =>
      rw [CodePoint.utf8_of_ascii ascii, List.length_singleton]
      simp only [true_and]
      omega
    | false =>
      have more := (CodePoint.utf8_of_not_ascii ascii).1
      simp only [Bool.false_eq_true, false_and, iff_false]
      omega

end Text

end TokenIntake
