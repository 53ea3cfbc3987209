import Mathlib.Data.Nat.Digits.Lemmas
import TokenIntake.Text.Basic

namespace TokenIntake

namespace CodePoint

variable {c d : CodePoint}

theorem eq_of_val (same : c.val = d.val) : c = d := by
  obtain ⟨n, bound⟩ := c
  obtain ⟨m, bound'⟩ := d
  cases same
  rfl

theorem isDigit_iff : c.isDigit = true ↔ 0x30 ≤ c.val ∧ c.val ≤ 0x39 := by
  simp [isDigit]

end CodePoint

namespace Text

open CodePoint

theorem digitsValue_ofNat (n : Nat) : (ofNat n).digitsValue = n := by
  have digits := Nat.ofDigitChars_toDigits (b := 10) (n := n) (by decide) (by decide)
  rw [ofNat, digitsValue, List.foldl_map]
  exact digits

theorem ofNat_ne_nil (n : Nat) : ofNat n ≠ [] := by
  simp [ofNat, Nat.toDigits_ne_nil]

theorem isDigit_ofChar {c : Char} (digit : c.isDigit = true) : (CodePoint.ofChar c).isDigit = true := by
  simp only [Char.isDigit, Bool.and_eq_true, decide_eq_true_eq] at digit
  have least : 48 ≤ c.toNat := UInt32.le_iff_toNat_le.mp digit.1
  have most : c.toNat ≤ 57 := UInt32.le_iff_toNat_le.mp digit.2
  simp [CodePoint.isDigit, CodePoint.ofChar, least, most]

theorem isDigit_of_mem_ofNat {c : CodePoint} {n : Nat} (inside : c ∈ ofNat n) : c.isDigit = true := by
  obtain ⟨d, isDigit, rfl⟩ := List.mem_map.mp inside
  exact isDigit_ofChar (Nat.isDigit_of_mem_toDigits (by decide) (by decide) isDigit)

theorem length_ofNat_le_iff {n k : Nat} (some : 0 < k) : (ofNat n).length ≤ k ↔ n < 10 ^ k := by
  rw [ofNat, List.length_map, Nat.length_toDigits_le_iff (by decide) some]

theorem eq_zero_of_head_ofNat {n : Nat} {rest : Text} (front : ofNat n = ('0' : CodePoint) :: rest) : n = 0 := by
  induction n using Nat.strongRecOn generalizing rest with
  | ind n ih =>
    by_cases small : n < 10
    · have digit : ∀ d, d < 10 → (ofNat d).head? = some ('0' : CodePoint) → d = 0 := by decide
      exact digit n small (by rw [front, List.head?_cons])
    · -- the front of a longer number is that of the number without its last digit
      rw [ofNat, Nat.toDigits_of_base_le (by decide) (by omega), List.map_append] at front
      obtain ⟨c, cs, split⟩ := List.exists_cons_of_ne_nil (ofNat_ne_nil (n / 10))
      rw [← ofNat, split, List.cons_append] at front
      have zero := ih (n / 10) (by omega) (split.trans (by rw [(List.cons.inj front).1]))
      omega

def positionalValue (t : Text) : Nat := Nat.ofDigits 10 (t.reverse.map CodePoint.digitValue)

theorem digitsValue_eq_positionalValue (t : Text) : t.digitsValue = t.positionalValue := by
  induction t using List.reverseRecOn with
  | nil => rfl
  | append_singleton t c ih =>
    have step : digitsValue (t ++ [c]) = 10 * digitsValue t + c.digitValue := by
      rw [digitsValue, List.foldl_append]
      rfl
    rw [step, ih, positionalValue, positionalValue, List.reverse_concat, List.map_cons, Nat.ofDigits_cons]
    exact Nat.add_comm _ _

theorem digits_positionalValue {t : Text} (digits : ∀ c ∈ t, c.isDigit = true)
    (front : t.head? ≠ some ('0' : CodePoint)) :
    Nat.digits 10 t.positionalValue = t.reverse.map CodePoint.digitValue := by
  have values : ∀ d ∈ t.reverse.map CodePoint.digitValue, d < 10 := by
    intro d inside
    obtain ⟨c, isItem, rfl⟩ := List.mem_map.mp inside
    have digit := isDigit_iff.mp (digits c (List.mem_reverse.mp isItem))
    rw [CodePoint.digitValue]
    omega
  apply Nat.digits_ofDigits 10 (by decide) _ values
  intro some last
  cases t with
  | nil => exact some rfl
  | cons c rest =>
    have digit := isDigit_iff.mp (digits c List.mem_cons_self)
    have zero : c.val - 0x30 = 0 := by simpa [CodePoint.digitValue] using last
    have isZero : c = ('0' : CodePoint) := by
      apply eq_of_val
      show c.val = 0x30
      omega
    exact front (by rw [isZero, List.head?_cons])

theorem eq_of_digitValues {t u : Text} (digits : ∀ c ∈ t, c.isDigit = true) (digits' : ∀ c ∈ u, c.isDigit = true)
    (same : t.map CodePoint.digitValue = u.map CodePoint.digitValue) : t = u := by
  induction t generalizing u with
  | nil => exact (List.map_eq_nil_iff.mp same.symm).symm
  | cons c rest ih =>
    obtain ⟨d, rest', rfl⟩ := List.exists_cons_of_ne_nil (l := u) fun none => by simp [none] at same
    obtain ⟨digit, others⟩ := List.forall_mem_cons.mp digits
    obtain ⟨digit', others'⟩ := List.forall_mem_cons.mp digits'
    obtain ⟨first, later⟩ := List.cons.inj same
    have equal : c = d := by
      have ranges := And.intro (isDigit_iff.mp digit) (isDigit_iff.mp digit')
      apply eq_of_val
      simp only [CodePoint.digitValue] at first
      omega
    rw [equal, ih others others' later]

theorem ofNat_eq_iff {n : Nat} {t : Text} :
    ofNat n = t ↔ t ≠ [] ∧ (∀ c ∈ t, c.isDigit = true) ∧ (t.head? = some ('0' : CodePoint) → t = "0") ∧
      t.positionalValue = n := by
  have value : (ofNat n).positionalValue = n := (digitsValue_eq_positionalValue _).symm.trans (digitsValue_ofNat n)
  have digitsOf : ∀ c ∈ ofNat n, c.isDigit = true := fun c inside => isDigit_of_mem_ofNat inside
  have front : (ofNat n).head? = some ('0' : CodePoint) → n = 0 := by
    intro zero
    obtain ⟨rest, written⟩ := List.head?_eq_some_iff.mp zero
    exact eq_zero_of_head_ofNat written
  constructor
  · rintro rfl
    exact ⟨ofNat_ne_nil n, digitsOf, fun zero => by rw [front zero]; rfl, value⟩
  · rintro ⟨some, digits, canonical, denotes⟩
    by_cases zero : t.head? = .some ('0' : CodePoint)
    · rw [canonical zero] at denotes ⊢
      rw [← denotes]
      rfl
    · -- neither has a zero in front, so both are the digits of the number
      have places := digits_positionalValue digits zero
      rw [denotes] at places
      have positive : n ≠ 0 := by
        rintro rfl
        rw [Nat.digits_zero] at places
        exact some (by simpa using places.symm)
      have places' := digits_positionalValue digitsOf fun zero => positive (front zero)
      rw [value, places, List.map_reverse, List.map_reverse] at places'
      exact (eq_of_digitValues digits digitsOf (List.reverse_injective places')).symm

theorem hexValue?_append (t u : Text) :
    hexValue? (t ++ u) = (hexValue? t).bind fun n => u.foldlM (fun n c => c.hexValue?.map (16 * n + ·)) n := by
  rw [hexValue?, List.foldlM_append]
  rfl

theorem hexValue?_toDigits (n : Nat) : hexValue? ((Nat.toDigits 16 n).map .ofChar) = some n := by
  have digit : ∀ d, d < 16 → (CodePoint.ofChar d.digitChar).hexValue? = some d := by decide
  induction n using Nat.strongRecOn with
  | ind n ih =>
    by_cases small : n < 16
    · rw [Nat.toDigits_of_lt_base small]
      simp [hexValue?, digit n small]
    · rw [Nat.toDigits_of_base_le (by decide) (by omega), List.map_append, hexValue?_append,
        ih (n / 16) (by omega)]
      have last := digit (n % 16) (by omega)
      simp [last, Nat.div_add_mod]

theorem hexValue?_hex (width n : Nat) : hexValue? (hex width n) = some n := by
  have zeros : ∀ k, hexValue? (List.replicate k ('0' : CodePoint)) = some 0 := by
    intro k
    induction k with
    | zero => rfl
    | succ k ih =>
      rw [List.replicate_succ', hexValue?_append, ih]
      rfl
  rw [hex, hexValue?_append, zeros]
  exact hexValue?_toDigits n

theorem length_hex {width n : Nat} (some : 0 < width) (fits : n < 16 ^ width) : (hex width n).length = width := by
  have short := (Nat.length_toDigits_le_iff (b := 16) (by decide) some).mpr fits
  simp only [hex, List.length_append, List.length_replicate, List.length_map]
  omega

end Text

end TokenIntake
