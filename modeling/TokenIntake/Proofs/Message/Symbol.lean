import TokenIntake.Message.Check
import TokenIntake.Proofs.Text.Utf8

namespace TokenIntake

def isSymbolByte (b : UInt8) : Bool := 0x41 ≤ b && b ≤ 0x5A || 0x61 ≤ b && b ≤ 0x7A || b = 0x2D

def symbolAlphabet : Text := "ABCDEFGHIJKLMNOPQRSTUVWXYZabcdefghijklmnopqrstuvwxyz-"

theorem isSymbolByte_iff {b : UInt8} : isSymbolByte b = true ↔
    (0x41 ≤ b.toNat ∧ b.toNat ≤ 0x5A) ∨ (0x61 ≤ b.toNat ∧ b.toNat ≤ 0x7A) ∨ b.toNat = 0x2D := by
  simp [isSymbolByte, UInt8.le_iff_toNat_le, ← UInt8.toNat_inj, or_assoc]

namespace CodePoint

variable {c : CodePoint}

theorem isSymbolChar_iff : c.isSymbolChar = true ↔
    (0x41 ≤ c.val ∧ c.val ≤ 0x5A) ∨ (0x61 ≤ c.val ∧ c.val ≤ 0x7A) ∨ c.val = 0x2D := by
  have hyphen : c = ('-' : CodePoint) ↔ c.val = 0x2D := by
    cases c
    simp [ofChar]
  simp only [isSymbolChar, isLetter, isUpper, isLower, Bool.or_eq_true, Bool.and_eq_true, decide_eq_true_eq, hyphen,
    or_assoc]

theorem isAscii_of_isSymbolChar (isSymbol : c.isSymbolChar = true) : c.isAscii = true := by
  rw [isAscii_iff]
  have ranges := isSymbolChar_iff.mp isSymbol
  omega

theorem isSymbolChar_iff_bytes : c.isSymbolChar = true ↔ ∀ b ∈ c.utf8, isSymbolByte b = true := by
  cases ascii : c.isAscii with
  | true =>
    have small := isAscii_iff.mp ascii
    have same : c.val.toUInt8.toNat = c.val := by
      rw [UInt8.toNat_ofNat', Nat.mod_eq_of_lt (by omega)]
    rw [utf8_of_ascii ascii, List.forall_mem_singleton, isSymbolByte_iff, same, isSymbolChar_iff]
  | false =>
    obtain ⟨more, high⟩ := utf8_of_not_ascii ascii
    constructor
    · intro isSymbol
      rw [isAscii_of_isSymbolChar isSymbol] at ascii
      cases ascii
    · intro each
      obtain ⟨b, inside⟩ := List.exists_mem_of_length_pos (Nat.lt_of_succ_lt more)
      have low := isSymbolByte_iff.mp (each b inside)
      have above : 0x80 ≤ b.toNat := UInt8.le_iff_toNat_le.mp (high b inside)
      omega

theorem mem_symbolAlphabet_iff : c ∈ symbolAlphabet ↔ c.isSymbolChar = true := by
  have all : ∀ c ∈ symbolAlphabet, c.isSymbolChar = true := by decide +kernel
  have among : ∀ n, (small : n < 0x80) → CodePoint.isSymbolChar ⟨n, by omega⟩ = true →
      (⟨n, by omega⟩ : CodePoint) ∈ symbolAlphabet := by
    decide +kernel
  constructor
  · exact all c
  · intro isSymbol
    exact among c.val (isAscii_iff.mp (isAscii_of_isSymbolChar isSymbol)) isSymbol

end CodePoint

section

variable {symbol : Text}

theorem isValidSymbol_iff : isValidSymbol symbol = true ↔
    3 ≤ symbol.utf8Size ∧ symbol.utf8Size ≤ 12 ∧ ∀ c ∈ symbol, c.isSymbolChar = true := by
  simp only [isValidSymbol, Bool.and_eq_true, decide_eq_true_eq, List.all_eq_true, and_assoc]

theorem forall_isSymbolChar_iff_bytes :
    (∀ c ∈ symbol, c.isSymbolChar = true) ↔ ∀ b ∈ symbol.utf8, isSymbolByte b = true := by
  simp only [CodePoint.isSymbolChar_iff_bytes, Text.utf8, List.forall_mem_flatMap]

theorem utf8Size_of_symbolChars (each : ∀ c ∈ symbol, c.isSymbolChar = true) : symbol.utf8Size = symbol.length :=
  Text.utf8Size_eq_length_iff.mpr fun c inside => CodePoint.isAscii_of_isSymbolChar (each c inside)

/-- A check of the bytes and a check of the characters come to the same as what is done, which takes the length from
the former and the alphabet from the latter. -/
theorem symbol_bytes_or_characters (symbol : Text) :
    (isValidSymbol symbol = true ↔
      3 ≤ symbol.utf8.length ∧ symbol.utf8.length ≤ 12 ∧ ∀ b ∈ symbol.utf8, isSymbolByte b = true) ∧
    (isValidSymbol symbol = true ↔ 3 ≤ symbol.length ∧ symbol.length ≤ 12 ∧ ∀ c ∈ symbol, c ∈ symbolAlphabet) ∧
    ((∃ c ∈ symbol, c.isAscii = false) → isValidSymbol symbol = false) ∧
    (isValidSymbol symbol = true → symbol.utf8.length = symbol.length) := by
  refine ⟨?bytes, ?characters, ?other, ?lengths⟩
  case bytes => rw [isValidSymbol_iff, forall_isSymbolChar_iff_bytes, Text.utf8Size]
  case characters =>
    simp only [isValidSymbol_iff, CodePoint.mem_symbolAlphabet_iff, ← and_assoc]
    refine and_congr_left fun each => ?_
    rw [utf8Size_of_symbolChars each]
  case other =>
    rintro ⟨c, inside, other⟩
    rw [← Bool.not_eq_true]
    intro valid
    have ascii := CodePoint.isAscii_of_isSymbolChar ((isValidSymbol_iff.mp valid).2.2 c inside)
    rw [other] at ascii
    cases ascii
  case lengths =>
    intro valid
    exact utf8Size_of_symbolChars (isValidSymbol_iff.mp valid).2.2

end

theorem symbol_bytes_or_characters_astral :
    let symbol : Text := [⟨0x10000, by decide⟩, ⟨0xD800, by decide⟩, ⟨0x41, by decide⟩]
    isValidSymbol "Ab-" = true ∧ ("Ab-" : Text).utf8.length = 3 ∧ isValidSymbol symbol = false := by
  intro symbol
  have valid : isValidSymbol "Ab-" = true := by decide +kernel
  have lengths := (symbol_bytes_or_characters "Ab-").2.2.2 valid
  have other := (symbol_bytes_or_characters symbol).2.2.1 ⟨⟨0x10000, by decide⟩, by simp [symbol], by decide⟩
  exact ⟨valid, lengths, other⟩

end TokenIntake
