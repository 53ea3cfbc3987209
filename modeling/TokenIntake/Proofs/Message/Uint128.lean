import TokenIntake.Message.Uint128
import TokenIntake.Proofs.Text.Digits

namespace TokenIntake.Uint128

def IsNumeral (t : Text) : Prop := t ≠ [] ∧ (∀ c ∈ t, c.isDigit = true) ∧ t.length ≤ 4300

theorem ofNat_eq_ok_iff {n : Nat} {u : Uint128} : ofNat n = .ok u ↔ n = u.val := by
  obtain ⟨k, bound⟩ := u
  unfold ofNat
  split
  · simp
  · simp only [reduceCtorEq, false_iff]
    omega

def LacksDigits (t : Text) : Prop := t = [] ∨ ∃ c ∈ t, c.isDigit = false

theorem ofText_of_lacksDigits {t : Text} (lacks : LacksDigits t) : ofText t = .error .notDigits := by
  unfold ofText
  apply if_pos
  rcases lacks with rfl | ⟨c, inside, other⟩
  · rfl
  · rw [Bool.or_eq_true, Bool.not_eq_true', List.all_eq_false]
    exact .inr ⟨c, inside, by simp [other]⟩

theorem ofText_of_digits {t : Text} (some : t ≠ []) (digits : ∀ c ∈ t, c.isDigit = true) :
    ofText t = if maxIntDigits < t.length then .error (.tooManyDigits t.length) else ofNat t.positionalValue := by
  unfold ofText
  rw [if_neg, Text.digitsValue_eq_positionalValue]
  simpa [some] using digits

theorem lacksDigits_or_digits (t : Text) : LacksDigits t ∨ (t ≠ [] ∧ ∀ c ∈ t, c.isDigit = true) := by
  by_cases none : t = []
  · exact .inl (.inl none)
  · by_cases digits : ∀ c ∈ t, c.isDigit = true
    · exact .inr ⟨none, digits⟩
    · exact .inl (.inr (by simpa using digits))

theorem ofText_eq_ok_iff {t : Text} {u : Uint128} : ofText t = .ok u ↔ IsNumeral t ∧ t.digitsValue = u.val := by
  rcases lacksDigits_or_digits t with lacks | ⟨some, digits⟩
  · rw [ofText_of_lacksDigits lacks]
    simp only [reduceCtorEq, false_iff]
    rintro ⟨⟨some, digits, _⟩, _⟩
    rcases lacks with rfl | ⟨c, inside, other⟩
    · exact some rfl
    · rw [digits c inside] at other
      cases other
  · rw [ofText_of_digits some digits, Text.digitsValue_eq_positionalValue]
    split
    · rename_i long
      simp only [reduceCtorEq, false_iff]
      rintro ⟨⟨_, _, short⟩, _⟩
      exact Nat.not_lt.mpr short long
    · rename_i short
      rw [ofNat_eq_ok_iff]
      exact ⟨fun same => ⟨⟨some, digits, Nat.le_of_not_lt short⟩, same⟩, And.right⟩

theorem ofValue_eq_ok_iff {v : Value} {u : Uint128} :
    ofValue v = .ok u ↔ v = .int u.val ∨ ∃ t : Text, v = .text t ∧ IsNumeral t ∧ t.digitsValue = u.val := by
  unfold ofValue
  split
  · simp [ofText_eq_ok_iff]
  · simp only [ofNat_eq_ok_iff, Value.scalar.injEq, Scalar.int.injEq, reduceCtorEq, false_and, exists_false, or_false,
      Int.ofNat_eq_natCast]
    omega
  · simp
  · rename_i noText noInteger _
    simp only [reduceCtorEq, false_iff, not_or, not_exists]
    exact ⟨fun same => noInteger u.val same, fun t same => noText t same.1⟩

theorem text_isNumeral (u : Uint128) : IsNumeral u.text := by
  refine ⟨Text.ofNat_ne_nil _, fun c inside => Text.isDigit_of_mem_ofNat inside, ?_⟩
  have fits : u.val < 10 ^ 39 := Nat.lt_trans u.val_lt (by decide)
  have short := (Text.length_ofNat_le_iff (by decide)).mpr fits
  exact Nat.le_trans short (by decide)

def Fault.Explains : Fault → Value → Prop
  | .notDigits, v => ∃ t : Text, v = .text t ∧ LacksDigits t
  | .tooManyDigits count, v =>
    ∃ t : Text, v = .text t ∧ (∀ c ∈ t, c.isDigit = true) ∧ t.length = count ∧ 4300 < count
  | .outOfRange, v =>
    (∃ i : Int, v = .int i ∧ (i < 0 ∨ 2 ^ 128 ≤ i)) ∨
      ∃ t : Text, v = .text t ∧ IsNumeral t ∧ 2 ^ 128 ≤ t.positionalValue
  | .wrongKind, v => (∀ t : Text, v ≠ .text t) ∧ ∀ i : Int, v ≠ .int i

theorem ofNat_eq_error_iff {n : Nat} {fault : Fault} : ofNat n = .error fault ↔ 2 ^ 128 ≤ n ∧ fault = .outOfRange := by
  unfold ofNat
  split
  · rename_i small
    simp only [reduceCtorEq, false_iff, not_and]
    exact fun large => absurd small (Nat.not_lt.mpr large)
  · rename_i large
    have large : 2 ^ 128 ≤ n := Nat.le_of_not_lt large
    simp only [Except.error.injEq, large, true_and, eq_comm]

theorem explains_of_error {v : Value} {fault : Fault} (refused : ofValue v = .error fault) : fault.Explains v := by
  unfold ofValue at refused
  split at refused
  · rename_i t
    rcases lacksDigits_or_digits t with lacks | ⟨some, digits⟩
    · rw [ofText_of_lacksDigits lacks] at refused
      cases refused
      exact ⟨t, rfl, lacks⟩
    · rw [ofText_of_digits some digits] at refused
      split at refused
      · rename_i long
        cases refused
        exact ⟨t, rfl, digits, rfl, long⟩
      · rename_i short
        obtain ⟨large, rfl⟩ := ofNat_eq_error_iff.mp refused
        exact .inr ⟨t, rfl, ⟨some, digits, Nat.le_of_not_lt short⟩, large⟩
  · rename_i n
    obtain ⟨large, rfl⟩ := ofNat_eq_error_iff.mp refused
    exact .inl ⟨n, rfl, .inr (Int.ofNat_le.mpr large)⟩
  · rename_i n
    cases refused
    exact .inl ⟨.negSucc n, rfl, .inl (Int.negSucc_lt_zero n)⟩
  · rename_i noText natural negative
    cases refused
    refine ⟨noText, fun i => ?_⟩
    cases i with
    | ofNat n => exact natural n
    | negSucc n => exact negative n

theorem error_of_explains {v : Value} {fault : Fault} (explains : fault.Explains v) : ofValue v = .error fault := by
  cases fault with
  | notDigits =>
    obtain ⟨t, rfl, lacks⟩ := explains
    exact ofText_of_lacksDigits lacks
  | tooManyDigits count =>
    obtain ⟨t, rfl, digits, rfl, long⟩ := explains
    have some : t ≠ [] := List.ne_nil_of_length_pos (Nat.lt_of_le_of_lt (Nat.zero_le _) long)
    exact (ofText_of_digits some digits).trans (if_pos long)
  | outOfRange =>
    rcases explains with ⟨i, rfl, beyond⟩ | ⟨t, rfl, ⟨some, digits, short⟩, large⟩
    · cases i with
      | ofNat n =>
        have large : 2 ^ 128 ≤ n := by
          simp only [Int.ofNat_eq_natCast] at beyond
          omega
        exact ofNat_eq_error_iff.mpr ⟨large, rfl⟩
      | negSucc n => rfl
    · have fits : ¬maxIntDigits < t.length := Nat.not_lt.mpr short
      exact ((ofText_of_digits some digits).trans (if_neg fits)).trans (ofNat_eq_error_iff.mpr ⟨large, rfl⟩)
  | wrongKind =>
    obtain ⟨noText, noInteger⟩ := explains
    unfold ofValue
    split
    · rename_i t
      exact (noText t rfl).elim
    · rename_i n
      exact (noInteger n rfl).elim
    · rename_i n
      exact (noInteger (.negSucc n) rfl).elim
    · rfl

def rewritten (v : Value) : Except Fault Value := (ofValue v).map fun u => .text u.text

theorem ofValue_text (u : Uint128) : ofValue (.text u.text) = .ok u :=
  ofValue_eq_ok_iff.mpr (.inr ⟨u.text, rfl, u.text_isNumeral, Text.digitsValue_ofNat u.val⟩)

theorem gives_iff (v : Value) (n : Nat) :
    (∃ u, ofValue v = .ok u ∧ u.val = n) ↔
      n < 2 ^ 128 ∧ (v = .int n ∨ ∃ t : Text, v = .text t ∧ IsNumeral t ∧ t.positionalValue = n) := by
  simp only [ofValue_eq_ok_iff, Text.digitsValue_eq_positionalValue]
  constructor
  · rintro ⟨u, form, rfl⟩
    exact ⟨u.val_lt, form⟩
  · rintro ⟨small, form⟩
    exact ⟨⟨n, small⟩, form, rfl⟩

/-- An amount is read from exactly the integers and the runs of ASCII digits that denote a number in range, and
everything else is refused, for one reason. What was read is written without needless zeros, and so it stays. -/
theorem amounts_read_and_rewritten (v : Value) :
    (∀ n : Nat, (∃ u, ofValue v = .ok u ∧ u.val = n) ↔
      n < 2 ^ 128 ∧ (v = .int n ∨ ∃ t : Text, v = .text t ∧ IsNumeral t ∧ t.positionalValue = n)) ∧
    (∀ fault, ofValue v = .error fault ↔ fault.Explains v) ∧
    ∀ u, ofValue v = .ok u →
      (∀ t : Text, u.text = t ↔ t ≠ [] ∧ (∀ c ∈ t, c.isDigit = true) ∧
        (t.head? = some ('0' : CodePoint) → t = "0") ∧ t.positionalValue = u.val) ∧
      ofValue (.text u.text) = .ok u ∧ rewritten v = .ok (.text u.text) ∧ rewritten (.text u.text) = rewritten v := by
  refine ⟨gives_iff v, fun fault => ⟨explains_of_error, error_of_explains⟩, fun u read => ?_⟩
  have again := ofValue_text u
  have written : rewritten v = .ok (.text u.text) := by rw [rewritten, read]; rfl
  refine ⟨fun t => Text.ofNat_eq_iff, again, written, ?_⟩
  rw [written, rewritten, again]
  rfl

theorem amounts_read_and_rewritten_zeros :
    let u : Uint128 := ⟨340282366920938463463374607431768211455, by decide⟩
    ofValue (.text "00340282366920938463463374607431768211455") = .ok u ∧
      rewritten (.text "00340282366920938463463374607431768211455") =
        .ok (.text "340282366920938463463374607431768211455") ∧
      rewritten (.text "340282366920938463463374607431768211455") =
        rewritten (.text "00340282366920938463463374607431768211455") := by
  intro u
  have read : ofValue (.text "00340282366920938463463374607431768211455") = .ok u := by decide +kernel
  obtain ⟨_, _, written, again⟩ := (amounts_read_and_rewritten _).2.2 u read
  have text : u.text = ("340282366920938463463374607431768211455" : Text) := by decide +kernel
  rw [text] at written again
  exact ⟨read, written, again⟩

end TokenIntake.Uint128
