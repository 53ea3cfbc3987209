import TokenIntake.Proofs.Text.Ascii

namespace TokenIntake

namespace CodePoint

theorem toSurrogates_high {c : CodePoint} (large : 0x10000 ≤ c.val) :
    0xD800 ≤ c.toSurrogates.1 ∧ c.toSurrogates.1 ≤ 0xDBFF := by
  have bound := c.val_lt
  simp only [toSurrogates]
  omega

theorem toSurrogates_low (c : CodePoint) : 0xDC00 ≤ c.toSurrogates.2 ∧ c.toSurrogates.2 ≤ 0xDFFF := by
  simp only [toSurrogates]
  omega

theorem ofSurrogates_of_toSurrogates {c high low : CodePoint} (large : 0x10000 ≤ c.val)
    (isHigh : high.val = c.toSurrogates.1) (isLow : low.val = c.toSurrogates.2) : ofSurrogates high low = c := by
  have sum : 0x10000 + (high.val - 0xD800) * 0x400 + (low.val - 0xDC00) = c.val := by
    simp only [isHigh, isLow, toSurrogates]
    omega
  simp only [ofSurrogates, sum, ofNat?, c.val_lt, dite_true, Option.getD_some]

end CodePoint

namespace Text

/-- From the front on, a high surrogate and a low one right behind it become one code point. -/
def joined : Text → Text
  | [] => []
  | [c] => [c]
  | c :: d :: rest =>
    if c.isHighSurrogate && d.isLowSurrogate then .ofSurrogates c d :: joined rest else c :: joined (d :: rest)

/-- Somewhere a low surrogate stands right behind a high one. -/
def paired : Text → Bool
  | [] => false
  | [_] => false
  | c :: d :: rest => c.isHighSurrogate && d.isLowSurrogate || paired (d :: rest)

theorem length_joined_le (t : Text) : t.joined.length ≤ t.length := by
  fun_induction joined t with
  | case1 => exact Nat.le_refl _
  | case2 c => exact Nat.le_refl _
  | case3 c d rest pair ih => simp only [List.length_cons]; omega
  | case4 c d rest apart ih => simp only [List.length_cons] at ih ⊢; omega

theorem joined_eq_self_iff (t : Text) : t.joined = t ↔ t.paired = false := by
  fun_induction joined t with
  | case1 => simp only [paired]
  | case2 c => simp only [paired]
  | case3 c d rest pair ih =>
    have shorter := length_joined_le rest
    simp only [paired, pair, Bool.true_or, Bool.true_eq_false, iff_false]
    intro same
    have length := congrArg List.length same
    simp only [List.length_cons] at length
    omega
  | case4 c d rest apart ih =>
    rw [Bool.not_eq_true] at apart
    simp only [paired, apart, Bool.false_or, List.cons.injEq, true_and, ih]

theorem paired_of_whole {t : Text} (whole : t.hasSurrogate = false) : t.paired = false := by
  fun_induction paired t with
  | case1 => rfl
  | case2 c => rfl
  | case3 c d rest ih =>
    rw [hasSurrogate, List.any_cons, Bool.or_eq_false_iff] at whole
    have noHigh : c.isHighSurrogate = false := by
      have first := whole.1
      simp only [CodePoint.isHighSurrogate, CodePoint.isSurrogate, Bool.and_eq_false_iff,
        decide_eq_false_iff_not] at first ⊢
      omega
    rw [noHigh, ih whole.2]
    rfl

end Text

end TokenIntake
