import TokenIntake.Proofs.Text.Digits
import TokenIntake.Proofs.Text.Pattern
import TokenIntake.Proofs.Yaml.Flat

namespace TokenIntake.Yaml

section Words

variable {p : Pen} {t : Text}

theorem runs_of_kind {κ : Type} [DecidableEq κ] {kind : CodePoint → κ} {k : κ} (some : t ≠ [])
    (each : ∀ c ∈ t, kind c = k) : Text.runs kind t = [(k, t)] := by
  induction t with
  | nil => exact absurd rfl some
  | cons c t ih =>
    obtain ⟨now, later⟩ := List.forall_mem_cons.mp each
    cases t with
    | nil => rw [Text.runs, Text.runs, now]
    | cons d t =>
      rw [Text.runs, ih (List.cons_ne_nil d t) later]
      exact if_pos now

theorem text_plain_word (apart : p.blank = false) (some : t ≠ []) (word : ∀ c ∈ t, c.is ' ' = false) (fold : Bool)
    (ind : Nat) : (p.plain t fold ind).text = p.text ++ " " ++ t := by
  have notEmpty : t.isEmpty = false := by simpa using some
  unfold Pen.plain
  dsimp only
  rw [notEmpty, apart, runs_of_kind some word]
  simp only [Pen.plainParts, Pen.text, Pen.put, Pen.inText, Bool.false_eq_true, if_false, Bool.false_and,
    List.reverse_append, List.reverse_reverse]

theorem text_singleQuoted_word (apart : p.blank = false) (some : t ≠ []) (word : ∀ c ∈ t, Pen.kind c = .other)
    (fold : Bool) (ind : Nat) : (p.singleQuoted t fold ind).text = p.text ++ " '" ++ t ++ "'" := by
  unfold Pen.singleQuoted
  rw [runs_of_kind some word]
  simp [Pen.singleParts, Pen.text, Pen.put, Pen.indicator, apart]
  rfl

theorem entryText_word {key : Text} (plain : style (resolve t = .text) false t = .plain)
    (word : ∀ c ∈ t, c.is ' ' = false) : entryText key (.text t) = (Pen.fresh.name key).text ++ " " ++ t := by
  have some : t ≠ [] := by
    rintro rfl
    exact absurd plain (by decide)
  have written : writeScalar (Pen.fresh.name key) (Option.some 0) .value (.text t) =
      (Pen.fresh.name key).plain t true 2 := by
    rw [writeScalar_of_isPlain rfl]
    unfold writeText
    rw [show style (resolve (scalarText (.text t)) = tagOf (.text t)) (Place.value = .key) (scalarText (.text t)) =
      .plain from plain]
    rfl
  rw [entryText, Pen.entry, written, text_plain_word rfl some word]

end Words

section Digits

theorem tag_of_form : ∀ form ∈ forms, form.1 ≠ .text := by
  simp [forms]

theorem resolve_of_form {tag : Tag} {form : Pattern} (listed : (tag, form) ∈ forms) {t : Text}
    (ended : withoutBreak t = t) (some : t ≠ "\n") (fits : form.Matches t = true) : resolve t ≠ .text := by
  unfold resolve
  rw [if_neg some, ended]
  split
  · rename_i found
    exact tag_of_form _ (List.mem_of_find?_eq_some found)
  · rename_i found
    have unfit := List.find?_eq_none.mp found _ listed
    exact absurd fits unfit

theorem digits_match {n : Nat} : (Pattern.either (.word "0") digitsFromOne).Matches (Text.ofNat n) = true := by
  by_cases zero : n = 0
  · rw [zero]
    decide
  · obtain ⟨c, rest, digits⟩ := List.exists_cons_of_ne_nil (Text.ofNat_ne_nil n)
    have each : ∀ d ∈ c :: rest, d.isDigit = true := fun d inside => Text.isDigit_of_mem_ofNat (digits ▸ inside)
    obtain ⟨first, others⟩ := List.forall_mem_cons.mp each
    have front : (c != '0') = true := bne_iff_ne.mpr fun isZero => zero (Text.eq_zero_of_head_ofNat (isZero ▸ digits))
    have first : (Pattern.one fun c => c.isDigit && c != '0').Matches [c] = true :=
      Pattern.matches_one (Bool.and_eq_true_iff.mpr ⟨first, front⟩)
    have later : (Pattern.many (.one fun c => c.isDigit || c = '_')).Matches rest = true :=
      Pattern.matches_many_one fun d inside => by rw [others d inside, Bool.true_or]
    rw [digits, Pattern.matches_either, Bool.or_eq_true]
    exact .inr (Pattern.matches_seq first later)

theorem resolve_ofNat (n : Nat) : resolve (Text.ofNat n) ≠ .text := by
  have last : ∀ c ∈ Text.ofNat n, c ≠ '\n' := by
    rintro c inside rfl
    exact absurd (Text.isDigit_of_mem_ofNat inside) (by decide)
  have ended : withoutBreak (Text.ofNat n) = Text.ofNat n := by
    refine if_neg fun same => ?_
    exact last _ (List.mem_of_getLast? same) rfl
  have someDigit : Text.ofNat n ≠ "\n" := by
    intro same
    exact last '\n' (same ▸ List.mem_cons_self) rfl
  have whole : (Pattern.all [sign, .either (.word "0") digitsFromOne]).Matches (Text.ofNat n) = true := by
    have inner : (Pattern.all [.either (.word "0") digitsFromOne]).Matches (Text.ofNat n ++ []) = true :=
      Pattern.matches_seq digits_match rfl
    rw [List.append_nil] at inner
    exact Pattern.matches_seq (s := []) rfl inner
  have fits : intPattern.Matches (Text.ofNat n) = true := by
    simp only [intPattern, Pattern.any, List.foldr_cons, Pattern.matches_either, whole, Bool.true_or, Bool.or_true]
  have listed : (Tag.int, intPattern) ∈ forms := by simp [forms]
  exact resolve_of_form listed ended someDigit fits

theorem hasPair_of_none {p q : CodePoint → Bool} {t : Text} (none : ∀ c ∈ t, p c = false) : hasPair p q t = false := by
  fun_induction hasPair p q t with
  | case1 c d rest ih =>
    obtain ⟨now, later⟩ := List.forall_mem_cons.mp none
    rw [now, ih later]
    rfl
  | case2 => rfl

theorem is_of_isDigit {c : CodePoint} {char : Char} (digit : c.isDigit = true)
    (other : (CodePoint.ofChar char).isDigit = false) : c.is char = false := by
  refine decide_eq_false fun same => ?_
  rw [same, other] at digit
  cases digit

theorem isBreak_of_isDigit {c : CodePoint} (digit : c.isDigit = true) : isBreak c = false := by
  obtain ⟨least, most⟩ := CodePoint.isDigit_iff.mp digit
  have far : ∀ n, 0x39 < n → decide (c.val = n) = false := fun n above => decide_eq_false (by omega)
  unfold isBreak
  rw [is_of_isDigit digit (by decide), far _ (by decide), far _ (by decide), far _ (by decide)]
  rfl

theorem isPlainChar_of_isDigit {c : CodePoint} (digit : c.isDigit = true) : isPlainChar c = true := by
  obtain ⟨least, most⟩ := CodePoint.isDigit_iff.mp digit
  have range : 0x20 ≤ c.val ∧ c.val ≤ 0x7E := by omega
  simp [isPlainChar, range]

theorem style_of_digits {t : Text} (digits : ∀ c ∈ t, c.isDigit = true) (simpleKey : Bool) (some : t ≠ []) :
    style false simpleKey t = .singleQuoted := by
  obtain ⟨c, rest, rfl⟩ := List.exists_cons_of_ne_nil some
  have noBreak : ∀ d ∈ c :: rest, isBreak d = false := fun d inside => isBreak_of_isDigit (digits d inside)
  have noSpace : ∀ d ∈ c :: rest, d.is ' ' = false := fun d inside => is_of_isDigit (digits d inside) (by decide)
  have whole : (c :: rest).all isPlainChar = true :=
    List.all_eq_true.mpr fun d inside => isPlainChar_of_isDigit (digits d inside)
  have oneLine : (c :: rest).any isBreak = false := List.any_eq_false.mpr fun d inside => by simp [noBreak d inside]
  have quotable : (analyze (c :: rest)).allowSingleQuoted = true := by
    simp only [analyze, hasPair_of_none noBreak, hasPair_of_none noSpace, whole]
    rfl
  have single : (analyze (c :: rest)).multiline = false := oneLine
  simp only [style, quotable, single, Bool.false_and, Bool.and_false, Bool.false_eq_true, if_false, Bool.not_false,
    Bool.and_self, if_true]

theorem entryText_ofNat (key : Text) (n : Nat) :
    entryText key (.text (Text.ofNat n)) = (Pen.fresh.name key).text ++ " '" ++ Text.ofNat n ++ "'" := by
  have digits : ∀ c ∈ Text.ofNat n, c.isDigit = true := fun c inside => Text.isDigit_of_mem_ofNat inside
  have kinds : ∀ c ∈ Text.ofNat n, Pen.kind c = .other := by
    intro c inside
    have digit := digits c inside
    unfold Pen.kind
    rw [is_of_isDigit digit (by decide), isBreak_of_isDigit digit, is_of_isDigit digit (by decide)]
    rfl
  have written : writeScalar (Pen.fresh.name key) (some 0) .value (.text (Text.ofNat n)) =
      (Pen.fresh.name key).singleQuoted (Text.ofNat n) true 2 := by
    rw [writeScalar_of_isPlain rfl]
    unfold writeText scalarText tagOf
    rw [decide_eq_false (resolve_ofNat n), style_of_digits digits _ (Text.ofNat_ne_nil n)]
    rfl
  rw [entryText, Pen.entry, written, text_singleQuoted_word rfl (Text.ofNat_ne_nil n) kinds]

end Digits

end TokenIntake.Yaml
