import Mathlib.Data.List.Forall2
import TokenIntake.Json.Reader
import TokenIntake.Proofs.Text.Digits

namespace TokenIntake.Json

def Blank (t : Text) : Prop := ∀ c ∈ t, isBlank c = true

/-- Where a number ends: what comes next cannot belong to it. -/
def Closes (rest : Text) : Prop :=
  ∀ c ∈ rest.head?, c.isDigit = false ∧ c ≠ '.' ∧ c ≠ 'e' ∧ c ≠ 'E'

def Opening (c : CodePoint) : Prop := isBlank c = false ∧ c ≠ ']' ∧ c ≠ '}' ∧ c ≠ '\uFEFF'

instance (c : CodePoint) : Decidable (Opening c) := inferInstanceAs (Decidable (_ ∧ _))

/-- A text that is read as a value inside which `room` collections may lie in one another. -/
structure Spells (room : Nat) (v : Value) (t : Text) : Prop where
  opens : ∃ c rest, t = c :: rest ∧ Opening c
  reads : ∀ fuel rest, 2 * t.length ≤ fuel → Closes rest → readValue fuel room (t ++ rest) = .ok (v, rest)

structure SpellsText (u t : Text) : Prop where
  quoted : ∃ body, t = ('"' : CodePoint) :: (body ++ [('"' : CodePoint)]) ∧
    ∀ start fuel rest, body.length < fuel → readString start fuel (body ++ ('"' : CodePoint) :: rest) = .ok (u, rest)

theorem closes_nil : Closes [] := by
  intro c inside
  cases inside

theorem closes_cons {c : CodePoint} (no : c.isDigit = false ∧ c ≠ '.' ∧ c ≠ 'e' ∧ c ≠ 'E') (rest : Text) :
    Closes (c :: rest) := by
  intro d inside
  cases inside
  exact no

theorem not_number_of_isBlank {c : CodePoint} (blank : isBlank c = true) :
    c.isDigit = false ∧ c ≠ '.' ∧ c ≠ 'e' ∧ c ≠ 'E' := by
  simp only [isBlank, Bool.or_eq_true, decide_eq_true_eq] at blank
  rcases blank with ((rfl | rfl) | rfl) | rfl
  all_goals decide

theorem Blank.closes {b : Text} (blank : Blank b) {rest : Text} (closes : Closes rest) : Closes (b ++ rest) := by
  cases b with
  | nil => exact closes
  | cons d b => exact closes_cons (not_number_of_isBlank (blank d List.mem_cons_self)) _

theorem Blank.skip {b : Text} (blank : Blank b) {c : CodePoint} (next : isBlank c = false) (rest : Text) :
    skipBlanks (b ++ c :: rest) = c :: rest := by
  rw [skipBlanks, List.dropWhile_append_of_pos blank, List.dropWhile_cons_of_neg (by simp [next])]

theorem skipBlanks_cons {c : CodePoint} (next : isBlank c = false) (rest : Text) :
    skipBlanks (c :: rest) = c :: rest := by
  simp [skipBlanks, next]

/-- Code points are escaped so that the reader gets them back, whatever follows inside the string. -/
structure Escapes (escape : CodePoint → Text) (c : CodePoint) : Prop where
  some : escape c ≠ []
  reads : ∀ start fuel d rest, readString start (fuel + 1) (escape c ++ d :: rest) =
    (readString start fuel (d :: rest)).map fun (t, rest) => (c :: t, rest)

theorem readString_escaped {escape : CodePoint → Text} {u : Text} (each : ∀ c ∈ u, Escapes escape c) (start : Text)
    {fuel : Nat} (enough : u.length < fuel) (rest : Text) :
    readString start fuel (u.flatMap escape ++ ('"' : CodePoint) :: rest) = .ok (u, rest) := by
  induction u generalizing fuel with
  | nil =>
    cases fuel with
    | zero => cases enough
    | succ fuel => rfl
  | cons c u ih =>
    cases fuel with
    | zero => cases enough
    | succ fuel =>
      have later := ih (fun d inside => each d (List.mem_cons_of_mem c inside)) (Nat.lt_of_succ_lt_succ enough)
      have more : u.flatMap escape ++ ('"' : CodePoint) :: rest ≠ [] := by simp
      obtain ⟨d, after, split⟩ := List.exists_cons_of_ne_nil more
      rw [List.flatMap_cons, List.append_assoc, split, (each c List.mem_cons_self).reads, ← split, later]
      rfl

theorem spellsText_of_escapes {escape : CodePoint → Text} {u : Text} (each : ∀ c ∈ u, Escapes escape c) :
    SpellsText u ("\"" ++ u.flatMap escape ++ "\"") := by
  have long : ∀ u : Text, (∀ c ∈ u, Escapes escape c) → u.length ≤ (u.flatMap escape).length := by
    intro u each
    induction u with
    | nil => exact Nat.le_refl 0
    | cons c u ih =>
      have now := List.length_pos_iff.mpr (each c List.mem_cons_self).some
      have later := ih fun d inside => each d (List.mem_cons_of_mem c inside)
      simp only [List.flatMap_cons, List.length_append, List.length_cons]
      omega
  refine ⟨u.flatMap escape, rfl, fun start fuel rest enough => readString_escaped each start ?_ rest⟩
  exact Nat.lt_of_le_of_lt (long u each) enough

theorem Spells.text {u t : Text} (spelled : SpellsText u t) (room : Nat) : Spells room (.text u) t := by
  obtain ⟨body, rfl, reads⟩ := spelled
  refine ⟨⟨_, _, rfl, by decide⟩, fun fuel rest enough _ => ?_⟩
  cases fuel with
  | zero => simp at enough
  | succ fuel =>
    let after := body ++ ('"' : CodePoint) :: rest
    have read := reads (('"' : CodePoint) :: after) after.length rest (by simp [after])
    have step : readValue (fuel + 1) room (('"' : CodePoint) :: after) =
        (readString (('"' : CodePoint) :: after) after.length after).map fun (s, rest) => (.text s, rest) := rfl
    rw [List.cons_append, List.append_assoc, List.singleton_append, step, read]
    rfl

theorem readValue_scalar {c : CodePoint} (marks : c ≠ '"' ∧ c ≠ '[' ∧ c ≠ '{') (fuel room : Nat) (rest : Text) :
    readValue (fuel + 1) room (c :: rest) = (readScalar (c :: rest)).map fun (s, rest) => (.scalar s, rest) := by
  simp only [readValue, marks, if_false]

theorem Spells.scalar {s : Scalar} {t : Text} (room : Nat)
    (opens : ∃ c rest, t = c :: rest ∧ Opening c ∧ c ≠ '"' ∧ c ≠ '[' ∧ c ≠ '{')
    (reads : ∀ rest, Closes rest → readScalar (t ++ rest) = .ok (s, rest)) : Spells room (.scalar s) t := by
  obtain ⟨c, more, rfl, opening, marks⟩ := opens
  refine ⟨⟨c, more, rfl, opening⟩, fun fuel rest enough closes => ?_⟩
  cases fuel with
  | zero => simp at enough
  | succ fuel =>
    have read := reads rest closes
    rw [List.cons_append] at read ⊢
    rw [readValue_scalar marks, read]
    rfl

theorem spells_null (room : Nat) : Spells room .null "null" :=
  .scalar room ⟨_, _, rfl, by decide⟩ fun _ _ => rfl

theorem spells_bool (room : Nat) (b : Bool) : Spells room (.bool b) (if b then "true" else "false") := by
  cases b with
  | false => exact .scalar room ⟨_, _, rfl, by decide⟩ fun _ _ => rfl
  | true => exact .scalar room ⟨_, _, rfl, by decide⟩ fun _ _ => rfl

theorem takeWhile_digits {t rest : Text} (digits : ∀ c ∈ t, c.isDigit = true) (closes : Closes rest) :
    (t ++ rest).takeWhile CodePoint.isDigit = t ∧ (t ++ rest).dropWhile CodePoint.isDigit = rest := by
  rw [List.takeWhile_append_of_pos digits, List.dropWhile_append_of_pos digits]
  cases rest with
  | nil => simp
  | cons c rest =>
    have no := (closes c rfl).1
    simp [no]

theorem wholePart?_ofNat (n : Nat) {rest : Text} (closes : Closes rest) :
    wholePart? (Text.ofNat n ++ rest) = some (Text.ofNat n, rest) := by
  obtain ⟨c, cs, digits⟩ := List.exists_cons_of_ne_nil (Text.ofNat_ne_nil n)
  have inside : ∀ d ∈ c :: cs, d.isDigit = true := fun d inside => Text.isDigit_of_mem_ofNat (digits ▸ inside)
  by_cases zero : c = '0'
  · -- a zero stands alone, so nothing of the number is left behind it
    have none : n = 0 := Text.eq_zero_of_head_ofNat (digits.trans (by rw [zero]))
    subst none
    cases digits
    rfl
  · obtain ⟨taken, dropped⟩ := takeWhile_digits (fun d more => inside d (List.mem_cons_of_mem c more)) closes
    rw [digits, List.cons_append, wholePart?]
    simp only [zero, if_false, inside c List.mem_cons_self, if_true, taken, dropped]

theorem readNumber_ofNat (start : Text) (negative : Bool) {n : Nat} (short : n < 10 ^ maxIntDigits) {rest : Text}
    (closes : Closes rest) :
    readNumber start negative (Text.ofNat n ++ rest) = .ok (.int (if negative then -n else n), rest) := by
  have fits := (Text.length_ofNat_le_iff (by decide)).mpr short
  have noFraction : fractionPart? rest = none := by
    cases rest with
    | nil => rfl
    | cons c rest => simp [fractionPart?, (closes c rfl).2.1]
  have noExponent : exponentPart? rest = none := by
    cases rest with
    | nil => rfl
    | cons c rest => simp [exponentPart?, (closes c rfl).2.2]
  simp only [readNumber, wholePart?_ofNat n closes, noFraction, noExponent, Nat.not_lt.mpr fits, if_false,
    Text.digitsValue_ofNat]

theorem words_no_digits :
    ∀ w ∈ words, ∃ a b more, w.1 = a :: b :: more ∧ a.isDigit = false ∧ b.isDigit = false := by
  simp only [words, List.forall_mem_cons]
  exact ⟨⟨_, _, _, rfl, rfl, rfl⟩, ⟨_, _, _, rfl, rfl, rfl⟩, ⟨_, _, _, rfl, rfl, rfl⟩, ⟨_, _, _, rfl, rfl, rfl⟩,
    ⟨_, _, _, rfl, rfl, rfl⟩, ⟨_, _, _, rfl, rfl, rfl⟩, by simp⟩

theorem find_word_none {t : Text} (digit : ∃ c ∈ t.take 2, c.isDigit = true) :
    (words.find? fun (word, _) => word.isPrefixOf t) = none := by
  rw [List.find?_eq_none]
  intro w isWord starts
  obtain ⟨a, b, more, spelled, noFirst, noSecond⟩ := words_no_digits w isWord
  obtain ⟨rest, rfl⟩ := List.isPrefixOf_iff_prefix.mp starts
  obtain ⟨c, inside, isDigit⟩ := digit
  have early : c = a ∨ c = b := by simpa [spelled] using inside
  rcases early with rfl | rfl
  · rw [noFirst] at isDigit
    cases isDigit
  · rw [noSecond] at isDigit
    cases isDigit

theorem readScalar_ofInt {i : Int} (short : i.natAbs < 10 ^ maxIntDigits) {rest : Text} (closes : Closes rest) :
    readScalar (Text.ofInt i ++ rest) = .ok (.int i, rest) := by
  have digits : ∀ n, ∃ c cs, Text.ofNat n = c :: cs ∧ c.isDigit = true := by
    intro n
    obtain ⟨c, cs, split⟩ := List.exists_cons_of_ne_nil (Text.ofNat_ne_nil n)
    exact ⟨c, cs, split, Text.isDigit_of_mem_ofNat (split ▸ List.mem_cons_self)⟩
  cases i with
  | ofNat n =>
    obtain ⟨c, cs, split, digit⟩ := digits n
    have none := find_word_none (t := Text.ofNat n ++ rest) ⟨c, by simp [split], digit⟩
    have noMinus : c ≠ '-' := by
      rintro rfl
      cases digit
    have read : readNumber (Text.ofNat n ++ rest) false (Text.ofNat n ++ rest) = .ok (.int n, rest) :=
      readNumber_ofNat _ false short closes
    rw [Text.ofInt]
    unfold readScalar
    rw [none]
    rw [split, List.cons_append] at read ⊢
    simpa [noMinus] using read
  | negSucc n =>
    obtain ⟨c, cs, split, digit⟩ := digits (n + 1)
    have none := find_word_none (t := ('-' : CodePoint) :: Text.ofNat (n + 1) ++ rest) ⟨c, by simp [split], digit⟩
    have read : readNumber (('-' : CodePoint) :: (Text.ofNat (n + 1) ++ rest)) true (Text.ofNat (n + 1) ++ rest) =
        .ok (.int (-(n + 1 : Nat)), rest) := readNumber_ofNat _ true short closes
    rw [Text.ofInt]
    unfold readScalar
    rw [none, List.cons_append]
    simpa [Int.negSucc_eq] using read

theorem opening_of_isDigit {c : CodePoint} (digit : c.isDigit = true) :
    Opening c ∧ c ≠ '"' ∧ c ≠ '[' ∧ c ≠ '{' := by
  have other : ∀ d : CodePoint, d.isDigit = false → c ≠ d := by
    rintro d no rfl
    rw [digit] at no
    cases no
  have noBlank : isBlank c = false := by
    simp [isBlank, other ' ' rfl, other '\t' rfl, other '\n' rfl, other '\r' rfl]
  exact ⟨⟨noBlank, other _ rfl, other _ rfl, other _ rfl⟩, other _ rfl, other _ rfl, other _ rfl⟩

theorem spells_int (room : Nat) {i : Int} (short : i.natAbs < 10 ^ maxIntDigits) :
    Spells room (.int i) (Text.ofInt i) := by
  refine .scalar room ?_ fun rest closes => readScalar_ofInt short closes
  cases i with
  | ofNat n =>
    obtain ⟨c, cs, split⟩ := List.exists_cons_of_ne_nil (Text.ofNat_ne_nil n)
    have digit : c.isDigit = true := Text.isDigit_of_mem_ofNat (split ▸ List.mem_cons_self)
    exact ⟨c, cs, split, opening_of_isDigit digit⟩
  | negSucc n => exact ⟨_, _, rfl, by decide⟩

def listed (gap : Text) (ts : List Text) : Text := Text.join ((',' : CodePoint) :: gap) ts

theorem listed_cons_cons (gap t u : Text) (us : List Text) (after : Text) :
    listed gap (t :: u :: us) ++ after = t ++ (',' : CodePoint) :: (gap ++ (listed gap (u :: us) ++ after)) := by
  simp [listed, Text.join]

theorem length_listed_cons_cons (gap t u : Text) (us : List Text) :
    (listed gap (t :: u :: us)).length = t.length + 1 + gap.length + (listed gap (u :: us)).length := by
  simp only [listed, Text.join, List.length_append, List.length_cons]
  omega

theorem listed_opens (gap : Text) {t : Text} (opens : ∃ c rest, t = c :: rest ∧ Opening c) (ts : List Text) :
    ∃ c rest, listed gap (t :: ts) = c :: rest ∧ Opening c := by
  obtain ⟨c, rest, rfl, opening⟩ := opens
  cases ts with
  | nil => exact ⟨c, rest, rfl, opening⟩
  | cons u us => exact ⟨c, _, rfl, opening⟩

theorem skip_to_listed {before : Text} (blank : Blank before) (gap : Text) {t : Text}
    (opens : ∃ c rest, t = c :: rest ∧ Opening c) (ts : List Text) (after : Text) :
    skipBlanks (before ++ (listed gap (t :: ts) ++ after)) = listed gap (t :: ts) ++ after := by
  obtain ⟨c, rest, split, noBlank, _⟩ := listed_opens gap opens ts
  rw [split]
  exact blank.skip noBlank _

theorem readItems_spelled {room : Nat} {gap closing : Text} (gapBlank : Blank gap) (closingBlank : Blank closing)
    {xs : List Value} {ts : List Text} (each : List.Forall₂ (Spells room) xs ts) (some : xs ≠ []) (fuel : Nat)
    (enough : 2 * ((listed gap ts).length + 1) ≤ fuel) (rest : Text) :
    readItems fuel room (listed gap ts ++ (closing ++ (']' : CodePoint) :: rest)) = .ok (xs, rest) := by
  induction each generalizing fuel with
  | nil => exact (some rfl).elim
  | @cons x t xs ts first others ih =>
    cases fuel with
    | zero => omega
    | succ fuel =>
      cases others with
      | nil =>
        have behind : skipBlanks (closing ++ (']' : CodePoint) :: rest) = (']' : CodePoint) :: rest :=
          closingBlank.skip (by decide) rest
        have now := first.reads fuel (closing ++ (']' : CodePoint) :: rest)
          (by simp [listed, Text.join] at enough; omega)
          (closingBlank.closes (closes_cons (by decide) rest))
        simp only [listed, Text.join, readItems, now, behind]
        rfl
      | @cons y u ys us second more =>
        rw [length_listed_cons_cons] at enough
        let later := listed gap (u :: us) ++ (closing ++ (']' : CodePoint) :: rest)
        have now := first.reads fuel ((',' : CodePoint) :: (gap ++ later)) (by omega) (closes_cons (by decide) _)
        have comma : skipBlanks ((',' : CodePoint) :: (gap ++ later)) = (',' : CodePoint) :: (gap ++ later) :=
          skipBlanks_cons (by decide) _
        have next : skipBlanks (gap ++ later) = later := skip_to_listed gapBlank gap second.opens us _
        have others := ih (by simp) fuel (by omega)
        rw [listed_cons_cons, readItems, now]
        simp only [comma, if_true, next, later, others]
        rfl

theorem readValue_list {t after : Text} {d : CodePoint} (inside : skipBlanks t = d :: after) (fuel room : Nat) :
    readValue (fuel + 1) (room + 1) (('[' : CodePoint) :: t) =
      if d = ']' then .ok (.list [], after)
      else (readItems fuel room (d :: after)).map fun (xs, after) => (.list xs, after) := by
  simp +decide [readValue, inside]

theorem Spells.list {room : Nat} {before gap closing : Text} (beforeBlank : Blank before) (gapBlank : Blank gap)
    (closingBlank : Blank closing) {xs : List Value} {ts : List Text} (each : List.Forall₂ (Spells room) xs ts) :
    Spells (room + 1) (.list xs)
      (('[' : CodePoint) :: (before ++ (listed gap ts ++ (closing ++ [(']' : CodePoint)])))) := by
  refine ⟨⟨_, _, rfl, by decide⟩, fun fuel rest enough _ => ?_⟩
  simp only [List.length_cons, List.length_append, List.length_nil] at enough
  cases fuel with
  | zero => omega
  | succ fuel =>
    simp only [List.cons_append, List.append_assoc, List.nil_append]
    cases each with
    | nil =>
      have behind : skipBlanks (before ++ (closing ++ (']' : CodePoint) :: rest)) = (']' : CodePoint) :: rest := by
        rw [skipBlanks, List.dropWhile_append_of_pos beforeBlank]
        exact closingBlank.skip (by decide) rest
      rw [listed, Text.join, List.nil_append, readValue_list behind, if_pos rfl]
    | @cons x t xs ts first others =>
      have inside := skip_to_listed beforeBlank gap first.opens ts (closing ++ (']' : CodePoint) :: rest)
      have read := readItems_spelled gapBlank closingBlank (.cons first others) (by simp) fuel (by omega) rest
      obtain ⟨c, more, split, _, noEnd, _⟩ := listed_opens gap first.opens ts
      rw [split, List.cons_append] at inside read
      rw [split, List.cons_append, readValue_list inside, if_neg noEnd, read]
      rfl

def SpellsMember (room : Nat) (gap : Text) (e : Scalar × Value) (t : Text) : Prop :=
  ∃ name spelled value, e.1 = .text name ∧ SpellsText name spelled ∧ Spells room e.2 value ∧
    t = spelled ++ (':' : CodePoint) :: (gap ++ value)

theorem SpellsText.readName {name t : Text} (spelled : SpellsText name t) (fuel : Nat) (enough : t.length ≤ fuel)
    (after : Text) : readName fuel (t ++ after) = .ok (name, after) := by
  obtain ⟨body, rfl, reads⟩ := spelled
  simp only [List.length_cons, List.length_append, List.length_nil] at enough
  have read := reads (('"' : CodePoint) :: (body ++ ('"' : CodePoint) :: after)) fuel after (by omega)
  simpa [Json.readName] using read

theorem SpellsMember.opens {room : Nat} {gap t : Text} {e : Scalar × Value} (spelled : SpellsMember room gap e t) :
    ∃ c rest, t = c :: rest ∧ Opening c := by
  obtain ⟨name, _, value, _, ⟨body, rfl, _⟩, _, rfl⟩ := spelled
  exact ⟨_, _, rfl, by decide⟩

theorem SpellsMember.reads {room : Nat} {colonGap t : Text} {e : Scalar × Value} (colonBlank : Blank colonGap)
    (spelled : SpellsMember room colonGap e t) (fuel : Nat) (after : Text) (enough : 2 * t.length ≤ fuel)
    (closes : Closes after) {c : CodePoint} {more : Text} (behind : skipBlanks after = c :: more) :
    ∃ name, e.1 = .text name ∧ readMembers (fuel + 1) room (t ++ after) =
      if c = '}' then .ok ([(.text name, e.2)], more)
      else if c = ',' then
        (readMembers fuel room (skipBlanks more)).map fun (es, more) => ((.text name, e.2) :: es, more)
      else .error (.complaint .expectingComma (c :: more)) := by
  obtain ⟨name, spelledName, value, isText, spellsName, spellsValue, rfl⟩ := spelled
  simp only [List.length_append, List.length_cons] at enough
  have readName := spellsName.readName (spelledName ++ (':' : CodePoint) :: (colonGap ++ (value ++ after))).length
    (by simp) ((':' : CodePoint) :: (colonGap ++ (value ++ after)))
  have colon : expect ':' .expectingColon ((':' : CodePoint) :: (colonGap ++ (value ++ after))) =
      .ok (colonGap ++ (value ++ after)) := by
    rw [expect, skipBlanks_cons (by decide)]
    simp
  have toValue : skipBlanks (colonGap ++ (value ++ after)) = value ++ after := by
    obtain ⟨c, more, rfl, noBlank, _⟩ := spellsValue.opens
    exact colonBlank.skip noBlank _
  have readValue := spellsValue.reads fuel after (by omega) closes
  refine ⟨name, isText, ?_⟩
  rw [List.append_assoc, List.cons_append, List.append_assoc, readMembers, readName]
  simp only [colon, toValue, readValue, behind]

theorem readMembers_spelled {room : Nat} {colonGap gap closing : Text} (colonBlank : Blank colonGap)
    (gapBlank : Blank gap) (closingBlank : Blank closing) {es : List (Scalar × Value)} {ts : List Text}
    (each : List.Forall₂ (SpellsMember room colonGap) es ts) (some : es ≠ []) (fuel : Nat)
    (enough : 2 * ((listed gap ts).length + 1) ≤ fuel) (rest : Text) :
    readMembers fuel room (listed gap ts ++ (closing ++ ('}' : CodePoint) :: rest)) = .ok (es, rest) := by
  induction each generalizing fuel with
  | nil => exact (some rfl).elim
  | @cons e t es ts first others ih =>
    cases fuel with
    | zero => omega
    | succ fuel =>
      cases others with
      | nil =>
        have behind : skipBlanks (closing ++ ('}' : CodePoint) :: rest) = ('}' : CodePoint) :: rest :=
          closingBlank.skip (by decide) rest
        obtain ⟨name, isText, step⟩ := first.reads colonBlank fuel (closing ++ ('}' : CodePoint) :: rest)
          (by simp [listed, Text.join] at enough; omega) (closingBlank.closes (closes_cons (by decide) rest)) behind
        simp only [listed, Text.join, step, if_true, ← isText]
      | @cons e' u es us second more =>
        rw [length_listed_cons_cons] at enough
        let later := listed gap (u :: us) ++ (closing ++ ('}' : CodePoint) :: rest)
        have comma : skipBlanks ((',' : CodePoint) :: (gap ++ later)) = (',' : CodePoint) :: (gap ++ later) :=
          skipBlanks_cons (by decide) _
        obtain ⟨name, isText, step⟩ := first.reads colonBlank fuel ((',' : CodePoint) :: (gap ++ later)) (by omega)
          (closes_cons (by decide) _) comma
        have next : skipBlanks (gap ++ later) = later := skip_to_listed gapBlank gap second.opens us _
        have noEnd : (',' : CodePoint) ≠ ('}' : CodePoint) := by decide
        have others := ih (by simp) fuel (by omega)
        rw [listed_cons_cons, step]
        simp only [noEnd, if_false, if_true, next, later, others, ← isText]
        rfl

theorem readValue_map {t after : Text} {d : CodePoint} (inside : skipBlanks t = d :: after) (fuel room : Nat) :
    readValue (fuel + 1) (room + 1) (('{' : CodePoint) :: t) =
      if d = '}' then .ok (.map [], after)
      else (readMembers fuel room (d :: after)).map fun (es, after) => (.map es, after) := by
  simp +decide [readValue, inside]

theorem Spells.map {room : Nat} {before colonGap gap closing : Text} (beforeBlank : Blank before)
    (colonBlank : Blank colonGap) (gapBlank : Blank gap) (closingBlank : Blank closing)
    {es : List (Scalar × Value)} {ts : List Text} (each : List.Forall₂ (SpellsMember room colonGap) es ts) :
    Spells (room + 1) (.map es)
      (('{' : CodePoint) :: (before ++ (listed gap ts ++ (closing ++ [('}' : CodePoint)])))) := by
  refine ⟨⟨_, _, rfl, by decide⟩, fun fuel rest enough _ => ?_⟩
  simp only [List.length_cons, List.length_append, List.length_nil] at enough
  cases fuel with
  | zero => omega
  | succ fuel =>
    simp only [List.cons_append, List.append_assoc, List.nil_append]
    cases each with
    | nil =>
      have behind : skipBlanks (before ++ (closing ++ ('}' : CodePoint) :: rest)) = ('}' : CodePoint) :: rest := by
        rw [skipBlanks, List.dropWhile_append_of_pos beforeBlank]
        exact closingBlank.skip (by decide) rest
      rw [listed, Text.join, List.nil_append, readValue_map behind, if_pos rfl]
    | @cons e t es ts first others =>
      have inside := skip_to_listed beforeBlank gap first.opens ts (closing ++ ('}' : CodePoint) :: rest)
      have read := readMembers_spelled colonBlank gapBlank closingBlank (.cons first others) (by simp) fuel
        (by omega) rest
      obtain ⟨c, more, split, _, _, noEnd, _⟩ := listed_opens gap first.opens ts
      rw [split, List.cons_append] at inside read
      rw [split, List.cons_append, readValue_map inside, if_neg noEnd, read]
      rfl

def readWithin (room : Nat) (t : Text) : Except Stop Value :=
  if t.head? = some '\uFEFF' then .error (.complaint .byteOrderMark t)
  else
    match readValue (2 * t.length + 1) room (skipBlanks t) with
    | .error e => .error e
    | .ok (v, rest) =>
      match skipBlanks rest with
      | [] => .ok v
      | rest => .error (.complaint .extraData rest)

theorem readDocument_eq : readDocument = readWithin maxNesting := rfl

theorem readWithin_of_spells {room : Nat} {v : Value} {before after t : Text} (spelled : Spells room v t)
    (beforeBlank : Blank before) (afterBlank : Blank after) : readWithin room (before ++ (t ++ after)) = .ok v := by
  have closes : Closes after := by
    have closes := afterBlank.closes closes_nil
    rwa [List.append_nil] at closes
  have read := spelled.reads (2 * (before ++ (t ++ after)).length + 1) after
    (by simp only [List.length_append]; omega) closes
  have nothing : skipBlanks after = [] := by
    rw [← List.append_nil after, skipBlanks, List.dropWhile_append_of_pos afterBlank]
    rfl
  obtain ⟨c, more, rfl, noBlank, _, _, noMark⟩ := spelled.opens
  have start : skipBlanks (before ++ (c :: more ++ after)) = c :: more ++ after := beforeBlank.skip noBlank _
  have noByteOrderMark : (before ++ (c :: more ++ after)).head? ≠ some ('\uFEFF' : CodePoint) := by
    cases before with
    | nil => simpa using noMark
    | cons d before =>
      have blank := beforeBlank d List.mem_cons_self
      simp only [List.cons_append, List.head?_cons, ne_eq, Option.some.injEq]
      rintro rfl
      cases blank
  unfold readWithin
  rw [start, read]
  split
  · rename_i mark
    exact (noByteOrderMark mark).elim
  · simp only [nothing]

end TokenIntake.Json
