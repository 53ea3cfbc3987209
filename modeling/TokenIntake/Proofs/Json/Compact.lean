import TokenIntake.Json.Compact
import TokenIntake.Proofs.Json.Settled
import TokenIntake.Proofs.Json.Spelling
import TokenIntake.Proofs.Value.Depth

namespace TokenIntake

/-- Data of which JSON loses nothing: texts as keys, and no numbers but integers that are not too long. -/
inductive Value.Exact : Value → Prop where
  | null : Exact .null
  | bool (b : Bool) : Exact (.bool b)
  | int {i : Int} (short : i.natAbs < 10 ^ maxIntDigits) : Exact (.int i)
  | text (t : Text) : Exact (.text t)
  | list {xs : List Value} (each : ∀ x ∈ xs, Exact x) : Exact (.list xs)
  | map {es : List (Scalar × Value)} (keys : ∀ e ∈ es, ∃ t, e.1 = .text t) (each : ∀ e ∈ es, Exact e.2) :
    Exact (.map es)

namespace Json

theorem unicodeEscape_reads {c : CodePoint} (small : c.val < 0x10000) (d : CodePoint) (rest : Text) :
    ∃ after, unicodeEscape c.val ++ d :: rest = ('\\' : CodePoint) :: ('u' : CodePoint) :: after ∧
      unicodeEscape? after = some (c, d :: rest) := by
  have width : (Text.hex 4 c.val).length = 4 := Text.length_hex (by decide) small
  have value : Text.hexValue? (Text.hex 4 c.val) = some c.val := Text.hexValue?_hex 4 c.val
  match digits : Text.hex 4 c.val, width with
  | [x, y, z, w], _ =>
    rw [digits] at value
    have known : CodePoint.ofNat? c.val = some c := by simp [CodePoint.ofNat?, c.val_lt]
    refine ⟨x :: y :: z :: w :: d :: rest, ?_, by simp [unicodeEscape?, value, known]⟩
    rw [unicodeEscape, digits]
    rfl

theorem readString_unicodeEscape {c : CodePoint} (small : c.val < 0x10000) (notHigh : c.isHighSurrogate = false)
    (start : Text) (fuel : Nat) (d : CodePoint) (rest : Text) :
    readString start (fuel + 1) (unicodeEscape c.val ++ d :: rest) =
      (readString start fuel (d :: rest)).map fun (t, rest) => (c :: t, rest) := by
  obtain ⟨after, written, read⟩ := unicodeEscape_reads small d rest
  simp +decide [written, readString, readEscape, read, notHigh]

theorem readString_shortEscape {c : CodePoint} {t : Text} (short : shortEscape? c = some t) (start : Text)
    (fuel : Nat) (rest : Text) :
    t ≠ [] ∧ readString start (fuel + 1) (t ++ rest) =
      (readString start fuel rest).map fun (t, rest) => (c :: t, rest) := by
  unfold shortEscape? at short
  split_ifs at short
  all_goals
    subst c
    cases short
    exact ⟨by simp [Text.ofString], rfl⟩

theorem rawEscape_escapes (c : CodePoint) : Escapes rawEscape c := by
  by_cases short : ∃ t, shortEscape? c = some t
  · obtain ⟨t, short⟩ := short
    have written : rawEscape c = t := by simp only [rawEscape, short]
    rw [← written] at short
    refine ⟨(readString_shortEscape short [] 0 []).1, fun start fuel d rest => ?_⟩
    exact (readString_shortEscape short start fuel (d :: rest)).2
  · have long : shortEscape? c = none := Option.eq_none_iff_forall_ne_some.mpr fun t same => short ⟨t, same⟩
    by_cases control : c.val < 0x20
    · have written : rawEscape c = unicodeEscape c.val := by simp only [rawEscape, long, control, if_true]
      have notHigh : c.isHighSurrogate = false := by
        simp only [CodePoint.isHighSurrogate, Bool.and_eq_false_iff, decide_eq_false_iff_not]
        omega
      refine ⟨by simp [written, unicodeEscape, Text.ofString], fun start fuel d rest => ?_⟩
      rw [written, readString_unicodeEscape (by omega) notHigh]
    · have written : rawEscape c = [c] := by simp only [rawEscape, long, control, if_false]
      have noMark : c ≠ '"' ∧ c ≠ '\\' := by
        constructor
        all_goals
          rintro rfl
          cases long
      refine ⟨by simp [written], fun start fuel d rest => ?_⟩
      simp only [written, List.singleton_append, readString, noMark, control, if_false]

theorem rawString_spells (t : Text) : SpellsText t (rawString t) :=
  spellsText_of_escapes fun c _ => rawEscape_escapes c

theorem blank_nil : Blank [] := by
  intro c inside
  cases inside

theorem compact_list (string : Text → Text) (xs : List Value) :
    compact string (.list xs) =
      ('[' : CodePoint) :: (listed [] (xs.map (compact string)) ++ [(']' : CodePoint)]) := by
  rw [compact, Value.read, Value.readItems_eq_map]
  rfl

theorem compact_map (string : Text → Text) (es : List (Scalar × Value)) :
    compact string (.map es) = ('{' : CodePoint) :: (listed []
      (es.map fun e => string (keyText e.1) ++ (':' : CodePoint) :: compact string e.2) ++ [('}' : CodePoint)]) := by
  rw [compact, Value.read, Value.readEntries_eq_map]
  have written : ∀ ts : List (Scalar × Text), (compactReading string).map ts = ('{' : CodePoint) :: (listed []
      (ts.map fun e => string (keyText e.1) ++ (':' : CodePoint) :: e.2) ++ [('}' : CodePoint)]) := by
    intro ts
    simp only [compactReading, List.append_assoc]
    rfl
  rw [written, List.map_map]
  rfl

theorem compact_spells {v : Value} (exact : v.Exact) {room : Nat} (shallow : v.depth < room) :
    Spells room v (compact rawString v) := by
  induction exact generalizing room with
  | null => exact spells_null room
  | bool b => exact spells_bool room b
  | int short => exact spells_int room short
  | text t => exact Spells.text (rawString_spells t) room
  | @list xs _ ih =>
    cases room with
    | zero => cases shallow
    | succ room =>
      have each : List.Forall₂ (Spells room) xs (xs.map (compact rawString)) := by
        rw [List.forall₂_map_right_iff, List.forall₂_same]
        intro x inside
        have deeper := Value.depth_lt_of_mem_list inside
        exact ih x inside (by omega)
      rw [compact_list]
      exact Spells.list blank_nil blank_nil blank_nil each
  | @map es keys _ ih =>
    cases room with
    | zero => cases shallow
    | succ room =>
      have each : List.Forall₂ (SpellsMember room []) es
          (es.map fun e => rawString (keyText e.1) ++ (':' : CodePoint) :: compact rawString e.2) := by
        rw [List.forall₂_map_right_iff, List.forall₂_same]
        intro e inside
        have deeper := Value.depth_lt_of_mem_map inside
        obtain ⟨name, isText⟩ := keys e inside
        refine ⟨name, _, _, isText, rawString_spells name, ih e inside (by omega), ?_⟩
        simp only [isText, keyText, List.nil_append]
      rw [compact_map]
      exact Spells.map blank_nil blank_nil blank_nil blank_nil each

theorem parseWritten_compact {v : Value} (exact : v.Exact) (shallow : v.depth < maxNesting) :
    parseWritten (compact rawString v) = .ok v := by
  have read := readWithin_of_spells (compact_spells exact shallow) blank_nil blank_nil
  rw [List.nil_append, List.append_nil] at read
  rw [parseWritten, readDocument_eq, read]
  rfl

theorem settled_of_wellKeyed {v : Value} (exact : v.Exact) (keyed : v.WellKeyed) : v.read settledReading = v := by
  induction exact with
  | null => rfl
  | bool b => rfl
  | int short => rfl
  | text t => rfl
  | @list xs _ ih =>
    have each := Value.wellKeyed_list_iff.mp keyed
    have same : xs.map (Value.read settledReading) = xs := by
      rw [List.map_congr_left fun x inside => ih x inside (each x inside), List.map_id']
    rw [Value.read, Value.readItems_eq_map, same]
    rfl
  | @map es _ _ ih =>
    obtain ⟨distinct, each⟩ := Value.wellKeyed_map_iff.mp keyed
    have same : es.map (fun e => (e.1, e.2.read settledReading)) = es := by
      have entry : ∀ e ∈ es, (e.1, e.2.read settledReading) = e := by
        intro e inside
        rw [ih e inside (each e inside)]
      rw [List.map_congr_left entry, List.map_id']
    rw [Value.read, Value.readEntries_eq_map, same]
    exact congrArg Value.map distinct.ofPairs

end Json

end TokenIntake
