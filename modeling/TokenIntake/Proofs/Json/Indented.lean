import TokenIntake.Json.Indented
import TokenIntake.Proofs.Json.Carries
import TokenIntake.Proofs.Json.Writable
import TokenIntake.Proofs.Text.Surrogates

namespace TokenIntake

def Scalar.joined : Scalar → Scalar
  | .text t => .text t.joined
  | s => s

def Scalar.paired : Scalar → Bool
  | .text t => t.paired
  | _ => false

namespace Value

def joinedReading : Reading Value where
  scalar s := .scalar s.joined
  list := .list
  map es := .map (es.map fun e => (e.1.joined, e.2))
  set elements := .list (elements.map fun s => .scalar s.joined)
  pair first second := .list [first, second]
  listAgain := .list []
  mapAgain := .map []
  pairAgain := .list []

/-- The value with neighbouring surrogates joined in all its texts. -/
def joined (v : Value) : Value := v.read joinedReading

def paired (v : Value) : Bool := v.read (.any Scalar.paired)

theorem joined_list (xs : List Value) : (Value.list xs).joined = .list (xs.map joined) := by
  rw [joined, read, readItems_eq_map]
  rfl

theorem joined_map (es : List (Scalar × Value)) :
    (Value.map es).joined = .map (es.map fun e => (e.1.joined, e.2.joined)) := by
  rw [joined, read, readEntries_eq_map]
  simp only [joinedReading, List.map_map]
  rfl

theorem Exact.joined_eq_self {v : Value} (exact : v.Exact) (apart : v.paired = false) : v.joined = v := by
  have scalar : ∀ s : Scalar, s.paired = false → s.joined = s := by
    intro s apart
    cases s with
    | text t => exact congrArg Scalar.text ((Text.joined_eq_self_iff t).mpr apart)
    | _ => rfl
  induction exact with
  | null => rfl
  | bool b => rfl
  | int short => rfl
  | text t => exact congrArg Value.scalar (scalar (.text t) apart)
  | @list xs _ ih =>
    rw [paired, Reading.any_list, List.any_eq_false] at apart
    have same : xs.map joined = xs := by
      rw [List.map_congr_left fun x inside => ih x inside (Bool.not_eq_true _ ▸ apart x inside), List.map_id']
    rw [joined_list, same]
  | @map es _ _ ih =>
    rw [paired, Reading.any_map, List.any_eq_false] at apart
    have same : es.map (fun e => (e.1.joined, e.2.joined)) = es := by
      have entry : ∀ e ∈ es, (e.1.joined, e.2.joined) = e := by
        intro e inside
        have none := apart e inside
        simp only [Bool.or_eq_true, not_or, Bool.not_eq_true] at none
        rw [scalar e.1 none.1, ih e inside none.2]
      rw [List.map_congr_left entry, List.map_id']
    rw [joined_map, same]

theorem Exact.paired_of_whole {v : Value} (exact : v.Exact) (whole : v.hasSurrogate = false) : v.paired = false := by
  induction exact with
  | null => rfl
  | bool b => rfl
  | int short => rfl
  | text t => exact Text.paired_of_whole whole
  | list _ ih =>
    rw [hasSurrogate, Reading.any_list, List.any_eq_false] at whole
    rw [paired, Reading.any_list, List.any_eq_false]
    intro x inside
    exact Bool.not_eq_true _ ▸ ih x inside (Bool.not_eq_true _ ▸ whole x inside)
  | map keys _ ih =>
    rw [hasSurrogate, Reading.any_map, List.any_eq_false] at whole
    rw [paired, Reading.any_map, List.any_eq_false]
    intro e inside
    obtain ⟨t, isText⟩ := keys e inside
    have none := whole e inside
    simp only [isText, Bool.or_eq_true, not_or, Bool.not_eq_true] at none ⊢
    exact ⟨Text.paired_of_whole none.1, ih e inside none.2⟩

theorem Exact.plain {v : Value} (exact : v.Exact) : v.Plain := by
  induction exact with
  | null => exact .scalar rfl
  | bool b => exact .scalar rfl
  | int short => exact .int (Scalar.isLong_int short)
  | text t => exact .text t
  | list _ ih => exact .list ih
  | map keys _ ih => exact .map keys ih

theorem Exact.joined {v : Value} (exact : v.Exact) : v.joined.Exact := by
  induction exact with
  | null => exact .null
  | bool b => exact .bool b
  | int short => exact .int short
  | text t => exact .text t.joined
  | list _ ih =>
    rw [joined_list]
    exact .list (List.forall_mem_map.mpr ih)
  | map keys _ ih =>
    rw [joined_map]
    refine .map (List.forall_mem_map.mpr fun e inside => ?_) (List.forall_mem_map.mpr ih)
    obtain ⟨t, isText⟩ := keys e inside
    exact ⟨t.joined, by rw [isText]; rfl⟩

end Value

namespace Json

theorem lowEscape?_unicodeEscape {c : CodePoint} (small : c.val < 0x10000) (d : CodePoint) (rest : Text) :
    lowEscape? (unicodeEscape c.val ++ d :: rest) = if c.isLowSurrogate then some (c, d :: rest) else none := by
  obtain ⟨after, written, read⟩ := unicodeEscape_reads small d rest
  simp +decide [written, lowEscape?, read]

theorem readString_highEscape {c : CodePoint} (high : c.isHighSurrogate = true) (start : Text) (fuel : Nat)
    (d : CodePoint) (rest : Text) :
    readString start (fuel + 1) (unicodeEscape c.val ++ d :: rest) =
      match lowEscape? (d :: rest) with
      | some (low, after) => (readString start fuel after).map fun (t, rest) => (.ofSurrogates c low :: t, rest)
      | none => (readString start fuel (d :: rest)).map fun (t, rest) => (c :: t, rest) := by
  have small : c.val < 0x10000 := by
    simp only [CodePoint.isHighSurrogate, Bool.and_eq_true, decide_eq_true_eq] at high
    omega
  obtain ⟨after, written, read⟩ := unicodeEscape_reads small d rest
  simp +decide only [written, readString, readEscape, read, high, if_true, if_false]
  cases lowEscape? (d :: rest) <;> rfl

theorem asciiEscape_cases (c : CodePoint) :
    shortEscape? c = some (asciiEscape c) ∨
    (asciiEscape c = [c] ∧ c ≠ '"' ∧ c ≠ '\\' ∧ 0x20 ≤ c.val ∧ c.val < 0x7F) ∨
    (asciiEscape c = unicodeEscape c.val ∧ c.val < 0x10000) ∨
    (asciiEscape c = unicodeEscape c.toSurrogates.1 ++ unicodeEscape c.toSurrogates.2 ∧ 0x10000 ≤ c.val) := by
  unfold asciiEscape
  split
  · rename_i short
    exact .inl short
  · rename_i long
    split
    · rename_i printable
      refine .inr (.inl ⟨rfl, ?_, ?_, printable⟩)
      all_goals
        rintro rfl
        cases long
    · split
      · rename_i small
        exact .inr (.inr (.inl ⟨rfl, small⟩))
      · rename_i large
        exact .inr (.inr (.inr ⟨rfl, Nat.le_of_not_lt large⟩))

theorem shortEscape?_two {c : CodePoint} {t : Text} (short : shortEscape? c = some t) :
    c.val < 0x80 ∧ ∃ e, t = [('\\' : CodePoint), e] ∧ e ≠ 'u' := by
  unfold shortEscape? at short
  split_ifs at short
  all_goals
    subst c
    cases short
    exact ⟨by decide, _, rfl, by decide⟩

theorem asciiEscape_of_isSurrogate {c : CodePoint} (surrogate : c.isSurrogate = true) :
    asciiEscape c = unicodeEscape c.val := by
  simp only [CodePoint.isSurrogate, Bool.and_eq_true, decide_eq_true_eq] at surrogate
  rcases asciiEscape_cases c with short | ⟨_, _, _, _, small⟩ | ⟨written, _⟩ | ⟨_, large⟩
  · have small := (shortEscape?_two short).1
    omega
  · omega
  · exact written
  · omega

theorem unicodeEscape_ne_nil (n : Nat) : unicodeEscape n ≠ [] := List.append_ne_nil_of_left_ne_nil (by decide) _

theorem asciiEscape_ne_nil (c : CodePoint) : asciiEscape c ≠ [] := by
  rcases asciiEscape_cases c with short | ⟨written, _⟩ | ⟨written, _⟩ | ⟨written, _⟩
  · obtain ⟨_, e, written, _⟩ := shortEscape?_two short
    simp [written]
  · simp [written]
  · exact written ▸ unicodeEscape_ne_nil _
  · exact written ▸ List.append_ne_nil_of_left_ne_nil (unicodeEscape_ne_nil _) _

theorem lowEscape?_asciiEscape {c : CodePoint} (notLow : c.isLowSurrogate = false) (d : CodePoint) (rest : Text) :
    lowEscape? (asciiEscape c ++ d :: rest) = none := by
  rcases asciiEscape_cases c with short | ⟨written, _, noBackslash, _⟩ | ⟨written, small⟩ | ⟨written, large⟩
  · obtain ⟨_, e, written, noNumber⟩ := shortEscape?_two short
    simp [written, lowEscape?, noNumber]
  · simp [written, lowEscape?, noBackslash]
  · rw [written, lowEscape?_unicodeEscape small, notLow]
    rfl
  · obtain ⟨least, most⟩ := CodePoint.toSurrogates_high large
    let high : CodePoint := ⟨c.toSurrogates.1, by omega⟩
    have noLow : high.isLowSurrogate = false := by
      simp only [CodePoint.isLowSurrogate, high, Bool.and_eq_false_iff, decide_eq_false_iff_not]
      omega
    have more : unicodeEscape c.toSurrogates.2 ++ d :: rest ≠ [] := by simp
    obtain ⟨e, after, split⟩ := List.exists_cons_of_ne_nil more
    have step := lowEscape?_unicodeEscape (c := high) (by simp only [high]; omega) e after
    rw [written, List.append_assoc, split, step, noLow]
    rfl

theorem readString_asciiEscape {c d : CodePoint} {rest : Text}
    (alone : c.isHighSurrogate = true → lowEscape? (d :: rest) = none) (start : Text) (fuel : Nat) :
    readString start (fuel + 1) (asciiEscape c ++ d :: rest) =
      (readString start fuel (d :: rest)).map fun (t, rest) => (c :: t, rest) := by
  rcases asciiEscape_cases c with
    short | ⟨written, noQuote, noBackslash, least, _⟩ | ⟨written, small⟩ | ⟨written, large⟩
  · exact (readString_shortEscape short start fuel (d :: rest)).2
  · have noControl : ¬c.val < 0x20 := Nat.not_lt.mpr least
    simp only [written, List.singleton_append, readString, noQuote, noBackslash, noControl, if_false]
  · rw [written]
    cases high : c.isHighSurrogate with
    | true => rw [readString_highEscape high, alone high]
    | false => exact readString_unicodeEscape small high start fuel d rest
  · obtain ⟨least, most⟩ := CodePoint.toSurrogates_high large
    obtain ⟨leastLow, mostLow⟩ := CodePoint.toSurrogates_low c
    let high : CodePoint := ⟨c.toSurrogates.1, by omega⟩
    let low : CodePoint := ⟨c.toSurrogates.2, by omega⟩
    have isHigh : high.isHighSurrogate = true := by simp [CodePoint.isHighSurrogate, high, least, most]
    have isLow : low.isLowSurrogate = true := by simp [CodePoint.isLowSurrogate, low, leastLow, mostLow]
    have more : unicodeEscape c.toSurrogates.2 ++ d :: rest ≠ [] := by simp
    obtain ⟨e, after, split⟩ := List.exists_cons_of_ne_nil more
    have second := lowEscape?_unicodeEscape (c := low) (by simp only [low]; omega) d rest
    have first := readString_highEscape isHigh start fuel e after
    rw [← split, second, isLow] at first
    have joins : CodePoint.ofSurrogates high low = c := CodePoint.ofSurrogates_of_toSurrogates large rfl rfl
    rw [written, List.append_assoc, first, if_pos rfl]
    dsimp only
    rw [joins]

theorem lowEscape?_quote (rest : Text) : lowEscape? (('"' : CodePoint) :: rest) = none := by
  cases rest with
  | nil => rfl
  | cons c rest => simp +decide [lowEscape?]

theorem readString_asciiEscapes (u start : Text) {fuel : Nat} (enough : u.length < fuel) (rest : Text) :
    readString start fuel (u.flatMap asciiEscape ++ ('"' : CodePoint) :: rest) = .ok (u.joined, rest) := by
  have tail : ∀ t : Text, ∃ e after, t.flatMap asciiEscape ++ ('"' : CodePoint) :: rest = e :: after :=
    fun t => List.exists_cons_of_ne_nil (by simp)
  induction u using Text.joined.induct generalizing fuel with
  | case1 =>
    obtain ⟨fuel, rfl⟩ : ∃ n, fuel = n + 1 := ⟨fuel - 1, by omega⟩
    rfl
  | case2 c =>
    obtain ⟨fuel, rfl⟩ : ∃ n, fuel = n + 2 := ⟨fuel - 2, by simp at enough; omega⟩
    rw [List.flatMap_cons, List.flatMap_nil, List.append_nil,
      readString_asciiEscape fun _ => lowEscape?_quote rest]
    rfl
  | case3 c d more pair ih =>
    obtain ⟨high, low⟩ := Bool.and_eq_true_iff.mp pair
    have surrogates : c.isSurrogate = true ∧ d.isSurrogate = true ∧ d.val < 0x10000 := by
      simp only [CodePoint.isHighSurrogate, CodePoint.isLowSurrogate, CodePoint.isSurrogate, Bool.and_eq_true,
        decide_eq_true_eq] at high low ⊢
      omega
    obtain ⟨first, second, small⟩ := surrogates
    obtain ⟨fuel, rfl⟩ : ∃ n, fuel = n + 1 := ⟨fuel - 1, by omega⟩
    simp only [List.length_cons] at enough
    have later := @ih fuel (by omega)
    obtain ⟨e, after, split⟩ := tail more
    rw [split] at later
    have more' : unicodeEscape d.val ++ e :: after ≠ [] := by simp
    obtain ⟨f, between, split'⟩ := List.exists_cons_of_ne_nil more'
    have next := lowEscape?_unicodeEscape small e after
    rw [split', if_pos low] at next
    rw [List.flatMap_cons, List.flatMap_cons, List.append_assoc, List.append_assoc, split,
      asciiEscape_of_isSurrogate first, asciiEscape_of_isSurrogate second, split', readString_highEscape high, next]
    simp only [later, Text.joined, pair, if_true]
    rfl
  | case4 c d more apart ih =>
    obtain ⟨fuel, rfl⟩ : ∃ n, fuel = n + 1 := ⟨fuel - 1, by omega⟩
    rw [List.length_cons] at enough
    have later := @ih fuel (by omega)
    obtain ⟨e, after, split⟩ := tail (d :: more)
    have alone : c.isHighSurrogate = true → lowEscape? (e :: after) = none := by
      intro high
      rw [high, Bool.true_and, Bool.not_eq_true] at apart
      obtain ⟨f, between, split'⟩ := tail more
      rw [← split, List.flatMap_cons, List.append_assoc, split']
      exact lowEscape?_asciiEscape apart f between
    rw [split] at later
    rw [List.flatMap_cons, List.append_assoc, split, readString_asciiEscape alone, later, Text.joined, if_neg apart]
    rfl

theorem asciiString_spells (u : Text) : SpellsText u.joined (asciiString u) := by
  have long : u.length ≤ (u.flatMap asciiEscape).length := by
    induction u with
    | nil => exact Nat.le_refl 0
    | cons c u ih =>
      have now := List.length_pos_iff.mpr (asciiEscape_ne_nil c)
      simp only [List.flatMap_cons, List.length_append, List.length_cons]
      omega
  refine ⟨u.flatMap asciiEscape, rfl, fun start fuel rest enough => ?_⟩
  exact readString_asciiEscapes u start (Nat.lt_of_le_of_lt long enough) rest

def Prints (written : Except Unwritable (List Text)) (t : Text) : Prop := ∃ ps, written = .ok ps ∧ ps.flatten = t

theorem blank_newLine (level : Nat) : Blank (newLine level) := by
  intro c inside
  rcases List.mem_cons.mp inside with rfl | space
  · decide
  · rw [List.eq_of_mem_replicate space]
    decide

theorem blank_space : Blank " " := List.forall_mem_singleton.mpr (by decide)

theorem lines_prints (level : Nat) {parts : List (Except Unwritable (List Text))} {ts : List Text}
    (each : List.Forall₂ Prints parts ts) (some : ts ≠ []) :
    Prints (lines level parts) (newLine level ++ listed (newLine level) ts) := by
  induction each with
  | nil => exact (some rfl).elim
  | @cons part t parts ts first others ih =>
    obtain ⟨pieces, rfl, rfl⟩ := first
    cases others with
    | nil => exact ⟨[newLine level] ++ pieces ++ [] ++ [], rfl, by simp [listed, Text.join]⟩
    | @cons next u parts ts second more =>
      obtain ⟨others, later, written⟩ := ih (List.cons_ne_nil u ts)
      refine ⟨[newLine level] ++ pieces ++ [("," : Text)] ++ others, ?_, ?_⟩
      · rw [lines, later]
        rfl
      · simp only [List.flatten_append, written, listed, Text.join]
        simp
        rfl

theorem bracketed_prints (left right : Text) (level : Nat) {parts : List (Except Unwritable (List Text))}
    {ts : List Text} (each : List.Forall₂ Prints parts ts) (fits : bracketsFit level parts = true) :
    ∃ before closing, Blank before ∧ Blank closing ∧ Prints (bracketed left right level parts)
      (left ++ (before ++ (listed (newLine (level + 1)) ts ++ (closing ++ right)))) := by
  have room := of_decide_eq_true fits
  cases each with
  | nil =>
    exact ⟨[], [], blank_nil, blank_nil, [left ++ right], writtenAt_of_le room _, by simp [listed, Text.join]⟩
  | @cons part t parts ts first others =>
    obtain ⟨body, inner, written⟩ := lines_prints (level + 1) (.cons first others) (List.cons_ne_nil t ts)
    refine ⟨newLine (level + 1), newLine level, blank_newLine _, blank_newLine _,
      [left] ++ body ++ [newLine level, right], ?_, ?_⟩
    · have started : bracketed left right level (part :: parts) = _ := writtenAt_of_le room _
      rw [started, inner]
      rfl
    · simp [written]

theorem exists_forall₂ {α β : Type} {R : α → β → Prop} {xs : List α} (each : ∀ x ∈ xs, ∃ y, R x y) :
    ∃ ys, List.Forall₂ R xs ys := by
  induction xs with
  | nil => exact ⟨[], .nil⟩
  | cons x xs ih =>
    obtain ⟨⟨y, first⟩, others⟩ := List.forall_mem_cons.mp each
    obtain ⟨ys, later⟩ := ih others
    exact ⟨y :: ys, .cons first later⟩

theorem writeScalar_int {i : Int} (short : i.natAbs < 10 ^ maxIntDigits) (level : Nat) :
    writeScalar (.int i) level = .ok (Text.ofInt i) := by
  simp only [writeScalar, Scalar.isLong_int short]
  rfl

theorem indented_spells {v : Value} (exact : v.Exact) {room : Nat} (shallow : v.depth < room) {level : Nat}
    (fits : level + v.depth ≤ maxLevel) :
    ∃ t, Prints (v.read indentedReading level) t ∧ Spells room v.joined t := by
  induction exact generalizing room level with
  | null => exact ⟨_, ⟨[_], rfl, List.flatten_singleton⟩, spells_null room⟩
  | bool b => exact ⟨_, ⟨[_], rfl, List.flatten_singleton⟩, spells_bool room b⟩
  | int short =>
    refine ⟨_, ⟨[Text.ofInt _], ?_, List.flatten_singleton⟩, spells_int room short⟩
    simp only [Value.read, indentedReading, writeScalar_int short]
    rfl
  | text t => exact ⟨_, ⟨[_], rfl, List.flatten_singleton⟩, Spells.text (asciiString_spells t) room⟩
  | @list xs _ ih =>
    cases room with
    | zero => cases shallow
    | succ room =>
      have deeper : ∀ x ∈ xs, level + 1 + x.depth ≤ maxLevel := fun x inside => by
        have less := Value.depth_lt_of_mem_list inside
        omega
      have start : bracketsFit level xs = true :=
        (bracketsFit_iff (by omega)).mpr fun x inside => Nat.le_of_add_right_le (deeper x inside)
      obtain ⟨ts, each⟩ := exists_forall₂ fun x inside =>
        ih x inside (Nat.lt_of_lt_of_le (Value.depth_lt_of_mem_list inside) (Nat.le_of_lt_succ shallow))
          (deeper x inside)
      have written : List.Forall₂ Prints (xs.map fun x => x.read indentedReading (level + 1)) ts :=
        List.forall₂_map_left_iff.mpr (each.imp fun _ _ both => both.1)
      have spelled : List.Forall₂ (Spells room) (xs.map Value.joined) ts :=
        List.forall₂_map_left_iff.mpr (each.imp fun _ _ both => both.2)
      obtain ⟨before, closing, beforeBlank, closingBlank, prints⟩ := bracketed_prints "[" "]" level written
        (by rwa [bracketsFit, List.isEmpty_map])
      refine ⟨"[" ++ (before ++ (listed (newLine (level + 1)) ts ++ (closing ++ "]"))), ?_, ?_⟩
      · rw [Value.read, Value.readItems_eq_map]
        simp only [indentedReading, List.map_map]
        exact prints
      · rw [Value.joined_list]
        exact Spells.list beforeBlank (blank_newLine _) closingBlank spelled
  | @map es keys _ ih =>
    cases room with
    | zero => cases shallow
    | succ room =>
      have deeper : ∀ e ∈ es, level + 1 + e.2.depth ≤ maxLevel := fun e inside => by
        have less := Value.depth_lt_of_mem_map inside
        omega
      have start : bracketsFit level es = true :=
        (bracketsFit_iff (by omega)).mpr fun e inside => Nat.le_of_add_right_le (deeper e inside)
      have entry : ∀ e ∈ es, ∃ t, Prints (member (level + 1) (e.1, e.2.read indentedReading)) t ∧
          SpellsMember room " " (e.1.joined, e.2.joined) t := by
        intro e inside
        obtain ⟨name, isText⟩ := keys e inside
        have room := Nat.lt_of_lt_of_le (Value.depth_lt_of_mem_map inside) (Nat.le_of_lt_succ shallow)
        obtain ⟨t, ⟨pieces, written, rfl⟩, spelled⟩ := ih e inside room (deeper e inside)
        refine ⟨asciiString name ++ (": " ++ pieces.flatten), ⟨asciiString name :: ": " :: pieces, ?_, rfl⟩, ?_⟩
        · simp only [member, isText, nameText, Scalar.isLong, written, bind, Except.bind]
          rfl
        · exact ⟨name.joined, _, _, by rw [isText]; rfl, asciiString_spells name, spelled, rfl⟩
      obtain ⟨ts, each⟩ := exists_forall₂ entry
      have written : List.Forall₂ Prints (es.map fun e => member (level + 1) (e.1, e.2.read indentedReading)) ts :=
        List.forall₂_map_left_iff.mpr (each.imp fun _ _ both => both.1)
      have spelled : List.Forall₂ (SpellsMember room " ") (es.map fun e => (e.1.joined, e.2.joined)) ts :=
        List.forall₂_map_left_iff.mpr (each.imp fun _ _ both => both.2)
      obtain ⟨before, closing, beforeBlank, closingBlank, prints⟩ :=
        bracketed_prints "\x7b" "\x7d" level written (by rwa [bracketsFit, List.isEmpty_map])
      refine ⟨"\x7b" ++ (before ++ (listed (newLine (level + 1)) ts ++ (closing ++ "\x7d"))), ?_, ?_⟩
      · rw [Value.read, Value.readEntries_eq_map]
        simp only [indentedReading, List.map_map]
        exact prints
      · rw [Value.joined_map]
        exact Spells.map beforeBlank blank_space (blank_newLine _) closingBlank spelled

/-- The reader in which no more than `room` collections may lie in one another. -/
def parseWithin (room : Nat) (t : Text) : Except Error Value :=
  ((readWithin room t).mapError (.ofStop t)).map fun v => v.read settledReading

theorem parse_eq : parse = parseWithin maxNesting := rfl

theorem parseWithin_print {v : Value} (exact : v.Exact) (keyed : v.joined.WellKeyed) (fits : v.depth ≤ maxLevel) :
    ∃ t, print v = .ok t ∧
      ∀ room, v.depth < room → ∀ after, Blank after → parseWithin room (t ++ after) = .ok v.joined := by
  rw [← Nat.zero_add v.depth] at fits
  obtain ⟨_, ⟨pieces, written, _⟩, _⟩ := indented_spells exact (Nat.lt_succ_self v.depth) fits
  refine ⟨pieces.flatten, by rw [print, written]; rfl, fun room shallow after blank => ?_⟩
  obtain ⟨t, ⟨pieces', same, rfl⟩, spelled⟩ := indented_spells exact shallow fits
  cases written.symm.trans same
  have read := readWithin_of_spells spelled blank_nil blank
  rw [List.nil_append] at read
  rw [parseWithin, read]
  exact congrArg Except.ok (settled_of_wellKeyed exact.joined keyed)

theorem maxLevel_lt_maxNesting : maxLevel < maxNesting := by decide

theorem parse_print {v : Value} (exact : v.Exact) (keyed : v.joined.WellKeyed) (fits : v.depth ≤ maxLevel) :
    ∃ t, print v = .ok t ∧ ∀ after, Blank after → parse (t ++ after) = .ok v.joined := by
  obtain ⟨t, written, read⟩ := parseWithin_print exact keyed fits
  have shallow := Nat.lt_of_le_of_lt fits maxLevel_lt_maxNesting
  exact ⟨t, written, fun after blank => parse_eq ▸ read maxNesting shallow after blank⟩

theorem parse_print_of_whole {v : Value} {ts : List Text} {deep : Nat} (carries : v.Carries ts deep)
    (fits : deep ≤ maxLevel) (whole : ∀ t ∈ ts, t.hasSurrogate = false) :
    ∃ t, print v = .ok t ∧ ∀ after, Blank after → parse (t ++ after) = .ok v := by
  have noSurrogate : v.hasSurrogate = false := by
    rw [carries.surrogates, List.any_eq_false]
    exact fun t inside => by simp [whole t inside]
  have same := carries.exact.joined_eq_self (carries.exact.paired_of_whole noSurrogate)
  have keyed : v.joined.WellKeyed := by
    rw [same]
    exact carries.keyed
  have read := parse_print carries.exact keyed (Nat.le_trans carries.shallow fits)
  rw [same] at read
  exact read

end Json

end TokenIntake
