import Mathlib.Logic.Basic
import TokenIntake.Json.Indented
import TokenIntake.Proofs.Except
import TokenIntake.Proofs.Value.Depth
import TokenIntake.Proofs.Value.Reading

namespace TokenIntake.Json

def canName : Scalar → Bool
  | .bytes _ | .time _ => false
  | s => !s.isLong

def scalarWritable (s : Scalar) (level : Nat) : Bool :=
  !s.isLong && match s with
    | .bytes _ | .time _ => decide (level + 2 ≤ maxLevel)
    | _ => true

def bracketsFit {α : Type} (level : Nat) (parts : List α) : Bool :=
  decide (level + (if parts.isEmpty then 0 else 1) ≤ maxLevel)

def writableReading : Reading (Nat → Bool) where
  scalar := scalarWritable
  list found level := bracketsFit level found && found.all fun x => x (level + 1)
  map found level := bracketsFit level found && found.all fun e => canName e.1 && e.2 (level + 1)
  set elements level := decide (level + 2 ≤ maxLevel) && !elements.any Scalar.isLong
  pair first second level := bracketsFit level [first, second] && [first, second].all fun x => x (level + 1)
  listAgain _ := false
  mapAgain _ := false
  pairAgain _ := false

def writableAt (level : Nat) (v : Value) : Bool := v.read writableReading level

/-- No integer in it is too long, no key is a timestamp or bytes, no collection stands inside itself, and nothing lies
too deep. -/
def writable (v : Value) : Bool := writableAt 0 v

theorem writableAt_list (level : Nat) (xs : List Value) :
    writableAt level (.list xs) = (bracketsFit level xs && xs.all (writableAt (level + 1))) := by
  rw [writableAt, Value.read, Value.readItems_eq_map]
  simp only [writableReading, bracketsFit, List.isEmpty_map, List.all_map]
  rfl

theorem writableAt_map (level : Nat) (es : List (Scalar × Value)) : writableAt level (.map es) =
    (bracketsFit level es && es.all fun e => canName e.1 && writableAt (level + 1) e.2) := by
  rw [writableAt, Value.read, Value.readEntries_eq_map]
  simp only [writableReading, bracketsFit, List.isEmpty_map, List.all_map]
  rfl

theorem unless_ok_iff {α ε : Type} (b : Bool) (a : α) (e : ε) :
    (∃ a', (if b then .error e else .ok a : Except ε α) = .ok a') ↔ (!b) = true := by
  cases b <;> simp

theorem nameText_ok_iff (s : Scalar) : (∃ t, nameText s = .ok t) ↔ canName s = true := by
  unfold nameText canName
  cases s with
  | bytes bs => simp
  | time t => simp
  | _ => exact unless_ok_iff _ _ _

theorem writtenAt_ok_iff {α : Type} (level : Nat) (inside : Except Unwritable α) :
    (∃ a, writtenAt level inside = .ok a) ↔ level ≤ maxLevel ∧ ∃ a, inside = .ok a := by
  unfold writtenAt
  split
  · rename_i beyond
    exact iff_of_false (fun ⟨a, written⟩ => by cases written) fun ⟨fits, _⟩ => Nat.not_le.mpr beyond fits
  · rename_i fits
    exact (and_iff_right (Nat.le_of_not_lt fits)).symm

theorem writtenAt_of_le {α : Type} {level : Nat} (fits : level ≤ maxLevel) (inside : Except Unwritable α) :
    writtenAt level inside = inside := by
  rw [writtenAt, if_neg (Nat.not_lt.mpr fits)]

theorem writeScalar_ok_iff (s : Scalar) (level : Nat) :
    (∃ t, writeScalar s level = .ok t) ↔ scalarWritable s level = true := by
  unfold writeScalar scalarWritable
  rw [Bool.and_eq_true, ← unless_ok_iff s.isLong (scalarText asciiString s) Unwritable.longInteger]
  cases s with
  | bytes bs => rw [writtenAt_ok_iff, decide_eq_true_iff, and_comm]
  | time t => rw [writtenAt_ok_iff, decide_eq_true_iff, and_comm]
  | _ => exact (and_iff_left rfl).symm

theorem writeSet_ok_iff (elements : List Scalar) (level : Nat) : (∃ t, writeSet elements level = .ok t) ↔
    (decide (level + 2 ≤ maxLevel) && !elements.any Scalar.isLong) = true := by
  rw [writeSet, writtenAt_ok_iff, unless_ok_iff, Bool.and_eq_true, decide_eq_true_iff]

theorem lines_ok_iff (level : Nat) {parts : List (Except Unwritable (List Text))} :
    (∃ ps, lines level parts = .ok ps) ↔ ∀ part ∈ parts, ∃ ps, part = .ok ps := by
  induction parts with
  | nil => exact iff_of_true ⟨[], rfl⟩ (by simp)
  | cons part rest ih =>
    rw [List.forall_mem_cons, ← ih]
    constructor
    · rintro ⟨ps, written⟩
      obtain ⟨pieces, now, written⟩ := bind_eq_ok written
      obtain ⟨more, later, _⟩ := bind_eq_ok written
      exact ⟨⟨pieces, now⟩, more, later⟩
    · rintro ⟨⟨pieces, rfl⟩, more, later⟩
      exact ⟨_, by simp only [lines, later, bind, Except.bind]; rfl⟩

theorem bracketed_ok_iff (left right : Text) (level : Nat) {parts : List (Except Unwritable (List Text))} :
    (∃ ps, bracketed left right level parts = .ok ps) ↔
      bracketsFit level parts = true ∧ ∀ part ∈ parts, ∃ ps, part = .ok ps := by
  rw [← lines_ok_iff (level + 1), bracketsFit, decide_eq_true_iff]
  unfold bracketed
  cases parts with
  | nil => exact (writtenAt_ok_iff _ _).trans (and_congr_right fun _ => iff_of_true ⟨_, rfl⟩ ⟨[], rfl⟩)
  | cons part rest =>
    refine (writtenAt_ok_iff _ _).trans (and_congr_right fun _ => ?_)
    constructor
    · rintro ⟨ps, written⟩
      obtain ⟨body, inner, _⟩ := bind_eq_ok written
      exact ⟨body, inner⟩
    · rintro ⟨body, inner⟩
      exact ⟨_, by simp only [inner, bind, Except.bind]; rfl⟩

theorem member_ok_iff (level : Nat) (e : Scalar × Indented) : (∃ ps, member level e = .ok ps) ↔
    (∃ t, nameText e.1 = .ok t) ∧ ∃ ps, e.2 level = .ok ps := by
  constructor
  · rintro ⟨ps, written⟩
    obtain ⟨name, now, written⟩ := bind_eq_ok written
    obtain ⟨pieces, later, _⟩ := bind_eq_ok written
    exact ⟨⟨name, now⟩, pieces, later⟩
  · rintro ⟨⟨name, now⟩, pieces, later⟩
    exact ⟨_, by simp only [member, now, later, bind, Except.bind]; rfl⟩

theorem map_ok_iff {α β ε : Type} (f : α → β) (x : Except ε α) : (∃ b, x.map f = .ok b) ↔ ∃ a, x = .ok a := by
  cases x <;> simp [Except.map]

theorem indented_agrees :
    indentedReading.Agrees writableReading fun x b => ∀ level, (∃ ps, x level = .ok ps) ↔ b level = true where
  scalar s level := (map_ok_iff _ _).trans (writeScalar_ok_iff s level)
  list xs f g each level := by
    simp only [indentedReading, writableReading, bracketed_ok_iff, bracketsFit, List.map_map, List.isEmpty_map,
      List.forall_mem_map, List.all_map, List.all_eq_true, Bool.and_eq_true]
    exact and_congr_right fun _ => forall₂_congr fun x inside => each x inside (level + 1)
  map es key f g each level := by
    simp only [indentedReading, writableReading, bracketed_ok_iff, bracketsFit, List.map_map, List.isEmpty_map,
      List.forall_mem_map, List.all_map, List.all_eq_true, Function.comp_apply, member_ok_iff, nameText_ok_iff,
      Bool.and_eq_true]
    exact and_congr_right fun _ => forall₂_congr fun e inside => and_congr_right fun _ => each e inside (level + 1)
  set elements level := (map_ok_iff _ _).trans (writeSet_ok_iff elements level)
  pair first second first' second' one other level := by
    simp only [indentedReading, writableReading, bracketed_ok_iff, bracketsFit, List.isEmpty_cons,
      List.forall_mem_cons, List.all_cons, List.all_nil, Bool.and_eq_true, one (level + 1), other (level + 1),
      List.not_mem_nil, false_implies, implies_true]
  listAgain level := by simp [indentedReading, writableReading]
  mapAgain level := by simp [indentedReading, writableReading]
  pairAgain level := by simp [indentedReading, writableReading]

theorem print_ok_iff (v : Value) : (∃ t, print v = .ok t) ↔ writable v = true := by
  rw [writable, writableAt, ← indented_agrees.read v 0]
  exact map_ok_iff _ _

theorem scalarWritable_of_plain {s : Scalar} (plain : s.isPlain = true) (level : Nat) :
    scalarWritable s level = true := by
  unfold Scalar.isPlain at plain
  unfold scalarWritable
  split at plain
  · cases plain
  · cases plain
  · simp [plain]

theorem bracketsFit_iff {α : Type} {level : Nat} {parts : List α} (fits : level ≤ maxLevel) :
    bracketsFit level parts = true ↔ ∀ part ∈ parts, level + 1 ≤ maxLevel := by
  rw [bracketsFit, decide_eq_true_iff]
  cases parts with
  | nil => exact iff_of_true fits (List.forall_mem_nil _)
  | cons part rest => exact ⟨fun deeper _ _ => deeper, fun each => each part List.mem_cons_self⟩

theorem writableAt_inside {x : Value} {level : Nat}
    (known : level + 1 ≤ maxLevel → (writableAt (level + 1) x = true ↔ x.depth ≤ maxLevel - (level + 1))) :
    level + 1 ≤ maxLevel ∧ writableAt (level + 1) x = true ↔ x.depth < maxLevel - level := by
  constructor
  · rintro ⟨fits, written⟩
    have shallow := (known fits).mp written
    omega
  · intro shallow
    exact ⟨by omega, (known (by omega)).mpr (by omega)⟩

theorem writableAt_iff_of_plain {v : Value} (plain : v.Plain) {level : Nat} (fits : level ≤ maxLevel) :
    writableAt level v = true ↔ v.depth ≤ maxLevel - level := by
  induction plain generalizing level with
  | scalar short => exact iff_of_true (scalarWritable_of_plain short level) (Nat.zero_le _)
  | @list xs _ ih =>
    rw [writableAt_list, Bool.and_eq_true, bracketsFit_iff fits, List.all_eq_true, Value.depth_list_le_iff,
      ← forall₂_and]
    exact forall₂_congr fun x among => writableAt_inside (ih x among)
  | @map es keys _ ih =>
    rw [writableAt_map, Bool.and_eq_true, bracketsFit_iff fits, List.all_eq_true, Value.depth_map_le_iff,
      ← forall₂_and]
    refine forall₂_congr fun e among => Iff.trans ?_ (writableAt_inside (ih e among))
    obtain ⟨name, isText⟩ := keys e among
    rw [isText]
    exact Iff.rfl

theorem print_ok_iff_of_plain {v : Value} (plain : v.Plain) : (∃ t, print v = .ok t) ↔ v.depth ≤ maxLevel := by
  rw [print_ok_iff, writable, writableAt_iff_of_plain plain (Nat.zero_le _), Nat.sub_zero]

end TokenIntake.Json
