import TokenIntake.Text.CodePoint

namespace TokenIntake

abbrev Text := List CodePoint

namespace Text

def ofString (s : String) : Text := s.toList.map .ofChar

instance : Coe String Text := ⟨ofString⟩

def splitOn (t : Text) (sep : CodePoint) : List Text :=
  match t with
  | [] => [[]]
  | c :: cs =>
    if c = sep then [] :: splitOn cs sep
    else match splitOn cs sep with
      | [] => [[c]]
      | part :: parts => (c :: part) :: parts

theorem splitOn_ne_nil (t : Text) (sep : CodePoint) : t.splitOn sep ≠ [] := by
  cases t with
  | nil => simp [splitOn]
  | cons c cs =>
    simp only [splitOn]
    split
    · simp
    · split <;> simp

def join (sep : Text) : List Text → Text
  | [] => []
  | [t] => t
  | t :: ts => t ++ sep ++ join sep ts

theorem join_splitOn (t : Text) (sep : CodePoint) : join [sep] (t.splitOn sep) = t := by
  induction t with
  | nil => rfl
  | cons c cs ih =>
    obtain ⟨part, parts, split⟩ := List.exists_cons_of_ne_nil (splitOn_ne_nil cs sep)
    rw [split] at ih
    by_cases same : c = sep
    · simp [splitOn, split, join, same, ih]
    · cases parts with
      | nil => simpa [splitOn, split, join, same] using ih
      | cons next more => simpa [splitOn, split, join, same] using ih

theorem splitOn_append {t : Text} {sep : CodePoint} (none : sep ∉ t) (rest : Text) :
    (t ++ sep :: rest).splitOn sep = t :: rest.splitOn sep := by
  induction t with
  | nil => simp [splitOn]
  | cons c cs ih =>
    have different : c ≠ sep := fun same => none (same ▸ List.mem_cons_self)
    have later : sep ∉ cs := fun inside => none (List.mem_cons_of_mem c inside)
    rw [List.cons_append, splitOn, if_neg different, ih later]

theorem splitOn_of_not_mem {t : Text} {sep : CodePoint} (none : sep ∉ t) : t.splitOn sep = [t] := by
  induction t with
  | nil => rfl
  | cons c cs ih =>
    have different : c ≠ sep := fun same => none (same ▸ List.mem_cons_self)
    have later : sep ∉ cs := fun inside => none (List.mem_cons_of_mem c inside)
    rw [splitOn, if_neg different, ih later]

theorem splitOn_join {parts : List Text} {sep : CodePoint} (some : parts ≠ []) (none : ∀ t ∈ parts, sep ∉ t) :
    (join [sep] parts).splitOn sep = parts := by
  induction parts with
  | nil => exact (some rfl).elim
  | cons t ts ih =>
    obtain ⟨first, later⟩ := List.forall_mem_cons.mp none
    cases ts with
    | nil => exact splitOn_of_not_mem first
    | cons u us =>
      have rest := ih (List.cons_ne_nil u us) later
      rw [join, List.append_assoc, List.singleton_append, splitOn_append first, rest]
      exact List.cons_ne_nil u us

def cut (t : Text) (sep : CodePoint) : Text × Text :=
  (t.takeWhile (· ≠ sep), (t.dropWhile (· ≠ sep)).drop 1)

def startsWith (t start : Text) : Bool := start.isPrefixOf t

def dropEndWhile (t : Text) (p : CodePoint → Bool) : Text := (t.reverse.dropWhile p).reverse

def padEnd (t : Text) (width : Nat) : Text := t ++ List.replicate (width - t.length) (' ' : CodePoint)

def spaces (n : Nat) : Text := List.replicate n (' ' : CodePoint)

def ofNat (n : Nat) : Text := (Nat.toDigits 10 n).map .ofChar

def ofInt : Int → Text
  | .ofNat n => ofNat n
  | .negSucc n => ('-' : CodePoint) :: ofNat (n + 1)

def padded (width n : Nat) : Text :=
  let digits := ofNat n
  List.replicate (width - digits.length) ('0' : CodePoint) ++ digits

def digitsValue (t : Text) : Nat := t.foldl (fun n c => 10 * n + c.digitValue) 0

def hex (width n : Nat) : Text :=
  let digits := (Nat.toDigits 16 n).map CodePoint.ofChar
  List.replicate (width - digits.length) ('0' : CodePoint) ++ digits

def hexValue? (t : Text) : Option Nat :=
  t.foldlM (fun n c => c.hexValue?.map (16 * n + ·)) 0

def upperHex (width n : Nat) : Text :=
  (hex width n).map CodePoint.asciiUpper

def hasSurrogate (t : Text) : Bool := t.any CodePoint.isSurrogate

def runs {κ : Type} [DecidableEq κ] (kind : CodePoint → κ) : Text → List (κ × Text)
  | [] => []
  | c :: rest =>
    match runs kind rest with
    | (k, run) :: more => if kind c = k then (k, c :: run) :: more else (kind c, [c]) :: (k, run) :: more
    | [] => [(kind c, [c])]

end Text

end TokenIntake
