import TokenIntake.Text.Basic

namespace TokenIntake.Text

def commonStart : Text → Text → Nat
  | c :: s, d :: t => if c = d then commonStart s t + 1 else 0
  | _, _ => 0

structure Common where
  left : Nat
  right : Nat
  length : Nat

def longer (a b : Common) : Common := if a.length < b.length then b else a

def suffixesFrom (i : Nat) : Text → List (Nat × Text)
  | [] => []
  | c :: rest => (i, c :: rest) :: suffixesFrom (i + 1) rest

def longestCommon (s t : Text) : Common :=
  (suffixesFrom 0 s).foldl (fun best (i, s) =>
    (suffixesFrom 0 t).foldl (fun best (j, t) => longer best ⟨i, j, commonStart s t⟩) best) ⟨0, 0, 0⟩

def matching : Nat → Text → Text → Nat
  | 0, _, _ => 0
  | fuel + 1, s, t =>
    let run := longestCommon s t
    if run.length = 0 then 0
    else run.length + matching fuel (s.take run.left) (t.take run.right)
      + matching fuel (s.drop (run.left + run.length)) (t.drop (run.right + run.length))

def likeness (s t : Text) : Nat × Nat := (2 * matching s.length s t, s.length + t.length)

def less : Text → Text → Bool
  | [], [] => false
  | [], _ :: _ => true
  | _ :: _, [] => false
  | c :: s, d :: t => c.val < d.val || c = d && less s t

def insertBy {α : Type} (before : α → α → Bool) (x : α) : List α → List α
  | [] => [x]
  | y :: ys => if before y x then y :: insertBy before x ys else x :: y :: ys

def sortBy {α : Type} (before : α → α → Bool) (xs : List α) : List α := xs.foldr (insertBy before) []

/-- Of two candidates with their likeness, the more alike comes first, and then the one that sorts
last. -/
def nearer (a b : (Nat × Nat) × Text) : Bool :=
  b.1.1 * a.1.2 < a.1.1 * b.1.2 || b.1.1 * a.1.2 = a.1.1 * b.1.2 && less b.2 a.2

def alike (t : Text) (candidates : List Text) : List Text :=
  let rated := candidates.map fun s => (likeness s t, s)
  let near := rated.filter fun ((n, d), _) => 3 * d ≤ 5 * n
  sortBy less (((sortBy nearer near).take 3).map Prod.snd)

end TokenIntake.Text
