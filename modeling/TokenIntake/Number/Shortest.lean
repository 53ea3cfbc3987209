import TokenIntake.Number.Binary64

namespace TokenIntake.Binary64

def digitCount (n : Nat) : Nat := (Nat.toDigits 10 n).length

/-- The `k` with `10 ^ k ≤ num / den < 10 ^ (k + 1)`, for positive numbers. -/
def log10Ratio (num den : Nat) : Int :=
  if den ≤ num then digitCount (num / den) - 1
  else
    let k := digitCount (den / num) - 1
    if num * pow10 k < den then -(k + 1) else -k

/-- The two neighbours of `num / den` among the multiples of `10 ^ exponent`: the lower one, and the
double of what is left, to tell which one is nearer. -/
def neighbour (num den : Nat) (exponent : Int) : Nat × Nat × Nat :=
  let num := num * pow10 (-exponent)
  let den := den * pow10 exponent
  (num / den, 2 * (num % den), den)

/-- The nearer of the two neighbours that read back as `x`; of two equally near ones the even one. -/
def readingBack? (x : Binary64) (num den : Nat) (exponent : Int) : Option Nat :=
  let (low, left, unit) := neighbour num den exponent
  let lowReads := ofDecimal false low exponent = x
  let highReads := ofDecimal false (low + 1) exponent = x
  if lowReads ∧ highReads then
    some (if left < unit ∨ left = unit ∧ low % 2 = 0 then low else low + 1)
  else if lowReads then some low
  else if highReads then some (low + 1)
  else none

/-- Digits and exponent of a positive finite number; seventeen digits always read back. A neighbour
that carried into the next power of ten has one zero too many. -/
def shortest (mantissa : Nat) (exponent : Int) : Nat × Int :=
  let (num, den) := ratio mantissa exponent
  let k := log10Ratio num den
  let x := finite false mantissa exponent
  match (List.range 17).findSome? fun (n : Nat) => (readingBack? x num den (k - n)).map (·, k - n) with
  | some (n, e) => if n % 10 = 0 then (n / 10, e + 1) else (n, e)
  | none => (num / den, 0)

end TokenIntake.Binary64
