namespace TokenIntake

inductive Binary64 where
  | nan
  | infinite (negative : Bool)
  | finite (negative : Bool) (mantissa : Nat) (exponent : Int)
deriving DecidableEq

namespace Binary64

def roundDiv (num den : Nat) : Nat :=
  let q := num / den
  let r := num % den
  if 2 * r > den || 2 * r = den && q % 2 = 1 then q + 1 else q

def pow2 (e : Int) : Nat := Nat.pow 2 e.toNat

def pow10 (e : Int) : Nat := Nat.pow 10 e.toNat

/-- The largest `e` with `2 ^ e ≤ num / den`, for positive numbers. -/
def log2Ratio (num den : Nat) : Int :=
  let e : Int := (num.log2 : Int) - den.log2
  if den * pow2 e ≤ num * pow2 (-e) then e else e - 1

/-- The number nearest to a ratio, a half going to the even mantissa. -/
def round (negative : Bool) (num den : Nat) : Binary64 :=
  if num = 0 then .finite negative 0 (-1074)
  else
    let e := max (log2Ratio num den - 52) (-1074)
    let m := roundDiv (num * pow2 (-e)) (den * pow2 e)
    let (m, e) := if m = pow2 53 then (pow2 52, e + 1) else (m, e)
    if e > 971 then .infinite negative else .finite negative m e

def ofInt (i : Int) : Binary64 := round (i < 0) i.natAbs 1

/-- The number nearest to `digits * 10 ^ exponent`. Far outside the range no power is computed. -/
def ofDecimal (negative : Bool) (digits : Nat) (exponent : Int) : Binary64 :=
  let size : Int := digits.log2 * 30103 / 100000
  if digits = 0 ∨ exponent + size < -400 then .finite negative 0 (-1074)
  else if exponent + size > 400 then .infinite negative
  else round negative (digits * pow10 exponent) (pow10 (-exponent))

def ratio (mantissa : Nat) (exponent : Int) : Nat × Nat :=
  (mantissa * pow2 exponent, pow2 (-exponent))

def isZero : Binary64 → Bool
  | .finite _ m _ => m = 0
  | _ => false

def truncate? : Binary64 → Option Int
  | .finite negative m e =>
    let n : Int := m * pow2 e / pow2 (-e)
    some (if negative then -n else n)
  | _ => none

def toInt? : Binary64 → Option Int
  | .finite negative m e =>
    if m * pow2 e % pow2 (-e) = 0 then
      let n : Int := m * pow2 e / pow2 (-e)
      some (if negative then -n else n)
    else none
  | _ => none

def neg : Binary64 → Binary64
  | .nan => .nan
  | .infinite negative => .infinite !negative
  | .finite negative m e => .finite (!negative) m e

def add : Binary64 → Binary64 → Binary64
  | .nan, _ | _, .nan => .nan
  | .infinite a, .infinite b => if a = b then .infinite a else .nan
  | .infinite a, _ | _, .infinite a => .infinite a
  | .finite sx mx ex, .finite sy my ey =>
    let e := min ex ey
    let x : Int := mx * pow2 (ex - e)
    let y : Int := my * pow2 (ey - e)
    let sum := (if sx then -x else x) + (if sy then -y else y)
    let (num, den) := ratio sum.natAbs e
    round (if sum = 0 then sx && sy else sum < 0) num den

def mul : Binary64 → Binary64 → Binary64
  | .nan, _ | _, .nan => .nan
  | .infinite a, .infinite b => .infinite (a != b)
  | .infinite a, .finite b m _ | .finite b m _, .infinite a => if m = 0 then .nan else .infinite (a != b)
  | .finite sx mx ex, .finite sy my ey =>
    let (num, den) := ratio (mx * my) (ex + ey)
    round (sx != sy) num den

end Binary64

end TokenIntake
