import TokenIntake.Number.Binary64
import TokenIntake.Text.DecimalDigit
import TokenIntake.Text.LowerCase

namespace TokenIntake

/-- No integer is read from more decimal digits than this. -/
def maxIntDigits : Nat := 4300

namespace Text

def signed (t : Text) : Bool × Text :=
  match t with
  | c :: rest => if c = '-' then (true, rest) else if c = '+' then (false, rest) else (false, t)
  | [] => (false, [])

/-- The text without its underscores, each of which must stand between two digits. -/
def dropUnderscores? : CodePoint → Text → Option Text
  | before, [] => if before = '_' then none else some []
  | before, c :: rest =>
    if c = '_' then if before.isDigit then dropUnderscores? c rest else none
    else if before = '_' && !c.isDigit then none
    else (dropUnderscores? c rest).map (c :: ·)

def int? (t : Text) : Option Int := do
  let t ← t.asNumeral?
  let (negative, digits) := signed t
  let digits ← dropUnderscores? ' ' digits
  if digits.isEmpty || !digits.all CodePoint.isDigit || maxIntDigits < digits.length then none
  else some (if negative then -digitsValue digits else digitsValue digits)

inductive IntFault where
  | malformed
  | tooManyDigits (count : Nat)
deriving DecidableEq

def digitTo? (base : Nat) (c : CodePoint) : Option Nat := c.hexValue?.filter (· < base)

def dropBaseMark (base : Nat) (t : Text) : Text :=
  match t with
  | zero :: mark :: rest =>
    let marks : Text := if base = 2 then "bB" else if base = 8 then "oO" else if base = 16 then "xX" else []
    if zero = '0' && marks.contains mark then rest else t
  | _ => t

/-- An integer without underscores to some base. Digits are counted even where something else comes behind them. -/
def readInt (base : Nat) (t : Text) : Except IntFault Int :=
  let ascii := (t.takeWhile fun c => c.asciiNumeral?.isSome).filterMap CodePoint.asciiNumeral?
  let (negative, unsigned) := signed (ascii.dropWhile CodePoint.isAsciiBlank)
  let unmarked := dropBaseMark base unsigned
  let digits := (unmarked.map (digitTo? base)).takeWhile Option.isSome
  let behind := unmarked.drop digits.length
  if base = 10 && maxIntDigits < digits.length then .error (.tooManyDigits digits.length)
  else if digits.isEmpty || ascii.length < t.length || !behind.all CodePoint.isAsciiBlank then .error .malformed
  else
    let n := digits.foldl (fun n d => base * n + d.getD 0) 0
    .ok (if negative then -n else n)

def exponent? (t : Text) : Option Int :=
  match t with
  | [] => some 0
  | c :: rest =>
    if c = 'e' ∨ c = 'E' then
      let (negative, digits) := signed rest
      if digits.isEmpty || !digits.all CodePoint.isDigit then none
      else some (if negative then -digitsValue digits else digitsValue digits)
    else none

def decimal? (negative : Bool) (t : Text) : Option Binary64 :=
  let whole := t.takeWhile CodePoint.isDigit
  let rest := t.dropWhile CodePoint.isDigit
  let (fraction, rest) :=
    match rest with
    | c :: after =>
      if c = '.' then (after.takeWhile CodePoint.isDigit, after.dropWhile CodePoint.isDigit)
      else ([], rest)
    | [] => ([], [])
  if whole.isEmpty && fraction.isEmpty then none
  else (exponent? rest).map fun e =>
    .ofDecimal negative (digitsValue (whole ++ fraction)) (e - fraction.length)

def float? (t : Text) : Option Binary64 := do
  let t ← t.asNumeral?
  let t ← if t.contains '_' then dropUnderscores? ' ' t else some t
  let (negative, t) := signed t
  let word := t.upperAscii
  if word = ("INF" : Text) ∨ word = ("INFINITY" : Text) then some (.infinite negative)
  else if word = ("NAN" : Text) then some .nan
  else decimal? negative t

end Text

end TokenIntake
