import TokenIntake.Json.Error
import TokenIntake.Number.Numeral
import TokenIntake.Value.Basic

namespace TokenIntake

structure Uint128 where
  val : Nat
  val_lt : val < 0x100000000000000000000000000000000
deriving DecidableEq

namespace Uint128

inductive Fault where
  | notDigits
  | wrongKind
  | outOfRange
  | tooManyDigits (count : Nat)
deriving DecidableEq

def Fault.message : Fault → Text
  | .notDigits => "Uint128 string must contain only decimal digits"
  | .wrongKind => "Uint128 must be a decimal string or an integer"
  | .outOfRange => "Uint128 value out of range"
  | .tooManyDigits count => Json.tooManyDigitsMessage count

def ofNat (n : Nat) : Except Fault Uint128 :=
  if h : n < 0x100000000000000000000000000000000 then .ok ⟨n, h⟩ else .error .outOfRange

def ofText (t : Text) : Except Fault Uint128 :=
  if t.isEmpty || !t.all CodePoint.isDigit then .error .notDigits
  else if maxIntDigits < t.length then .error (.tooManyDigits t.length)
  else ofNat t.digitsValue

/-- Decimal text, or an integer; truth values are not integers here. -/
def ofValue : Value → Except Fault Uint128
  | .text t => ofText t
  | .int (.ofNat n) => ofNat n
  | .int (.negSucc _) => .error .outOfRange
  | _ => .error .wrongKind

def text (u : Uint128) : Text := Text.ofNat u.val

end Uint128

end TokenIntake
