import TokenIntake.Text.Utf8

namespace TokenIntake.Base64

def letter (n : Nat) : CodePoint :=
  ("ABCDEFGHIJKLMNOPQRSTUVWXYZabcdefghijklmnopqrstuvwxyz0123456789+/" : Text)[n]?.getD '='

def value? (c : CodePoint) : Option Nat :=
  if c.isUpper then some (c.val - 0x41)
  else if c.isLower then some (c.val - 0x61 + 26)
  else if c.isDigit then some (c.val - 0x30 + 52)
  else if c.is '+' then some 62
  else if c.is '/' then some 63
  else none

def encode : List UInt8 → Text
  | a :: b :: c :: rest =>
    letter (a.toNat / 4) :: letter (a.toNat % 4 * 16 + b.toNat / 16) :: letter (b.toNat % 16 * 4 + c.toNat / 64)
      :: letter (c.toNat % 64) :: encode rest
  | [a, b] => [letter (a.toNat / 4), letter (a.toNat % 4 * 16 + b.toNat / 16), letter (b.toNat % 16 * 4), '=']
  | [a] => [letter (a.toNat / 4), letter (a.toNat % 4 * 16), '=', '=']
  | [] => []

def lineSize : Nat := 57

def encodeLines (bytes : List UInt8) : List Text := (Utf8.pieces lineSize bytes).map encode

/-- Reads on behind `place` letters of a group of four, of which the bits `left` are still to come, and `pads` padding
marks. What is no letter is passed over. -/
def decodeFrom (place left pads : Nat) : Text → Option (List UInt8)
  | [] => if place = 0 then some [] else none
  | c :: rest =>
    if c.is '=' then
      if place < 2 then decodeFrom place left pads rest
      else if place + pads + 1 < 4 then decodeFrom place left (pads + 1) rest
      else some []
    else match value? c with
      | none => decodeFrom place left pads rest
      | some v =>
        match place with
        | 0 => decodeFrom 1 v 0 rest
        | 1 => (decodeFrom 2 (v % 16) 0 rest).map ((left * 4 + v / 16).toUInt8 :: ·)
        | 2 => (decodeFrom 3 (v % 4) 0 rest).map ((left * 16 + v / 4).toUInt8 :: ·)
        | _ => (decodeFrom 0 0 0 rest).map ((left * 64 + v).toUInt8 :: ·)

def decode? (t : Text) : Option (List UInt8) := decodeFrom 0 0 0 t

end TokenIntake.Base64
