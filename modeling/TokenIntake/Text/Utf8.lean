import TokenIntake.Text.Basic

namespace TokenIntake

def CodePoint.utf8 (c : CodePoint) : List UInt8 :=
  if c.val < 0x80 then [c.val.toUInt8]
  else if c.val < 0x800 then [(0xC0 + c.val / 0x40).toUInt8, (0x80 + c.val % 0x40).toUInt8]
  else if c.val < 0x10000 then
    [(0xE0 + c.val / 0x1000).toUInt8, (0x80 + c.val / 0x40 % 0x40).toUInt8, (0x80 + c.val % 0x40).toUInt8]
  else
    [(0xF0 + c.val / 0x40000).toUInt8, (0x80 + c.val / 0x1000 % 0x40).toUInt8,
      (0x80 + c.val / 0x40 % 0x40).toUInt8, (0x80 + c.val % 0x40).toUInt8]

def Text.utf8 (t : Text) : List UInt8 := t.flatMap CodePoint.utf8

def Text.utf8Size (t : Text) : Nat := t.utf8.length

@[simp] theorem Text.utf8Size_nil : Text.utf8Size [] = 0 := rfl

@[simp] theorem Text.utf8Size_cons (c : CodePoint) (t : Text) :
    Text.utf8Size (c :: t) = c.utf8.length + Text.utf8Size t := by
  simp [Text.utf8Size, Text.utf8]

namespace Utf8

inductive Reason where
  | invalidStart
  | invalidContinuation
  | unexpectedEnd
deriving DecidableEq

def Reason.message : Reason → Text
  | .invalidStart => "invalid start byte"
  | .invalidContinuation => "invalid continuation byte"
  | .unexpectedEnd => "unexpected end of data"

structure Fault where
  byte : UInt8
  first : Nat
  last : Nat
  reason : Reason
deriving DecidableEq

def Fault.message (f : Fault) : Text :=
  let bytes : Text :=
    if f.first = f.last then
      "byte 0x" ++ Text.hex 2 f.byte.toNat ++ " in position " ++ Text.ofNat f.first
    else "bytes in position " ++ Text.ofNat f.first ++ "-" ++ Text.ofNat f.last
  "'utf-8' codec can't decode " ++ bytes ++ ": " ++ f.reason.message

structure Lead where
  following : Nat
  low : Nat
  high : Nat
  bits : Nat

def lead? (b : Nat) : Option Lead :=
  if b < 0x80 then some ⟨0, 0x80, 0xBF, b⟩
  else if b < 0xC2 then none
  else if b < 0xE0 then some ⟨1, 0x80, 0xBF, b - 0xC0⟩
  else if b < 0xF0 then
    some ⟨2, if b = 0xE0 then 0xA0 else 0x80, if b = 0xED then 0x9F else 0xBF, b - 0xE0⟩
  else if b < 0xF5 then
    some ⟨3, if b = 0xF0 then 0x90 else 0x80, if b = 0xF4 then 0x8F else 0xBF, b - 0xF0⟩
  else none

def continuation (following low high bits good : Nat) (bytes : List UInt8) :
    Except (Nat × Reason) (Nat × List UInt8) :=
  match following, bytes with
  | 0, rest => .ok (bits, rest)
  | _ + 1, [] => .error (good, .unexpectedEnd)
  | n + 1, b :: rest =>
    if low ≤ b.toNat && b.toNat ≤ high then
      continuation n 0x80 0xBF (bits * 0x40 + (b.toNat - 0x80)) (good + 1) rest
    else .error (good, .invalidContinuation)

def decodeOne (position : Nat) (b : UInt8) (bytes : List UInt8) :
    Except Fault (CodePoint × List UInt8) :=
  match lead? b.toNat with
  | none => .error ⟨b, position, position, .invalidStart⟩
  | some l =>
    match continuation l.following l.low l.high l.bits 1 bytes with
    | .error (good, reason) => .error ⟨b, position, position + good - 1, reason⟩
    | .ok (n, rest) => .ok ((CodePoint.ofNat? n).getD default, rest)

def decodeFuel : Nat → Nat → List UInt8 → Text → Text × Option (List UInt8 × Fault)
  | 0, _, _, done => (done.reverse, none)
  | _ + 1, _, [], done => (done.reverse, none)
  | fuel + 1, position, b :: bytes, done =>
    match decodeOne position b bytes with
    | .error f => (done.reverse, some (b :: bytes, f))
    | .ok (c, rest) => decodeFuel fuel (position + (bytes.length + 1 - rest.length)) rest (c :: done)

def decode (bytes : List UInt8) : Except Fault Text :=
  match decodeFuel bytes.length 0 bytes [] with
  | (t, none) => .ok t
  | (_, some (_, f)) => .error f

def piecesFuel (size : Nat) : Nat → List UInt8 → List (List UInt8)
  | 0, _ => []
  | fuel + 1, bytes => if bytes.isEmpty then [] else bytes.take size :: piecesFuel size fuel (bytes.drop size)

def pieces (size : Nat) (bytes : List UInt8) : List (List UInt8) := piecesFuel size bytes.length bytes

/-- Whether bytes at which decoding stopped with a fault may only be cut off by the end of a piece. So may
the first two bytes of a surrogate, which is refused only once it is complete. -/
def mayGoOn (bytes : List UInt8) (f : Fault) : Bool :=
  match bytes with
  | [a, b] => f.reason = .unexpectedEnd || a = 0xED && 0xA0 ≤ b && b ≤ 0xBF
  | _ => f.reason = .unexpectedEnd

/-- Decodes piece by piece. A character that the end of a piece cuts off goes on in the next one. Where a
piece has a fault, the text ends before that piece, and places are counted in it. -/
def decodePieces : List (List UInt8) → List UInt8 → Text × Option Fault
  | [], cutOff =>
    match decodeFuel cutOff.length 0 cutOff [] with
    | (t, none) => (t, none)
    | (_, some (_, f)) => ([], some f)
  | piece :: rest, cutOff =>
    let bytes := cutOff ++ piece
    let (t, stopped) := decodeFuel bytes.length 0 bytes []
    let goOn (cutOff : List UInt8) :=
      let (more, fault) := decodePieces rest cutOff
      (t ++ more, fault)
    match stopped with
    | none => goOn []
    | some (cutOff, f) => if mayGoOn cutOff f then goOn cutOff else ([], some f)

/-- Why a text has no strict encoding: the lone surrogates in a row at a place. -/
structure Obstacle where
  place : Nat
  run : Text
deriving DecidableEq

def Obstacle.message (o : Obstacle) : Text :=
  let which : Text := match o.run with
    | [c] => "character '\\u" ++ Text.hex 4 c.val ++ "' in position " ++ Text.ofNat o.place
    | run => "characters in position " ++ Text.ofNat o.place ++ "-" ++ Text.ofNat (o.place + run.length - 1)
  "'utf-8' codec can't encode " ++ which ++ ": surrogates not allowed"

def obstacle? (excused : CodePoint → Bool) (t : Text) : Option Obstacle :=
  let place := (t.takeWhile fun c => !c.isSurrogate || excused c).length
  match (t.drop place).takeWhile CodePoint.isSurrogate with
  | [] => none
  | run => some ⟨place, run⟩

end Utf8

end TokenIntake
