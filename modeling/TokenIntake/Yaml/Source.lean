import TokenIntake.Files
import TokenIntake.Yaml.Fault

namespace TokenIntake.Yaml

def isForbidden (c : CodePoint) : Bool :=
  !(c.is '\t' || c.is '\n' || c.is '\r' || 0x20 ≤ c.val && c.val ≤ 0x7E || c.val = 0x85
    || 0xA0 ≤ c.val && c.val ≤ 0xD7FF || 0xE000 ≤ c.val && c.val ≤ 0xFFFD || 0x10000 ≤ c.val)

/-- The text that can be had, and why there is no more of it. -/
structure Source where
  text : Text
  stop : Option Fault

namespace Source

def pieceSize : Nat := 8192

def blockSize : Nat := 4096

/-- Where the block of a place starts. The first two blocks are read as one. -/
def blockStart (place : Nat) : Nat :=
  if place < 2 * blockSize then 0 else place / blockSize * blockSize

def endingAt (t : Text) (place : Nat) (f : Fault) : Source := ⟨t.take place, some f⟩

def ofBytes (bytes : List UInt8) : Source :=
  let (decoded, fault) := Utf8.decodePieces (Utf8.pieces pieceSize bytes) []
  let t := Text.unixLines decoded
  match fault.map fun f => (blockStart t.length, f), (t.findIdx? isForbidden).map blockStart with
  | none, none => ⟨t, none⟩
  | none, some place => endingAt t place .malformed
  | some (place, f), none => endingAt t place (.encoding f)
  | some (place, f), some forbidden =>
    if forbidden < place then endingAt t forbidden .malformed else endingAt t place (.encoding f)

end Source

end TokenIntake.Yaml
