import TokenIntake.Json.Compact
import TokenIntake.Message.Decode
import TokenIntake.Value.Depth

namespace TokenIntake

namespace Value

def ofOption {α : Type} (f : α → Value) : Option α → Value
  | some a => f a
  | none => .null

def hasSurrogate (v : Value) : Bool :=
  v.read (Reading.any fun
    | .text t => t.hasSurrogate
    | _ => false)

end Value

def Allocation.wire (a : Allocation) : Value :=
  .map [(.text "address", .text a.address), (.text "amount", .text a.amount.text)]

def Minter.wire (m : Minter) : Value :=
  .map [(.text "minter", .text m.minter), (.text "cap", .ofOption (.text ·.text) m.cap)]

def Image.wire : Image → Value
  | .svg data => .map [(.text "svg", .text data), (.text "png", .null)]
  | .png data => .map [(.text "svg", .null), (.text "png", .text data)]

def Logo.wire : Logo → Value
  | .url link => .map [(.text "url", .text link), (.text "embedded", .null)]
  | .embedded image => .map [(.text "url", .null), (.text "embedded", image.wire)]

def Marketing.wire (m : Marketing) : Value :=
  .map [(.text "project", .ofOption .text m.project), (.text "description", .ofOption .text m.description),
    (.text "marketing", .ofOption .text m.marketing), (.text "logo", .ofOption Logo.wire m.logo)]

def Message.wire (m : Message) : Value :=
  .map [(.text "name", .text m.name), (.text "symbol", .text m.symbol), (.text "decimals", .int m.decimals.val),
    (.text "initial_balances", .list (m.balances.map Allocation.wire)),
    (.text "mint", .ofOption Minter.wire m.mint), (.text "marketing", .ofOption Marketing.wire m.marketing)]

namespace Wire

def text? (wire : Value) : Option Text :=
  if wire.hasSurrogate then none else some (Json.compact Json.rawString wire)

def maxDepth : Nat := 200

def decodeText {α : Type} (decode : Value → Decoded α) (t : Text) : Decoded α :=
  match Json.parseWritten t with
  | .ok v =>
    if v.hasSurrogate || maxDepth < v.depth then .fail .malformedJson
    else decode (v.read Json.settledReading)
  | .error _ => .fail .malformedJson

end Wire

end TokenIntake
