import TokenIntake.Json.Reader
import TokenIntake.Message.Basic
import TokenIntake.Message.Issue
import TokenIntake.Text.Utf8
import TokenIntake.Value.Sharing

namespace TokenIntake

inductive Decoded (α : Type) where
  | good (value : α)
  | bad (issues : List Issue)
deriving DecidableEq

namespace Decoded

variable {α β : Type}

def map (f : α → β) : Decoded α → Decoded β
  | .good a => .good (f a)
  | .bad issues => .bad issues

def both : Decoded α → Decoded β → Decoded (α × β)
  | .good a, .good b => .good (a, b)
  | .good _, .bad issues => .bad issues
  | .bad issues, .good _ => .bad issues
  | .bad issues, .bad more => .bad (issues ++ more)

instance : Functor Decoded := ⟨map, fun a x => map (fun _ => a) x⟩

instance : Seq Decoded := ⟨fun f x => (f.both (x ())).map fun (f, a) => f a⟩

def check (f : α → Decoded β) : Decoded α → Decoded β
  | .good a => f a
  | .bad issues => .bad issues

def under (step : Issue.Step) : Decoded α → Decoded α
  | .good a => .good a
  | .bad issues => .bad (issues.map (Issue.under step))

def fail (complaint : Issue.Complaint) : Decoded α := .bad [⟨[], complaint⟩]

def issues : Decoded α → List Issue
  | .good _ => []
  | .bad issues => issues

def plainText : Value → Decoded Text
  | .text t => .good t
  | .scalar (.bytes bs) =>
    match Utf8.decode bs with
    | .ok t => .good t
    | .error _ => fail .notUnicode
  | _ => fail .notText

def utf8Text (v : Value) : Decoded Text :=
  (plainText v).check fun t => if t.hasSurrogate then fail .notUtf8 else .good t

def byte : Value → Decoded (Fin 256)
  | .int (.ofNat n) => if h : n < 256 then .good ⟨n, h⟩ else fail .above255
  | .int (.negSucc _) => fail .belowZero
  | _ => fail .notInteger

def uint128 (v : Value) : Decoded Uint128 :=
  match Uint128.ofValue v with
  | .ok u => .good u
  | .error fault => fail (.amount fault)

def items (read : Value → Decoded α) (i : Nat) : List Value → Decoded (List α)
  | [] => .good []
  | v :: rest => List.cons <$> (read v).under (.index i) <*> items read (i + 1) rest

def list (read : Value → Decoded α) (v : Value) : Decoded (List α) :=
  match v.items? with
  | some xs => items read 0 xs
  | none => fail .notList

def object (shape : Shape) (read : Mapping → Decoded α) (v : Value) : Decoded α :=
  match v.entries? with
  | some es => read es
  | none => fail (.notObject shape)

def required (name : Text) (read : Value → Decoded α) (es : Mapping) : Decoded α :=
  (match es.field? name with
    | some v => read v
    | none => fail .missing).under (.field name)

def optional (name : Text) (read : Value → Decoded α) (es : Mapping) : Decoded (Option α) :=
  match es.field? name with
  | none | some .null => .good none
  | some v => (some <$> read v).under (.field name)

end Decoded

open Decoded

def Allocation.decode : Value → Decoded Allocation :=
  object .allocation fun es => Allocation.mk <$> required "address" plainText es <*> required "amount" uint128 es

def Minter.decode : Value → Decoded Minter :=
  object .minter fun es => Minter.mk <$> required "minter" plainText es <*> optional "cap" uint128 es

def Image.ofVariants : Option Text × Option Text → Decoded Image
  | (some data, none) => .good (.svg data)
  | (none, some data) => .good (.png data)
  | _ => fail .imageVariants

def Image.decode : Value → Decoded Image :=
  object .image fun es =>
    ((optional "svg" plainText es).both (optional "png" plainText es)).check Image.ofVariants

def Logo.ofVariants : Option Text × Option Image → Decoded Logo
  | (some link, none) => .good (.url link)
  | (none, some image) => .good (.embedded image)
  | _ => fail .logoVariants

def Logo.decode : Value → Decoded Logo :=
  object .logo fun es =>
    ((optional "url" plainText es).both (optional "embedded" Image.decode es)).check Logo.ofVariants

def Marketing.decode : Value → Decoded Marketing :=
  object .marketing fun es =>
    Marketing.mk <$> optional "project" plainText es <*> optional "description" plainText es
      <*> optional "marketing" plainText es <*> optional "logo" Logo.decode es

def Message.decode : Value → Decoded Message :=
  object .message fun es =>
    Message.mk <$> required "name" utf8Text es <*> required "symbol" utf8Text es
      <*> required "decimals" byte es <*> required "initial_balances" (list Allocation.decode) es
      <*> optional "mint" Minter.decode es <*> optional "marketing" Marketing.decode es

end TokenIntake
