import TokenIntake.Text.Basic

namespace TokenIntake

namespace Rejection

inductive Kind where
  | general
  | name
  | symbol
  | decimals
deriving DecidableEq

namespace Kind

def label : Kind → Text
  | .general => "invalid_instantiate_msg"
  | .name => "invalid_name"
  | .symbol => "invalid_symbol"
  | .decimals => "invalid_decimals"

def defaultMessage : Kind → Text
  | .general => "Instantiate message is not in the expected format"
  | .name => "Name is not in the expected format (3-50 UTF-8 bytes)"
  | .symbol => "Ticker symbol is not in expected format [a-zA-Z\\-]\x7b3,12\x7d"
  | .decimals => "Decimals must not exceed 18"

/-- The kinds that can be asked for by label; the general one cannot. -/
def ofLabel? (label : Text) : Option Kind :=
  [name, symbol, decimals].find? fun kind => kind.label = label

end Kind

end Rejection

structure Rejection where
  kind : Rejection.Kind
  message : Text
deriving DecidableEq

namespace Rejection

structure UnknownKind where
  label : Text
deriving DecidableEq

def UnknownKind.message (e : UnknownKind) : Text := "Unknown rejection kind: " ++ e.label

/-- No message, or an empty one, stands for the message of the kind. -/
def ofKind (kind : Kind) (message : Option Text) : Rejection :=
  ⟨kind, match message with
    | some (c :: t) => c :: t
    | _ => kind.defaultMessage⟩

def ofLabel (label : Text) (message : Option Text) : Except UnknownKind Rejection :=
  match Kind.ofLabel? label with
  | some kind => .ok (ofKind kind message)
  | none => .error ⟨label⟩

end Rejection

end TokenIntake
