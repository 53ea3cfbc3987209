import TokenIntake.Message.Uint128

namespace TokenIntake

structure Allocation where
  address : Text
  amount : Uint128
deriving DecidableEq

structure Minter where
  minter : Text
  cap : Option Uint128
deriving DecidableEq

inductive Image where
  | svg (data : Text)
  | png (data : Text)
deriving DecidableEq

inductive Logo where
  | url (link : Text)
  | embedded (image : Image)
deriving DecidableEq

structure Marketing where
  project : Option Text
  description : Option Text
  marketing : Option Text
  logo : Option Logo
deriving DecidableEq

structure Message where
  name : Text
  symbol : Text
  decimals : Fin 256
  balances : List Allocation
  mint : Option Minter
  marketing : Option Marketing
deriving DecidableEq

inductive MintingPolicy where
  | disabled
  | uncapped
  | capped
deriving DecidableEq

def MintingPolicy.label : MintingPolicy → Text
  | .disabled => "disabled"
  | .uncapped => "uncapped"
  | .capped => "capped"

namespace Message

def cap (m : Message) : Option Uint128 := m.mint.bind Minter.cap

def mintingPolicy (m : Message) : MintingPolicy :=
  match m.mint with
  | none => .disabled
  | some minter => if minter.cap.isSome then .capped else .uncapped

end Message

end TokenIntake
