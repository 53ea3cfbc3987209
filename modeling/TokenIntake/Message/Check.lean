import TokenIntake.Message.Basic
import TokenIntake.Rejection
import TokenIntake.Text.Utf8

namespace TokenIntake

def isValidName (name : Text) : Bool := 3 ≤ name.utf8Size && name.utf8Size ≤ 50

def CodePoint.isSymbolChar (c : CodePoint) : Bool := c.isLetter || c = '-'

def isValidSymbol (symbol : Text) : Bool :=
  3 ≤ symbol.utf8Size && symbol.utf8Size ≤ 12 && symbol.all CodePoint.isSymbolChar

def isValidDecimals (decimals : Int) : Bool := decimals ≤ 18

def Message.validate (m : Message) : Except Rejection Unit :=
  if !isValidName m.name then .error (.ofKind .name none)
  else if !isValidSymbol m.symbol then .error (.ofKind .symbol none)
  else if !isValidDecimals m.decimals.val then .error (.ofKind .decimals none)
  else .ok ()

end TokenIntake
