import TokenIntake.Check.Rule
import TokenIntake.Message.Check
import TokenIntake.Text.Quoted

namespace TokenIntake

def insertAscending (c : CodePoint) : Text → Text
  | [] => [c]
  | d :: rest =>
    if c.val < d.val then c :: d :: rest
    else if c = d then d :: rest
    else d :: insertAscending c rest

def Text.ascending (t : Text) : Text := t.foldr insertAscending []

def disallowed (symbol : Text) : Text := Text.ascending (symbol.filter fun c => !c.isSymbolChar)

namespace Rule

def nameFormat : Rule :=
  ofMessage "name_format" "Enforces 3-50 UTF-8 byte token names" fun m c =>
    if isValidName m.name then do
      Traced.log (logger "name_format") .debug ("Name length ok: " ++ Text.ofNat m.name.utf8Size ++ " bytes")
      return (c, true)
    else return (← reject "name_format" c (.ofKind .name none), false)

def symbolFormat : Rule :=
  ofMessage "symbol_format" "Enforces [a-zA-Z-]\x7b3,12\x7d ticker symbols" fun m c =>
    if isValidSymbol m.symbol then return (c, true)
    else
      let bad := disallowed m.symbol
      let c := if bad.isEmpty then c
        else c.addWarning "symbol_format" ("Disallowed characters: " ++ bad.quoted)
      return (← reject "symbol_format" c (.ofKind .symbol none), false)

def decimals : Rule :=
  ofMessage "decimals" "Limits decimal precision to 18" fun m c =>
    if isValidDecimals m.decimals.val then return (c, true)
    else return (← reject "decimals" c (.ofKind .decimals none), false)

def standard : List Rule := [nameFormat, symbolFormat, decimals]

end Rule

end TokenIntake
