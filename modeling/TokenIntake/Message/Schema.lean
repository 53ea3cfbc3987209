import TokenIntake.Value.Basic

namespace TokenIntake.Schema

def object (fields : List (Text × Value)) : Value := .map (fields.map fun (k, v) => (.text k, v))

def texts (ts : List Text) : Value := .list (ts.map .text)

def held (key : Text) (value : Value) : List (Text × Value) := [(key, value)]

def noted (key value : Text) : List (Text × Value) := held key (.text value)

def textType : List (Text × Value) := noted "type" "string"

def amountType : List (Text × Value) := noted "pattern" "^[0-9]+$"

def ref (name : Text) : Value := object [("$ref", .text ("#/$defs/" ++ name))]

def required (name title description : Text) (more : List (Text × Value)) : Text × Value :=
  (name, object (noted "description" description ++ more ++ noted "title" title ++ textType))

def describedBy (description : Option Text) : List (Text × Value) :=
  description.toList.flatMap (noted "description")

def optional (name : Text) (of : Value) (description title : Option Text) : Text × Value :=
  (name, object (held "anyOf" (.list [of, object (noted "type" "null")]) ++ held "default" .null
    ++ describedBy description ++ title.toList.flatMap (noted "title")))

def shape (title description : Text) (properties : List (Text × Value)) (required : List Text) :
    List (Text × Value) :=
  noted "description" description ++ held "properties" (object properties)
    ++ (if required.isEmpty then [] else held "required" (texts required))
    ++ noted "title" title ++ noted "type" "object"

def definitions : List (Text × Value) := [
  ("Cw20Coin", object (shape "Cw20Coin" "Initial balance allocation. Opaque to instantiation checks."
    [required "address" "Address" "Recipient address" [],
      required "amount" "Amount" "Initial balance" amountType]
    ["address", "amount"])),
  ("EmbeddedLogo", object (shape "EmbeddedLogo" "Logo stored on chain, either SVG or PNG, base64 encoded."
    [optional "svg" (object textType) (some "Base64 encoded SVG") (some "Svg"),
      optional "png" (object textType) (some "Base64 encoded PNG") (some "Png")]
    [])),
  ("InstantiateMarketingInfo", object (shape "InstantiateMarketingInfo"
    "Free-form marketing metadata, never checked for content."
    [optional "project" (object textType) none (some "Project"),
      optional "description" (object textType) none (some "Description"),
      optional "marketing" (object textType) (some "Marketing contact address") (some "Marketing"),
      optional "logo" (ref "Logo") none none]
    [])),
  ("Logo", object (shape "Logo" "Token logo: a URL or an embedded image."
    [optional "url" (object textType) (some "Link to an externally hosted logo") (some "Url"),
      optional "embedded" (ref "EmbeddedLogo") (some "Logo stored on chain") none]
    [])),
  ("MinterResponse", object (shape "MinterResponse"
    "Minting authority with an optional hard ceiling on total supply."
    [required "minter" "Minter" "Address allowed to mint new supply" [],
      optional "cap" (object (noted "description" "128-bit unsigned integer" ++ amountType ++ textType))
        (some "Maximum total supply, if any") (some "Cap")]
    ["minter"]))]

def message : Value :=
  object (held "$defs" (object definitions) ++ shape "InstantiateMsg"
    ("Fungible token instantiation message.\n\nConstructed once from an incoming message, checked once with\n"
      ++ "\x60\x60validate\x60\x60 and then handed to the caller that creates token state.")
    [required "name" "Name" "Human readable token name" [],
      required "symbol" "Symbol" "Ticker symbol" [],
      ("decimals", object [("description", .text "Fractional precision (u8)"), ("maximum", .int 255),
        ("minimum", .int 0), ("title", .text "Decimals"), ("type", .text "integer")]),
      ("initial_balances", object [("description", .text "Initial allocations, passed through unchecked"),
        ("items", ref "Cw20Coin"), ("title", .text "Initial Balances"), ("type", .text "array")]),
      optional "mint" (ref "MinterResponse") none none,
      optional "marketing" (ref "InstantiateMarketingInfo") none none]
    ["name", "symbol", "decimals", "initial_balances"])

end TokenIntake.Schema
