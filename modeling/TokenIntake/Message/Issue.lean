import TokenIntake.Message.Uint128

namespace TokenIntake

inductive Shape where
  | message
  | allocation
  | minter
  | marketing
  | logo
  | image
deriving DecidableEq

def Shape.label : Shape → Text
  | .message => "InstantiateMsg"
  | .allocation => "Cw20Coin"
  | .minter => "MinterResponse"
  | .marketing => "InstantiateMarketingInfo"
  | .logo => "Logo"
  | .image => "EmbeddedLogo"

namespace Issue

inductive Step where
  | field (name : Text)
  | index (i : Nat)
deriving DecidableEq

def Step.text : Step → Text
  | .field name => name
  | .index i => Text.ofNat i

inductive Complaint where
  | missing
  | notText
  | notUnicode
  | notInteger
  | belowZero
  | above255
  | notList
  | notObject (shape : Shape)
  | notUtf8
  | amount (fault : Uint128.Fault)
  | imageVariants
  | logoVariants
  | malformedJson
  | frozen
deriving DecidableEq

def Complaint.label : Complaint → Text
  | .missing => "missing"
  | .notText => "string_type"
  | .notUnicode => "string_unicode"
  | .notInteger => "int_type"
  | .belowZero => "greater_than_equal"
  | .above255 => "less_than_equal"
  | .notList => "list_type"
  | .notObject _ => "model_type"
  | .notUtf8 | .amount _ | .imageVariants | .logoVariants => "value_error"
  | .malformedJson => "json_invalid"
  | .frozen => "frozen_instance"

end Issue

inductive Origin where
  | value
  | json
deriving DecidableEq

namespace Issue.Complaint

/-- A text that is not JSON has no wording here: the reader of JSON gives it. -/
def message? (origin : Origin) : Complaint → Option Text
  | .missing => some "Field required"
  | .notText => some "Input should be a valid string"
  | .notUnicode => some "Input should be a valid string, unable to parse raw data as a unicode string"
  | .notInteger => some "Input should be a valid integer"
  | .belowZero => some "Input should be greater than or equal to 0"
  | .above255 => some "Input should be less than or equal to 255"
  | .notList => match origin with
    | .value => some "Input should be a valid list"
    | .json => some "Input should be a valid array"
  | .notObject shape => match origin with
    | .value => some ("Input should be a valid dictionary or instance of " ++ shape.label)
    | .json => some "Input should be an object"
  | .notUtf8 => some "Value error, String must be valid UTF-8"
  | .amount fault => some ("Value error, " ++ fault.message)
  | .imageVariants => some "Value error, Embedded logo must be exactly one of \"svg\" or \"png\""
  | .logoVariants => some "Value error, Logo must be exactly one of \"url\" or \"embedded\""
  | .malformedJson => none
  | .frozen => some "Instance is frozen"

end Issue.Complaint

structure Issue where
  place : List Issue.Step
  complaint : Issue.Complaint
deriving DecidableEq

namespace Issue

def under (step : Step) (i : Issue) : Issue := { i with place := step :: i.place }

def path (i : Issue) : Text :=
  if i.place.isEmpty then "<root>" else Text.join "." (i.place.map Step.text)

def line (i : Issue) : Text := i.path ++ ": " ++ (i.complaint.message? .value).getD []

def report (source : Text) (issues : List Issue) : Text :=
  "Invalid instantiate message in " ++ source ++ ": " ++ Text.join "; " (issues.map line)

end Issue

end TokenIntake
