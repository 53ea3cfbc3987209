import TokenIntake.Value.Mapping

namespace TokenIntake

namespace Settings

def defaults : Mapping :=
  [(.text "cli", .map [(.text "output_format", .text "table"), (.text "verbose", .int 0)]),
    (.text "validator", .map [(.text "validator_id", .text "tokenmsg_cli_validator"),
      (.text "log_level", .text "WARNING")])]

end Settings

inductive Profile where
  | development
  | strict
deriving DecidableEq

namespace Profile

def all : List Profile := [development, strict]

def label : Profile → Text
  | .development => "development"
  | .strict => "strict"

def ofLabel? (label : Text) : Option Profile := all.find? fun p => p.label = label

def layer : Profile → Mapping
  | .strict =>
    [(.text "cli", .map [(.text "output_format", .text "json"), (.text "verbose", .int 0)]),
      (.text "validator", .map [(.text "log_level", .text "WARNING")])]
  | .development =>
    [(.text "cli", .map [(.text "output_format", .text "table"), (.text "verbose", .int 2)]),
      (.text "validator", .map [(.text "log_level", .text "DEBUG")])]

end Profile

end TokenIntake
