import TokenIntake.Command.Session

namespace TokenIntake.Command

namespace Inspect

def path : Text := "tokenmsg config"

def spec : Spec where
  path := path
  paragraphs := ["Configuration management commands.", "Show the merged configuration and the available profiles."]
  switches := []
  argument := none
  subcommands := [
    ("profiles", "List configuration profiles and what they override."),
    ("show", "Show the effective configuration.")]
  standalone := false

def showSpec : Spec where
  path := path ++ " show"
  paragraphs := ["Show the effective configuration."]
  switches := [
    ⟨"--key", none, .text, "Dotted key to show, e.g. cli.output_format"⟩,
    ⟨"--sources", none, .nothing, "List the configuration sources that were applied"⟩]
  argument := none
  subcommands := []
  standalone := false

def profilesSpec : Spec where
  path := path ++ " profiles"
  paragraphs := ["List configuration profiles and what they override."]
  switches := []
  argument := none
  subcommands := []
  standalone := false

/-- Shows the value under a key. A key bound to null counts as unknown. -/
def showKey (s : Session) (w : Settings.World) (key : Text) : Run Unit := do
  match ← Run.own (s.get? w key) with
  | .error f => Run.stop (.failure f.message)
  | .ok found =>
    match found.getD .null with
    | .null => Run.stop (.misuse showSpec (.badValue "--key" ("Unknown configuration key: " ++ key)))
    | v => s.present none (.map [(.text key, v)])

def showSources (s : Session) : Run Unit :=
  s.present none (.list ((s.manager.map fun m => m.sources.map .text).getD []))

def showAll (s : Session) : Run Unit :=
  s.present (if s.format = Format.table.label then some Format.yaml.label else none) (.map s.settings)

def «show» (s : Session) (w : Settings.World) (key : Option Text) (sources : Bool) : Run Unit :=
  if sources then showSources s
  else match key with
    | some (c :: t) => showKey s w (c :: t)
    | _ => showAll s

def changes (layer : Mapping) : List Text :=
  layer.flatMap fun (part, options) =>
    match options with
    | .map options => options.filterMap fun (option, v) =>
        let default := (Mapping.get? Settings.defaults part).bind fun defaults =>
          match defaults with
          | .map entries => Mapping.get? entries option
          | _ => none
        if default = some v then none else some (part.display ++ "." ++ option.display ++ "=" ++ v.display)
    | _ => []

def profileRow (p : Profile) : Scalar × Value :=
  let changed := changes p.layer
  (.text p.label, .text (if changed.isEmpty then "-" else Text.join ", " changed))

def profiles (s : Session) : Run Unit := do
  s.present none (.map (Profile.all.map profileRow))
  Run.log .debug ("Environment overrides use the " ++ Environment.nameStart ++ " prefix")

end Inspect

end TokenIntake.Command
