import TokenIntake.Command.Syntax

namespace TokenIntake.Command

def pageWidth : Nat := 78

def fill (width : Nat) : List (Bool × Text) → Nat → Text → List Text
  | [], _, line => if line.isEmpty then [] else [line]
  | (true, blanks) :: rest, _, line => fill width rest blanks.length line
  | (false, word) :: rest, gap, line =>
    if line.isEmpty then fill width rest 0 word
    else if line.length + gap + word.length ≤ width then fill width rest 0 (line ++ Text.spaces gap ++ word)
    else line :: fill width rest 0 word

def wrap (width : Nat) (t : Text) : List Text := fill width (Text.runs (CodePoint.is ' ') t) 0 []

def usage (spec : Spec) : Text :=
  let tail : Text :=
    if spec.isGroup then if spec.standalone then " [COMMAND] [ARGS]..." else " COMMAND [ARGS]..."
    else match spec.argument with
      | some a => " " ++ Spec.argumentLabel a
      | none => []
  "Usage: " ++ spec.path ++ " [OPTIONS]" ++ tail

def metavariable : Taking → Text
  | .nothing => []
  | .text => " TEXT"
  | .file => " FILE"
  | .choice among => " [" ++ Text.join "|" among ++ "]"

def switchTerm (s : Switch) : Text :=
  Text.join ", " ((s.short.toList.map fun c => (['-', c] : Text)) ++ [s.long]) ++ metavariable s.taking

def definitions (rows : List (Text × Text)) : List Text :=
  let column := min ((rows.map fun r => r.1.length).foldl max 0) 30 + 2
  rows.flatMap fun (term, definition) =>
    let lines := wrap (pageWidth - column - 2) definition
    let indent := Text.spaces (column + 2)
    if term.length + 2 ≤ column then
      (Text.spaces 2 ++ Text.padEnd term column ++ lines.headD []) :: (lines.drop 1).map (indent ++ ·)
    else (Text.spaces 2 ++ term) :: lines.map (indent ++ ·)

def helpPage (spec : Spec) : Text :=
  let description := spec.paragraphs.map fun p =>
    Text.join "\n" ((wrap (pageWidth - 2) p).map (Text.spaces 2 ++ ·))
  let block (title : Text) (rows : List (Text × Text)) : List Text :=
    if rows.isEmpty then [] else [title ++ ":\n" ++ Text.join "\n" (definitions rows)]
  let parts := [usage spec] ++ description
    ++ block "Options" (spec.allSwitches.map fun s => (switchTerm s, s.help))
    ++ block "Commands" spec.subcommands
  Text.join "\n\n" parts

def usageNote (spec : Spec) : Text :=
  usage spec ++ "\nTry '" ++ spec.path ++ " --help' for help.\n"

end TokenIntake.Command
