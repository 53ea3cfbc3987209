import TokenIntake.Files
import TokenIntake.Render.Format
import TokenIntake.Settings.Profile
import TokenIntake.Text.Similarity

namespace TokenIntake.Command

inductive Taking where
  | nothing
  | text
  | file
  | choice (among : List Text)
deriving DecidableEq

structure Switch where
  long : Text
  short : Option CodePoint
  taking : Taking
  help : Text
deriving DecidableEq

structure Argument where
  label : Text
  many : Bool
deriving DecidableEq

structure Spec where
  path : Text
  paragraphs : List Text
  switches : List Switch
  argument : Option Argument
  subcommands : List (Text × Text)
  standalone : Bool
deriving DecidableEq

def helpSwitch : Switch := ⟨"--help", some 'h', .nothing, "Show this message and exit."⟩

namespace Switch

def names (s : Switch) : List Text := s.long :: (s.short.toList.map fun c => ['-', c])

def hint (s : Switch) : Text := Text.join " / " (s.names.map Text.quoted)

end Switch

namespace Spec

def isGroup (s : Spec) : Bool := !s.subcommands.isEmpty

def allSwitches (s : Spec) : List Switch := s.switches ++ [helpSwitch]

def argumentLabel (a : Argument) : Text := a.label ++ (if a.many then ("..." : Text) else [])

end Spec

inductive Fault where
  | noSuchSwitch (name : Text) (alike : List Text)
  | needsValue (name : Text)
  | takesNoValue (name : Text)
  | badValue (hint message : Text)
  | badPath (message : Text)
  | missingArgument (label : Text)
  | extraArguments (extra : List Text)
  | missingCommand
  | noSuchCommand (name : Text) (alike : List Text)
deriving DecidableEq

namespace Fault

def suggestion (alike : List Text) : Text :=
  match alike with
  | [] => []
  | [one] => " Did you mean " ++ one.quoted ++ "?"
  | many => " (Did you mean one of: " ++ Text.join ", " (many.map Text.quoted) ++ "?)"

def message : Fault → Text
  | .noSuchSwitch name alike => "No such option " ++ name.quoted ++ "." ++ suggestion alike
  | .needsValue name => "Option " ++ name.quoted ++ " requires an argument."
  | .takesNoValue name => "Option " ++ name.quoted ++ " does not take a value."
  | .badValue hint message => "Invalid value for " ++ hint ++ ": " ++ message
  | .badPath message => message
  | .missingArgument label => "Missing argument " ++ Text.quoted label ++ "."
  | .extraArguments [one] => "Got unexpected extra argument (" ++ one ++ ")"
  | .extraArguments many => "Got unexpected extra arguments (" ++ Text.join " " many ++ ")"
  | .missingCommand => "Missing command."
  | .noSuchCommand name alike => "No such command " ++ name.quoted ++ "." ++ suggestion alike

/-- A fault in how an option is written shows by itself; all others show the usage as well. -/
def showsUsage : Fault → Bool
  | .needsValue _ | .takesNoValue _ => false
  | _ => true

end Fault

structure Line where
  given : List (Switch × Text)
  rest : List Text

def findLong? (spec : Spec) (name : Text) : Option Switch := spec.allSwitches.find? fun s => s.long = name

def findShort? (spec : Spec) (c : CodePoint) : Option Switch := spec.allSwitches.find? fun s => s.short = some c

/-- The letters of an argument behind a single dash. The first option that takes a value takes the
letters after it, or else the next argument. -/
def readLetters (spec : Spec) : Text → List Text → Except Fault (List (Switch × Text) × List Text)
  | [], args => .ok ([], args)
  | c :: letters, args =>
    match findShort? spec c with
    | none => .error (.noSuchSwitch ['-', c] [])
    | some s =>
      if s.taking = .nothing then
        (readLetters spec letters args).map fun (given, args) => ((s, []) :: given, args)
      else if letters.isEmpty then
        match args with
        | value :: args => .ok ([(s, value)], args)
        | [] => .error (.needsValue ['-', c])
      else .ok ([(s, letters)], args)

def readSwitch (spec : Spec) (arg : Text) (args : List Text) :
    Except Fault (List (Switch × Text) × List Text) :=
  let (name, value) := arg.cut '='
  match findLong? spec name with
  | some s =>
    if s.taking = .nothing then
      if arg.contains '=' then .error (.takesNoValue name) else .ok ([(s, [])], args)
    else if arg.contains '=' then .ok ([(s, value)], args)
    else match args with
      | value :: args => .ok ([(s, value)], args)
      | [] => .error (.needsValue name)
  | none =>
    if Text.startsWith arg "--" then
      .error (.noSuchSwitch name (Text.alike name (spec.allSwitches.map Switch.long)))
    else readLetters spec (arg.drop 1) args

def looksLikeSwitch (arg : Text) : Bool := Text.startsWith arg "-" && 1 < arg.length

/-- Takes a line apart. In a group the first argument that is no option ends the options; two dashes do
so everywhere. -/
def takeApart (spec : Spec) : Nat → List Text → Except Fault Line
  | 0, args => .ok ⟨[], args⟩
  | _ + 1, [] => .ok ⟨[], []⟩
  | fuel + 1, arg :: args =>
    if arg = ("--" : Text) then .ok ⟨[], args⟩
    else if looksLikeSwitch arg then do
      let (given, args) ← readSwitch spec arg args
      let line ← takeApart spec fuel args
      .ok { line with given := given ++ line.given }
    else if spec.isGroup then .ok ⟨[], arg :: args⟩
    else do
      let line ← takeApart spec fuel args
      .ok { line with rest := arg :: line.rest }

namespace Line

def has (l : Line) (long : Text) : Bool := l.given.any fun (s, _) => s.long = long

def count (l : Line) (long : Text) : Nat := l.given.countP fun (s, _) => s.long = long

def value? (l : Line) (long : Text) : Option Text :=
  ((l.given.filter fun (s, _) => s.long = long).getLast?).map Prod.snd

def switches (l : Line) : List Switch := (l.given.map Prod.fst).eraseDups

end Line

def notAmong (value : Text) (among : List Text) : Text :=
  value.quoted ++ " is not one of " ++ Text.join ", " (among.map Text.quoted) ++ "."

def checkValue (flaw? : Text → Option Text) (hint value : Text) : Taking → Except Fault Unit
  | .nothing | .text => .ok ()
  | .choice among => if among.contains value then .ok () else .error (.badValue hint (notAmong value among))
  | .file =>
    match Path.complaint? value with
    | some message => .error (.badPath message)
    | none =>
      match flaw? value with
      | some flaw => .error (.badValue hint ("File " ++ value.quoted ++ " " ++ flaw ++ "."))
      | none => .ok ()

def checkLine (spec : Spec) (flaw? : Text → Option Text) (l : Line) : Except Fault Unit := do
  l.switches.forM fun s => checkValue flaw? s.hint ((l.value? s.long).getD []) s.taking
  match spec.argument with
  | none => if spec.isGroup || l.rest.isEmpty then .ok () else .error (.extraArguments l.rest)
  | some a =>
    let label := Spec.argumentLabel a
    if l.rest.isEmpty then .error (.missingArgument label)
    else
      (if a.many then l.rest else l.rest.take 1).forM fun value =>
        checkValue flaw? label.quoted value .file
      if a.many || l.rest.length = 1 then .ok () else .error (.extraArguments (l.rest.drop 1))

end TokenIntake.Command
