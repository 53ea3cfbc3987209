import TokenIntake.Settings.Environment
import TokenIntake.Settings.Merge
import TokenIntake.Settings.Profile
import TokenIntake.Settings.Source

namespace TokenIntake

namespace Settings

structure World where
  files : Files
  environment : Environment
  directory : Path
  home : Path

/-- Where a settings file is looked for, the first one that exists being the only one read. -/
def World.searchPaths (w : World) : List Path :=
  [w.directory.join ".tokenmsg.yml", w.directory.join ".tokenmsg.json", w.home.join ".tokenmsg/config.yml",
    w.home.join ".tokenmsg/config.json"]

inductive Refusal where
  | unknownProfile (label : Text)
  | notFound (path : Path)
  | unknownFormat (path : Path)
  | unreadable (path : Path) (f : DataFile.Fault)
  | notMapping (path : Path)
deriving DecidableEq

def Refusal.message : Refusal → Text
  | .unknownProfile label => "Unknown profile: " ++ label
  | .notFound path => "Config file not found: " ++ path.text
  | .unknownFormat path => "Unknown config file format: " ++ path.text
  | .unreadable path f => "Failed to load config from " ++ path.text ++ ": " ++ f.message
  | .notMapping path => "Config file " ++ path.text ++ " must contain a mapping"

/-- A source is refused, it cannot even be looked for, its content is not even data, or the data lies too
deep to be merged. -/
inductive Fault where
  | refused (r : Refusal)
  | search (path : Path) (f : Files.Fault)
  | content (f : DataFile.Fault)
  | tooDeep
deriving DecidableEq

def Fault.message : Fault → Text
  | .refused r => r.message
  | .search path f => f.message path.text
  | .content f => f.message
  | .tooDeep => copyTooDeepMessage

def Fault.ofFile (path : Path) (f : DataFile.Fault) : Fault :=
  match f with
  | .files .. | .json (.malformed ..) | .yaml .malformed => .refused (.unreadable path f)
  | .encoding _ | .json _ | .yaml _ => .content f

def readData (fs : Files) (path : Path) : Except Fault Value :=
  match DataFile.contents fs path with
  | .error f => .error (.ofFile path f)
  | .ok bytes =>
    if DataFile.isYaml path then (DataFile.ofYaml bytes).mapError (.ofFile path)
    else if DataFile.isJson path then (DataFile.ofJson bytes).mapError (.ofFile path)
    else .error (.refused (.unknownFormat path))

def readFile (fs : Files) (path : Path) : Except Fault Mapping := do
  match (← readData fs path).opened with
  | .null => .ok []
  | .map entries => .ok entries
  | _ => .error (.refused (.notMapping path))

structure Layer where
  source : Text
  entries : Mapping

def logger : Text := "tokenmsg-cli.config"

def profileLayer (profile : Option Text) : Traced (Except Fault (List Layer)) :=
  match profile with
  | none | some [] => return .ok []
  | some label =>
    match Profile.ofLabel? label with
    | none => return .error (.refused (.unknownProfile label))
    | some p => do
      Traced.log logger .debug ("Applied profile: " ++ label)
      return .ok [⟨"profile:" ++ label, p.layer⟩]

def find (fs : Files) : List Path → Except Fault (Option Path)
  | [] => .ok none
  | path :: rest =>
    match fs.exists? path with
    | .ok true => .ok (some path)
    | .ok false => find fs rest
    | .error f => .error (.search path f)

def fileLayer (w : World) (file : Option Text) : Traced (Except Fault (List Layer)) :=
  match file with
  | some (c :: t) =>
    let path := Path.ofText (c :: t)
    match w.files.exists? path with
    | .ok true => return (readFile w.files path).map fun entries => [⟨"file:" ++ path.text, entries⟩]
    | .ok false => return .error (.refused (.notFound path))
    | .error f => return .error (.search path f)
  | _ =>
    match find w.files w.searchPaths with
    | .error f => return .error f
    | .ok none => return .ok []
    | .ok (some path) =>
      match readFile w.files path with
      | .error f => return .error f
      | .ok entries => do
        Traced.log logger .debug ("Loaded config from " ++ path.text)
        return .ok [⟨"file:" ++ path.text, entries⟩]

def environmentLayer (w : World) : Traced (List Layer) := do
  let entries ← Environment.layer w.environment []
  return if entries.isEmpty then [] else [⟨"environment", entries⟩]

/-- The layers, the lowest first, up to where one of them cannot be had. -/
def layers (w : World) (file profile : Option Text) : Traced (List Layer × Option Fault) := do
  let defaults : List Layer := [⟨"defaults", Settings.defaults⟩]
  match ← profileLayer profile with
  | .error f => return (defaults, some f)
  | .ok profiles =>
    match ← fileLayer w file with
    | .error f => return (defaults ++ profiles, some f)
    | .ok fromFile => do
      let fromEnvironment ← environmentLayer w
      return (defaults ++ profiles ++ fromFile ++ fromEnvironment, none)

/-- The settings that are kept, and the sources of the last attempt to load them, failed ones included. -/
structure Manager where
  file : Option Text
  profile : Option Text
  cache : Option Mapping
  sources : List Text

def get? (settings : Mapping) (key : Text) : Option Value := Value.at? (.map settings) (key.splitOn '.')

namespace Manager

def new (file profile : Option Text) : Manager := ⟨file, profile, none, []⟩

def load (m : Manager) (w : World) : Traced (Manager × Except Fault Mapping) :=
  match m.cache with
  | some settings => return (m, .ok settings)
  | none => do
    let (ls, failed) ← layers w m.file m.profile
    let m := { m with sources := ls.map Layer.source }
    match failed with
    | some f => return (m, .error f)
    | none =>
      match Mapping.merge? (ls.map Layer.entries) with
      | none => return (m, .error .tooDeep)
      | some settings => return ({ m with cache := some settings }, .ok settings)

def get? (m : Manager) (w : World) (key : Text) : Traced (Manager × Except Fault (Option Value)) := do
  let (m, result) ← m.load w
  return (m, result.map fun settings => Settings.get? settings key)

def applied (m : Manager) (w : World) : Traced (Manager × Except Fault (List Text)) := do
  let (m, result) ← m.load w
  return (m, result.map fun _ => m.sources)

def invalidate (m : Manager) : Manager := { m with cache := none }

end Manager

inductive AssignFault where
  | missing (key : Text)
  | notSubscriptable (kind : Text)
  | listIndex
  | pairIndex
  | textIndex
  | byteIndex
  | notAssignable (kind : Text)
deriving DecidableEq

def AssignFault.message : AssignFault → Text
  | .missing key => key.quoted
  | .notSubscriptable kind => "'" ++ kind ++ "' object is not subscriptable"
  | .listIndex => "list indices must be integers or slices, not str"
  | .pairIndex => "tuple indices must be integers or slices, not str"
  | .textIndex => "string indices must be integers, not 'str'"
  | .byteIndex => "byte indices must be integers or slices, not str"
  | .notAssignable kind => "'" ++ kind ++ "' object does not support item assignment"

def lastFault : Value.Top → AssignFault
  | .list _ => .listIndex
  | top => .notAssignable top.kindName

def stepFault : Value.Top → AssignFault
  | .list _ => .listIndex
  | .pair => .pairIndex
  | .scalar (.text _) => .textIndex
  | .scalar (.bytes _) => .byteIndex
  | top => .notSubscriptable top.kindName

/-- Binds a key in a mapping of the graph, so that the value is seen wherever the mapping stands. -/
def bindInGraph (g : Graph) (x : Value) (key : Text) (n : Nat) (entries : List (Nat × Nat)) : Value :=
  let (g, v) := g.addValue x
  let (g, entries) := match g.entry? entries (.text key) with
    | some e => (g, entries.map fun (k, w) => (k, if k = e.1 then v else w))
    | none =>
      let (g, k) := g.add (.scalar (.text key))
      (g, entries ++ [(k, v)])
  Graph.value { g with cells := g.cells.setIfInBounds n (.map entries) }

def assignInGraph (g : Graph) (x : Value) : List Text → Nat → Except AssignFault Value
  | [], _ => .ok x
  | [key], n =>
    match g.cell n with
    | .map entries => .ok (bindInGraph g x key n entries)
    | c => .error (lastFault c.top)
  | key :: rest, n =>
    match g.cell n with
    | .map entries =>
      match g.entry? entries (.text key) with
      | some e => assignInGraph g x rest e.2
      | none => .error (.missing key)
    | c => .error (stepFault c.top)

def assign (x : Value) : List Text → Value → Except AssignFault Value
  | [], _ => .ok x
  | [key], v =>
    match v with
    | .map entries => .ok (.map (Mapping.put entries (.text key) x))
    | .graph g => assignInGraph g x [key] g.root
    | v => .error (lastFault v.top)
  | key :: rest, v =>
    match v with
    | .map entries =>
      match Mapping.field? entries key with
      | some inner => (assign x rest inner).map fun inner => .map (Mapping.put entries (.text key) inner)
      | none => .error (.missing key)
    | .graph g => assignInGraph g x (key :: rest) g.root
    | v => .error (stepFault v.top)

/-- Binds in the very settings that were loaded, so that what is kept changes with them. -/
def Manager.assign (m : Manager) (x : Value) (path : List Text) : Except AssignFault Manager :=
  match m.cache with
  | none => .ok m
  | some settings => do
    match ← Settings.assign x path (.map settings) with
    | .map entries => .ok { m with cache := some entries }
    | _ => .ok m

end Settings

end TokenIntake
