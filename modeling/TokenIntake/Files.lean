import TokenIntake.Text.Quoted
import TokenIntake.Text.Utf8

namespace TokenIntake

/-- Where a path starts. Two slashes lead to the root as one does, but are kept as they are. -/
inductive Path.Start where
  | here
  | root
  | doubleRoot
deriving DecidableEq

structure Path where
  start : Path.Start
  parts : List Text
deriving DecidableEq

namespace Path

def ofText (t : Text) : Path where
  start := match (t.takeWhile (CodePoint.is '/')).length with
    | 0 => .here
    | 2 => .doubleRoot
    | _ => .root
  parts := (Text.splitOn t '/').filter fun part => !part.isEmpty && part != ("." : Text)

/-- A lone surrogate that stands for a byte which is no UTF-8. -/
def isByte (c : CodePoint) : Bool := 0xDC80 ≤ c.val && c.val ≤ 0xDCFF

def complaint? (t : Text) : Option Text :=
  match Utf8.obstacle? isByte t with
  | some obstacle => some obstacle.message
  | none => if t.any fun c => c.val = 0 then some "embedded null byte" else none

/-- How many bytes a text takes as a name. A surrogate that stands for a byte takes one. -/
def byteSize (t : Text) : Nat := (t.map fun c => if isByte c then 1 else c.utf8.length).foldl (· + ·) 0

def text (p : Path) : Text :=
  let joined := Text.join "/" p.parts
  match p.start with
  | .here => if p.parts.isEmpty then "." else joined
  | .root => "/" ++ joined
  | .doubleRoot => "//" ++ joined

instance : Coe String Path := ⟨fun s => ofText s⟩

def name (p : Path) : Text := p.parts.getLastD []

def parent (p : Path) : Path := { p with parts := p.parts.dropLast }

def join (p q : Path) : Path := if q.start = .here then { p with parts := p.parts ++ q.parts } else q

/-- The end of the name from its last point on, if that point is neither its first nor its last code
point. -/
def extension (p : Path) : Text :=
  let behind := p.name.reverse.takeWhile (!CodePoint.is '.' ·)
  let before := p.name.length - behind.length
  if behind.isEmpty || before ≤ 1 then [] else p.name.drop (before - 1)

end Path

namespace Files

inductive Entry where
  | file (bytes : List UInt8)
  | directory
deriving DecidableEq

inductive Fault where
  | notFound
  | exists
  | notDirectory
  | isDirectory
  | denied
  | nameTooLong
deriving DecidableEq

def Fault.message (path : Text) (f : Fault) : Text :=
  (match f with
    | .notFound => ("[Errno 2] No such file or directory: " : Text)
    | .denied => "[Errno 13] Permission denied: "
    | .exists => "[Errno 17] File exists: "
    | .notDirectory => "[Errno 20] Not a directory: "
    | .isDirectory => "[Errno 21] Is a directory: "
    | .nameTooLong => "[Errno 36] File name too long: ") ++ path.quoted

inductive Right where
  | read
  | write
  | search
deriving DecidableEq

end Files

/-- Entries by their places, which are parts from the root, the place of the working directory, and which rights
are withheld from the one who uses the tree. -/
structure Files where
  entries : List (List Text × Files.Entry)
  here : List Text
  barred : List (List Text × Files.Right)
deriving DecidableEq

namespace Files

def new (here : List Text) : Files :=
  ⟨(List.range here.length).map fun n => (here.take (n + 1), .directory), here, []⟩

def may (fs : Files) (right : Right) (place : List Text) : Bool := !fs.barred.contains (place, right)

def at? (fs : Files) (place : List Text) : Option Entry :=
  if place.isEmpty then some .directory else fs.entries.lookup place

def maxName : Nat := 255

def maxPath : Nat := 4095

/-- Where parts lead, seen from a directory: two dots lead to its parent, and the root is its own. -/
def follow (fs : Files) : List Text → List Text → Except Fault (List Text)
  | place, [] => .ok place
  | place, part :: rest =>
    match fs.at? place with
    | some .directory =>
      if !fs.may .search place then .error .denied
      else if part = (".." : Text) then follow fs place.dropLast rest
      else if maxName < Path.byteSize part then .error .nameTooLong
      else follow fs (place ++ [part]) rest
    | some (.file _) => .error .notDirectory
    | none => .error .notFound

def place (fs : Files) (p : Path) : Except Fault (List Text) :=
  if maxPath < Path.byteSize p.text then .error .nameTooLong
  else fs.follow (if p.start = .here then fs.here else []) p.parts

def entry (fs : Files) (p : Path) : Except Fault Entry := do
  match fs.at? (← fs.place p) with
  | some e => .ok e
  | none => .error .notFound

/-- Whether there is something. What cannot be a path is nowhere; a path that is too long, or leads through what
may not be searched, has no answer. -/
def exists? (fs : Files) (p : Path) : Except Fault Bool :=
  match if (Path.complaint? p.text).isSome then .error .notFound else fs.entry p with
  | .ok _ => .ok true
  | .error .nameTooLong => .error .nameTooLong
  | .error .denied => .error .denied
  | .error _ => .ok false

def isDirectory (fs : Files) (p : Path) : Bool := (fs.entry p).toOption = some .directory

def read (fs : Files) (p : Path) : Except Fault (List UInt8) := do
  let place ← fs.place p
  match fs.at? place with
  | none => .error .notFound
  | some e =>
    if !fs.may .read place then .error .denied
    else match e with
      | .file bytes => .ok bytes
      | .directory => .error .isDirectory

def flaw? (fs : Files) (p : Path) : Option Text :=
  match fs.place p with
  | .error _ => none
  | .ok place =>
    match fs.at? place with
    | some .directory => some "is a directory"
    | some (.file _) => if fs.may .read place then none else some "is not readable"
    | none => none

def put (fs : Files) (place : List Text) (e : Entry) : Files :=
  if (fs.entries.lookup place).isSome then
    { fs with entries := fs.entries.map fun (q, old) => if q = place then (q, e) else (q, old) }
  else { fs with entries := fs.entries ++ [(place, e)] }

def write (fs : Files) (p : Path) (bytes : List UInt8) : Except Fault Files := do
  let place ← fs.place p
  if place.isEmpty then .error .isDirectory
  else match fs.at? place.dropLast with
    | some .directory =>
      match fs.at? place with
      | some .directory => .error .isDirectory
      | some (.file _) => if fs.may .write place then .ok (fs.put place (.file bytes)) else .error .denied
      | none => if fs.may .write place.dropLast then .ok (fs.put place (.file bytes)) else .error .denied
    | some (.file _) => .error .notDirectory
    | none => .error .notFound

def makeDirectory (fs : Files) (p : Path) : Except Fault Files := do
  let place ← fs.place p
  match fs.at? place with
  | some _ => .error .exists
  | none =>
    match fs.at? place.dropLast with
    | some .directory => if fs.may .write place.dropLast then .ok (fs.put place .directory) else .error .denied
    | some (.file _) => .error .notDirectory
    | none => .error .notFound

def haveDirectory (fs : Files) (p : Path) : Except (Path × Fault) Files :=
  match fs.makeDirectory p with
  | .ok fs => .ok fs
  | .error f => if fs.isDirectory p then .ok fs else .error (p, f)

def haveDirectories (fs : Files) (p : Path) : Nat → Except (Path × Fault) Files
  | 0 => fs.haveDirectory p
  | outer + 1 =>
    match fs.makeDirectory p with
    | .error .notFound => do
      let fs ← haveDirectories fs p.parent outer
      fs.haveDirectory p
    | _ => fs.haveDirectory p

def makeDirectories (fs : Files) (p : Path) : Except (Path × Fault) Files := fs.haveDirectories p p.parts.length

def remove (fs : Files) (p : Path) : Except Fault Files := do
  let place ← fs.place p
  match fs.at? place with
  | some (.file _) =>
    if fs.may .write place.dropLast then .ok { fs with entries := fs.entries.filter fun e => e.1 != place }
    else .error .denied
  | some .directory => .error .isDirectory
  | none => .error .notFound

end Files

def Text.unixLinesAfter : Bool → Text → Text
  | _, [] => []
  | afterReturn, c :: rest =>
    if c.is '\r' then ('\n' : CodePoint) :: unixLinesAfter true rest
    else if afterReturn && c.is '\n' then unixLinesAfter false rest
    else c :: unixLinesAfter false rest

def Text.unixLines (t : Text) : Text := Text.unixLinesAfter false t

end TokenIntake
