import TokenIntake.Command.Program

namespace TokenIntake

namespace Machine

def stringOf (t : Text) : String := String.ofList (t.filterMap CodePoint.toChar?)

def bytesOf (t : Text) : ByteArray := ⟨t.utf8.toArray⟩

/-- Bytes that are no UTF-8 give an empty text. -/
def textOf (bytes : ByteArray) : Text := (Utf8.decode bytes.toList).toOption.getD []

def environmentOf (t : Text) : Environment :=
  (t.splitOn '\x00').foldl (fun env entry => Environment.set env (entry.cut '=').1 (entry.cut '=').2) []

/-- The texts in an argument that may be paths: all of it, the value of a long option, that of a short one. -/
def pathsIn (arg : Text) : List Path := [arg, (arg.cut '=').2, arg.drop 2].map Path.ofText

def leading (p : Path) : List Path :=
  (List.range p.parts.length).map fun n => { p with parts := p.parts.take (n + 1) }

def entry (name : String) : IO (Files.Entry × Bool) := do
  let path := (← IO.currentDir) / name
  if (← path.metadata).type == .dir then return (.directory, true)
  match ← (IO.FS.readBinFile path).toBaseIO with
  | .ok bytes => return (.file bytes.toList, true)
  | .error _ => return (.file [], false)

def bar (fs : Files) (place : List Text) (right : Files.Right) : Files :=
  { fs with barred := (place, right) :: fs.barred }

def look (fs : Files) (p : Path) : IO Files := do
  match fs.exists? p, fs.place p with
  | .ok false, .ok place =>
    match ← (entry (stringOf p.text)).toBaseIO with
    | .ok (e, readable) =>
      let fs := fs.put place e
      return if readable then fs else bar fs place .read
    | .error (.permissionDenied ..) => return bar fs place.dropLast .search
    | .error _ => return fs
  | _, _ => return fs

def world (args : List Text) : IO Settings.World := do
  let here := Path.ofText (.ofString (toString (← IO.currentDir)))
  let home := Path.ofText (.ofString ((← IO.getEnv "HOME").getD "/"))
  let environment := environmentOf (textOf (← IO.FS.readBinFile "/proc/self/environ"))
  let w : Settings.World := ⟨Files.new here.parts, environment, here, home⟩
  let files ← ((w.searchPaths ++ args.flatMap pathsIn).flatMap leading).foldlM look w.files
  return { w with files := files }

def writeBack (before after : Files) : IO Unit :=
  after.entries.forM fun (place, e) => do
    let name := stringOf (Path.text ⟨.root, place⟩)
    if before.at? place != some e then
      match e with
      | .directory => IO.FS.createDirAll name
      | .file bytes => IO.FS.writeBinFile name ⟨bytes.toArray⟩

end Machine

end TokenIntake

open TokenIntake in
def main (args : List String) : IO UInt32 := do
  let args := args.map Text.ofString
  let w ← Machine.world args
  let (code, t) := Command.program w ((← IO.monoMsNow) / 1000) args
  Machine.writeBack w.files t.files
  (← IO.getStdout).write (Machine.bytesOf t.stdout)
  (← IO.getStderr).write (Machine.bytesOf t.stderr)
  return code.toUInt32
