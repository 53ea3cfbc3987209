import TokenIntake.Files
import TokenIntake.Log

namespace TokenIntake.Command

structure Terminal where
  files : Files
  stdout : Text
  stderr : Text
  ownThreshold : Option Log.Level
  checkThreshold : Option Log.Level

namespace Terminal

def new (files : Files) : Terminal := ⟨files, [], [], none, none⟩

def afterSequence? : Text → Option Text
  | a :: b :: rest =>
    if a.val = 0x1B && b.is '[' then
      let parameters : CodePoint → Bool := fun c => 0x30 ≤ c.val && c.val ≤ 0x3F
      let intermediates : CodePoint → Bool := fun c => 0x20 ≤ c.val && c.val ≤ 0x2F
      match (rest.dropWhile parameters).dropWhile intermediates with
      | c :: after => if 0x40 ≤ c.val && c.val ≤ 0x7E then some after else none
      | [] => none
    else none
  | _ => none

def withoutSequencesFuel : Nat → Text → Text
  | 0, t => t
  | _ + 1, [] => []
  | fuel + 1, c :: rest =>
    match afterSequence? (c :: rest) with
    | some after => withoutSequencesFuel fuel after
    | none => c :: withoutSequencesFuel fuel rest

def withoutSequences (t : Text) : Text := withoutSequencesFuel t.length t

def spelledOut (t : Text) : Text :=
  t.flatMap fun c => if c.isSurrogate then "\\u" ++ Text.hex 4 c.val else [c]

/-- Writes a line to the first output; on failure nothing is written. -/
def print (t : Terminal) (line : Text) : Except Text Terminal :=
  let line := withoutSequences (line ++ "\n")
  match Utf8.obstacle? (fun _ => false) line with
  | some obstacle => .error obstacle.message
  | none => .ok { t with stdout := t.stdout ++ line }

def printError (t : Terminal) (line : Text) : Terminal :=
  { t with stderr := t.stderr ++ spelledOut (withoutSequences (line ++ "\n")) }

def recordLine (r : Log.Record) : Text :=
  spelledOut (r.logger ++ " - " ++ r.level.label ++ " - " ++ r.message ++ "\n")

def printRecords (t : Terminal) (records : List Log.Record) : Terminal :=
  { t with stderr := t.stderr ++ records.flatMap recordLine }

def showOwn (t : Terminal) (events : List Log.Event) : Terminal :=
  let (records, threshold) := Log.replay t.ownThreshold events
  { t.printRecords records with ownThreshold := threshold }

def showChecks (t : Terminal) (events : List Log.Event) : Terminal :=
  let (records, threshold) := Log.replay t.checkThreshold events
  { t.printRecords records with checkThreshold := threshold }

def setThresholds (t : Terminal) (level : Log.Level) : Terminal :=
  { t with ownThreshold := some level, checkThreshold := some level }

end Terminal

end TokenIntake.Command
