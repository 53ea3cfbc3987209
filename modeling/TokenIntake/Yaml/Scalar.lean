import TokenIntake.Json.Error
import TokenIntake.Number.Numeral
import TokenIntake.Text.Base64
import TokenIntake.Text.Quoted
import TokenIntake.Value.Basic
import TokenIntake.Yaml.Resolve

namespace TokenIntake.Yaml

inductive Unreadable where
  | truth (word : Text)
  | noCharacter
  | integer (base : Nat) (t : Text)
  | tooManyDigits (count : Nat)
  | float (t : Text)
  | hugeWeight
  | noTimestamp
  | mappingTimestamp
  | year
  | month
  | day
  | hour
  | minute
  | second
  | zone (minutes : Int)
deriving DecidableEq

def spanText (minutes : Int) : Text :=
  let days := Int.fdiv minutes 1440
  let seconds := Int.fmod minutes 1440 * 60
  let parts : List Text :=
    (if days = 0 then [] else ["days=" ++ Text.ofInt days])
      ++ (if seconds = 0 then [] else ["seconds=" ++ Text.ofInt seconds])
  "datetime.timedelta(" ++ Text.join ", " parts ++ ")"

def Unreadable.message : Unreadable → Text
  | .truth word => word.quoted
  | .noCharacter => "string index out of range"
  | .integer base t =>
    "invalid literal for int() with base " ++ Text.ofNat base ++ ": " ++ t.quoted.take 200
  | .tooManyDigits count => Json.tooManyDigitsMessage count
  | .float t => "could not convert string to float: " ++ t.quoted
  | .hugeWeight => "int too large to convert to float"
  | .noTimestamp => "'NoneType' object has no attribute 'groupdict'"
  | .mappingTimestamp => "expected string or bytes-like object, got 'list'"
  | .year => "year 0 is out of range"
  | .month => "month must be in 1..12"
  | .day => "day is out of range for month"
  | .hour => "hour must be in 0..23"
  | .minute => "minute must be in 0..59"
  | .second => "second must be in 0..59"
  | .zone minutes =>
    "offset must be a timedelta strictly between -timedelta(hours=24) and timedelta(hours=24), not "
      ++ spanText minutes ++ "."

def truthWords : List (Text × Bool) :=
  [("yes", true), ("no", false), ("true", true), ("false", false), ("on", true), ("off", false)]

def readTruth (t : Text) : Except Unreadable Bool :=
  match truthWords.lookup t.lower with
  | some b => .ok b
  | none => .error (.truth t.lower)

def readDigits (base : Nat) (t : Text) : Except Unreadable Int :=
  (Text.readInt base t).mapError fun f =>
    match f with
    | .malformed => .integer base t
    | .tooManyDigits count => .tooManyDigits count

def readMagnitude (t : Text) : Except Unreadable Int :=
  match t with
  | [] => .error .noCharacter
  | c :: _ =>
    if t = ("0" : Text) then .ok 0
    else if Text.startsWith t "0b" then readDigits 2 (t.drop 2)
    else if Text.startsWith t "0x" then readDigits 16 (t.drop 2)
    else if c = '0' then readDigits 8 t
    else if t.contains ':' then do
      let places ← (Text.splitOn t ':').mapM (readDigits 10)
      .ok (places.foldl (fun n place => 60 * n + place) 0)
    else readDigits 10 t

def readInteger (t : Text) : Except Unreadable Int :=
  let (negative, magnitude) := Text.signed (t.filter (!CodePoint.is '_' ·))
  (readMagnitude magnitude).map fun n => if negative then -n else n

def readDecimal (t : Text) : Except Unreadable Binary64 :=
  match t.float? with
  | some x => .ok x
  | none => .error (.float t)

/-- The places to base sixty from the last to the first, each times the weight of its place, which must be no larger
than any float. -/
def sumSixties : List Binary64 → Nat → Binary64 → Except Unreadable Binary64
  | [], _, sum => .ok sum
  | place :: rest, weight, sum =>
    match Binary64.ofInt weight with
    | .finite .. => sumSixties rest (60 * weight) (sum.add (place.mul (.ofInt weight)))
    | _ => .error .hugeWeight

def readFloat (t : Text) : Except Unreadable Binary64 :=
  let t := Text.lower (t.filter (!CodePoint.is '_' ·))
  if t.isEmpty then .error .noCharacter
  else
    let (negative, magnitude) := Text.signed t
    let x : Except Unreadable Binary64 :=
      if magnitude = (".inf" : Text) then .ok (.infinite false)
      else if magnitude = (".nan" : Text) then .ok .nan
      else if magnitude.contains ':' then do
        let places ← (Text.splitOn magnitude ':').mapM readDecimal
        sumSixties places.reverse 1 (.ofInt 0)
      else readDecimal magnitude
    x.map fun x => if negative then x.neg else x

def digitRuns (t : Text) : List Text :=
  (Text.splitOn (t.map fun c => if c.isDigit then c else ' ') ' ').filter (!·.isEmpty)

def checkDate (year month day : Nat) : Except Unreadable Unit :=
  if year = 0 then .error .year
  else if month = 0 ∨ 12 < month then .error .month
  else if day = 0 ∨ Timestamp.daysInMonth year month < day then .error .day
  else .ok ()

def readMicro (fraction : Text) : Nat :=
  Text.digitsValue (fraction.take 6 ++ List.replicate (6 - fraction.length) ('0' : CodePoint))

def readZone (t : Text) : Except Unreadable (Option Int) :=
  match t.dropWhile fun c => c.is ' ' || c.is '\t' with
  | [] => .ok none
  | c :: rest =>
    if c = 'Z' then .ok (some 0)
    else
      let parts := (digitRuns rest).map Text.digitsValue
      let minutes : Int := parts.headD 0 * 60 + (parts.drop 1).headD 0
      let minutes := if c = '-' then -minutes else minutes
      if minutes ≤ -1440 ∨ 1440 ≤ minutes then .error (.zone minutes) else .ok (some minutes)

def timestampForm : Pattern := .seq shortDate (Pattern.opt clockPattern)

def readTimestamp (t : Text) : Except Unreadable Timestamp :=
  let t := withoutBreak t
  if !timestampForm.Matches t then .error .noTimestamp
  else match (digitRuns t).map Text.digitsValue with
  | year :: month :: day :: hour :: minute :: second :: _ => do
    let tail := ((t.dropWhile (!CodePoint.is ':' ·)).drop 1).dropWhile (!CodePoint.is ':' ·)
    let afterSeconds := tail.drop 3
    let (fraction, zone) := match afterSeconds with
      | c :: rest =>
        if c = '.' then (rest.takeWhile CodePoint.isDigit, rest.dropWhile CodePoint.isDigit)
        else ([], afterSeconds)
      | [] => ([], [])
    let offset ← readZone zone
    checkDate year month day
    if 23 < hour then .error .hour
    else if 59 < minute then .error .minute
    else if 59 < second then .error .second
    else .ok ⟨year, month, day, some ⟨hour, minute, second, readMicro fraction, offset⟩⟩
  | year :: month :: day :: _ => do
    checkDate year month day
    .ok ⟨year, month, day, none⟩
  | _ => .error .noTimestamp

end TokenIntake.Yaml
