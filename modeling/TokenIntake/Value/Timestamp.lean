import TokenIntake.Text.Basic

namespace TokenIntake

structure TimeOfDay where
  hour : Nat
  minute : Nat
  second : Nat
  micro : Nat
  offset : Option Int
deriving DecidableEq

structure Timestamp where
  year : Nat
  month : Nat
  day : Nat
  time : Option TimeOfDay
deriving DecidableEq

namespace Timestamp

def isLeap (year : Nat) : Bool := year % 4 = 0 && (year % 100 != 0 || year % 400 = 0)

def daysInMonth (year month : Nat) : Nat :=
  if month = 2 then if isLeap year then 29 else 28
  else if month ∈ [4, 6, 9, 11] then 30
  else 31

def dayBefore (year month day : Nat) : Nat × Nat × Nat :=
  if 1 < day then (year, month, day - 1)
  else if 1 < month then (year, month - 1, daysInMonth year (month - 1))
  else (year - 1, 12, 31)

def dayAfter (year month day : Nat) : Nat × Nat × Nat :=
  if day < daysInMonth year month then (year, month, day + 1)
  else if month < 12 then (year, month + 1, 1)
  else (year + 1, 1, 1)

/-- The same instant with no offset. Without an offset it is not known which instant is meant, and a
timestamp stays as it is. -/
def utc (t : Timestamp) : Timestamp :=
  match t.time with
  | some ⟨hour, minute, second, micro, some offset⟩ =>
    let minutes := (hour * 60 + minute : Nat) - offset
    let (year, month, day) :=
      if minutes < 0 then dayBefore t.year t.month t.day
      else if 1440 ≤ minutes then dayAfter t.year t.month t.day
      else (t.year, t.month, t.day)
    let inDay := (minutes % 1440).toNat
    ⟨year, month, day, some ⟨inDay / 60, inDay % 60, second, micro, some 0⟩⟩
  | _ => t

def offsetText (offset : Int) : Text :=
  (if offset < 0 then ("-" : Text) else "+") ++ Text.padded 2 (offset.natAbs / 60) ++ ":" ++
    Text.padded 2 (offset.natAbs % 60)

def iso (separator : CodePoint) (t : Timestamp) : Text :=
  Text.padded 4 t.year ++ "-" ++ Text.padded 2 t.month ++ "-" ++ Text.padded 2 t.day ++
    match t.time with
    | none => []
    | some c =>
      [separator] ++ Text.padded 2 c.hour ++ ":" ++ Text.padded 2 c.minute ++ ":" ++ Text.padded 2 c.second ++
        (if c.micro = 0 then ([] : Text) else "." ++ Text.padded 6 c.micro) ++ (c.offset.elim [] offsetText)

def kindName (t : Timestamp) : Text :=
  if t.time.isSome then "datetime.datetime" else "datetime.date"

def offsetDisplay (offset : Int) : Text :=
  let days := if offset < 0 then ("days=-1, " : Text) else []
  if offset = 0 then "datetime.timezone.utc"
  else "datetime.timezone(datetime.timedelta(" ++ days ++ "seconds=" ++ Text.ofInt (offset % 1440 * 60) ++ "))"

def display (t : Timestamp) : Text :=
  let date := [t.year, t.month, t.day]
  let clock := match t.time with
    | none => []
    | some c =>
      [c.hour, c.minute] ++ (if c.second = 0 ∧ c.micro = 0 then [] else [c.second])
        ++ (if c.micro = 0 then [] else [c.micro])
  let zone := match t.time.bind TimeOfDay.offset with
    | none => ([] : Text)
    | some offset => ", tzinfo=" ++ offsetDisplay offset
  t.kindName ++ "(" ++ Text.join ", " ((date ++ clock).map Text.ofNat) ++ zone ++ ")"

end Timestamp

end TokenIntake
