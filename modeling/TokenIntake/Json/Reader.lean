import TokenIntake.Json.Error
import TokenIntake.Number.Numeral
import TokenIntake.Value.Mapping
import TokenIntake.Value.Reading

namespace TokenIntake.Json

def isBlank (c : CodePoint) : Bool := c = ' ' || c = '\t' || c = '\n' || c = '\r'

def skipBlanks (t : Text) : Text := t.dropWhile isBlank

def simpleEscape? (c : CodePoint) : Option CodePoint :=
  if c = '"' ∨ c = '\\' ∨ c = '/' then some c
  else if c = 'b' then some '\x08'
  else if c = 'f' then some '\x0c'
  else if c = 'n' then some '\n'
  else if c = 'r' then some '\r'
  else if c = 't' then some '\t'
  else none

/-- The four digits of a numeric escape. Text must go on after them. -/
def unicodeEscape? : Text → Option (CodePoint × Text)
  | a :: b :: c :: d :: e :: rest => do
    let n ← Text.hexValue? [a, b, c, d]
    let u ← CodePoint.ofNat? n
    some (u, e :: rest)
  | _ => none

def lowEscape? : Text → Option (CodePoint × Text)
  | a :: b :: rest =>
    if a = '\\' ∧ b = 'u' then
      match unicodeEscape? rest with
      | some (u, after) => if u.isLowSurrogate then some (u, after) else none
      | none => none
    else none
  | _ => none

def readEscape (start backslash : Text) : Text → Except Stop (CodePoint × Text)
  | [] => .error (.complaint .unterminatedString start)
  | c :: rest =>
    if c = 'u' then
      match unicodeEscape? rest with
      | none => .error (.complaint .invalidUnicodeEscape (c :: rest))
      | some (u, after) =>
        if u.isHighSurrogate then
          match lowEscape? after with
          | some (low, after) => .ok (.ofSurrogates u low, after)
          | none => .ok (u, after)
        else .ok (u, after)
    else
      match simpleEscape? c with
      | some u => .ok (u, rest)
      | none => .error (.complaint .invalidEscape backslash)

/-- The rest of a string after its opening mark; `start` is the text from that mark on. -/
def readString (start : Text) : Nat → Text → Except Stop (Text × Text)
  | 0, _ | _ + 1, [] => .error (.complaint .unterminatedString start)
  | fuel + 1, c :: rest =>
    if c = '"' then .ok ([], rest)
    else if c = '\\' then
      match readEscape start (c :: rest) rest with
      | .error e => .error e
      | .ok (u, after) => (readString start fuel after).map fun (t, after) => (u :: t, after)
    else if c.val < 0x20 then .error (.complaint .controlCharacter (c :: rest))
    else (readString start fuel rest).map fun (t, after) => (c :: t, after)

def wholePart? : Text → Option (Text × Text)
  | [] => none
  | c :: rest =>
    if c = '0' then some ([c], rest)
    else if c.isDigit then some (c :: rest.takeWhile CodePoint.isDigit, rest.dropWhile CodePoint.isDigit)
    else none

def fractionPart? : Text → Option (Text × Text)
  | c :: rest =>
    if c = '.' ∧ (rest.takeWhile CodePoint.isDigit).isEmpty = false then
      some (rest.takeWhile CodePoint.isDigit, rest.dropWhile CodePoint.isDigit)
    else none
  | [] => none

def exponentPart? : Text → Option (Int × Text)
  | c :: rest =>
    if c = 'e' ∨ c = 'E' then
      let (negative, digits) := Text.signed rest
      let n := Text.digitsValue (digits.takeWhile CodePoint.isDigit)
      if (digits.takeWhile CodePoint.isDigit).isEmpty then none
      else some (if negative then -n else n, digits.dropWhile CodePoint.isDigit)
    else none
  | [] => none

def readNumber (start : Text) (negative : Bool) (t : Text) : Except Stop (Scalar × Text) :=
  match wholePart? t with
  | none => .error (.complaint .expectingValue start)
  | some (whole, rest) =>
    match fractionPart? rest with
    | some (fraction, rest) =>
      let (e, rest) := (exponentPart? rest).getD (0, rest)
      .ok (.float (.ofDecimal negative (Text.digitsValue (whole ++ fraction)) (e - fraction.length)), rest)
    | none =>
      match exponentPart? rest with
      | some (e, rest) => .ok (.float (.ofDecimal negative (Text.digitsValue whole) e), rest)
      | none =>
        if maxIntDigits < whole.length then .error (.tooManyDigits whole.length)
        else
          let n := Text.digitsValue whole
          .ok (.int (if negative then -n else n), rest)

def words : List (Text × Scalar) :=
  [("null", .null), ("true", .bool true), ("false", .bool false), ("NaN", .float .nan),
    ("Infinity", .float (.infinite false)), ("-Infinity", .float (.infinite true))]

def readScalar (t : Text) : Except Stop (Scalar × Text) :=
  match words.find? fun (word, _) => word.isPrefixOf t with
  | some (word, s) => .ok (s, t.drop word.length)
  | none =>
    match t with
    | c :: rest => if c = '-' then readNumber t true rest else readNumber t false t
    | [] => .error (.complaint .expectingValue [])

def expect (c : CodePoint) (complaint : Complaint) (t : Text) : Except Stop Text :=
  match skipBlanks t with
  | d :: rest => if d = c then .ok rest else .error (.complaint complaint (d :: rest))
  | [] => .error (.complaint complaint [])

def readName (fuel : Nat) : Text → Except Stop (Text × Text)
  | c :: rest =>
    if c = '"' then readString (c :: rest) fuel rest
    else .error (.complaint .expectingName (c :: rest))
  | [] => .error (.complaint .expectingName [])

/-- No array and no object is read inside more than this many others. -/
def maxNesting : Nat := 990

mutual

/-- A value inside which `room` collections may lie in one another. -/
def readValue : Nat → Nat → Text → Except Stop (Value × Text)
  | 0, _, t => .error (.complaint .expectingValue t)
  | _ + 1, _, [] => .error (.complaint .expectingValue [])
  | fuel + 1, room, c :: rest =>
    if c = '"' then (readString (c :: rest) rest.length rest).map fun (s, after) => (.text s, after)
    else if c = '[' then
      match room, skipBlanks rest with
      | 0, _ => .error (.tooDeep .array)
      | room + 1, d :: after =>
        if d = ']' then .ok (.list [], after)
        else (readItems fuel room (d :: after)).map fun (xs, after) => (.list xs, after)
      | _ + 1, [] => .error (.complaint .expectingValue [])
    else if c = '{' then
      match room, skipBlanks rest with
      | 0, _ => .error (.tooDeep .object)
      | room + 1, d :: after =>
        if d = '}' then .ok (.map [], after)
        else (readMembers fuel room (d :: after)).map fun (es, after) => (.map es, after)
      | _ + 1, [] => .error (.complaint .expectingName [])
    else (readScalar (c :: rest)).map fun (s, after) => (.scalar s, after)

def readItems : Nat → Nat → Text → Except Stop (List Value × Text)
  | 0, _, t => .error (.complaint .expectingValue t)
  | fuel + 1, room, t =>
    match readValue fuel room t with
    | .error e => .error e
    | .ok (x, rest) =>
      match skipBlanks rest with
      | c :: after =>
        if c = ']' then .ok ([x], after)
        else if c = ',' then (readItems fuel room (skipBlanks after)).map fun (xs, after) => (x :: xs, after)
        else .error (.complaint .expectingComma (c :: after))
      | [] => .error (.complaint .expectingComma [])

def readMembers : Nat → Nat → Text → Except Stop (List (Scalar × Value) × Text)
  | 0, _, t => .error (.complaint .expectingName t)
  | fuel + 1, room, t =>
    match readName t.length t with
    | .error e => .error e
    | .ok (name, rest) =>
      match expect ':' .expectingColon rest with
      | .error e => .error e
      | .ok rest =>
        match readValue fuel room (skipBlanks rest) with
        | .error e => .error e
        | .ok (x, rest) =>
          match skipBlanks rest with
          | c :: after =>
            if c = '}' then .ok ([(.text name, x)], after)
            else if c = ',' then
              (readMembers fuel room (skipBlanks after)).map fun (es, after) => ((.text name, x) :: es, after)
            else .error (.complaint .expectingComma (c :: after))
          | [] => .error (.complaint .expectingComma [])

end

def readDocument (t : Text) : Except Stop Value :=
  if t.head? = some '\uFEFF' then .error (.complaint .byteOrderMark t)
  else
    match readValue (2 * t.length + 1) maxNesting (skipBlanks t) with
    | .error e => .error e
    | .ok (v, rest) =>
      match skipBlanks rest with
      | [] => .ok v
      | rest => .error (.complaint .extraData rest)

/-- The value as it is written, with all members of every object. -/
def parseWritten (t : Text) : Except Error Value := (readDocument t).mapError (.ofStop t)

/-- Of members with one name only the last value stays. -/
def settledReading : Reading Value where
  scalar := .scalar
  list := .list
  map es := .map (Mapping.ofPairs es)
  set elements := .list (elements.map .scalar)
  pair first second := .list [first, second]
  listAgain := .list []
  mapAgain := .map []
  pairAgain := .list []

def parse (t : Text) : Except Error Value := (parseWritten t).map fun v => v.read settledReading

end TokenIntake.Json
