import TokenIntake.Text.Basic

namespace TokenIntake.Yaml

def isBreak (c : CodePoint) : Bool := c.is '\n' || c.val = 0x85 || c.val = 0x2028 || c.val = 0x2029

def isSpaceOrBreak (c : CodePoint) : Bool :=
  c.is ' ' || c.is '\t' || c.is '\r' || c.val = 0 || isBreak c

structure Analysis where
  multiline : Bool
  allowPlain : Bool
  allowSingleQuoted : Bool
deriving DecidableEq

def isIndicator (c : CodePoint) : Bool := ("#,[]\x7b\x7d&*!|>'\"%@\x60" : Text).contains c

def spaceFollows : Text → Bool
  | [] => true
  | c :: _ => isSpaceOrBreak c

def startsIndicated : Text → Bool
  | [] => false
  | c :: rest =>
    isIndicator c || ((c.is '?' || c.is ':' || c.is '-') && spaceFollows rest)
      || Text.startsWith (c :: rest) "---" || Text.startsWith (c :: rest) "..."

def containsIndicated (before : CodePoint) : Text → Bool
  | [] => false
  | c :: rest =>
    c.is ':' && spaceFollows rest || c.is '#' && isSpaceOrBreak before || containsIndicated c rest

def isPlainChar (c : CodePoint) : Bool := c.is '\n' || 0x20 ≤ c.val && c.val ≤ 0x7E

def hasPair (p q : CodePoint → Bool) : Text → Bool
  | c :: d :: rest => p c && q d || hasPair p q (d :: rest)
  | _ => false

def analyze (t : Text) : Analysis :=
  match t with
  | [] => ⟨false, true, true⟩
  | c :: rest =>
    let multiline := t.any isBreak
    let edge (d : CodePoint) : Bool := d.is ' ' || isBreak d
    let breakSpace := hasPair isBreak (CodePoint.is ' ') t
    let special := hasPair (CodePoint.is ' ') isBreak t || !t.all isPlainChar
    { multiline := multiline
      allowPlain := !(multiline || edge c || edge ((c :: rest).getLastD c) || special || startsIndicated t
        || containsIndicated c rest)
      allowSingleQuoted := !(breakSpace || special) }

inductive Style where
  | plain
  | singleQuoted
  | doubleQuoted
deriving DecidableEq

/-- The first style that the text allows. Keys on one line with their values hold no line breaks and are
not empty, unless they are quoted. -/
def style (resolvesToItself simpleKey : Bool) (t : Text) : Style :=
  let a := analyze t
  if resolvesToItself && a.allowPlain && !(simpleKey && (t.isEmpty || a.multiline)) then .plain
  else if a.allowSingleQuoted && !(simpleKey && a.multiline) then .singleQuoted
  else .doubleQuoted

end TokenIntake.Yaml
