import TokenIntake.Text.Basic

namespace TokenIntake

inductive Pattern where
  | never
  | nothing
  | one (p : CodePoint → Bool)
  | seq (a b : Pattern)
  | either (a b : Pattern)
  | many (a : Pattern)

namespace Pattern

def nullable : Pattern → Bool
  | .never => false
  | .nothing => true
  | .one _ => false
  | .seq a b => a.nullable && b.nullable
  | .either a b => a.nullable || b.nullable
  | .many _ => true

def andThen : Pattern → Pattern → Pattern
  | .never, _ => .never
  | .nothing, b => b
  | a, b => .seq a b

def orElse : Pattern → Pattern → Pattern
  | .never, b => b
  | a, .never => a
  | a, b => .either a b

/-- What may follow `c`. -/
def after (c : CodePoint) : Pattern → Pattern
  | .never | .nothing => .never
  | .one p => if p c then .nothing else .never
  | .seq a b => if a.nullable then orElse ((a.after c).andThen b) (b.after c) else (a.after c).andThen b
  | .either a b => orElse (a.after c) (b.after c)
  | .many a => (a.after c).andThen (.many a)

def Matches (p : Pattern) : Text → Bool
  | [] => p.nullable
  | c :: cs => (p.after c).Matches cs

def word (t : Text) : Pattern := t.foldr (fun c p => .seq (.one (· = c)) p) .nothing

def anyWord (ts : List Text) : Pattern := ts.foldr (fun t p => .either (word t) p) .never

def all (ps : List Pattern) : Pattern := ps.foldr .seq .nothing

def any (ps : List Pattern) : Pattern := ps.foldr .either .never

def opt (p : Pattern) : Pattern := .either .nothing p

def atLeastOne (p : Pattern) : Pattern := .seq p (.many p)

def oneOf (t : Text) : Pattern := .one (t.contains ·)

def digit : Pattern := .one CodePoint.isDigit

end Pattern

end TokenIntake
