import TokenIntake.Proofs.Render.Lines
import TokenIntake.Proofs.Render.Shown
import TokenIntake.Render.Format

namespace TokenIntake.Render

def isRow : Value → Bool
  | .map _ => true
  | _ => false

def inCell : Value → List Value
  | .list xs => xs
  | v => [v]

def under (headers : List Scalar) : Value → List Value
  | .map es => (headers.filterMap (Mapping.get? es)).flatMap inCell
  | _ => []

/-- The values that a table shows. Of rows it shows what they have under the keys of the first one. -/
def parts : Value → List Value
  | .map es => es.flatMap fun e => inCell e.2
  | .list (.map es :: rest) => (.map es :: rest).flatMap (under (es.map Prod.fst))
  | .list xs => xs
  | v => [v]

section

variable {headers : List Scalar} {es : Mapping} {item : Value} {items : List Value}

end

section

variable {v x : Value}

section

variable {keyWidth : Int} {width : Nat} (possible : checkedWidth keyWidth = .ok width)

include possible

end

end

end TokenIntake.Render
