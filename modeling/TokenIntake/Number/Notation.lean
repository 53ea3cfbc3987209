import TokenIntake.Number.Shortest
import TokenIntake.Text.Basic

namespace TokenIntake.Binary64

/-- Digits with a point among them, whose place is counted from the first digit. -/
def positional (digits : Text) (point : Int) : Text :=
  if point ≤ 0 then "0." ++ List.replicate (-point).toNat ('0' : CodePoint) ++ digits
  else
    let n := point.toNat
    let whole := digits.take n ++ List.replicate (n - digits.length) ('0' : CodePoint)
    whole ++ "." ++ (if digits.length ≤ n then ("0" : Text) else digits.drop n)

def scientific (digits : Text) (point : Int) : Text :=
  let e := point - 1
  let size := Text.ofNat e.natAbs
  digits.take 1 ++ (if digits.length ≤ 1 then ([] : Text) else "." ++ digits.drop 1)
    ++ "e" ++ (if e < 0 then ("-" : Text) else "+") ++ (if size.length < 2 then ("0" : Text) ++ size else size)

def text : Binary64 → Text
  | .nan => "nan"
  | .infinite negative => if negative then "-inf" else "inf"
  | .finite negative m e =>
    (if negative then ("-" : Text) else []) ++
      (if m = 0 then ("0.0" : Text)
      else
        let (n, exponent) := shortest m e
        let digits := Text.ofNat n
        let point := digits.length + exponent
        if -4 < point ∧ point ≤ 16 then positional digits point else scientific digits point)

end TokenIntake.Binary64
