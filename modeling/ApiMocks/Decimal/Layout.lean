import ApiMocks.Decimal.Shortest

/-!
# How a double is written

The shortest digits of a double, laid out positionally or with an exponent.  A positional text
always has a point: `Layout` says where positional notation ends.
-/

namespace ApiMocks

/-- Where positional notation ends: the number of digits before the point, or of zeros behind it,
from which an exponent is written instead. -/
structure Layout where
  mostWhole : Option Nat
  mostZeros : Option Nat

namespace Layout

/-- In data, numbers from `10 ^ 16` on or below `10 ^ -5` have an exponent. -/
def data : Layout := ⟨some 16, some 4⟩

/-- In messages about documents in block notation, every number is positional. -/
def positional : Layout := ⟨none, none⟩

/-- The decimal with `whole` digits before the point (or `-whole` zeros behind it). -/
def place (digits : List Char) (whole : Int) : String :=
  if whole ≤ 0 then
    "0." ++ String.ofList (List.replicate whole.natAbs '0' ++ digits)
  else
    let n := whole.toNat
    let before := digits.take n ++ List.replicate (n - digits.length) '0'
    let after := digits.drop n
    String.ofList (before ++ '.' :: if after.isEmpty then ['0'] else after)

/-- The decimal with one digit before the point and an exponent. -/
def withExponent (digits : List Char) (whole : Int) : String :=
  let mantissa := match digits with
    | [] => ""
    | [d] => String.ofList [d]
    | d :: more => String.ofList (d :: '.' :: more)
  mantissa ++ "e" ++ toString (whole - 1)

/-- A finite double as text. -/
def text (l : Layout) (d : Double) : String :=
  let s := d.shortest
  let digits := (toString s.digits).toList
  let whole : Int := digits.length + s.exponent
  let isPlaced := s.digits = 0 || (l.mostWhole.all (whole ≤ ·) &&
    l.mostZeros.all fun z => -whole ≤ z)
  let body := if s.digits = 0 then "0.0"
    else if isPlaced then place digits whole else withExponent digits whole
  (if d.isNegative then "-" else "") ++ body

end Layout

end ApiMocks
