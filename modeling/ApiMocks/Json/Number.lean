import ApiMocks.Json.Token
import ApiMocks.Json.Value

/-!
# The value of a JSON number

A number without point and exponent is an integer if it fits 64 bits (signed below zero, unsigned
from zero on).  Every other number, and minus zero, is a double: its leading digits, as many as an
unsigned 64-bit integer holds, are scaled by a power of ten.
-/

namespace ApiMocks.JsonText.NumberText

/-- The digits that fit an unsigned 64-bit integer, as a number, and the digits that are left. -/
def leading (n : Nat) : List Char → Nat × List Char
  | [] => (n, [])
  | d :: rest =>
    let more := 10 * n + (d.toNat - '0'.toNat)
    if more < Nat.pow 2 64 then leading more rest else (n, d :: rest)

/-- The exponent in digits; beyond 31 bits it only matters that it is large. -/
def powerValue (digits : List Char) : Nat :=
  digits.foldl (fun n d => min (10 * n + (d.toNat - '0'.toNat)) (Nat.pow 2 31)) 0

/-- The exponent with its sign. -/
def signedPower (n : NumberText) : Int :=
  match n.power with
  | none => 0
  | some (negative, digits) => if negative then -(powerValue digits : Int) else powerValue digits

/-- The number as a double, if it is one. -/
def toDouble? (n : NumberText) : Option Double :=
  let (head, cut) := leading 0 n.whole
  -- Once a digit does not fit, it and all further digits of the same part are dropped.
  let (digits, dropped) := leading head n.fraction
  let exponent : Int := cut.length - (n.fraction.length - dropped.length : Nat) + n.signedPower
  (Double.scaled digits exponent).map fun d => if n.negative then d.neg else d

/-- The value of the number; `none` if it is beyond the doubles. -/
def value? (n : NumberText) : Option Json :=
  let (digits, cut) := leading 0 n.whole
  if n.fraction.isEmpty && n.power.isNone && cut.isEmpty then
    if !n.negative then some (.int digits)
    else if 0 < digits && digits ≤ Nat.pow 2 63 then some (.int (-digits))
    else n.toDouble?.map .float
  else n.toDouble?.map .float

end ApiMocks.JsonText.NumberText
