/-!
# Double-precision numbers

A double is kept by its 64 bits, so that equality of doubles is equality of values as written (zero
and minus zero differ).  Two ways lead from decimal notation to a double:

* `Double.nearest` — the double nearest to `digits · 10 ^ exponent`;
* `Double.scaled` — the digits as a double, then one multiplication or division by a power of ten
  (repeated while the power is beyond the doubles), each step rounded on its own.
-/

namespace ApiMocks

/-- A double-precision number, by its bits. -/
structure Double where
  bits : UInt64
  deriving DecidableEq, Repr

namespace Double

/-- The double of a machine number. -/
def ofFloat (x : Float) : Double := ⟨x.toBits⟩

/-- The machine number of a double. -/
def toFloat (d : Double) : Float := Float.ofBits d.bits

/-- Whether the sign bit is set. -/
def isNegative (d : Double) : Bool := d.bits.toNat / Nat.pow 2 63 = 1

/-- Neither infinite nor a NaN. -/
def isFinite (d : Double) : Bool := d.bits.toNat / Nat.pow 2 52 % Nat.pow 2 11 ≠ 2047

/-- The same number with the other sign. -/
def neg (d : Double) : Double := ofFloat (-d.toFloat)

/-- A finite double is `mantissa · 2 ^ exponent`, up to its sign. -/
def parts (d : Double) : Nat × Int :=
  let fraction : Nat := d.bits.toNat % Nat.pow 2 52
  let power : Nat := d.bits.toNat / Nat.pow 2 52 % Nat.pow 2 11
  if power = 0 then (fraction, -1074) else (Nat.pow 2 52 + fraction, (power : Int) - 1075)

/-- The power of ten as a double. -/
def powerOfTen (n : Nat) : Float := Float.ofScientific 1 false n

/-- The double nearest to `digits · 10 ^ exponent`. -/
def nearest (digits : Nat) (exponent : Int) : Double :=
  ofFloat (Float.ofScientific digits (exponent < 0) exponent.natAbs)

/-- The greatest power of ten that is a double. -/
def greatestPower : Nat := 308

/-- Divides by the greatest power of ten `steps` times, then by `10 ^ rest`. -/
def divided (x : Float) : Nat → Nat → Float
  | 0, rest => x / powerOfTen rest
  | steps + 1, rest => if x == 0.0 then x else divided (x / powerOfTen greatestPower) steps rest

/-- The digits as a double, scaled by powers of ten in steps; `none` if that is infinite. -/
def scaled (digits : Nat) (exponent : Int) : Option Double :=
  let x := Float.ofNat digits
  if exponent < 0 then
    -- The power that remains after the steps is at most `greatestPower`.
    let steps := (exponent.natAbs - 1) / greatestPower
    some (ofFloat (divided x steps (exponent.natAbs - steps * greatestPower)))
  else if exponent ≤ greatestPower then
    let y := ofFloat (x * powerOfTen exponent.toNat)
    if y.isFinite then some y else none
  else if x == 0.0 then some (ofFloat x)
  else none

end Double

end ApiMocks
