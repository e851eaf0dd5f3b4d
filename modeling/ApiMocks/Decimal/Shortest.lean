import ApiMocks.Decimal.Double

/-!
# The shortest decimal that reads back

Of all decimals that round to a given double, `Double.shortest` finds the one with the fewest
digits and, of several, the nearest to the double.  All arithmetic is exact: the double and the
ends of the interval of numbers that round to it are fractions with one common denominator.
-/

namespace ApiMocks

/-- The decimal `digits · 10 ^ exponent`. -/
structure Decimal where
  digits : Nat
  exponent : Int
  deriving DecidableEq, Repr

namespace Double

/-- A double and the ends of its rounding interval, over one denominator.  The ends belong to the
interval when `closed` is set. -/
structure Interval where
  low : Nat
  mid : Nat
  high : Nat
  denominator : Nat
  closed : Bool

/-- The rounding interval of a finite double.  Below a power of two the grid of doubles is twice as
fine. -/
def interval (d : Double) : Interval :=
  let (m, q) := d.parts
  let below := if m = Nat.pow 2 52 ∧ -1074 < q then 1 else 2
  let up := Nat.pow 2 (q - 2).toNat
  { low := (4 * m - below) * up
    mid := 4 * m * up
    high := (4 * m + 2) * up
    denominator := Nat.pow 2 (2 - q).toNat
    closed := m % 2 = 0 }

namespace Interval

/-- Whether `n / scale` parts of the denominator lie within the interval; `numerator` is already
multiplied by the denominator. -/
def holds (i : Interval) (scale numerator : Nat) : Bool :=
  if i.closed then i.low * scale ≤ numerator && numerator ≤ i.high * scale
  else i.low * scale < numerator && numerator < i.high * scale

/-- The neighbour of the double on the grid of multiples of `10 ^ k` that lies in the interval, the
nearer one if both do, and the even one of two equally near. -/
def onGrid? (i : Interval) (k : Int) : Option Nat :=
  -- Multiples of `10 ^ k` are `n * unit / scale`.
  let unit := i.denominator * Nat.pow 10 k.toNat
  let scale := Nat.pow 10 (-k).toNat
  let n := i.mid * scale / unit
  let below := n ≠ 0 && i.holds scale (n * unit)
  let above := i.holds scale ((n + 1) * unit)
  let toBelow := i.mid * scale - n * unit
  let toAbove := (n + 1) * unit - i.mid * scale
  if below && above then
    some (if toBelow < toAbove || (toBelow == toAbove && n % 2 = 0) then n else n + 1)
  else if below then some n
  else if above then some (n + 1)
  else none

/-- Tries the grids of `10 ^ k`, `10 ^ (k - 1)`, … in turn. -/
def search (i : Interval) : Nat → Int → Decimal
  | 0, k => ⟨i.mid / i.denominator, k⟩
  | grids + 1, k =>
    match i.onGrid? k with
    | some n => ⟨n, k⟩
    | none => i.search grids (k - 1)

end Interval

/-- The decimal with the fewest digits that reads back as the double, without its sign.  Every
double lies below `10 ^ 309`, so the search starts there; it ends before `10 ^ -1100`, where the
grid is finer than the doubles. -/
def shortest (d : Double) : Decimal :=
  if d.parts.1 = 0 then ⟨0, 0⟩
  else
    -- `2 ^ 10` is about `10 ^ 3`: a start at or above the first digit of the double.
    let (m, q) := d.parts
    let start : Int := ((m.log2 : Int) + q + 1) * 30103 / 100000 + 1
    d.interval.search 1500 start

end Double

end ApiMocks
