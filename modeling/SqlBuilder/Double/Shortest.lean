import SqlBuilder.Double.Basic

/-!
# Shortest decimals

The decimal text of a double uses the fewest digits that read back as the same double.  The reals
that read back as `significand · 2 ^ exponent` form an interval around it, half a unit wide on each
side, whose ends belong to it when the significand is even.  Of the decimal grids `10 ^ g`, taken
from coarse to fine, the first one with a point inside the interval gives the digits.

* `Decimal` : digits and a power of ten;
* `Interval.onGrid?` : the point of one grid that lies in the interval nearest to the value;
* `Double.shortest` : the decimal of the first grid that has one.
-/

namespace SqlBuilder

/-- The decimal `0.d₁d₂… · 10 ^ point`, with no trailing zero among its digits. -/
structure Decimal where
  digits : List Char
  point : Int
  deriving DecidableEq, Repr

namespace Decimal

/-- A list of digits without the zeros at its end. -/
def trimZeros (digits : List Char) : List Char :=
  (digits.reverse.dropWhile (· == '0')).reverse

/-- The decimal `n · 10 ^ g`. -/
def ofScaled (n : Nat) (g : Int) : Decimal :=
  let digits := Nat.toDigits 10 n
  ⟨trimZeros digits, digits.length + g⟩

end Decimal

/-- Which of two equally near decimals is taken. -/
inductive Tie where
  | up
  | even
  deriving DecidableEq, Repr

/-- A value `mid · 2 ^ unit` and the interval `[low, high] · 2 ^ unit` of the reals that round to it. -/
structure Interval where
  low : Nat
  mid : Nat
  high : Nat
  unit : Int
  /-- Whether the ends belong to the interval. -/
  closed : Bool

namespace Interval

/-- The interval of `significand · 2 ^ exponent`, in quarters of a unit.  Below a power of two the
next smaller double is only half as far away, unless the exponent is already the smallest. -/
def around (significand : Nat) (exponent : Int) : Interval where
  low := 4 * significand - if significand = Nat.pow 2 52 ∧ -1074 < exponent then 1 else 2
  mid := 4 * significand
  high := 4 * significand + 2
  unit := exponent - 2
  closed := significand % 2 == 0

/-- The point of the grid `10 ^ g` in the interval that is nearest to the value.  Only the two grid
points around the value can be it. -/
def onGrid? (tie : Tie) (i : Interval) (g : Int) : Option Nat :=
  let factor := Nat.pow 2 i.unit.toNat * Nat.pow 10 (-g).toNat
  let step := Nat.pow 2 (-i.unit).toNat * Nat.pow 10 g.toNat
  let below := i.mid * factor / step
  let above := below + 1
  let inLow := if i.closed then decide (i.low * factor ≤ below * step)
    else decide (i.low * factor < below * step)
  let inHigh := if i.closed then decide (above * step ≤ i.high * factor)
    else decide (above * step < i.high * factor)
  let twice := 2 * (i.mid * factor)
  let half := (2 * below + 1) * step
  let takeAbove := decide (half < twice) ||
    (half == twice && match tie with | .up => true | .even => below % 2 == 1)
  match inLow, inHigh with
  | true, true => some (if takeAbove then above else below)
  | true, false => some below
  | false, true => some above
  | false, false => none

end Interval

/-- The shortest decimal that reads back as `significand · 2 ^ exponent`, and of the shortest the
nearest.  Twenty-one grids from just above the value down always include one with seventeen digits,
and that many are enough for every double. -/
def Double.shortest (tie : Tie) (significand : Nat) (exponent : Int) : Decimal :=
  let interval := Interval.around significand exponent
  let coarsest := ((Nat.log2 significand : Int) + 1 + exponent) * 30103 / 100000 + 1
  let found := (List.range 21).findSome? fun (k : Nat) =>
    (interval.onGrid? tie (coarsest - k)).map fun n => Decimal.ofScaled n (coarsest - k)
  found.getD ⟨[], 0⟩

end SqlBuilder
