import Telemetry.Double

/-!
# Shortest decimals

The decimal text of a double needs the fewest digits that still read back as that double.  The
reals that round to the double form an interval; `Decimal.shortest` takes the coarsest decimal grid
that has a point in it, and of the points there the one nearest to the double.
-/

namespace Telemetry

/-- The nonnegative decimal number `digits * 10 ^ exponent`. -/
structure Decimal where
  digits : Nat
  exponent : Int
  deriving DecidableEq, Repr

namespace Decimal

/-- The reals that round to a positive double, as quarters of a unit in its last place, each over
`denominator`.  The ends belong to it when the significand is even. -/
structure Interval where
  low : Nat
  value : Nat
  high : Nat
  denominator : Nat
  closed : Bool

/-- The interval of a positive finite double.  Below a power of two the neighbour is only half as
far away. -/
def Interval.around (number : Double) : Interval :=
  let significand := number.significand
  let narrow := significand == Double.exponentWeight && Double.exponentWeight < number.magnitude
  let scale := 1 <<< (number.exponent - 2).toNat
  { low := (4 * significand - if narrow then 1 else 2) * scale
    value := 4 * significand * scale
    high := (4 * significand + 2) * scale
    denominator := 1 <<< (2 - number.exponent).toNat
    closed := significand % 2 == 0 }

/-- The power of ten with an exponent, or one if the exponent is negative. -/
def tenTo (exponent : Int) : Nat :=
  Nat.pow 10 exponent.toNat

/-- Whether `digits * 10 ^ exponent` lies in the interval. -/
def Interval.contains (interval : Interval) (digits : Nat) (exponent : Int) : Bool :=
  let point := digits * tenTo exponent * interval.denominator
  let scale := tenTo (-exponent)
  let low := interval.low * scale
  let high := interval.high * scale
  if interval.closed then low ≤ point && point ≤ high else low < point && point < high

/-- The number of grid steps of `10 ^ exponent` below the value, rounded down. -/
def Interval.floor (interval : Interval) (exponent : Int) : Nat :=
  interval.value * tenTo (-exponent) / (interval.denominator * tenTo exponent)

/-- Whether the grid point above the value is nearer than the one below; a tie goes to the even
one. -/
def Interval.prefersAbove (interval : Interval) (below : Nat) (exponent : Int) : Bool :=
  let twiceValue := 2 * interval.value * tenTo (-exponent)
  let middle := (2 * below + 1) * (interval.denominator * tenTo exponent)
  middle < twiceValue || (middle == twiceValue && below % 2 == 1)

/-- The grid point of `10 ^ exponent` that lies in the interval, if one does. -/
def Interval.point? (interval : Interval) (exponent : Int) : Option Nat :=
  let below := interval.floor exponent
  match interval.contains below exponent, interval.contains (below + 1) exponent with
  | true, true => some (if interval.prefersAbove below exponent then below + 1 else below)
  | true, false => some below
  | false, true => some (below + 1)
  | false, false => none

/-- Search grids from coarse to fine, starting at `10 ^ exponent`. -/
def Interval.search (interval : Interval) : Nat → Int → Decimal
  | 0, exponent => ⟨interval.floor exponent, exponent⟩
  | fuel + 1, exponent =>
      match interval.point? exponent with
      | some digits => ⟨digits, exponent⟩
      | none => interval.search fuel (exponent - 1)

/-- Drop the trailing zeros of the digits. -/
def strip : Nat → Decimal → Decimal
  | 0, decimal => decimal
  | fuel + 1, decimal =>
      if decimal.digits ≠ 0 ∧ decimal.digits % 10 = 0 then
        strip fuel ⟨decimal.digits / 10, decimal.exponent + 1⟩
      else
        decimal

/-- An exponent of ten that is above every positive finite double of this binary exponent, and at
most eighteen above its leading digit. -/
def startExponent (number : Double) : Int :=
  let bits : Int := Nat.log2 number.significand + number.exponent
  (bits * 30103).fdiv 100000 + 1

/-- The fewest digits that read back as the given positive finite double. -/
def shortest (number : Double) : Decimal :=
  strip 400 ((Interval.around number).search 20 (startExponent number))

end Decimal
end Telemetry
