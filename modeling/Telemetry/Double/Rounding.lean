import Telemetry.Double

/-!
# Rounding to the nearest double

Every value that enters double precision passes `Double.nearest`, which takes an exact quotient
and returns the double closest to it, ties going to the even significand.  Integers, sums,
products and quotients are exact values followed by that one rounding.
-/

namespace Telemetry

/-- The integer nearest to a quotient; a tie goes to the even one. -/
def roundHalfEven (numerator denominator : Nat) : Nat :=
  let floor := numerator / denominator
  let twice := 2 * (numerator % denominator)
  if denominator < twice || (twice == denominator && floor % 2 == 1) then floor + 1 else floor

namespace Double

/-- The magnitude bits of the double nearest to `numerator / denominator * 2 ^ -exponent`, when
that quotient has at most fifty-three bits and `exponent` is at least the smallest one.  A quotient
that rounds up to the next power of two carries into the exponent bits by itself. -/
def assemble (rounded : Nat) (exponent : Int) : Nat :=
  if rounded < exponentWeight then
    rounded
  else
    (exponent + 1074).toNat * exponentWeight + rounded

/-- The exponent at which a positive quotient is cut: fifty-three bits remain, fewer below the
smallest normal number. -/
def cutExponent (numerator denominator : Nat) : Int :=
  let guess : Int := (Nat.log2 numerator : Int) - Nat.log2 denominator - 52
  let fits : Bool :=
    if 0 ≤ guess then
      denominator <<< (guess.toNat + 52) ≤ numerator
    else
      denominator <<< 52 ≤ numerator <<< (-guess).toNat
  max (if fits then guess else guess - 1) (-1074)

/-- The double nearest to `± numerator / denominator`; beyond the largest finite double it is an
infinity. -/
def nearest (negative : Bool) (numerator denominator : Nat) : Double :=
  if numerator = 0 then
    ofParts negative 0
  else
    let cut := cutExponent numerator denominator
    let rounded :=
      if 0 ≤ cut then
        roundHalfEven numerator (denominator <<< cut.toNat)
      else
        roundHalfEven (numerator <<< (-cut).toNat) denominator
    ofParts negative (min (assemble rounded cut) infiniteMagnitude)

/-- The double nearest to an integer. -/
def ofInt (value : Int) : Double :=
  nearest (value < 0) value.natAbs 1

/-- The double nearest to `± mantissa * 2 ^ exponent`. -/
def ofScaled (negative : Bool) (mantissa : Nat) (exponent : Int) : Double :=
  if 0 ≤ exponent then
    nearest negative (mantissa <<< exponent.toNat) 1
  else
    nearest negative mantissa (1 <<< (-exponent).toNat)

/-- The double nearest to `10 ^ power`. -/
def powerOfTen (power : Nat) : Double :=
  nearest false (Nat.pow 10 power) 1

/-- The signed significand of a finite number, in units of `2 ^ exponent` for an exponent that is
not above its own. -/
def scaledTo (number : Double) (exponent : Int) : Int :=
  let scaled := number.significand <<< (number.exponent - exponent).toNat
  if number.negative then -(scaled : Int) else scaled

/-- The sum, rounded once. -/
def add (left right : Double) : Double :=
  if left.isNaN || right.isNaN then
    nan
  else if !left.isFinite then
    if !right.isFinite && left.negative != right.negative then nan else left
  else if !right.isFinite then
    right
  else
    let exponent := min left.exponent right.exponent
    let total := left.scaledTo exponent + right.scaledTo exponent
    if total = 0 then
      ofParts (left.negative && right.negative) 0
    else
      ofScaled (total < 0) total.natAbs exponent

/-- The product of two finite numbers, rounded once. -/
def mulFinite (left right : Double) : Double :=
  ofScaled (left.negative != right.negative) (left.significand * right.significand)
    (left.exponent + right.exponent)

/-- The quotient of two finite numbers with a divisor other than zero, rounded once. -/
def divFinite (left right : Double) : Double :=
  let shift := left.exponent - right.exponent
  let negative := left.negative != right.negative
  if 0 ≤ shift then
    nearest negative (left.significand <<< shift.toNat) right.significand
  else
    nearest negative left.significand (right.significand <<< (-shift).toNat)

end Double
end Telemetry
