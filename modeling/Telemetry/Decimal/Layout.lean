import Telemetry.Decimal.Shortest

/-!
# Decimal layouts

`Layout` collects the decisions a text format makes about decimals: which magnitudes are written
positionally, whether a whole number keeps a fraction, and how the special values are spelled.  The
digits themselves always come from `Decimal.shortest`.
-/

namespace Telemetry

/-- The decisions of a text format about decimal numbers. -/
structure Layout where
  /-- The powers of ten, first to last, whose leading digit is written positionally; without a
  range, all of them. -/
  positional : Option (Int × Int)
  /-- What follows a whole number that is written positionally. -/
  wholeEnding : String
  /-- The spelling of an infinity, after its sign. -/
  infinite : String
  /-- The spelling of a value that is not a number. -/
  notNumber : String
  deriving Repr

namespace Layout

/-- The decimal digits of a natural number. -/
def digitsOf (value : Nat) : List Char :=
  Nat.toDigits 10 value

/-- Whether a leading digit at `10 ^ power` is written positionally. -/
def isPositional (layout : Layout) (power : Int) : Bool :=
  match layout.positional with
  | none => true
  | some (first, last) => first ≤ power && power ≤ last

/-- Plain digits with the point `exponent` places from their end. -/
def writePositional (layout : Layout) (digits : List Char) (exponent : Int) : String :=
  if 0 ≤ exponent then
    String.ofList (digits ++ List.replicate exponent.toNat '0') ++ layout.wholeEnding
  else
    let places := (-exponent).toNat
    let padded := List.replicate (places + 1 - digits.length) '0' ++ digits
    let whole := padded.take (padded.length - places)
    String.ofList (whole ++ '.' :: padded.drop (padded.length - places))

/-- One digit, the others after a point, and the signed power of ten. -/
def writeScientific (digits : List Char) (power : Int) : String :=
  let mantissa := match digits with
    | [] => []
    | [single] => [single]
    | leading :: others => leading :: '.' :: others
  let sign := if power < 0 then '-' else '+'
  String.ofList (mantissa ++ 'e' :: sign :: digitsOf power.natAbs)

/-- A decimal in this layout. -/
def writeDecimal (layout : Layout) (decimal : Decimal) : String :=
  let digits := digitsOf decimal.digits
  let power := decimal.exponent + digits.length - 1
  if layout.isPositional power then
    layout.writePositional digits decimal.exponent
  else
    writeScientific digits power

/-- The text of a double: its shortest decimal in this layout. -/
def write (layout : Layout) (number : Double) : String :=
  if number.isNaN then
    layout.notNumber
  else
    let sign := if number.negative then "-" else ""
    if !number.isFinite then
      sign ++ layout.infinite
    else if number.magnitude = 0 then
      sign ++ layout.writePositional ['0'] 0
    else
      sign ++ layout.writeDecimal (Decimal.shortest number)

end Layout
end Telemetry
