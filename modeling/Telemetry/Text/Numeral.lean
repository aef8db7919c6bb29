import Telemetry.Text.Hexadecimal

/-!
# Decimal numbers

Numbers that are written in base ten, with any number of leading zeros.
-/

namespace Telemetry

/-- The number that decimal digits write. -/
def decimalValue (digits : List Char) : Nat :=
  digits.foldl (fun value digit => value * 10 + (digit.toNat - 48)) 0

/-- Read a decimal number below a limit, which has at least one digit. -/
def readDigits? (limit : Nat) (text : List Char) : Option Nat :=
  if text.isEmpty || !text.all Char.isDigit || limit ≤ decimalValue text then none
  else some (decimalValue text)

/-- Read a decimal number below a limit, before which a plus sign may stand. -/
def readDecimal? (limit : Nat) (text : List Char) : Option Nat :=
  readDigits? limit (dropPlus text)

end Telemetry
