/-!
# Hexadecimal numbers

Digits are read in either case and written in lower case.
-/

namespace Telemetry

/-- A lower-case hexadecimal digit. -/
def hexDigit (value : Nat) : Char :=
  if value < 10 then Char.ofNat (48 + value) else Char.ofNat (87 + value)

/-- The value of a hexadecimal digit. -/
def hexValue? (character : Char) : Option Nat :=
  if '0' ≤ character ∧ character ≤ '9' then some (character.toNat - 48)
  else if 'a' ≤ character ∧ character ≤ 'f' then some (character.toNat - 87)
  else if 'A' ≤ character ∧ character ≤ 'F' then some (character.toNat - 55)
  else none

/-- Write a number with exactly the given number of digits, the lowest ones. -/
def hexWrite : Nat → Nat → List Char
  | 0, _ => []
  | digits + 1, value => hexWrite digits (value / 16) ++ [hexDigit (value % 16)]

/-- The digits of a number in base 16, without leading zeros. -/
def hexDigits (value : Nat) : List Char :=
  if value < 16 then [hexDigit value] else hexDigits (value / 16) ++ [hexDigit (value % 16)]

/-- Drop one plus sign. -/
def dropPlus : List Char → List Char
  | '+' :: rest => rest
  | text => text

/-- Read a number below a limit.  A plus sign may stand before its digits, of which there is at
least one. -/
def hexRead? (limit : Nat) (text : List Char) : Option Nat := do
  let digits ← (dropPlus text).mapM hexValue?
  let value := digits.foldl (fun value digit => value * 16 + digit) 0
  if digits.isEmpty ∨ limit ≤ value then none else some value

end Telemetry
