import Telemetry.Text.Hexadecimal
import Telemetry.Text.Numeral

/-!
# Addresses of four bytes

An address is written as one to four numbers with points between them.  The last number stands for
all bytes that are left.  A number may be written in base 16, 8 or 10.
-/

namespace Telemetry

/-- An address of four bytes. -/
structure IPv4 where
  value : Nat
  value_lt : value < 0x100000000
  deriving DecidableEq, Repr

namespace IPv4

/-- The number that digits of a base write. -/
def valueOf (base : Nat) (digits : List Char) : Nat :=
  digits.foldl (fun value digit => value * base + (hexValue? digit).getD 0) 0

/-- Whether a character is a digit of a base. -/
def isDigitOf (base : Nat) (character : Char) : Bool :=
  (hexValue? character).any (· < base)

/-- The base of a number's text, and its digits. -/
def digits (text : List Char) : Nat × List Char :=
  match text with
  | '0' :: 'x' :: rest | '0' :: 'X' :: rest => (16, rest)
  | '0' :: digit :: rest => (8, digit :: rest)
  | _ => (10, text)

/-- Read a number.  After the mark of a base there may be no digits. -/
def number? (text : List Char) : Option Nat :=
  let (base, digits) := digits text
  if text.isEmpty || !digits.all (isDigitOf base) then none else some (valueOf base digits)

/-- The parts of a text between points, without an empty one at the end. -/
def parts (text : List Char) : List (List Char) :=
  let parts := text.splitOn '.'
  if parts.getLast? = some [] then parts.dropLast else parts

/-- Whether the last part of a name is a number, so that the name has to be an address. -/
def endsInNumber (text : List Char) : Bool :=
  match (parts text).getLast? with
  | none => false
  | some last => (!last.isEmpty && last.all Char.isDigit) || (number? last).isSome

/-- Join the numbers of an address: each but the last is a byte, the last the rest. -/
def join? (bytes : List Nat) (rest : Nat) : Option IPv4 :=
  let room := Nat.pow 256 (4 - bytes.length)
  let leading := bytes.foldl (fun value byte => value * 256 + byte) 0
  let value := leading * room + rest
  if bytes.length < 4 ∧ bytes.all (· < 256) ∧ rest < room then
    if within : value < 0x100000000 then some ⟨value, within⟩ else none
  else
    none

/-- Read an address. -/
def read? (text : List Char) : Option IPv4 := do
  let numbers ← (parts text).mapM number?
  join? numbers.dropLast (← numbers.getLast?)

/-- The bytes of an address. -/
def bytes (address : IPv4) : List Nat :=
  [address.value / 0x1000000, address.value / 0x10000 % 256, address.value / 0x100 % 256,
    address.value % 256]

/-- Write an address. -/
def write (address : IPv4) : String :=
  ".".intercalate (address.bytes.map toString)

end IPv4
end Telemetry
