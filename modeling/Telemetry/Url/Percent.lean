import Telemetry.Text.Hexadecimal
import Telemetry.Text.Octets

/-!
# Percent signs

A part of a URL keeps some plain characters as they are.  The bytes of all others are written as a
percent sign and two digits.
-/

namespace Telemetry
namespace Percent

/-- A hexadecimal digit in upper case. -/
def digit (value : Nat) : Char :=
  (hexDigit value).toUpper

/-- A byte as a percent sign and two digits. -/
def encodeByte (byte : UInt8) : List Char :=
  ['%', digit (byte.toNat / 16), digit (byte.toNat % 16)]

/-- Write a text; of the plain characters those that are seen and not excluded are kept. -/
def encode (excluded : List Char) (text : List Char) : List Char :=
  text.flatMap fun character =>
    if 0x20 ≤ character.toNat ∧ character.toNat < 0x7F ∧ character ∉ excluded then
      [character]
    else
      (textBytes (String.singleton character)).flatMap encodeByte

/-- The bytes of a text; a percent sign and two digits are one byte. -/
def decode : List Char → Bytes
  | [] => []
  | '%' :: high :: low :: rest =>
      match hexValue? high, hexValue? low with
      | some high', some low' => UInt8.ofNat (high' * 16 + low') :: decode rest
      | _, _ => textBytes "%" ++ decode (high :: low :: rest)
  | character :: rest => textBytes (String.singleton character) ++ decode rest

/-- What a fragment does not keep. -/
def fragment : List Char := [' ', '"', '<', '>', '\x60']

/-- What a path does not keep. -/
def path : List Char := fragment ++ ['#', '?', '\x7b', '\x7d']

/-- What user information does not keep. -/
def user : List Char := path ++ ['/', ':', ';', '=', '@', '[', '\\', ']', '^', '|']

/-- What a query does not keep. -/
def query : List Char := [' ', '"', '#', '<', '>']

/-! ## Forms

A query can be a list of names and values.  In it a blank is written as a plus sign, and few other
characters are kept. -/

/-- Write a name or a value. -/
def encodeForm (text : String) : List Char :=
  (textBytes text).flatMap fun byte =>
    let character := Char.ofNat byte.toNat
    if character = ' ' then ['+']
    else if character.isAlphanum ∨ character ∈ ['*', '-', '.', '_'] then [character]
    else encodeByte byte

/-- Write names and values. -/
def encodePairs (pairs : List (String × String)) : List Char :=
  ['&'].intercalate (pairs.map fun (name, value) => encodeForm name ++ '=' :: encodeForm value)

end Percent
end Telemetry
