import Telemetry.Document
import Telemetry.Text.Hexadecimal

/-!
# Reading document text

`Document.read?` reads the text of one object.  An integer literal that sixty-four bits hold stays
an integer; any other literal becomes a double: its leading digits, as many as an unsigned
sixty-four bit number holds, times a double-precision power of ten.
-/

namespace Telemetry
namespace Reader

/-- The text that is still to be read. -/
abbrev Input := List Char

/-- Drop blanks, tabs and line ends. -/
def skipBlanks : Input → Input
  | character :: rest =>
      if character = ' ' ∨ character = '\t' ∨ character = '\n' ∨ character = '\r' then
        skipBlanks rest
      else
        character :: rest
  | [] => []

/-- Read a fixed word. -/
def word? (expected : List Char) (input : Input) : Option Input :=
  if expected.isPrefixOf input then some (input.drop expected.length) else none

/-- Read four hexadecimal digits. -/
def fourHex? : Input → Option (Nat × Input)
  | a :: b :: c :: d :: rest => do
      let a ← hexValue? a
      let b ← hexValue? b
      let c ← hexValue? c
      let d ← hexValue? d
      some (((a * 16 + b) * 16 + c) * 16 + d, rest)
  | _ => none

/-- Read what follows the `u` of an escape: one code unit, or a surrogate pair of two. -/
def codePoint? (input : Input) : Option (Char × Input) := do
  let (unit, rest) ← fourHex? input
  if 0xD800 ≤ unit ∧ unit < 0xDC00 then
    let rest ← word? ['\\', 'u'] rest
    let (low, rest) ← fourHex? rest
    if 0xDC00 ≤ low ∧ low < 0xE000 then
      some (Char.ofNat (0x10000 + (unit - 0xD800) * 0x400 + (low - 0xDC00)), rest)
    else
      none
  else if 0xDC00 ≤ unit ∧ unit < 0xE000 then
    none
  else
    some (Char.ofNat unit, rest)

/-- Read what follows a backslash. -/
def escape? : Input → Option (Char × Input)
  | '"' :: rest => some ('"', rest)
  | '\\' :: rest => some ('\\', rest)
  | '/' :: rest => some ('/', rest)
  | 'b' :: rest => some ('\x08', rest)
  | 'f' :: rest => some ('\x0c', rest)
  | 'n' :: rest => some ('\n', rest)
  | 'r' :: rest => some ('\r', rest)
  | 't' :: rest => some ('\t', rest)
  | 'u' :: rest => codePoint? rest
  | _ => none

/-- Read the rest of a string up to its closing quote. -/
def string? : Nat → List Char → Input → Option (String × Input)
  | 0, _, _ => none
  | _ + 1, _, [] => none
  | fuel + 1, reversed, character :: rest =>
      if character = '"' then
        some (String.ofList reversed.reverse, rest)
      else if character = '\\' then do
        let (escaped, rest) ← escape? rest
        string? fuel (escaped :: reversed) rest
      else if character.toNat < 32 then
        none
      else
        string? fuel (character :: reversed) rest

/-- The first number that an unsigned sixty-four bit number does not hold. -/
def wordLimit : Nat := 0x10000000000000000

/-- The digits read so far: their number, the power of ten they are in units of, and whether the
last digit was still taken in. -/
structure Mantissa where
  significand : Nat
  exponent : Int
  growing : Bool

/-- Take in a digit before the point, or count it when the significand is full. -/
def Mantissa.whole (mantissa : Mantissa) (digit : Char) : Mantissa :=
  let grown := mantissa.significand * 10 + (digit.toNat - 48)
  if mantissa.growing && grown < wordLimit then
    { mantissa with significand := grown }
  else
    { mantissa with exponent := mantissa.exponent + 1, growing := false }

/-- Take in a digit after the point, or drop it when the significand is full. -/
def Mantissa.fraction (mantissa : Mantissa) (digit : Char) : Mantissa :=
  let grown := mantissa.significand * 10 + (digit.toNat - 48)
  if mantissa.growing && grown < wordLimit then
    { mantissa with significand := grown, exponent := mantissa.exponent - 1 }
  else
    { mantissa with growing := false }

/-- Divide by the greatest power of ten among the doubles until the exponent is in reach, then by
or times the remaining one.  A result that is not finite is refused. -/
def scale? : Nat → Double → Int → Option Double
  | 0, value, _ => some value
  | fuel + 1, value, exponent =>
      if exponent.natAbs ≤ 308 then
        let power := Double.powerOfTen exponent.natAbs
        let scaled := if 0 ≤ exponent then value.mulFinite power else value.divFinite power
        if scaled.isFinite then some scaled else none
      else if value.magnitude = 0 then
        some value
      else if 0 ≤ exponent then
        none
      else
        scale? fuel (value.divFinite (Double.powerOfTen 308)) (exponent + 308)

/-- The double of a literal. -/
def Mantissa.double? (mantissa : Mantissa) (negative : Bool) : Option Number := do
  let value ← scale? 8 (Double.ofInt mantissa.significand) mantissa.exponent
  Number.ofDouble? (if negative then value.neg else value)

/-- The integer of a literal without point and exponent; a zero with a sign and a literal that is
too long are doubles. -/
def Mantissa.integer? (mantissa : Mantissa) (negative : Bool) : Option Number :=
  let value : Int := if negative then -(mantissa.significand : Int) else mantissa.significand
  let signedZero := negative && mantissa.significand == 0
  match mantissa.growing && !signedZero, Number.ofInt? value with
  | true, some number => some number
  | _, _ => mantissa.double? negative

/-- Split off the leading digits. -/
def digits (input : Input) : List Char × Input :=
  (input.takeWhile Char.isDigit, input.dropWhile Char.isDigit)

/-- The digits before the point: a single zero, or digits that do not start with one. -/
def wholeDigits? (input : Input) : Option (List Char × Input) :=
  match digits input with
  | ([], _) => none
  | ('0' :: _ :: _, _) => none
  | split => some split

/-- The digits after a point, if there is a point. -/
def fractionDigits? : Input → Option (Option (List Char) × Input)
  | '.' :: rest =>
      match digits rest with
      | ([], _) => none
      | (found, rest) => some (some found, rest)
  | input => some (none, input)

/-- The number that decimal digits spell. -/
def natOfDigits (found : List Char) : Nat :=
  found.foldl (fun value digit => value * 10 + (digit.toNat - 48)) 0

/-- The exponent, if there is one. -/
def exponent? : Input → Option (Option Int × Input)
  | character :: rest =>
      if character = 'e' ∨ character = 'E' then
        let (negative, rest) := match rest with
          | '-' :: rest => (true, rest)
          | '+' :: rest => (false, rest)
          | rest => (false, rest)
        match digits rest with
        | ([], _) => none
        | (found, rest) =>
            let value : Int := natOfDigits found
            some (some (if negative then -value else value), rest)
      else
        some (none, character :: rest)
  | [] => some (none, [])

/-- Read a number. -/
def number? (input : Input) : Option (Number × Input) := do
  let (negative, input) := match input with
    | '-' :: rest => (true, rest)
    | input => (false, input)
  let (whole, input) ← wholeDigits? input
  let (fraction, input) ← fractionDigits? input
  let (exponent, input) ← exponent? input
  let mantissa := whole.foldl Mantissa.whole ⟨0, 0, true⟩
  match fraction, exponent with
  | none, none =>
      let number ← mantissa.integer? negative
      some (number, input)
  | _, _ =>
      let mantissa := { mantissa with growing := true }
      let mantissa := (fraction.getD []).foldl Mantissa.fraction mantissa
      let mantissa := { mantissa with exponent := mantissa.exponent + exponent.getD 0 }
      let number ← mantissa.double? negative
      some (number, input)

mutual

/-- Read a value. -/
def value? : Nat → Input → Option (Value × Input)
  | 0, _ => none
  | fuel + 1, input =>
      match skipBlanks input with
      | '"' :: rest =>
          (string? rest.length [] rest).map fun (content, rest) => (.text content, rest)
      | '[' :: rest =>
          match skipBlanks rest with
          | ']' :: rest => some (.list [], rest)
          | rest => (items? fuel rest).map fun (items, rest) => (.list items, rest)
      | '\x7b' :: rest =>
          match skipBlanks rest with
          | '\x7d' :: rest => some (.object [], rest)
          | rest => (fields? fuel rest).map fun (fields, rest) => (.object fields, rest)
      | 'n' :: rest => (word? ['u', 'l', 'l'] rest).map (Prod.mk .null)
      | 't' :: rest => (word? ['r', 'u', 'e'] rest).map (Prod.mk (.bool true))
      | 'f' :: rest => (word? ['a', 'l', 's', 'e'] rest).map (Prod.mk (.bool false))
      | rest => (number? rest).map fun (number, rest) => (.number number, rest)

/-- Read the items of a list and its closing bracket. -/
def items? : Nat → Input → Option (List Value × Input)
  | 0, _ => none
  | fuel + 1, input => do
      let (item, rest) ← value? fuel input
      match skipBlanks rest with
      | ',' :: rest => (items? fuel rest).map fun (items, rest) => (item :: items, rest)
      | ']' :: rest => some ([item], rest)
      | _ => none

/-- Read the fields of an object and its closing brace. -/
def fields? : Nat → Input → Option (List (String × Value) × Input)
  | 0, _ => none
  | fuel + 1, input =>
      match skipBlanks input with
      | '"' :: rest => do
          let (name, rest) ← string? rest.length [] rest
          match skipBlanks rest with
          | ':' :: rest =>
              let (value, rest) ← value? fuel rest
              match skipBlanks rest with
              | ',' :: rest =>
                  (fields? fuel rest).map fun (fields, rest) => ((name, value) :: fields, rest)
              | '\x7d' :: rest => some ([(name, value)], rest)
              | _ => none
          | _ => none
      | _ => none

end

end Reader

/-- Read the text of one object; of several fields with one name the last stays. -/
def Document.read? (text : String) : Option Document :=
  let input := text.toList
  match Reader.value? (2 * input.length + 1) input with
  | some (.object fields, rest) =>
      if Reader.skipBlanks rest = [] then some (Document.ofFields fields) else none
  | _ => none

end Telemetry
