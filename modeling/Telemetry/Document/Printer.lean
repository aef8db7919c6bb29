import Telemetry.Decimal.Layout
import Telemetry.Document
import Telemetry.Text.Hexadecimal

/-!
# The text of a document

Documents are stored as compact text: fields in the order of their names, no blanks, and in strings
only the quote, the backslash and the control characters escaped.
-/

namespace Telemetry

/-- In documents a double keeps a fraction, is positional from a hundred-thousandth up to below ten
to the sixteenth, and is never infinite. -/
def Number.layout : Layout :=
  { positional := some (-5, 15), wholeEnding := ".0", infinite := "inf", notNumber := "NaN" }

/-- The text of a number; only a double has a point or an exponent. -/
def Number.write : Number → String
  | .integer value _ => toString value
  | .double value _ => Number.layout.write value

/-- One character inside a quoted string. -/
def escapeChar (character : Char) : List Char :=
  match character with
  | '"' => ['\\', '"']
  | '\\' => ['\\', '\\']
  | '\n' => ['\\', 'n']
  | '\r' => ['\\', 'r']
  | '\t' => ['\\', 't']
  | '\x08' => ['\\', 'b']
  | '\x0c' => ['\\', 'f']
  | _ =>
      if character.toNat < 32 then
        ['\\', 'u', '0', '0', hexDigit (character.toNat / 16), hexDigit (character.toNat % 16)]
      else
        [character]

/-- A string in quotes. -/
def quote (content : String) : String :=
  String.ofList ('"' :: content.toList.flatMap escapeChar ++ ['"'])

namespace Value

mutual

/-- The compact text of a value. -/
def write : Value → String
  | .null => "null"
  | .bool flag => if flag then "true" else "false"
  | .number value => value.write
  | .text content => quote content
  | .list items => "[" ++ writeItems items ++ "]"
  | .object fields => "\x7b" ++ writeFields fields ++ "\x7d"

/-- Items with commas between them. -/
def writeItems : List Value → String
  | [] => ""
  | [item] => item.write
  | item :: next :: rest => item.write ++ "," ++ writeItems (next :: rest)

/-- Fields with commas between them. -/
def writeFields : List (String × Value) → String
  | [] => ""
  | [(name, value)] => quote name ++ ":" ++ value.write
  | (name, value) :: next :: rest =>
      quote name ++ ":" ++ value.write ++ "," ++ writeFields (next :: rest)

end

end Value

/-- The compact text of a document. -/
def Document.write (document : Document) : String :=
  (Value.object document.fields).write

end Telemetry
