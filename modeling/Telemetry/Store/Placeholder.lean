import Telemetry.Decimal.Layout
import Telemetry.Histogram.Statement
import Telemetry.Store.Fault

/-!
# Placeholders

Before a statement is sent, each placeholder in its text is replaced by the literal of the value
bound to it.  A doubled question mark stands for itself, and a question mark before `fields` for the
columns of the row type.  Every placeholder needs a value and every value a placeholder.
-/

namespace Telemetry
namespace Store

/-- The character that quotes names. -/
def nameQuote : Char := '\x60'

/-- Put a backslash before each character that would end or break a quoted literal. -/
def escape (text : String) : List Char :=
  text.toList.flatMap fun character =>
    if character = '\\' ∨ character = '\'' ∨ character = nameQuote ∨ character = '\t' ∨
        character = '\n' then
      ['\\', character]
    else
      [character]

/-- A text literal. -/
def textLiteral (text : String) : String :=
  String.ofList ('\'' :: escape text ++ ['\''])

/-- A quoted name. -/
def quotedName (name : String) : String :=
  String.ofList (nameQuote :: escape name ++ [nameQuote])

/-- In statements a double is written without exponent, and without a fraction when it is whole. -/
def numberLayout : Layout :=
  { positional := none, wholeEnding := "", infinite := "inf", notNumber := "NaN" }

/-- The literal of a bound value. -/
def literal : Histogram.Parameter → String
  | .text value => textLiteral value
  | .texts values => "[" ++ ",".intercalate (values.map textLiteral) ++ "]"
  | .double value => numberLayout.write value
  | .integer value => toString value

/-- A piece of a statement's text. -/
inductive Piece where
  | character (value : Char)
  /-- The columns of the row type. -/
  | columns
  /-- A bound value. -/
  | value
  deriving DecidableEq, Repr

/-- The pieces of a text. -/
def pieces (text : List Char) : List Piece :=
  match text with
  | [] => []
  | '?' :: '?' :: rest => .character '?' :: pieces rest
  | '?' :: rest =>
      if ['f', 'i', 'e', 'l', 'd', 's'].isPrefixOf rest then
        .columns :: pieces (rest.drop 6)
      else
        .value :: pieces rest
  | character :: rest => .character character :: pieces rest
termination_by text.length
decreasing_by all_goals (simp; try omega)

/-- Replace placeholders by literals. -/
def substitute (columns : String) : List Piece → List String → Except Fault (List Char)
  | [], [] => .ok []
  | [], _ :: _ => .error .unusedValue
  | .character character :: rest, literals =>
      (substitute columns rest literals).map (character :: ·)
  | .columns :: rest, literals => (substitute columns rest literals).map (columns.toList ++ ·)
  | .value :: rest, next :: literals =>
      (substitute columns rest literals).map (next.toList ++ ·)
  | .value :: _, [] => .error .unboundPlaceholder

/-- The text that is sent for a statement's text and the values bound to it. -/
def bind (text columns : String) (values : List Histogram.Parameter) : Except Fault String :=
  (substitute columns (pieces text.toList) (values.map literal)).map String.ofList

end Store
end Telemetry
