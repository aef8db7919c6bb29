import Telemetry.Log
import Telemetry.Log.Pattern
import Telemetry.Text.Numeral

/-!
# Directives

A directive says how important a line has to be.  It holds for the lines whose target begins with
its own, and may ask besides for a span around the line and for something that the line tells.
Its form is `target[span{field=pattern}]=level`, of which parts may be missing.

Places in a directive are counted without the blank characters at its ends, but its parts are cut
from the whole text.
-/

namespace Telemetry
namespace Log

/-- Something that a line or span tells. -/
structure FieldRule where
  name : String
  /-- Whether what it says has to fit a pattern. -/
  valued : Bool
  deriving DecidableEq, Repr

/-- Lines are let through up to a rank. -/
structure Directive where
  /-- What a line's target begins with. -/
  target : Option String
  /-- The name of a span around the line. -/
  span : Option String
  field : Option FieldRule
  /-- The highest rank let through; none is below the first. -/
  limit : Nat
  deriving DecidableEq, Repr

/-- Why a text is no directive. -/
inductive DirectiveProblem where
  | malformed
  | level
  /-- The pattern for a field cannot be used. -/
  | field (problem : PatternProblem)
  deriving DecidableEq, Repr

/-- The wording of a directive's problem. -/
def DirectiveProblem.message : DirectiveProblem → String
  | .malformed => "invalid filter directive"
  | .level =>
      "error parsing level filter: expected one of \"off\", \"error\", \"warn\", \"info\", " ++
        "\"debug\", \"trace\", or a number 0-5"
  | .field problem => "invalid field filter: " ++ problem.message

/-- The rank that a word stands for. -/
def rankOfWord? (word : String) : Option Nat :=
  match word.toLower with
  | "off" => some 0
  | "" | "error" => some Level.error.rank
  | "warn" => some Level.warn.rank
  | "info" => some Level.info.rank
  | "debug" => some Level.debug.rank
  | "trace" => some Level.trace.rank
  | _ => none

/-- The rank that a number or word stands for. -/
def rankOf? (text : List Char) : Option Nat :=
  (readDecimal? (Level.trace.rank + 1) text).or (rankOfWord? (String.ofList text))

/-! ## Cutting -/

/-- Split a text after some octets, which must not end within a character. -/
def splitAtOctet? : Nat → List Char → Option (List Char × List Char)
  | 0, text => some ([], text)
  | _ + 1, [] => none
  | count + 1, character :: rest =>
      if character.utf8Size ≤ count + 1 then
        (splitAtOctet? (count + 1 - character.utf8Size) rest).map fun (before, after) =>
          (character :: before, after)
      else
        none

/-- The text from one place to another. -/
def cut (text : List Char) (first last : Nat) : Except DirectiveProblem (List Char) :=
  match splitAtOctet? first text with
  | none => .error .malformed
  | some (_, rest) =>
      match splitAtOctet? (last - first) rest with
      | none => .error .malformed
      | some (part, _) => .ok part

/-- The text from a place to the end. -/
def cutFrom (text : List Char) (first : Nat) : Except DirectiveProblem (List Char) :=
  match splitAtOctet? first text with
  | none => .error .malformed
  | some (_, rest) => .ok rest

/-- Find the first of some characters: its place, which one it is, and what follows it. -/
def seek (stops : List Char) (place : Nat) : List Char → Option (Nat × Char × List Char)
  | [] => none
  | character :: rest =>
      if stops.contains character then some (place, character, rest)
      else seek stops (place + character.utf8Size) rest

/-! ## Numbers -/

/-- Whether a text is an exponent, or empty. -/
def isExponent (text : List Char) : Bool :=
  match text with
  | [] => true
  | mark :: digits =>
      let digits := match digits with
        | '+' :: rest | '-' :: rest => rest
        | _ => digits
      (mark == 'e' || mark == 'E') && !digits.isEmpty && digits.all Char.isDigit

/-- Whether a text writes a number without a sign: digits, among which a point may stand, and an
exponent if need be. -/
def isUnsignedNumber (text : List Char) : Bool :=
  let whole := text.takeWhile Char.isDigit
  match text.dropWhile Char.isDigit with
  | '.' :: rest =>
      !(whole ++ rest.takeWhile Char.isDigit).isEmpty && isExponent (rest.dropWhile Char.isDigit)
  | rest => !whole.isEmpty && isExponent rest

/-- The words for what is no finite number. -/
def numberWords : List String :=
  ["inf", "infinity", "nan"]

/-- Whether a text writes a number. -/
def isNumber (text : List Char) : Bool :=
  let text := match text with
    | '+' :: rest | '-' :: rest => rest
    | _ => text
  isUnsignedNumber text || numberWords.contains (String.ofList text).toLower

/-! ## Reading -/

/-- Read a field, with what it has to say after the first equals sign and before the second. -/
def readField (text : List Char) : Except DirectiveProblem FieldRule :=
  match text.splitOn '=' with
  | name :: value :: _ =>
      if isNumber value then
        .ok ⟨String.ofList name, true⟩
      else
        match Pattern.problemOf? value with
        | some problem => .error (.field problem)
        | none => .ok ⟨String.ofList name, true⟩
  | _ => .ok ⟨String.ofList text, false⟩

/-- Whether a character may begin a target. -/
def beginsTarget (character : Char) : Bool :=
  isAlphanumeric character || ['-', ':', '_'].contains character

namespace Directive

/-- Read a level, which reaches to the end. -/
def readLevel (text : List Char) (first : Nat) : Except DirectiveProblem Nat := do
  let word ← cutFrom text first
  if word.isEmpty then
    .ok Level.trace.rank
  else
    match rankOf? word with
    | some limit => .ok limit
    | none => .error .level

/-- Read the level after brackets. -/
def readAfterBrackets (text : List Char) (place : Nat) (rest : List Char) :
    Except DirectiveProblem Nat :=
  match rest with
  | [] => .ok Level.trace.rank
  | '=' :: _ => readLevel text (place + 1)
  | _ => .error .malformed

/-- Read a field up to the brace that closes it, and the level. -/
def readFieldAndLevel (text : List Char) (first : Nat) (rest : List Char) :
    Except DirectiveProblem (FieldRule × Nat) :=
  match seek ['\x7d'] first rest with
  | none => .error .malformed
  | some (last, _, rest) =>
      if last = first then
        .error .malformed
      else do
        let field ← readField (← cut text first last)
        match rest with
        | ']' :: rest => return (field, ← readAfterBrackets text (last + 2) rest)
        | _ => .error .malformed

/-- Read what follows an opening bracket. -/
def readBrackets (text : List Char) (target : Option String) (first : Nat) (rest : List Char) :
    Except DirectiveProblem Directive :=
  match seek [']', '\x7b'] first rest with
  | none => .error .malformed
  | some (last, ']', rest) => do
      let span ← cut text first last
      let limit ← readAfterBrackets text (last + 1) rest
      return { target, span := some (String.ofList span), field := none, limit }
  | some (last, _, rest) => do
      let span ← cut text first last
      let (field, limit) ← readFieldAndLevel text (last + 1) rest
      return { target
               span := if last = first then none else some (String.ofList span)
               field := some field
               limit }

/-- The directive of a text without brackets and equals sign: a level, or a target all of whose
lines are let through. -/
def ofWord (word : List Char) : Directive :=
  match rankOf? word with
  | some limit => { target := none, span := none, field := none, limit }
  | none =>
      { target := some (String.ofList word), span := none, field := none
        limit := Level.trace.rank }

/-- Read a directive. -/
def read (text : List Char) : Except DirectiveProblem Directive :=
  match trimBlanks text with
  | [] => .error .malformed
  | '[' :: rest => readBrackets text none 1 rest
  | character :: rest =>
      if beginsTarget character then
        match seek ['=', '['] character.utf8Size rest with
        | none => .ok (ofWord text)
        | some (last, '=', _) => do
            let target ← cut text 0 last
            let limit ← readLevel text (last + 1)
            return { target := some (String.ofList target), span := none, field := none, limit }
        | some (last, _, rest) => do
            let target ← cut text 0 last
            readBrackets text (some (String.ofList target)) (last + 1) rest
      else
        .error .malformed

/-- Whether a directive holds outside spans too, and whatever a line's fields say. -/
def isPlain (directive : Directive) : Bool :=
  directive.span.isNone && !directive.field.any (·.valued)

/-- Whether a directive decides about a line outside spans. -/
def applies (line : Line) (directive : Directive) : Bool :=
  directive.isPlain && directive.target.all (·.isPrefixOf line.target) &&
    directive.field.all fun field => line.fields.contains field.name

/-- How much a directive asks of a target: nothing, or a beginning of some length. -/
def weight (directive : Directive) : Nat :=
  match directive.target with
  | none => 0
  | some target => target.utf8ByteSize + 1

/-- The name of the field that a directive asks for. -/
def fieldName (directive : Directive) : String :=
  (directive.field.map (·.name)).getD ""

/-- Whether one directive is at least as specific as another that decides about the same line. -/
def isAsSpecific (directive other : Directive) : Bool :=
  if directive.weight = other.weight then other.fieldName ≤ directive.fieldName
  else other.weight < directive.weight

end Directive
end Log
end Telemetry
