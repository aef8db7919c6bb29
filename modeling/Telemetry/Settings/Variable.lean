import Telemetry.Keyed
import Telemetry.Text.LowerCase
import Telemetry.Text.Numeral

/-!
# Environment variables

A variable belongs to the program when its name begins with the program's own; what follows names a
setting, in either case.  A name may also be a path, as in `a.b` and `a[0]`, which puts a table or a
list where the setting is.
-/

namespace Telemetry
namespace Settings

/-- What is given for a setting. -/
inductive Given where
  | text (value : String)
  | table
  | list
  deriving DecidableEq, Repr

/-- What every name of the program's variables begins with. -/
def namesPrefix : String := "telemetry_"

/-- Whether a character may stand in a part of a path. -/
def isPartCharacter (character : Char) : Bool :=
  character.isAlphanum || [' ', '_', '-'].contains character

/-- Take one part of a path, which has at least one character. -/
def part? (text : List Char) : Option (List Char × List Char) :=
  match text.takeWhile isPartCharacter with
  | [] => none
  | taken => some (taken, text.dropWhile isPartCharacter)

def isSpaceOrTab (character : Char) : Bool :=
  character == ' ' || character == '\t'

/-- One more than the number of places that can be counted from the front of a list; from its back
there is one more. -/
def placeLimit : Nat := 0x8000000000000000

/-- Take the place in a list, up to the closing bracket.  A place with a minus sign is counted from
the back. -/
def place? (text : List Char) : Option (List Char) := do
  let inside := text.dropWhile isSpaceOrTab
  let fromBack := inside.head? == some '-'
  let digits := if fromBack then inside.tail else inside
  let _ ← readDigits? (if fromBack then placeLimit + 1 else placeLimit)
    (digits.takeWhile Char.isDigit)
  match (digits.dropWhile Char.isDigit).dropWhile isSpaceOrTab with
  | ']' :: rest => some rest
  | _ => none

/-- Take one step of a path. -/
def step? (text : List Char) : Option (Given × List Char) :=
  match text with
  | '.' :: rest => (part? rest).map fun (_, rest) => (.table, rest)
  | '[' :: rest => (place? rest).map fun rest => (.list, rest)
  | _ => none

/-- Whether a text consists of steps of a path; each is at least one character long. -/
def areSteps : Nat → List Char → Bool
  | _, [] => true
  | 0, _ :: _ => false
  | length + 1, text =>
      match step? text with
      | some (_, rest) => areSteps length rest
      | none => false

/-- The setting that a name leads to and what a variable of that name gives for it.  A name that is
no path stands for itself. -/
def target (name value : String) : String × Given :=
  match part? name.toList with
  | some (root, []) => (String.ofList root, .text value)
  | some (root, steps) =>
      match step? steps with
      | some (given, _) =>
          if areSteps steps.length steps then (String.ofList root, given) else (name, .text value)
      | none => (name, .text value)
  | none => (name, .text value)

/-- The part of a variable's name that follows the program's own. -/
def ownName? (name : String) : Option String :=
  let lower := (lowerCase name).toList
  if namesPrefix.toList.isPrefixOf lower then
    some (String.ofList (lower.drop namesPrefix.length))
  else
    none

/-- What the variables of an environment give, by setting; a later one replaces an earlier one. -/
def given (environment : List (String × String)) : List (String × Given) :=
  Keyed.ofEntries (environment.filterMap fun (name, value) =>
    (ownName? name).map fun name => target name value)

end Settings
end Telemetry
