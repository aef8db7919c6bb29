import Telemetry.Domain.Direction
import Telemetry.Domain.Joining
import Telemetry.Domain.Mapping
import Telemetry.Domain.Punycode

/-!
# Labels of names

A label may be given in its own characters or written in plain ones after a mark of four.  Either
way it is kept in its own characters, and checked in them.
-/

namespace Telemetry
namespace Domain

/-- A label of a name. -/
structure Label where
  /-- Its own characters. -/
  characters : List Char
  /-- How it is written in plain characters. -/
  plain : List Char
  deriving DecidableEq, Repr

namespace Label

/-- What a label begins with that is written in plain characters. -/
def mark : List Char := ['x', 'n', '-', '-']

/-- The most characters of a label that is read from plain ones. -/
def decodeLimit : Nat := 2000

/-- The most characters of a label that is written in plain ones. -/
def encodeLimit : Nat := 1000

/-- Whether a label has plain characters only. -/
def isPlain (characters : List Char) : Bool :=
  characters.all (·.toNat < 128)

/-- Whether characters may stand together in a label that is not plain. -/
def isSound (characters : List Char) : Bool :=
  !(characters.head?).any isMark && placesJoiners [] characters

/-- Whether characters are what is read from plain ones: they need that, and are as the name of the
characters would be. -/
def isReadable (characters : List Char) : Bool :=
  !isPlain characters && characters.all isAllowed && compose characters == characters &&
    isSound characters

/-- The label that is written in plain characters after the mark. -/
def ofPlain? (text : List Char) : Option Label :=
  if decodeLimit < text.length then
    none
  else
    ((Punycode.decode? text).filter isReadable).map fun characters =>
      { characters, plain := mark ++ text }

/-- The label of its own characters, which have been replaced and composed. -/
def ofCharacters? (characters : List Char) : Option Label :=
  if isPlain characters then
    some { characters, plain := characters }
  else if isSound characters && characters.length ≤ encodeLimit then
    some { characters, plain := mark ++ Punycode.encode characters }
  else
    none

/-- Read a label; one in plain characters may not hold others. -/
def read? (characters : List Char) : Option Label := do
  let label ←
    if mark.isPrefixOf characters then
      if isPlain characters then ofPlain? (characters.drop mark.length) else none
    else
      ofCharacters? characters
  if label.characters.any isForbidden then none else some label

/-- Whether a label has a character that is written from right to left. -/
def runsLeft (label : Label) : Bool :=
  label.characters.any fun character => (direction character).runsLeft

end Label

/-- The labels of a name.  Where one of them is written from right to left each must have a
direction of its own. -/
def labels? (text : List Char) : Option (List Label) := do
  let characters ← normalize? text
  let labels ← (characters.splitOn '.').mapM Label.read?
  if labels.any Label.runsLeft && !labels.all (hasDirection ·.characters) then none else some labels

/-- How a name is written in plain characters. -/
def toPlain? (text : List Char) : Option (List Char) :=
  (labels? text).map fun labels => ['.'].intercalate (labels.map Label.plain)

end Domain
end Telemetry
