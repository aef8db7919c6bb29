import Telemetry.Text.Hexadecimal

/-!
# Tables of characters

What a standard says about single characters is kept as ranges of their codes, in rising order.
Tables are written as words with blanks between them: `41-5A` is a range of codes, `100-12E/2` every
second code of one, `3A3` a single code, and what follows an equality sign is said of all of them.
Main statement: what is found for a character is said of a range that holds it.
-/

namespace Telemetry

/-- Codes at equal distances, and what is said of them. -/
structure CodeRange (α : Type) where
  first : Nat
  last : Nat
  /-- The distance from one code to the next. -/
  step : Nat
  value : α
  deriving Repr

/-- Whether a range holds a code. -/
def CodeRange.holds {α : Type} (range : CodeRange α) (code : Nat) : Bool :=
  range.first ≤ code && code ≤ range.last && (code - range.first) % range.step == 0

/-- Ranges of codes in rising order. -/
structure CharacterTable (α : Type) where
  ranges : Array (CodeRange α)

/-- A set of characters. -/
abbrev CharacterSet := CharacterTable Unit

namespace CharacterTable

variable {α : Type}

/-- The text before the first of a character, and the text after it. -/
def halves (separator : Char) (text : List Char) : List Char × List Char :=
  (text.takeWhile (· != separator), (text.dropWhile (· != separator)).drop 1)

/-- The number that hexadecimal digits write, or another one if there are none. -/
def readCode (text : List Char) (otherwise : Nat) : Nat :=
  if text.isEmpty then otherwise
  else text.foldl (fun value digit => value * 16 + (hexValue? digit).getD 0) 0

/-- Read one word of a table. -/
def readRange (value : List Char → α) (word : List Char) : CodeRange α :=
  let (range, said) := halves '=' word
  let (bounds, step) := halves '/' range
  let (first, last) := halves '-' bounds
  { first := readCode first 0
    last := readCode last (readCode first 0)
    step := readCode step 1
    value := value said }

/-- Read the lines of a table. -/
def read (value : List Char → α) (lines : List String) : CharacterTable α :=
  ⟨((lines.flatMap fun line => line.toList.splitOn ' ').map (readRange value)).toArray⟩

/-- The place of the last range that does not begin after a code, sought between two places. -/
def locate (ranges : Array (CodeRange α)) (code low high : Nat) : Nat :=
  if low + 1 < high then
    let middle := (low + high) / 2
    if (ranges[middle]?).any (·.first ≤ code) then
      locate ranges code middle high
    else
      locate ranges code low middle
  else
    low
termination_by high - low

/-- The range that holds a character. -/
def range? (table : CharacterTable α) (character : Char) : Option (CodeRange α) :=
  (table.ranges[locate table.ranges character.toNat 0 table.ranges.size]?).filter
    (·.holds character.toNat)

/-- What is said of a character. -/
def find? (table : CharacterTable α) (character : Char) : Option α :=
  (table.range? character).map CodeRange.value

/-- Whether anything is said of a character. -/
def contains (table : CharacterTable α) (character : Char) : Bool :=
  (table.range? character).isSome

end CharacterTable

namespace CharacterSet

/-- Read the lines of a set. -/
def read (lines : List String) : CharacterSet :=
  CharacterTable.read (fun _ => ()) lines

end CharacterSet
end Telemetry
