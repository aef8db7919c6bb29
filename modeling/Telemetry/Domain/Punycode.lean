import Telemetry.Text.Hexadecimal

/-!
# Labels in plain characters

A label of any characters is written in letters, digits and hyphens: its plain characters first,
then the others in the order of their codes, each as the number of steps from the one before.  A
step goes to the next place in the label, or to the next code and the first place.  Numbers are
written in base 36 with the lowest digit first; a digit below a threshold is the last, and the
threshold follows the size of the numbers before.
-/

namespace Telemetry
namespace Domain
namespace Punycode

/-- The base of the digits. -/
def base : Nat := 36

/-- The character of a digit. -/
def digitCharacter (digit : Nat) : Char :=
  if digit < 26 then Char.ofNat (0x61 + digit) else Char.ofNat (0x30 + (digit - 26))

/-- The digit of a character. -/
def digitOf? (character : Char) : Option Nat :=
  if character.isDigit then some (character.toNat - 0x30 + 26)
  else if character.isLower then some (character.toNat - 0x61)
  else none

/-- The threshold of a digit, whose place counts in steps of the base from one base on. -/
def threshold (place bias : Nat) : Nat :=
  if place ≤ bias then 1 else if bias + 26 ≤ place then 26 else place - bias

theorem threshold_pos (place bias : Nat) : 1 ≤ threshold place bias := by
  unfold threshold
  split
  · omega
  · split <;> omega

/-- The bias for a number that has been made smaller, and the places that took. -/
def shrink (number places : Nat) : Nat :=
  if 455 < number then shrink (number / 35) (places + base)
  else places + 36 * number / (number + 38)
termination_by number
decreasing_by omega

/-- The bias after a number that led to a label of some length. -/
def adapt (number length : Nat) (first : Bool) : Nat :=
  let number := if first then number / 700 else number / 2
  shrink (number + number / length) 0

/-! ## Writing -/

/-- The digits of a number. -/
def writeNumber (bias place number : Nat) : List Char :=
  let limit := threshold place bias
  if number < limit then
    [digitCharacter number]
  else
    digitCharacter (limit + (number - limit) % (base - limit)) ::
      writeNumber bias (place + base) ((number - limit) / (base - limit))
termination_by number
decreasing_by
  have := threshold_pos place bias
  have := Nat.div_le_self (number - threshold place bias) (base - threshold place bias)
  omega

/-- What is known while a label is written. -/
structure Writing where
  /-- What has been written, the last character first. -/
  written : List Char
  /-- The steps since the last character. -/
  steps : Nat
  bias : Nat
  /-- How many characters have been written of the label. -/
  count : Nat

/-- Pass a character of the label while those of one code are written; the plain ones were written
before. -/
def Writing.pass (plain code : Nat) (state : Writing) (character : Char) : Writing :=
  if character.toNat < code then
    { state with steps := state.steps + 1 }
  else if character.toNat = code then
    { written := (writeNumber state.bias base state.steps).reverse ++ state.written
      steps := 0
      bias := adapt state.steps (state.count + 1) (state.count == plain)
      count := state.count + 1 }
  else
    state

/-- Write the characters of each code in turn, after all those below a code. -/
def writeCodes (label : List Char) (plain : Nat) : List Nat → Nat → Writing → Writing
  | [], _, state => state
  | code :: codes, below, state =>
      let here := { state with steps := state.steps + (code - below) * (state.count + 1) }
      let after := label.foldl (Writing.pass plain code) here
      writeCodes label plain codes (code + 1) { after with steps := after.steps + 1 }

/-- Write a label. -/
def encode (label : List Char) : List Char :=
  let plain := label.filter (·.toNat < 128)
  let codes := ((label.filter (128 ≤ ·.toNat)).map Char.toNat).mergeSort.eraseReps
  let written := (writeCodes label plain.length codes 128 ⟨[], 0, 72, plain.length⟩).written
  plain ++ (if plain.isEmpty then [] else ['-']) ++ written.reverse

/-! ## Reading -/

/-- Read a number: its value and what follows it. -/
def readNumber? (bias : Nat) : List Char → Nat → Nat → Nat → Option (Nat × List Char)
  | [], _, _, _ => none
  | character :: rest, place, weight, value => do
      let digit ← digitOf? character
      let value := value + digit * weight
      let limit := threshold place bias
      if digit < limit then
        some (value, rest)
      else
        readNumber? bias rest (place + base) (weight * (base - limit)) value

theorem length_lt_of_readNumber? {bias place weight value : Nat} {text : List Char}
    {result : Nat × List Char}
    (read : readNumber? bias text place weight value = some result) :
    result.2.length < text.length := by
  induction text generalizing place weight value with
  | nil => simp [readNumber?] at read
  | cons character rest ih =>
      simp only [readNumber?, Option.bind_eq_bind, Option.bind_eq_some_iff] at read
      obtain ⟨digit, -, read⟩ := read
      split at read
      · simp only [Option.some.injEq] at read
        subst read
        simp
      · have := ih read
        simp
        omega

/-- Whether a code is that of a character. -/
def isCode (code : Nat) : Bool :=
  code < 0xD800 || (0xDFFF < code && code < 0x110000)

/-- Read characters and put each in its place, from a code and a place on. -/
def readCharacters? (label : List Char) (bias code place : Nat) (text : List Char) :
    Option (List Char) :=
  if text.isEmpty then
    some label
  else
    match read : readNumber? bias text base 1 0 with
    | none => none
    | some (number, rest) =>
        let length := label.length + 1
        let code' := code + (place + number) / length
        let place' := (place + number) % length
        if isCode code' then
          readCharacters? (label.insertIdx place' (Char.ofNat code'))
            (adapt number length (place == 0)) code' (place' + 1) rest
        else
          none
termination_by text.length
decreasing_by exact length_lt_of_readNumber? read

/-- Read a label. -/
def decode? (text : List Char) : Option (List Char) :=
  let plain := ((text.reverse.dropWhile (· != '-')).drop 1).reverse
  if plain.isEmpty then
    readCharacters? [] 72 128 0 text
  else
    readCharacters? plain 72 128 0 (text.drop (plain.length + 1))

end Punycode
end Domain
end Telemetry
