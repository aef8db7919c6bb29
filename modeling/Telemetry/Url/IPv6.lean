import Telemetry.Url.IPv4

/-!
# Addresses of eight pieces

An address is written as eight numbers in base 16 with colons between them.  Two colons in a row
stand for as many zeros as are missing, and the last two pieces may be written as an address of four
bytes.
-/

namespace Telemetry

/-- The eight pieces of an address, of two bytes each. -/
abbrev IPv6 := List Nat

namespace IPv6

/-- The number of pieces. -/
def pieceCount : Nat := 8

/-- Read a byte, which is written without leading zeros. -/
def byte? (text : List Char) : Option Nat :=
  if text.head? = some '0' ∧ text ≠ ['0'] then none else readDigits? 256 text

/-- Read the two pieces that an address of four bytes makes. -/
def embedded? (text : List Char) : Option (List Nat) :=
  match (text.splitOn '.').mapM byte? with
  | some [first, second, third, fourth] => some [first * 256 + second, third * 256 + fourth]
  | _ => none

/-- Read a piece of one to four digits. -/
def piece? (text : List Char) : Option Nat :=
  if 1 ≤ text.length ∧ text.length ≤ 4 ∧ text.all (hexValue? · |>.isSome) then
    some (IPv4.valueOf 16 text)
  else
    none

/-- Read pieces with colons between them, of which the last two may be written in bytes. -/
def pieces? (text : List (List Char)) : Option (List Nat) :=
  match text with
  | [] => some []
  | [last] => if last.contains '.' then embedded? last else (piece? last).map ([·])
  | next :: rest => do
      let piece ← piece? next
      (pieces? rest).map (piece :: ·)

/-- Read pieces with colons between them; there may be none at all. -/
def group? (text : List Char) : Option (List Nat) :=
  if text.isEmpty then some [] else pieces? (text.splitOn ':')

/-- The texts before and after the first two colons in a row. -/
def splitDouble? : List Char → Option (List Char × List Char)
  | ':' :: ':' :: rest => some ([], rest)
  | character :: rest => (splitDouble? rest).map fun (before, after) => (character :: before, after)
  | [] => none

/-- Whether pieces are written in bytes at their end, which no missing zeros may follow. -/
def endsInBytes (text : List Char) : Bool :=
  text.contains '.'

/-- Read an address. -/
def read? (text : List Char) : Option IPv6 :=
  match splitDouble? text with
  | none => (group? text).filter (·.length == pieceCount)
  | some (before, after) => do
      if endsInBytes before then
        none
      let front ← group? before
      let back ← group? after
      if front.length + back.length < pieceCount then
        some (front ++ List.replicate (pieceCount - front.length - back.length) 0 ++ back)
      else
        none

/-- The first place with the most zeros in a row, and their number. -/
def longestZeros (address : IPv6) : Nat × Nat :=
  (List.range address.length).foldl
    (fun best place =>
      let zeros := ((address.drop place).takeWhile (· == 0)).length
      if best.2 < zeros then (place, zeros) else best)
    (0, 0)

/-- Write pieces with colons between them. -/
def writeGroup (pieces : List Nat) : String :=
  ":".intercalate (pieces.map fun piece => String.ofList (hexDigits piece))

/-- Write an address; two colons stand for the most zeros in a row if there are two or more. -/
def write (address : IPv6) : String :=
  let (place, zeros) := longestZeros address
  if zeros < 2 then
    writeGroup address
  else
    writeGroup (address.take place) ++ "::" ++ writeGroup (address.drop (place + zeros))

end IPv6
end Telemetry
