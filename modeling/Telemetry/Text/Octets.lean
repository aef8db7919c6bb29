/-!
# Texts as bytes

A text travels as its UTF-8 bytes.  Bytes that claim to be a text are either refused when they are
not, or read with a replacement character for every part that cannot be one.
-/

namespace Telemetry

/-- A sequence of bytes. -/
abbrev Bytes := List UInt8

/-- The bytes of a text. -/
def textBytes (text : String) : Bytes :=
  text.toUTF8.data.toList

/-- The text that bytes are, if they are valid UTF-8. -/
def textOfBytes? (bytes : Bytes) : Option String :=
  String.fromUTF8? ⟨bytes.toArray⟩

@[simp]
theorem textOfBytes?_textBytes (text : String) : textOfBytes? (textBytes text) = some text := by
  obtain ⟨bytes, valid⟩ := text
  simp [textOfBytes?, textBytes, String.fromUTF8?, String.fromUTF8, String.toUTF8, valid]

/-- The character that stands for bytes that are no text. -/
def replacementCharacter : Char := '\uFFFD'

/-- What a lead byte says: its own bits, and the range of each byte that has to follow. -/
def leadByte? (byte : Nat) : Option (Nat × List (Nat × Nat)) :=
  let tail := (0x80, 0xBF)
  if byte < 0x80 then some (byte, [])
  else if byte < 0xC2 then none
  else if byte < 0xE0 then some (byte - 0xC0, [tail])
  else if byte = 0xE0 then some (0, [(0xA0, 0xBF), tail])
  else if byte = 0xED then some (13, [(0x80, 0x9F), tail])
  else if byte < 0xF0 then some (byte - 0xE0, [tail, tail])
  else if byte = 0xF0 then some (0, [(0x90, 0xBF), tail, tail])
  else if byte < 0xF4 then some (byte - 0xF0, [tail, tail, tail])
  else if byte = 0xF4 then some (4, [(0x80, 0x8F), tail, tail])
  else none

/-- Read the bytes that have to follow a lead byte, up to the first that does not fit. -/
def readTail : List (Nat × Nat) → Nat → Bytes → Option Nat × Bytes
  | [], value, bytes => (some value, bytes)
  | _ :: _, _, [] => (none, [])
  | (low, high) :: ranges, value, byte :: rest =>
      if low ≤ byte.toNat ∧ byte.toNat ≤ high then
        readTail ranges (value * 64 + (byte.toNat - 0x80)) rest
      else
        (none, byte :: rest)

theorem length_readTail_le (ranges : List (Nat × Nat)) (value : Nat) (bytes : Bytes) :
    (readTail ranges value bytes).2.length ≤ bytes.length := by
  fun_induction readTail ranges value bytes with
  | case1 => simp
  | case2 => simp
  | case3 _ _ _ _ _ _ _ ih => simp; omega
  | case4 => simp

/-- Read bytes as a text, with one replacement character for each longest run of bytes that begins
like a character and does not end like one, and for each byte that cannot begin one. -/
def readLossy (bytes : Bytes) : List Char :=
  match bytes with
  | [] => []
  | byte :: rest =>
      match leadByte? byte.toNat with
      | none => replacementCharacter :: readLossy rest
      | some (bits, ranges) =>
          have := length_readTail_le ranges bits rest
          ((readTail ranges bits rest).1.map Char.ofNat).getD replacementCharacter ::
            readLossy (readTail ranges bits rest).2
termination_by bytes.length
decreasing_by all_goals (simp; try omega)

/-- The text of bytes that need not be one. -/
def lossyText (bytes : Bytes) : String :=
  String.ofList (readLossy bytes)

end Telemetry
