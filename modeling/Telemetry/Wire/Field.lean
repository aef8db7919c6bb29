import Telemetry.Wire.Varint

/-!
# Fields

A message is a sequence of fields, each a key and a value.  This module reads and writes keys,
delimited values and strings, skips fields of unknown numbers, and runs over the fields of a
delimited message.  Every reader returns the bytes after what it read.
-/

namespace Telemetry
namespace Wire

/-- A field number and the encoding of the value that follows. -/
structure Key where
  tag : Nat
  wireType : WireType
  deriving DecidableEq, Repr

/-- The number of a wire type. -/
def WireType.code : WireType → Nat
  | .varint => 0
  | .fixed64 => 1
  | .delimited => 2
  | .startGroup => 3
  | .endGroup => 4
  | .fixed32 => 5

/-- The wire type of a number. -/
def WireType.ofCode? : Nat → Option WireType
  | 0 => some .varint
  | 1 => some .fixed64
  | 2 => some .delimited
  | 3 => some .startGroup
  | 4 => some .endGroup
  | 5 => some .fixed32
  | _ => none

/-- Write a key. -/
def writeKey (tag : Nat) (wireType : WireType) : Bytes :=
  writeVarint (tag * 8 + wireType.code)

/-- Read a key; its size is checked first, then its wire type, then its field number. -/
def readKey (input : Bytes) : Except Fault (Key × Bytes) := do
  let (key, rest) ← readVarint input
  if 0x100000000 ≤ key then
    .error (.of (.badKey key))
  else
    match WireType.ofCode? (key % 8) with
    | none => .error (.of (.badWireType (key % 8)))
    | some wireType =>
        if key / 8 = 0 then .error (.of .zeroTag) else .ok (⟨key / 8, wireType⟩, rest)

/-- Refuse a value of another encoding than the field's. -/
def expect (expected got : WireType) : Except Fault Unit :=
  if got = expected then .ok () else .error (.of (.unexpectedWireType got expected))

/-- Write bytes after their length. -/
def writeDelimited (content : Bytes) : Bytes :=
  writeVarint content.length ++ content

/-- Read the length of a delimited value, which must not exceed the bytes that are left. -/
def readLength (input : Bytes) : Except Fault (Nat × Bytes) := do
  let (length, rest) ← readVarint input
  if rest.length < length then .error (.of .underflow) else .ok (length, rest)

/-- Drop a number of bytes. -/
def advance (count : Nat) (input : Bytes) : Except Fault Bytes :=
  if input.length < count then .error (.of .underflow) else .ok (input.drop count)

/-- Read a delimited text. -/
def readText (wireType : WireType) (input : Bytes) : Except Fault (String × Bytes) := do
  expect .delimited wireType
  let (length, rest) ← readLength input
  match textOfBytes? (rest.take length) with
  | some text => .ok (text, rest.drop length)
  | none => .error (.of .notText)

/-- Read a varint field. -/
def readNumber (wireType : WireType) (input : Bytes) : Except Fault (Nat × Bytes) := do
  expect .varint wireType
  readVarint input

/-- The eight bytes of a number below `2 ^ 64`, lowest first. -/
def writeFixed64 (value : Nat) : Bytes :=
  (List.range 8).map fun place => UInt8.ofNat (value >>> (8 * place))

/-- The number of little-endian bytes. -/
def natOfBytes : Bytes → Nat
  | [] => 0
  | byte :: rest => byte.toNat + 256 * natOfBytes rest

/-- Read a fixed eight-byte field. -/
def readFixed64 (wireType : WireType) (input : Bytes) : Except Fault (Nat × Bytes) := do
  expect .fixed64 wireType
  let rest ← advance 8 input
  .ok (natOfBytes (input.take 8), rest)

/-- Skip the fields of a group up to the end of the group of the same field number. -/
def skipGroup (skip : WireType → Nat → Bytes → Except Fault Bytes) (tag : Nat) :
    Nat → Bytes → Except Fault Bytes
  | 0, _ => .error (.of .badVarint)
  | fuel + 1, input => do
      let (key, rest) ← readKey input
      match key.wireType with
      | .endGroup => if key.tag = tag then .ok rest else .error (.of .strayGroupEnd)
      | wireType => do
          let rest ← skip wireType key.tag rest
          skipGroup skip tag fuel rest

/-- Skip a value whose key has been read; groups within spend the budget. -/
def skipField : Nat → WireType → Nat → Bytes → Except Fault Bytes
  | 0, _, _, _ => .error (.of .tooDeep)
  | budget + 1, wireType, tag, input =>
      match wireType with
      | .varint => (readVarint input).map Prod.snd
      | .fixed32 => advance 4 input
      | .fixed64 => advance 8 input
      | .delimited => do
          let (length, rest) ← readVarint input
          advance length rest
      | .startGroup => skipGroup (skipField budget) tag (input.length + 1) input
      | .endGroup => .error (.of .strayGroupEnd)

/-- Read fields as long as more than `limit` bytes are left. -/
def readFields {α : Type} (step : α → Bytes → Except Fault (α × Bytes)) (limit : Nat) :
    Nat → α → Bytes → Except Fault (α × Bytes)
  | 0, message, input => .ok (message, input)
  | fuel + 1, message, input =>
      if input.length ≤ limit then
        .ok (message, input)
      else do
        let (message, rest) ← step message input
        readFields step limit fuel message rest

/-- Read a delimited message into what is already there; its last field must not reach beyond its
end. -/
def readMessage {α : Type} (step : α → Bytes → Except Fault (α × Bytes)) (message : α)
    (input : Bytes) : Except Fault (α × Bytes) := do
  let (length, rest) ← readLength input
  let limit := rest.length - length
  let (message, rest) ← readFields step limit rest.length message rest
  if rest.length = limit then .ok (message, rest) else .error (.of .overrun)

/-- Read all bytes as the fields of one message. -/
def readAll {α : Type} (step : α → Bytes → Except Fault (α × Bytes)) (message : α)
    (input : Bytes) : Except Fault α :=
  (readFields step 0 input.length message input).map Prod.fst

end Wire
end Telemetry
