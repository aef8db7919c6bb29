import Telemetry.Reading
import Telemetry.Wire.Payload

/-!
# Records on the wire

`Record.encode` writes a record as one message and `Record.decode` reads it back.  A message that is
well formed may still lack a time or name a moment that the calendar does not have.
-/

namespace Telemetry
namespace Wire

/-- A time as it travels: signed sixty-four and thirty-two bit numbers. -/
structure Stamp where
  seconds : Int
  nanos : Int
  deriving DecidableEq, Repr

/-- The signed number in the low bits of an unsigned one. -/
def signedBits (width : Nat) (value : Nat) : Int :=
  Int.bmod value (1 <<< width)

/-- The sixty-four bits of a signed number. -/
def unsignedBits (value : Int) : Nat :=
  (value % 0x10000000000000000).toNat

/-- Write a time; zero parts are left out. -/
def writeStamp (instant : Instant) : Bytes :=
  (if instant.seconds = 0 then [] else
    writeKey 1 .varint ++ writeVarint (unsignedBits instant.seconds)) ++
  (if instant.nanos = 0 then [] else writeKey 2 .varint ++ writeVarint instant.nanos)

/-- Read one field of a time. -/
def readStampField (budget : Nat) (stamp : Stamp) (input : Bytes) :
    Except Fault (Stamp × Bytes) := do
  let (key, rest) ← readKey input
  match key.tag with
  | 1 => within .seconds do
      let (value, rest) ← readNumber key.wireType rest
      .ok ({ stamp with seconds := signedBits 64 value }, rest)
  | 2 => within .nanos do
      let (value, rest) ← readNumber key.wireType rest
      .ok ({ stamp with nanos := signedBits 32 value }, rest)
  | tag => do
      let rest ← skipField budget key.wireType tag rest
      .ok (stamp, rest)

/-- A record as it travels: times and payload may be missing. -/
structure Message where
  organization : String
  device : String
  occurredAt : Option Stamp
  processedAt : Option Stamp
  data : Option (List (String × Slot))
  deriving Repr

/-- The message of which nothing has been read. -/
def Message.blank : Message := ⟨"", "", none, none, none⟩

/-- Read a time into what is already there. -/
def readStamp (budget : Nat) (present : Option Stamp) (wireType : WireType) (input : Bytes) :
    Except Fault (Stamp × Bytes) := do
  expect .delimited wireType
  match budget with
  | 0 => .error (.of .tooDeep)
  | budget + 1 => readMessage (readStampField budget) (present.getD ⟨0, 0⟩) input

/-- Read a payload into what is already there. -/
def readPayload (budget : Nat) (present : Option (List (String × Slot))) (wireType : WireType)
    (input : Bytes) : Except Fault (List (String × Slot) × Bytes) := do
  expect .delimited wireType
  match budget with
  | 0 => .error (.of .tooDeep)
  | budget + 1 => readMessage (Slot.readStructField budget) (present.getD []) input

/-- Read one field of a record. -/
def Message.readField (budget : Nat) (message : Message) (input : Bytes) :
    Except Fault (Message × Bytes) := do
  let (key, rest) ← readKey input
  match key.tag with
  | 1 => within .organization do
      let (organization, rest) ← readText key.wireType rest
      .ok ({ message with organization }, rest)
  | 2 => within .device do
      let (device, rest) ← readText key.wireType rest
      .ok ({ message with device }, rest)
  | 3 => within .occurredAt do
      let (stamp, rest) ← readStamp budget message.occurredAt key.wireType rest
      .ok ({ message with occurredAt := some stamp }, rest)
  | 4 => within .processedAt do
      let (stamp, rest) ← readStamp budget message.processedAt key.wireType rest
      .ok ({ message with processedAt := some stamp }, rest)
  | 5 => within .data do
      let (entries, rest) ← readPayload budget message.data key.wireType rest
      .ok ({ message with data := some entries }, rest)
  | tag => do
      let rest ← skipField budget key.wireType tag rest
      .ok (message, rest)

/-- Read a whole message. -/
def Message.read (input : Bytes) : Except Fault Message :=
  readAll (Message.readField nestingBudget) .blank input

end Wire

/-- Why bytes are not a record. -/
inductive Undecodable where
  | malformed (fault : Wire.Fault)
  | missingOccurredAt
  | missingProcessedAt
  /-- The calendar has no such moment. -/
  | noSuchInstant (seconds nanos : Int)
  deriving DecidableEq, Repr

/-- The wording of a decoding failure, with the contexts it arose in. -/
def Undecodable.message : Undecodable → String
  | .malformed fault =>
      "Failed to decode ProcessedEnvelope protobuf: failed to decode Protobuf message: " ++
        fault.message
  | .missingOccurredAt => "Missing occurred_at timestamp"
  | .missingProcessedAt => "Missing processed_at timestamp"
  | .noSuchInstant seconds nanos => s!"Invalid timestamp: {seconds} seconds, {nanos} nanos"

/-- The instant that a time names. -/
def Wire.Stamp.toInstant (stamp : Wire.Stamp) : Except Undecodable Instant :=
  if stamp.nanos < 0 then
    .error (.noSuchInstant stamp.seconds stamp.nanos)
  else
    match Instant.ofParts? stamp.seconds stamp.nanos.toNat with
    | some instant => .ok instant
    | none => .error (.noSuchInstant stamp.seconds stamp.nanos)

/-- The record of a message; the time of the event is checked before the time of processing. -/
def Wire.Message.toRecord (message : Wire.Message) : Except Undecodable Record := do
  let occurred ← message.occurredAt.elim (.error .missingOccurredAt) .ok
  let occurredAt ← occurred.toInstant
  let processed ← message.processedAt.elim (.error .missingProcessedAt) .ok
  let processedAt ← processed.toInstant
  .ok
    { organization := message.organization
      device := message.device
      occurredAt
      processedAt
      data := Document.ofFields (Wire.Slot.toFields (message.data.getD [])) }

namespace Record

/-- Write a record: fields in order, empty names left out, times and payload always present. -/
def encode (record : Record) : Bytes :=
  (if record.organization = "" then [] else Wire.writeField 1 (textBytes record.organization)) ++
  (if record.device = "" then [] else Wire.writeField 2 (textBytes record.device)) ++
  Wire.writeField 3 (Wire.writeStamp record.occurredAt) ++
  Wire.writeField 4 (Wire.writeStamp record.processedAt) ++
  Wire.writeField 5 (Wire.writeStruct record.data.fields)

/-- Read a record. -/
def decode (input : Bytes) : Except Undecodable Record :=
  match Wire.Message.read input with
  | .error fault => .error (.malformed fault)
  | .ok message => message.toRecord

end Record
end Telemetry
