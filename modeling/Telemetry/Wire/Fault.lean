/-!
# What can be wrong with a message on the wire

A fault is a reason and the fields that were being read when it arose, innermost first.
-/

namespace Telemetry
namespace Wire

/-- The encoding of a field's value, as its key announces it. -/
inductive WireType where
  | varint
  | fixed64
  | delimited
  | startGroup
  | endGroup
  | fixed32
  deriving DecidableEq, Repr

/-- The name of a wire type in messages. -/
def WireType.name : WireType → String
  | .varint => "Varint"
  | .fixed64 => "SixtyFourBit"
  | .delimited => "LengthDelimited"
  | .startGroup => "StartGroup"
  | .endGroup => "EndGroup"
  | .fixed32 => "ThirtyTwoBit"

/-- The field of a message that was being read. -/
inductive Place where
  | organization
  | device
  | occurredAt
  | processedAt
  | data
  | seconds
  | nanos
  | entry
  | kind
  | item
  deriving DecidableEq, Repr

/-- The qualified name of a field in messages. -/
def Place.name : Place → String
  | .organization => "ProtoProcessedEnvelope.organization_id"
  | .device => "ProtoProcessedEnvelope.end_device_id"
  | .occurredAt => "ProtoProcessedEnvelope.occurred_at"
  | .processedAt => "ProtoProcessedEnvelope.processed_at"
  | .data => "ProtoProcessedEnvelope.data"
  | .seconds => "Timestamp.seconds"
  | .nanos => "Timestamp.nanos"
  | .entry => "Struct.fields"
  | .kind => "Value.kind"
  | .item => "ListValue.values"

/-- Why bytes are not a message. -/
inductive Reason where
  /-- A varint is cut off, or has more than sixty-four bits. -/
  | badVarint
  /-- A key has more than thirty-two bits. -/
  | badKey (key : Nat)
  /-- The low three bits of a key name no wire type. -/
  | badWireType (value : Nat)
  /-- A key has the field number zero. -/
  | zeroTag
  /-- A known field has the wire type of another kind of value. -/
  | unexpectedWireType (got expected : WireType)
  /-- A value is longer than all the bytes that are left. -/
  | underflow
  /-- A field reaches beyond the end of its message. -/
  | overrun
  /-- A string is not valid UTF-8. -/
  | notText
  /-- A group ends that was not open. -/
  | strayGroupEnd
  /-- The nesting has used up the budget. -/
  | tooDeep
  deriving DecidableEq, Repr

/-- The wording of a reason. -/
def Reason.message : Reason → String
  | .badVarint => "invalid varint"
  | .badKey key => s!"invalid key value: {key}"
  | .badWireType value => s!"invalid wire type value: {value}"
  | .zeroTag => "invalid tag value: 0"
  | .unexpectedWireType got expected =>
      s!"invalid wire type: {got.name} (expected {expected.name})"
  | .underflow => "buffer underflow"
  | .overrun => "delimited length exceeded"
  | .notText => "invalid string value: data is not UTF-8 encoded"
  | .strayGroupEnd => "unexpected end group tag"
  | .tooDeep => "recursion limit reached"

/-- A reason with the fields around it, innermost first. -/
structure Fault where
  reason : Reason
  places : List Place
  deriving DecidableEq, Repr

/-- A fault at no field yet. -/
def Fault.of (reason : Reason) : Fault := ⟨reason, []⟩

/-- The wording of a fault: the fields, then the reason. -/
def Fault.message (fault : Fault) : String :=
  fault.places.foldr (fun place text => place.name ++ ": " ++ text) fault.reason.message

/-- Note the field that was being read. -/
def within {α : Type} (place : Place) (result : Except Fault α) : Except Fault α :=
  result.mapError fun fault => { fault with places := fault.places ++ [place] }

end Wire
end Telemetry
