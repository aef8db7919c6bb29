import Telemetry.Dialogue
import Telemetry.Failure

/-!
# Publishing records

A record is published to a subject of its device's own, below the base subject.  The stream that
holds these subjects is created when the broker does not have it.
-/

namespace Telemetry
namespace Broker

/-- The subject of a device's records. -/
def subjectOf (base device : String) : String :=
  base ++ "." ++ device

namespace Publisher

/-- What a publisher asks of the broker. -/
inductive Call where
  /-- Publish a payload and wait until the broker has it. -/
  | publish (subject : String) (payload : Bytes)

/-- The reply to each call. -/
abbrev Call.Reply : Call → Type
  | .publish _ _ => Except Report Unit

/-- The broker as a publisher sees it. -/
abbrev interface : Interface := ⟨Call, Call.Reply⟩

/-- Publish a record below a base subject. -/
def publish (base : String) (record : Record) : Dialogue interface (Except Failure Unit) :=
  .call (.publish (subjectOf base record.device) record.encode) fun sent =>
    .done (sent.mapError Failure.broker)

end Publisher

/-- A stream that captures subjects. -/
structure Stream where
  name : String
  subjects : List String
  description : String
  deriving DecidableEq, Repr

/-- The stream of records: every subject below its own name. -/
def Stream.ofRecords (name : String) : Stream :=
  { name
    subjects := [name ++ ".>"]
    description := "Stream for processed envelopes" }

namespace Stream

/-- What provisioning asks of the broker. -/
inductive Call where
  | find (name : String)
  | create (stream : Stream)

/-- The reply to each call. -/
abbrev Call.Reply : Call → Type
  | .find _ => Except Report Unit
  | .create _ => Except Report Unit

/-- The broker as provisioning sees it. -/
abbrev interface : Interface := ⟨Call, Call.Reply⟩

/-- Make sure that the stream of records exists.  Whatever keeps it from being found, it is
created. -/
def ensure (name : String) : Dialogue interface (Except Report Unit) :=
  .call (.find name) fun
    | .ok () => .done (.ok ())
    | .error _ => .call (.create (Stream.ofRecords name)) .done

end Stream
end Broker
end Telemetry
