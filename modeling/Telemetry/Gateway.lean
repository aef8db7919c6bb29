import Telemetry.Broker.Publisher
import Telemetry.Ingest

/-!
# The gateway

The gateway is ingestion whose records are published to the broker.
-/

namespace Telemetry
namespace Gateway

/-- What the gateway asks: of the registry, of the clock, and of the broker. -/
inductive Call where
  /-- The organization that owns a device, if the registry knows the device. -/
  | owner (device : String)
  /-- The present time. -/
  | now
  | broker (request : Broker.Publisher.Call)

/-- The reply to each call. -/
abbrev Call.Reply : Call → Type
  | .owner _ => Except Failure (Option String)
  | .now => Instant
  | .broker request => request.Reply

/-- The collaborators of the gateway. -/
abbrev interface : Interface := ⟨Call, Call.Reply⟩

/-- Carry out the calls of ingestion, publishing below a base subject. -/
def publishing (base : String) :
    (request : Ingest.Call) → Dialogue interface (Ingest.Call.Reply request)
  | .owner device => .call (.owner device) .done
  | .now => .call .now .done
  | .publish record =>
      (Broker.Publisher.publish base record).through fun request => .call (.broker request) .done

/-- Ingest one reading and publish its record. -/
def ingest (base organization : String) (reading : Reading) :
    Dialogue interface (Except Failure Unit) :=
  (Ingest.ingest organization reading).through (publishing base)

end Gateway
end Telemetry
