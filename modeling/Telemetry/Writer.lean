import Telemetry.Broker.Verdict
import Telemetry.Dialogue

/-!
# Writing batches

A delivered batch shares one fate.  If every message is a record the batch goes to the store in one
write and is accepted when that succeeds; otherwise all of it goes back and the consumer stops.
-/

namespace Telemetry
namespace Writer

/-- What a writer asks of the store. -/
inductive Call where
  /-- Store records all together or not at all. -/
  | store (records : List Record)

/-- The reply to each call. -/
abbrev Call.Reply : Call → Type
  | .store _ => Except Failure Unit

/-- The store as a writer sees it. -/
abbrev interface : Interface := ⟨Call, Call.Reply⟩

/-- Store records in one write; without records there is nothing to write. -/
def store (records : List Record) : Dialogue interface (Except Failure Unit) :=
  if records.isEmpty then .done (.ok ()) else .call (.store records) .done

/-- The records of deliveries whose first one has the given index in its batch; the first that is no
record decides. -/
def decodeFrom (index : Nat) : List Broker.Delivery → Except Failure (List Record)
  | [] => .ok []
  | delivery :: rest =>
      match Record.decode delivery.payload with
      | .error why => .error (.misread (.message index delivery.subject why))
      | .ok record => (decodeFrom (index + 1) rest).map (record :: ·)

/-- Decide on a batch by decoding and storing it. -/
def process (batch : List Broker.Delivery) : Dialogue interface Broker.Verdict :=
  match decodeFrom 0 batch with
  | .error failure => .done (.returnAll batch.length (.ofFailure failure))
  | .ok records =>
      (store records).bind fun
        | .ok () => .done (.acceptAll batch.length)
        | .error failure => .done (.returnAll batch.length (.ofFailure failure))

end Writer
end Telemetry
