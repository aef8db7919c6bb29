import Telemetry.Failure

/-!
# Verdicts on a batch

Whoever processes a batch says which messages are done, which go back to the broker, and whether the
consumer has to stop.
-/

namespace Telemetry
namespace Broker

/-- A message as it is delivered. -/
structure Delivery where
  subject : String
  payload : Bytes
  deriving DecidableEq, Repr

/-- What becomes of the messages of a batch, by their indices. -/
structure Verdict where
  /-- The messages to acknowledge. -/
  accepted : List Nat
  /-- The messages to return for redelivery, with the reason if one is known. -/
  returned : List (Nat × Option String)
  /-- What makes the consumer stop once the batch is settled. -/
  fatal : Option Incident
  deriving DecidableEq, Repr

namespace Verdict

/-- Nothing is settled and nothing stops. -/
def none : Verdict := ⟨[], [], .none⟩

/-- Every message is done. -/
def acceptAll (count : Nat) : Verdict :=
  { accepted := List.range count, returned := [], fatal := .none }

/-- Every message goes back, for one reason, and the consumer stops. -/
def returnAll (count : Nat) (incident : Incident) : Verdict :=
  { accepted := []
    returned := (List.range count).map fun index => (index, some incident.message)
    fatal := some incident }

/-- The given messages are done or go back. -/
def settle (accepted : List Nat) (returned : List (Nat × Option String)) : Verdict :=
  ⟨accepted, returned, .none⟩

end Verdict
end Broker
end Telemetry
