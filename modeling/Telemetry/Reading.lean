import Telemetry.Document
import Telemetry.Instant

/-!
# Readings and records

A device submits a `Reading`.  Once its owner is known it becomes a `Record`, which names the owning
organization, carries both times, and travels through the broker into the store unchanged.
-/

namespace Telemetry

/-- What a device submits; without a time of its own it happened when it was ingested. -/
structure Reading where
  device : String
  occurredAt : Option Instant
  data : Document
  deriving DecidableEq, Repr

/-- A reading of a known organization, stamped with the time of its ingestion. -/
structure Record where
  organization : String
  device : String
  occurredAt : Instant
  processedAt : Instant
  data : Document
  deriving DecidableEq, Repr

/-- The record of a reading that an organization ingests at a given time. -/
def Reading.stamp (reading : Reading) (organization : String) (now : Instant) : Record :=
  { organization
    device := reading.device
    occurredAt := reading.occurredAt.getD now
    processedAt := now
    data := reading.data }

end Telemetry
