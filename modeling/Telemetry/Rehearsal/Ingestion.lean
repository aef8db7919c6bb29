import Telemetry.Ingest
import Telemetry.Rehearsal.Note
import Telemetry.Rehearsal.Registry

/-!
# Rehearsing ingestion

Ingestion with a registry, a clock that stands still and a publisher that may fail.
-/

namespace Telemetry
namespace Rehearsal

/-- The collaborators of ingestion. -/
structure Ingestion where
  registry : Registry
  now : Instant
  publishing : Script Failure
  notes : List Note

namespace Ingestion

/-- Reply to a call of ingestion. -/
def collaborators : Dialogue.Collaborators Ingest.interface Ingestion
  | .owner device, state =>
      (state.registry.replyOwner device,
        { state with
          registry := state.registry.advance
          notes := state.notes ++ [.owner device] })
  | .now, state => (state.now, state)
  | .publish record, state =>
      (succeedUnless state.publishing.next,
        { state with
          publishing := state.publishing.rest
          notes := state.notes ++ [.published record] })

/-- Ingest one reading. -/
def ingest (state : Ingestion) (organization : String) (reading : Reading) :
    Except Failure Unit × Ingestion :=
  (Ingest.ingest organization reading).run collaborators state

end Ingestion
end Rehearsal
end Telemetry
