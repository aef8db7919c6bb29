import Telemetry.Rehearsal.Note
import Telemetry.Rehearsal.Script
import Telemetry.Writer

/-!
# Rehearsing writes

A writer with a store that may fail.
-/

namespace Telemetry
namespace Rehearsal

/-- The store as a writer sees it. -/
structure Writing where
  storing : Script Failure
  notes : List Note

namespace Writing

/-- What a store notes about a write. -/
def noteOf (mishap : Option Failure) (records : List Record) : Note :=
  match mishap with
  | none => .stored records
  | some _ => .unstored records.length

/-- Reply to a call of a writer. -/
def collaborators : Dialogue.Collaborators Writer.interface Writing
  | .store records, state =>
      (succeedUnless state.storing.next,
        { storing := state.storing.rest
          notes := state.notes ++ [noteOf state.storing.next records] })

/-- Store records in one write. -/
def store (state : Writing) (records : List Record) : Except Failure Unit × Writing :=
  (Writer.store records).run collaborators state

/-- Decide on a batch. -/
def process (state : Writing) (batch : List Broker.Delivery) : Broker.Verdict × Writing :=
  (Writer.process batch).run collaborators state

end Writing
end Rehearsal
end Telemetry
