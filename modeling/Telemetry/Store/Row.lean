import Telemetry.Document.Printer
import Telemetry.Reading

/-!
# Stored rows

The store keeps times in milliseconds and the payload as text.
-/

namespace Telemetry
namespace Store

/-- A record as the store keeps it. -/
structure Row where
  organization : String
  device : String
  /-- Milliseconds since the epoch. -/
  occurredAt : Int
  /-- Milliseconds since the epoch. -/
  processedAt : Int
  payload : Document
  deriving DecidableEq, Repr

/-- The text of the payload column. -/
def Row.data (row : Row) : String :=
  row.payload.write

end Store

/-- The row of a record. -/
def Record.toRow (record : Record) : Store.Row :=
  { organization := record.organization
    device := record.device
    occurredAt := record.occurredAt.millis
    processedAt := record.processedAt.millis
    payload := record.data }

end Telemetry
