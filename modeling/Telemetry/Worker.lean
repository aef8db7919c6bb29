import Telemetry.Broker.Consumer
import Telemetry.Store.Client
import Telemetry.Writer

/-!
# The worker

A worker is a consumer whose batches are decoded and written to the store's endpoint.
-/

namespace Telemetry
namespace Worker

/-- Carry out the calls of a writer with the store's client. -/
def storing (access : Store.Access) (table : String) :
    (request : Writer.Call) → Dialogue Store.interface (Writer.Call.Reply request)
  | .store records => Store.store access table records

/-- Decide on a batch by decoding it and writing it to a table. -/
def processor (access : Store.Access) (table : String) :
    Broker.Consumer.Processor Store.interface :=
  fun batch => (Writer.process batch).through (storing access table)

end Worker
end Telemetry
