import Telemetry.Histogram.Request
import Telemetry.Store.Client

/-!
# Inquiries

An inquiry is a histogram request whose windows come from a table of the store.
-/

namespace Telemetry
namespace Inquiry

/-- What an inquiry asks: of the registry, and of the store's endpoint. -/
inductive Call where
  /-- The number of devices of an organization. -/
  | deviceCount (organization : String)
  | store (request : Store.Call)

/-- The reply to each call. -/
abbrev Call.Reply : Call → Type
  | .deviceCount _ => Except Failure Nat
  | .store request => request.Reply

/-- The collaborators of an inquiry. -/
abbrev interface : Interface := ⟨Call, Call.Reply⟩

/-- Carry out the calls of a request, taking windows from a table. -/
def reading (access : Store.Access) (table : String) :
    (request : Histogram.Call) → Dialogue interface (Histogram.Call.Reply request)
  | .deviceCount organization => .call (.deviceCount organization) .done
  | .windows query =>
      (Store.windows access table query).through fun request => .call (.store request) .done

/-- Answer a request from a table. -/
def answer (access : Store.Access) (table : String) (request : Histogram.Request) :
    Dialogue interface (Except Failure Histogram.Answer) :=
  request.answer.through (reading access table)

end Inquiry
end Telemetry
