import Telemetry.Histogram.Fill
import Telemetry.Histogram.Request
import Telemetry.Rehearsal.Note
import Telemetry.Rehearsal.Registry

/-!
# Rehearsing requests

A histogram request with a registry and a store whose rows, or whose failure, are given.
-/

namespace Telemetry
namespace Rehearsal

/-- The collaborators of a request. -/
structure Asking where
  registry : Registry
  rows : Except Failure (List Histogram.Row)
  notes : List Note

namespace Asking

/-- Reply to a call of a request. -/
def collaborators : Dialogue.Collaborators Histogram.interface Asking
  | .deviceCount organization, state =>
      (state.registry.replyCount organization,
        { state with
          registry := state.registry.advance
          notes := state.notes ++ [.deviceCount organization] })
  | .windows query, state =>
      (state.rows.bind query.fill, { state with notes := state.notes ++ [.query query] })

/-- Answer a request. -/
def answer (state : Asking) (request : Histogram.Request) :
    Except Failure Histogram.Answer × Asking :=
  request.answer.run collaborators state

end Asking
end Rehearsal
end Telemetry
