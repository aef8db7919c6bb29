import Telemetry.Rehearsal.Note
import Telemetry.Rehearsal.Script

/-!
# Rehearsing the broker's publishing side

Publishers and the provisioning of streams with a broker that may fail.
-/

namespace Telemetry
namespace Rehearsal

/-- The broker as a publisher sees it: its script and what it has got. -/
structure Sending where
  script : Script Report
  sent : List (String × Bytes)

namespace Sending

/-- Reply to a call of a publisher. -/
def collaborators : Dialogue.Collaborators Broker.Publisher.interface Sending
  | .publish subject payload, state =>
      match state.script.next with
      | none =>
          (.ok (), ⟨state.script.rest, state.sent ++ [(subject, payload)]⟩)
      | some mishap => (.error mishap, ⟨state.script.rest, state.sent⟩)

/-- Publish records one after the other, whatever became of the others. -/
def publishAll (state : Sending) (base : String) (records : List Record) :
    List (Except Failure Unit) × Sending :=
  (Dialogue.forEach records (Broker.Publisher.publish base)).run collaborators state

end Sending

/-- The broker as provisioning sees it. -/
structure Provisioning where
  script : Script Report
  notes : List Note

namespace Provisioning

/-- Reply to a call of provisioning. -/
def collaborators : Dialogue.Collaborators Broker.Stream.interface Provisioning
  | .find name, state =>
      (succeedUnless state.script.next,
        ⟨state.script.rest, state.notes ++ [.streamSought name]⟩)
  | .create stream, state =>
      (succeedUnless state.script.next,
        ⟨state.script.rest, state.notes ++ [.streamCreated stream]⟩)

/-- Make sure that a stream exists. -/
def ensure (state : Provisioning) (name : String) : Except Report Unit × Provisioning :=
  (Broker.Stream.ensure name).run collaborators state

end Provisioning
end Rehearsal
end Telemetry
