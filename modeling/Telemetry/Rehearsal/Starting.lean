import Telemetry.Rehearsal.Migrating
import Telemetry.Rehearsal.Network
import Telemetry.Service

/-!
# Rehearsing the service

The service on a machine with some programs, and with neither a store nor a broker that can be
reached.
-/

namespace Telemetry
namespace Rehearsal

/-- The surroundings of the service. -/
structure Starting where
  machine : Machine
  access : Store.Access
  complaints : List String
  lines : List Log.Line

namespace Starting

/-- What there is to say about a broker that was never there. -/
def noBroker : Report :=
  .of (.broker (.unconnected .unreachable))

/-- Reply to a call of the service. -/
def collaborators : Dialogue.Collaborators Service.interface Starting
  | .complain line, state => ((), { state with complaints := state.complaints ++ [line] })
  | .log line, state => ((), { state with lines := state.lines ++ [line] })
  | .migrate (.execute command), state => (state.machine.execute command, state)
  | .store request, state => Network.collaborators state.access request state
  | .connect url _, state => (Network.connect url, state)
  | .provision (.find _), state => (.error noBroker, state)
  | .provision (.create _), state => (.error noBroker, state)
  | .attach _, state => (.error noBroker, state)
  | .serve .., state => (.returned (.error (.ofReport noBroker)), state)

/-- The settings that the service has in an environment. -/
def settingsOf (environment : List (String × String)) : Settings :=
  (Settings.ofEnvironment environment).toOption.getD Settings.default

/-- Run the service in an environment. -/
def start (machine : Machine) (environment : List (String × String)) : Nat × Starting :=
  (Service.start environment).run collaborators
    ⟨machine, Service.accessOf (settingsOf environment), [], []⟩

end Starting
end Rehearsal
end Telemetry
