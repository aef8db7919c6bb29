import Telemetry.Failure
import Telemetry.Rehearsal.Script

/-!
# A rehearsed registry

The registry knows the owner of each device.  Its script can make a call fail, or name the count to
be returned.
-/

namespace Telemetry
namespace Rehearsal

/-- What a registry does instead of looking up. -/
inductive Interruption where
  | failure (failure : Failure)
  | count (devices : Nat)

/-- Devices and their owners, and the script of the calls to come. -/
structure Registry where
  owners : List (String × String)
  script : Script Interruption

namespace Registry

/-- The organization that owns a device. -/
def owner? (registry : Registry) (device : String) : Option String :=
  registry.owners.lookup device

/-- The number of devices that an organization owns. -/
def deviceCount (registry : Registry) (organization : String) : Nat :=
  registry.owners.countP fun entry => entry.2 == organization

/-- The registry after a call. -/
def advance (registry : Registry) : Registry :=
  { registry with script := registry.script.rest }

/-- The reply to a question for an owner. -/
def replyOwner (registry : Registry) (device : String) : Except Failure (Option String) :=
  match registry.script.next with
  | some (.failure failure) => .error failure
  | _ => .ok (registry.owner? device)

/-- The reply to a question for a count. -/
def replyCount (registry : Registry) (organization : String) : Except Failure Nat :=
  match registry.script.next with
  | some (.failure failure) => .error failure
  | some (.count devices) => .ok devices
  | none => .ok (registry.deviceCount organization)

/-- Take a device out of the registry. -/
def remove (registry : Registry) (device : String) : Registry :=
  { registry with owners := registry.owners.filter fun entry => entry.1 != device }

/-- Give a device to an organization. -/
def assign (registry : Registry) (device organization : String) : Registry :=
  { registry with owners := (device, organization) :: (registry.remove device).owners }

end Registry
end Rehearsal
end Telemetry
