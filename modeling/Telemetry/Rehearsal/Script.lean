/-!
# Scripts

A script says, call by call, what goes wrong at a collaborator.  Where it says nothing, and once it
has run out, nothing goes wrong.
-/

namespace Telemetry
namespace Rehearsal

/-- What happens at each call that is still to come. -/
abbrev Script (α : Type) := List (Option α)

namespace Script

variable {α : Type}

/-- What happens at the next call. -/
def next (script : Script α) : Option α :=
  script.head?.join

/-- What is left of a script after one call. -/
def rest (script : Script α) : Script α :=
  script.tail

/-- Add a mishap at the end of a script. -/
def add (script : Script α) (mishap : α) : Script α :=
  script ++ [some mishap]

end Script

/-- Fail with a mishap, or succeed when there is none. -/
def succeedUnless {ε : Type} : Option ε → Except ε Unit
  | none => .ok ()
  | some mishap => .error mishap

end Rehearsal
end Telemetry
