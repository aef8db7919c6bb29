import Telemetry.Rehearsal.Starting

/-!
# A dry run of the service

The program starts the service with the settings of its environment on a system that offers nothing:
no migration tool, no store and no broker.  It shows what the service would say until the first of
them is missed, and ends with the exit code of the service.
-/

namespace Telemetry

/-- The variables of the environment that the service looks at. -/
def readEnvironment : IO (List (String × String)) := do
  let names := Instrumentation.variableNames ++ Settings.names.map Settings.variableOf
  names.filterMapM fun name => do
    return (← IO.getEnv name).map fun value => (name, value)

end Telemetry

open Telemetry in
def main : IO UInt32 := do
  let (code, after) := Rehearsal.Starting.start [] (← readEnvironment)
  for complaint in after.complaints do
    IO.eprintln complaint
  for line in after.lines do
    IO.println (line.level.name ++ " " ++ line.message)
  return UInt32.ofNat code
