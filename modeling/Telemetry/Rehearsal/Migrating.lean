import Telemetry.Document.Printer
import Telemetry.Migration
import Telemetry.Rehearsal.Disk

/-!
# Rehearsing migrations

A machine on which some programs can be run.  A program prints its arguments as a list of quoted
texts on a line of their own, then what it is given to print, and ends as it is told.
-/

namespace Telemetry
namespace Rehearsal

/-- A program that can be run. -/
structure Program where
  name : String
  output : Bytes
  errors : Bytes
  status : ExitStatus

/-- The line that lists arguments. -/
def echo (arguments : List String) : String :=
  "[" ++ ",".intercalate (arguments.map quote) ++ "]\n"

/-- What a program leaves behind. -/
def Program.run (program : Program) (arguments : List String) : Output :=
  { status := program.status
    output := textBytes (echo arguments) ++ program.output
    errors := program.errors }

/-- The programs that can be run on a machine. -/
abbrev Machine := List Program

namespace Machine

/-- Run a command. -/
def execute (machine : Machine) (command : Command) : Except StartProblem Output :=
  match machine.find? fun program => program.name == command.program with
  | some program => .ok (program.run command.arguments)
  | none => .error (Disk.problemOf command.program)

/-- Reply to a call of a migration. -/
def collaborators : Dialogue.Collaborators Migration.interface Machine
  | .execute command, machine => (machine.execute command, machine)

end Machine
end Rehearsal
end Telemetry
