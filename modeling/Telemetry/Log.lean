/-!
# Logs

Lines that the parts of a program write about what they do.
-/

namespace Telemetry
namespace Log

/-- How important a line is. -/
inductive Level where
  | error
  | warn
  | info
  | debug
  | trace
  deriving DecidableEq, Repr

/-- The rank of a level: the lower, the more important. -/
def Level.rank : Level → Nat
  | .error => 1
  | .warn => 2
  | .info => 3
  | .debug => 4
  | .trace => 5

/-- The name of a level. -/
def Level.name : Level → String
  | .error => "ERROR"
  | .warn => "WARN"
  | .info => "INFO"
  | .debug => "DEBUG"
  | .trace => "TRACE"

/-- A line of the log. -/
structure Line where
  /-- The part of the program that writes it. -/
  target : String
  level : Level
  message : String
  /-- The names of what else the line tells. -/
  details : List String
  deriving DecidableEq, Repr

/-- The names of all that a line tells. -/
def Line.fields (line : Line) : List String :=
  "message" :: line.details

end Log
end Telemetry
