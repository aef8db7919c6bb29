import Telemetry.Text.Octets

/-!
# Commands

A command names a program and its arguments.  Either it cannot be started, or it ends with a status,
by itself with a code or by a signal, and leaves its output behind.
-/

namespace Telemetry

/-- How a process ended. -/
inductive ExitStatus where
  | code (code : Nat)
  | signal (number : Nat)
  deriving DecidableEq, Repr

namespace ExitStatus

/-- The name of a signal, where it has one. -/
def signalName? : Nat → Option String
  | 1 => some "SIGHUP"
  | 2 => some "SIGINT"
  | 3 => some "SIGQUIT"
  | 4 => some "SIGILL"
  | 5 => some "SIGTRAP"
  | 6 => some "SIGABRT"
  | 7 => some "SIGBUS"
  | 8 => some "SIGFPE"
  | 9 => some "SIGKILL"
  | 10 => some "SIGUSR1"
  | 11 => some "SIGSEGV"
  | 12 => some "SIGUSR2"
  | 13 => some "SIGPIPE"
  | 14 => some "SIGALRM"
  | 15 => some "SIGTERM"
  | 16 => some "SIGSTKFLT"
  | 17 => some "SIGCHLD"
  | 18 => some "SIGCONT"
  | 19 => some "SIGSTOP"
  | 20 => some "SIGTSTP"
  | 21 => some "SIGTTIN"
  | 22 => some "SIGTTOU"
  | 23 => some "SIGURG"
  | 24 => some "SIGXCPU"
  | 25 => some "SIGXFSZ"
  | 26 => some "SIGVTALRM"
  | 27 => some "SIGPROF"
  | 28 => some "SIGWINCH"
  | 29 => some "SIGIO"
  | 30 => some "SIGPWR"
  | 31 => some "SIGSYS"
  | _ => none

/-- Whether the process ended well. -/
def success (status : ExitStatus) : Bool :=
  status == .code 0

/-- The wording of a status. -/
def message : ExitStatus → String
  | .code value => s!"exit status: {value}"
  | .signal number =>
      match signalName? number with
      | some name => s!"signal: {number} ({name})"
      | none => s!"signal: {number}"

end ExitStatus

/-- A program and its arguments. -/
structure Command where
  program : String
  arguments : List String
  deriving DecidableEq, Repr

/-- What a command leaves behind. -/
structure Output where
  status : ExitStatus
  output : Bytes
  errors : Bytes
  deriving DecidableEq, Repr

/-- Why a command cannot be started. -/
inductive StartProblem where
  /-- The program or an argument holds a character that ends texts. -/
  | unpassable
  | missing
  | denied
  /-- A part of the program's path that is no directory has parts below it. -/
  | noDirectory
  /-- The program's path, or a part of it, is too long. -/
  | longName
  deriving DecidableEq, Repr

/-- The wording of a start problem. -/
def StartProblem.message : StartProblem → String
  | .unpassable => "nul byte found in provided data"
  | .missing => "No such file or directory (os error 2)"
  | .denied => "Permission denied (os error 13)"
  | .noDirectory => "Not a directory (os error 20)"
  | .longName => "File name too long (os error 36)"

/-- Whether a command can be passed on: no text in it holds the character that ends texts. -/
def Command.passable (command : Command) : Bool :=
  (command.program :: command.arguments).all fun text => !text.contains (Char.ofNat 0)

end Telemetry
