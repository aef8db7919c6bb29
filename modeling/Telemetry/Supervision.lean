import Telemetry.Dialogue
import Telemetry.Failure

/-!
# Supervision

Processes run side by side under one cancellation.  The first that stops cancels the others; when
all have stopped, the closers run side by side under a time limit.  The first incident in the order
of stopping is the outcome.
-/

namespace Telemetry
namespace Supervision

/-- How a process ends. -/
inductive Ending where
  | finished
  | failed (incident : Incident)
  /-- It broke down instead of returning. -/
  | panicked (task text : String)
  deriving DecidableEq, Repr

/-- What an ending means for the outcome. -/
def Ending.incident? (name : String) : Ending → Option Incident
  | .finished => none
  | .failed incident => some (incident.context ("process '" ++ name ++ "' failed"))
  | .panicked task text => some (.ofReport (.of (.panicked task text)))

/-- What is supervised. -/
structure Plan where
  /-- The names of the processes, in the order of their registration. -/
  processes : List String
  /-- How many closers there are. -/
  closers : Nat
  /-- The time limit of the closers, in milliseconds. -/
  closerTimeout : Nat
  deriving DecidableEq, Repr

/-- The time limit of closers unless another is given, in milliseconds. -/
def defaultCloserTimeout : Nat := 10000

/-- What supervision asks of the scheduler. -/
inductive Call where
  /-- Start a process. -/
  | start (name : String)
  /-- Wait until another process stops. -/
  | join
  /-- Cancel whatever runs under the shared cancellation. -/
  | cancel
  /-- Call a closer, by its index, and let what it returns run. -/
  | close (index : Nat)
  /-- Wait until every closer has ended or the time limit, in milliseconds, is over. -/
  | drain (timeout : Nat)
  deriving DecidableEq, Repr

/-- The reply to each call: who stopped and how, and the words of a closer that breaks down when it
is called. -/
abbrev Call.Reply : Call → Type
  | .start _ => Unit
  | .join => String × Ending
  | .cancel => Unit
  | .close _ => Option String
  | .drain _ => Unit

/-- The scheduler as supervision sees it. -/
abbrev interface : Interface := ⟨Call, Call.Reply⟩

/-- How supervision ends. -/
inductive Conclusion where
  | returned (outcome : Except Incident Unit)
  /-- Calling a closer broke down, and supervision with it. -/
  | brokeDown (text : String)

/-- The exit code of a program that ends with its supervision. -/
def Conclusion.exitCode : Conclusion → Nat
  | .returned (.ok ()) => 0
  | .returned (.error _) => 1
  | .brokeDown _ => 101

/-- Start processes in order. -/
def startAll : List String → Dialogue interface Unit
  | [] => .done ()
  | name :: rest => .call (.start name) fun () => startAll rest

/-- Wait for the given number of processes.  Each that stops cancels the others; the first incident
is kept. -/
def joinAll : Nat → Option Incident → Dialogue interface (Option Incident)
  | 0, first => .done first
  | waiting + 1, first =>
      .call .join fun stopped =>
        .call .cancel fun () =>
          joinAll waiting (first.or (stopped.2.incident? stopped.1))

/-- Call closers in order; the first that breaks down when it is called ends that. -/
def closeAll : List Nat → Dialogue interface (Option String)
  | [] => .done none
  | index :: rest =>
      .call (.close index) fun
        | some text => .done (some text)
        | none => closeAll rest

/-- Run the closers; without closers there is nothing to wait for. -/
def runClosers (plan : Plan) : Dialogue interface (Option String) :=
  if plan.closers = 0 then
    .done none
  else
    (closeAll (List.range plan.closers)).bind fun
      | some text => .done (some text)
      | none => .call (.drain plan.closerTimeout) fun () => .done none

/-- The outcome that the first incident makes. -/
def outcomeOf : Option Incident → Except Incident Unit
  | none => .ok ()
  | some incident => .error incident

/-- Supervise a plan to its end. -/
def supervise (plan : Plan) : Dialogue interface Conclusion :=
  (startAll plan.processes).bind fun () =>
    (joinAll plan.processes.length none).bind fun first =>
      (runClosers plan).bind fun
        | some text => .done (.brokeDown text)
        | none => .done (.returned (outcomeOf first))

end Supervision
end Telemetry
