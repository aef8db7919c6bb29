import Telemetry.Supervision

/-!
# Rehearsing supervision

A scheduler with a clock of its own, in milliseconds: processes and closers take the time they are
given and nothing else takes any.
-/

namespace Telemetry
namespace Rehearsal

open Supervision

/-- A process with its timing: it ends some time after its start or, if it waits, after its
cancellation. -/
structure Job where
  name : String
  waits : Bool
  /-- In milliseconds. -/
  delay : Nat
  ending : Ending

/-- What happens at a moment. -/
inductive Happening where
  | started (name : String)
  | cancelled (name : String)
  | ended (name : String)
  | closing (index : Nat)
  | closed (index : Nat)

/-- A happening and its time. -/
structure Moment where
  time : Nat
  what : Happening

/-- The state of the scheduler. -/
structure Schedule where
  /-- The processes that run, in the order of their registration. -/
  running : List Job
  /-- When the shared cancellation takes effect, as far as is known. -/
  cancelledAt : Option Nat
  /-- How long each closer takes. -/
  closers : List Nat
  now : Nat
  /-- When the closers were called. -/
  closingAt : Nat
  moments : List Moment

namespace Schedule

/-- The time at which a process ends, unless it waits for a cancellation not yet in sight. -/
def endOf? (state : Schedule) (job : Job) : Option Nat :=
  if job.waits then state.cancelledAt.map (· + job.delay) else some job.delay

/-- Whether a time comes no later than another one, where a time not in sight comes last. -/
def noLater : Option Nat → Option Nat → Bool
  | _, none => true
  | none, some _ => false
  | some left, some right => left ≤ right

/-- Find the process that ends first, of several the one registered first, and the others. -/
def first? (state : Schedule) : List Job → Option (Job × List Job)
  | [] => none
  | job :: rest =>
      match state.first? rest with
      | none => some (job, [])
      | some (earliest, others) =>
          if noLater (state.endOf? job) (state.endOf? earliest) then
            some (job, rest)
          else
            some (earliest, job :: others)

/-- The scheduler when a process has stopped.  One that nothing will ever cancel is let go. -/
def stop (state : Schedule) (job : Job) : Schedule :=
  let cancelled := state.cancelledAt.getD state.now
  let ended := (state.endOf? job).getD state.now
  { state with
    now := max state.now ended
    moments := state.moments ++
      (if job.waits then [⟨cancelled, .cancelled job.name⟩] else []) ++
      [⟨ended, .ended job.name⟩] }

/-- What happens in the life of a closer that starts now; a time limit cuts it off. -/
def closing (state : Schedule) (timeout index delay : Nat) : List Moment :=
  ⟨state.now, .closing index⟩ ::
    (if delay < timeout then [⟨state.now + delay, .closed index⟩] else [])

/-- Reply to a call of supervision.  When the time limit is nothing, no closer gets to run. -/
def collaborators : Dialogue.Collaborators Supervision.interface Schedule
  | .start name, state =>
      ((), { state with moments := state.moments ++ [⟨state.now, .started name⟩] })
  | .join, state =>
      match state.first? state.running with
      | none => (("", .finished), state)
      | some (job, others) => ((job.name, job.ending), { state.stop job with running := others })
  | .cancel, state =>
      ((), { state with cancelledAt := some (min state.now (state.cancelledAt.getD state.now)) })
  | .close _, state => (none, { state with closingAt := state.now })
  | .drain timeout, state =>
      ((),
        { state with
          now := state.now + min timeout (state.closers.foldl max 0)
          moments := state.moments ++
            if timeout = 0 then
              []
            else
              (state.closers.zipIdx.map fun (delay, index) =>
                state.closing timeout index delay).flatten })

/-- The scheduler before anything has started. -/
def initial (jobs : List Job) (cancelledAt : Option Nat) (closers : List Nat) : Schedule :=
  { running := jobs, cancelledAt, closers, now := 0, closingAt := 0, moments := [] }

/-- Supervise the processes of a schedule, with further closers beyond its own. -/
def supervise (state : Schedule) (further closerTimeout : Nat) : Conclusion × Schedule :=
  (Supervision.supervise
    { processes := state.running.map Job.name
      closers := state.closers.length + further
      closerTimeout }).run collaborators state

/-- Whether the shared cancellation has taken effect. -/
def isCancelled (state : Schedule) : Bool :=
  state.cancelledAt.any (· ≤ state.now)

/-- How long the reporting closer waits, in milliseconds. -/
def reportDelay : Nat := 5000

/-- What a last closer has to report of a supervised schedule: all that has happened up to the
moment when it ends, if it does. -/
def report (after : Schedule) (closerTimeout : Nat) : List Moment :=
  if reportDelay < closerTimeout then
    after.moments.filter fun moment => moment.time ≤ after.closingAt + reportDelay
  else
    []

end Schedule
end Rehearsal
end Telemetry
