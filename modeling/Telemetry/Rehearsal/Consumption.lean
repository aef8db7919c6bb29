import Telemetry.Rehearsal.Writing
import Telemetry.Worker

/-!
# Rehearsing a consumer

A consumer with a broker whose fetches are given.  A fetch may cancel the consumer while it is under
way, and so does the one that finds no fetch left.  The work on a batch is done by a writer, by a
list of verdicts, or by a worker whose store cannot be reached.
-/

namespace Telemetry
namespace Rehearsal

open Broker

/-- A message that may fail to be settled. -/
structure Message where
  delivery : Delivery
  acceptMishap : Option Report
  returnMishap : Option Report

/-- What one fetch brings. -/
structure Fetch where
  outcome : Except Report (List Message)
  /-- Whether the consumer is cancelled while the fetch is under way. -/
  cancels : Bool

/-- The collaborators of a consumer, those of its work included. -/
structure Consumption (ω : Type) where
  attaching : Option Report
  cancelled : Bool
  fetches : List Fetch
  /-- The messages of the last fetch. -/
  held : List Message
  work : ω
  notes : List Note

namespace Consumption

variable {ω : Type} {work : Interface}

/-- Note a call. -/
def note (state : Consumption ω) (note : Note) : Consumption ω :=
  { state with notes := state.notes ++ [note] }

/-- What a fetch replies, and the collaborators after it. -/
def fetch (state : Consumption ω) : Except Report (List Delivery) × Consumption ω :=
  match state.fetches with
  | [] => (.ok [], { state with cancelled := true, held := [] })
  | next :: rest =>
      (next.outcome.map fun messages => messages.map Message.delivery,
        { state with
          fetches := rest
          cancelled := state.cancelled || next.cancels
          held := next.outcome.toOption.getD [] })

/-- Settle a held message, which may be one that cannot be settled. -/
def settle (state : Consumption ω) (index : Nat) (mishapOf : Message → Option Report)
    (done undone : Note) : Except Report Unit × Consumption ω :=
  match state.held[index]?.bind mishapOf with
  | none => (.ok (), state.note done)
  | some mishap => (.error mishap, state.note undone)

/-- Reply to a call of a consumer, whose work is carried out as given. -/
def collaborators (perform : Dialogue.Collaborators work (Consumption ω)) :
    Dialogue.Collaborators (Consumer.interface work) (Consumption ω)
  | .attach config, state => (succeedUnless state.attaching, state.note (.attached config))
  | .cancelled, state => (state.cancelled, state)
  | .fetch config, state =>
      (state.note (.fetching config.batchSize (config.maxWait * 1000))).fetch
  | .accept index, state =>
      state.settle index Message.acceptMishap (.accepted index) (.unaccepted index)
  | .giveBack index, state =>
      state.settle index Message.returnMishap (.returned index) (.unreturned index)
  | .work request, state => perform request state

/-- Run a consumer.  Each turn that goes on uses up a fetch, so the turns suffice. -/
def start (state : Consumption ω) (perform : Dialogue.Collaborators work (Consumption ω))
    (config : Consumer.Config) (processor : Consumer.Processor work) :
    Option (Except Incident Unit) × Consumption ω :=
  (Consumer.start config processor (state.fetches.length + 2)).run (collaborators perform) state

/-- The work of a writer. -/
def writing : Dialogue.Collaborators Writer.interface (Consumption (Script Failure))
  | .store records, state =>
      let (outcome, after) :=
        Writing.collaborators (.store records) ⟨state.work, state.notes⟩
      (outcome, { state with work := after.storing, notes := after.notes })

/-- A decision that somebody else makes. -/
inductive Decision where
  | on (batch : List Delivery)

/-- Whoever decides on batches. -/
abbrev deciding : Interface := ⟨Decision, fun _ => Verdict⟩

/-- The processor that leaves the decision to somebody else. -/
def decide : Consumer.Processor deciding :=
  fun batch => .call (.on batch) .done

/-- The work of a list of verdicts; once it has run out nothing is settled. -/
def verdicts : Dialogue.Collaborators deciding (Consumption (List Verdict))
  | .on batch, state =>
      (state.work.headD Verdict.none,
        { state with
          work := state.work.tail
          notes := state.notes ++ [.deciding batch.length] })

end Consumption
end Rehearsal
end Telemetry
