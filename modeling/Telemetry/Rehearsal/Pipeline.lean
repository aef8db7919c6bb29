import Telemetry.Gateway
import Telemetry.Histogram.Aggregate
import Telemetry.Histogram.Fill
import Telemetry.Histogram.Request
import Telemetry.Rehearsal.Note
import Telemetry.Rehearsal.Registry
import Telemetry.Writer

/-!
# Rehearsing the whole pipeline

The services wired together in memory: ingestion publishes to a queue, a consumer writes what it
fetches from the queue to a store, and requests are answered from the store.  A returned message
goes to the end of the queue.
-/

namespace Telemetry
namespace Rehearsal

open Broker

/-- The registry, the broker and the store of a pipeline. -/
structure Pipeline where
  registry : Registry
  now : Instant
  publishing : Script Report
  storing : Script Failure
  queue : List Delivery
  /-- How many messages were published. -/
  published : Nat
  stored : List Record
  /-- The messages of the last fetch. -/
  held : List Delivery
  /-- Whether the running consumer is cancelled. -/
  cancelled : Bool
  notes : List Note

namespace Pipeline

/-- A pipeline through which nothing has passed. -/
def ofOwners (owners : List (String × String)) (now : Instant) : Pipeline :=
  { registry := ⟨owners, []⟩
    now
    publishing := []
    storing := []
    queue := []
    published := 0
    stored := []
    held := []
    cancelled := false
    notes := [] }

/-- Note a call. -/
def note (state : Pipeline) (note : Note) : Pipeline :=
  { state with notes := state.notes ++ [note] }

/-- The base subject of every record. -/
def baseSubject : String := "processed_envelopes"

/-- The consumer that feeds the store. -/
def consumer (batchSize : Nat) : Consumer.Config :=
  { stream := baseSubject
    name := "analytics_worker"
    filter := baseSubject ++ ".>"
    batchSize
    maxWait := 1 }

/-- Reply to a call of the publisher. -/
def publisher : Dialogue.Collaborators Publisher.interface Pipeline
  | .publish subject payload, state =>
      let after := { state with publishing := state.publishing.rest }
      match state.publishing.next with
      | some mishap => (.error mishap, after.note (.unsent subject))
      | none =>
          (.ok (),
            { after with
              queue := after.queue ++ [⟨subject, payload⟩]
              published := after.published + 1
              notes := after.notes ++ [.sent subject (Record.decode payload)] })

/-- Reply to a call of the gateway. -/
def gateway : Dialogue.Collaborators Gateway.interface Pipeline
  | .owner device, state =>
      (state.registry.replyOwner device,
        { state with
          registry := state.registry.advance
          notes := state.notes ++ [.owner device] })
  | .now, state => (state.now, state)
  | .broker request, state => publisher request state

/-- Reply to a call of the writer. -/
def store : Dialogue.Collaborators Writer.interface Pipeline
  | .store records, state =>
      let after := { state with storing := state.storing.rest }
      match state.storing.next with
      | some mishap => (.error mishap, after.note (.unstored records.length))
      | none =>
          (.ok (),
            { after with
              stored := after.stored ++ records
              notes := after.notes ++ [.stored records] })

/-- Take messages from the head of the queue; a consumer that finds none is cancelled. -/
def fetch (state : Pipeline) (batchSize : Nat) : List Delivery × Pipeline :=
  let batch := state.queue.take batchSize
  (batch,
    { state with
      queue := state.queue.drop batchSize
      held := batch
      cancelled := state.queue.isEmpty
      notes := state.notes ++ [.fetched batch.length] })

/-- Reply to a call of the consumer. -/
def broker : Dialogue.Collaborators (Consumer.interface Writer.interface) Pipeline
  | .attach _, state => (.ok (), state)
  | .cancelled, state => (state.cancelled, state)
  | .fetch config, state =>
      let (batch, after) := state.fetch config.batchSize
      (.ok batch, after)
  | .accept index, state => (.ok (), state.note (.accepted index))
  | .giveBack index, state =>
      (.ok (),
        { state with
          queue := state.queue ++ state.held[index]?.toList
          notes := state.notes ++ [.returned index] })
  | .work request, state => store request state

/-- The value that a query finds in a record of its scope. -/
def valueIn? (query : Histogram.Query) (record : Record) : Option Double :=
  if record.organization == query.organization &&
      (query.devices.isEmpty || query.devices.contains record.device) &&
      query.start.le record.occurredAt && !query.stop.le record.occurredAt then
    record.data.numberAt? (Histogram.FieldPath.split query.path)
  else
    none

/-- The observations of a query, in the order of the records. -/
def observations (query : Histogram.Query) (records : List Record) : List Histogram.Observation :=
  records.filterMap fun record =>
    (valueIn? query record).map fun value =>
      { opening := Histogram.alignedStart query.interval record.occurredAt.seconds, value }

/-- Reply to a call of a request. -/
def requests : Dialogue.Collaborators Histogram.interface Pipeline
  | .deviceCount organization, state =>
      (state.registry.replyCount organization,
        { state with
          registry := state.registry.advance
          notes := state.notes ++ [.deviceCount organization] })
  | .windows query, state =>
      (query.fill (Histogram.aggregate query.thresholds (observations query state.stored)),
        state.note (.query query))

/-- What can be done to a pipeline. -/
inductive Step where
  | ingest (organization : String) (reading : Reading)
  | ask (request : Histogram.Request)
  /-- Run a consumer until it finds the queue empty or fails. -/
  | consume (batchSize : Nat)
  /-- Put a message at the end of the queue. -/
  | push (delivery : Delivery)
  /-- Take the message at the head out of the queue. -/
  | drop
  | assign (device organization : String)
  | remove (device : String)
  | failRegistry (interruption : Interruption)
  | failPublishing (mishap : Report)
  | failStoring (mishap : Failure)

/-- What a step results in. -/
inductive Outcome where
  | changed
  | ingested (result : Except Failure Unit)
  | answered (result : Except Failure Histogram.Answer)
  /-- The result of a consumer; none if it was still running. -/
  | consumed (result : Option (Except Incident Unit))

/-- Do one step.  Each turn of a consumer that goes on takes a message out of the queue, so the
turns suffice. -/
def step (state : Pipeline) : Step → Outcome × Pipeline
  | .ingest organization reading =>
      let (result, after) :=
        (Gateway.ingest baseSubject organization reading).run gateway state
      (.ingested result, after)
  | .ask request =>
      let (result, after) := request.answer.run requests state
      (.answered result, after)
  | .consume batchSize =>
      let (result, after) :=
        (Consumer.start (consumer batchSize) Writer.process (state.queue.length + 2)).run broker
          { state with cancelled := false, held := [] }
      (.consumed result, after)
  | .push delivery => (.changed, { state with queue := state.queue ++ [delivery] })
  | .drop => (.changed, { state with queue := state.queue.tail })
  | .assign device organization =>
      (.changed, { state with registry := state.registry.assign device organization })
  | .remove device => (.changed, { state with registry := state.registry.remove device })
  | .failRegistry interruption =>
      (.changed,
        { state with
          registry := { state.registry with script := state.registry.script.add interruption } })
  | .failPublishing mishap => (.changed, { state with publishing := state.publishing.add mishap })
  | .failStoring mishap => (.changed, { state with storing := state.storing.add mishap })

/-- Do steps one after the other; each outcome comes with the pipeline after it, whose notes are
those of that step alone. -/
def steps (state : Pipeline) : List Step → List (Outcome × Pipeline)
  | [] => []
  | first :: rest =>
      let (outcome, after) := { state with notes := [] }.step first
      (outcome, after) :: after.steps rest

end Pipeline
end Rehearsal
end Telemetry
