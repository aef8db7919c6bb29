import Telemetry.Broker.Verdict
import Telemetry.Gateway

/-!
# Visits to the gateway

A visit is one call of ingestion together with what the registry, the clock and the broker reply to
it, so a list of visits is any sequence of calls with any behaviour of the collaborators.  What a
visit leaves in the broker's queue is one message if it is accepted and nothing otherwise.
-/

namespace Telemetry
namespace Ingest

theorem checkOwner_eq_ok_iff {organization owner : String} {reading : Reading}
    {found : Except Failure (Option String)} :
    checkOwner organization reading found = .ok owner ↔
      found = .ok (some owner) ∧ owner = organization := by
  cases found with
  | error failure => simp [checkOwner]
  | ok known =>
      cases known with
      | none => simp [checkOwner]
      | some name =>
          simp only [checkOwner]
          split <;> simp <;> grind

end Ingest

namespace Gateway

/-- One call of ingestion, with what its collaborators reply. -/
structure Visit where
  organization : String
  reading : Reading
  /-- The registry as it is during the call. -/
  registry : String → Except Failure (Option String)
  now : Instant
  /-- What the broker replies when the record is published. -/
  sent : Except Report Unit

namespace Visit

/-- The collaborators during a visit; a message that the broker confirms is put into its queue. -/
def collaborators (visit : Visit) : Dialogue.Collaborators interface (List Broker.Delivery)
  | .owner device, queue => (visit.registry device, queue)
  | .now, queue => (visit.now, queue)
  | .broker (.publish subject payload), queue =>
      (visit.sent, if visit.sent.isOk then queue ++ [⟨subject, payload⟩] else queue)

/-- The result of a visit and the broker's queue after it. -/
def run (base : String) (visit : Visit) (queue : List Broker.Delivery) :
    Except Failure Unit × List Broker.Delivery :=
  (ingest base visit.organization visit.reading).run visit.collaborators queue

def isAccepted (base : String) (visit : Visit) : Bool :=
  (visit.run base []).1.isOk

def record (visit : Visit) : Record :=
  visit.reading.stamp visit.organization visit.now

/-- The message that an accepted visit publishes. -/
def delivery (base : String) (visit : Visit) : Broker.Delivery :=
  ⟨Broker.subjectOf base visit.reading.device, visit.record.encode⟩

variable {base : String} {visit : Visit} {queue : List Broker.Delivery}

theorem run_eq_of_invalid {failure : Failure}
    (invalid : Ingest.validate visit.organization visit.reading = .error failure) :
    visit.run base queue = (.error failure, queue) := by
  simp [run, ingest, Ingest.ingest, invalid, Dialogue.through]

theorem run_eq_of_foreign {failure : Failure}
    (valid : Ingest.validate visit.organization visit.reading = .ok ())
    (foreign : Ingest.checkOwner visit.organization visit.reading
      (visit.registry visit.reading.device) = .error failure) :
    visit.run base queue = (.error failure, queue) := by
  simp [run, ingest, Ingest.ingest, valid, Dialogue.through, publishing, collaborators, foreign]

theorem run_eq_of_owned
    (valid : Ingest.validate visit.organization visit.reading = .ok ())
    (owned : visit.registry visit.reading.device = .ok (some visit.organization)) :
    visit.run base queue =
      (visit.sent.mapError Failure.broker,
        if visit.sent.isOk then queue ++ [visit.delivery base] else queue) := by
  have checked : Ingest.checkOwner visit.organization visit.reading
      (visit.registry visit.reading.device) = .ok visit.organization :=
    Ingest.checkOwner_eq_ok_iff.mpr ⟨owned, rfl⟩
  simp [run, ingest, Ingest.ingest, valid, Dialogue.through, publishing, collaborators, checked,
    Broker.Publisher.publish, delivery, record, Reading.stamp]

theorem isAccepted_of_owned
    (valid : Ingest.validate visit.organization visit.reading = .ok ())
    (owned : visit.registry visit.reading.device = .ok (some visit.organization))
    (sent : visit.sent = .ok ()) : visit.isAccepted base = true := by
  rw [isAccepted, run_eq_of_owned valid owned, sent]
  rfl

/-- A visit publishes exactly when it is accepted, and then the record of its reading. -/
theorem run_snd :
    (visit.run base queue).2 =
      queue ++ if visit.isAccepted base then [visit.delivery base] else [] := by
  rw [isAccepted]
  cases valid : Ingest.validate visit.organization visit.reading with
  | error failure => simp [run_eq_of_invalid valid, Except.isOk, Except.toBool]
  | ok _ =>
      cases checked : Ingest.checkOwner visit.organization visit.reading
          (visit.registry visit.reading.device) with
      | error failure => simp [run_eq_of_foreign valid checked, Except.isOk, Except.toBool]
      | ok owner =>
          obtain ⟨found, rfl⟩ := Ingest.checkOwner_eq_ok_iff.mp checked
          rw [run_eq_of_owned valid found, run_eq_of_owned valid found]
          cases visit.sent <;> simp [Except.isOk, Except.toBool]

end Visit

/-- The broker's queue after visits, one after the other. -/
def queueAfter (base : String) (visits : List Visit) : List Broker.Delivery :=
  visits.foldl (fun queue visit => (visit.run base queue).2) []

/-- The visits whose readings are accepted. -/
def accepted (base : String) (visits : List Visit) : List Visit :=
  visits.filter (Visit.isAccepted base)

theorem foldl_run (base : String) (visits : List Visit) (queue : List Broker.Delivery) :
    visits.foldl (fun queue visit => (visit.run base queue).2) queue =
      queue ++ (accepted base visits).map (Visit.delivery base) := by
  induction visits generalizing queue with
  | nil => simp [accepted]
  | cons visit rest ih =>
      rw [List.foldl_cons, ih, Visit.run_snd, accepted, accepted, List.filter_cons]
      split <;> simp

theorem queueAfter_eq (base : String) (visits : List Visit) :
    queueAfter base visits = (accepted base visits).map (Visit.delivery base) :=
  foldl_run base visits []

end Gateway
end Telemetry
