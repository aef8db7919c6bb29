import Telemetry.Proofs.Course
import Telemetry.Proofs.Gateway

/-!
# Admission of readings

Whatever the registry, the clock and the broker do, a call of ingestion takes one of three courses:
it is refused before anything is asked, it ends with the reply of the registry, or the device
belongs to the organization that claims the reading and one record is published.  What is published
and what is returned follow from the replies alone.
-/

namespace Telemetry

open Dialogue

theorem requireSound_eq_ok_iff {faults : List FieldFault} :
    requireSound faults = .ok () ↔ faults = [] := by
  cases faults <;> simp [requireSound]

theorem requireSound_eq_error_iff {faults : List FieldFault} {failure : Failure} :
    requireSound faults = .error failure ↔
      faults ≠ [] ∧ failure = .rejected (.fields faults) := by
  cases faults <;> simp [requireSound, eq_comm]

theorem Reading.faults_eq_nil_iff {reading : Reading} :
    reading.faults = [] ↔ reading.device ≠ "" ∧ reading.data.isEmpty = false := by
  simp [faults, and_comm]

namespace Ingest

variable {organization : String} {reading : Reading} {failure : Failure}

/-- Whether a request has all that ingestion needs before it asks for the owner. -/
structure Complete (organization : String) (reading : Reading) : Prop where
  organization : organization ≠ ""
  device : reading.device ≠ ""
  data : reading.data.isEmpty = false

theorem validate_eq_ok_iff :
    validate organization reading = .ok () ↔ Complete organization reading := by
  rw [validate]
  split
  next nameless =>
    constructor
    · intro impossible
      cases impossible
    · intro complete
      exact absurd nameless complete.organization
  next named =>
    rw [Reading.validate, requireSound_eq_ok_iff, Reading.faults_eq_nil_iff]
    constructor
    · rintro ⟨device, data⟩
      exact ⟨named, device, data⟩
    · intro complete
      exact ⟨complete.device, complete.data⟩

theorem exists_faults_of_validate (invalid : validate organization reading = .error failure) :
    ∃ faults, faults ≠ [] ∧ failure = .rejected (.fields faults) := by
  rw [validate] at invalid
  split at invalid
  · cases invalid
    exact ⟨[.emptyOrganization], List.cons_ne_nil _ _, rfl⟩
  · exact ⟨reading.faults, requireSound_eq_error_iff.mp invalid⟩

end Ingest

namespace Gateway

variable {base organization : String} {reading : Reading}
  {exchanges : List (Exchange interface)} {outcome : Except Failure Unit}

/-- A lookup in the registry: the device and what is found for it. -/
def lookup? : Exchange interface → Option (String × Except Failure (Option String))
  | ⟨.owner device, found⟩ => some (device, found)
  | ⟨.now, _⟩ => none
  | ⟨.broker _, _⟩ => none

def publication? : Exchange interface → Option (Broker.Delivery × Except Report Unit)
  | ⟨.owner _, _⟩ => none
  | ⟨.now, _⟩ => none
  | ⟨.broker (.publish subject payload), sent⟩ => some (⟨subject, payload⟩, sent)

/-- The exchange in which a record is handed to the broker. -/
abbrev handing (base : String) (record : Record) (sent : Except Report Unit) : Exchange interface :=
  ⟨.broker (.publish (Broker.subjectOf base record.device) record.encode), sent⟩

theorem course_publish_iff {record : Record} :
    Course (publishing base (.publish record)) exchanges outcome ↔
      ∃ sent, exchanges = [handing base record sent] ∧ outcome = sent.mapError Failure.broker := by
  rw [publishing, Broker.Publisher.publish]
  simp only [through, call_bind, done_bind, course_call_iff, course_done_iff]
  constructor
  · rintro ⟨sent, rest, rfl, rfl, rfl⟩
    exact ⟨sent, rfl, rfl⟩
  · rintro ⟨sent, rfl, rfl⟩
    exact ⟨sent, [], rfl, rfl, rfl⟩

/-- Ingestion is refused, fails by the registry's reply, or publishes one record. -/
theorem course_ingest_iff :
    Course (ingest base organization reading) exchanges outcome ↔
      (∃ failure, Ingest.validate organization reading = .error failure ∧ exchanges = [] ∧
          outcome = .error failure) ∨
        Ingest.validate organization reading = .ok () ∧
          ((∃ found failure, Ingest.checkOwner organization reading found = .error failure ∧
              exchanges = [⟨.owner reading.device, found⟩] ∧ outcome = .error failure) ∨
            ∃ now sent, exchanges =
                [⟨.owner reading.device, .ok (some organization)⟩, ⟨.now, now⟩,
                  handing base (reading.stamp organization now) sent] ∧
              outcome = sent.mapError Failure.broker) := by
  rw [ingest, Ingest.ingest]
  cases valid : Ingest.validate organization reading with
  | error failure =>
      rw [through, course_done_iff]
      constructor
      · rintro ⟨rfl, rfl⟩
        exact .inl ⟨failure, rfl, rfl, rfl⟩
      · rintro (⟨_, ⟨⟩, rfl, rfl⟩ | ⟨impossible, _⟩)
        · exact ⟨rfl, rfl⟩
        · cases impossible
  | ok _ =>
      simp only [reduceCtorEq, false_and, exists_false, false_or, true_and]
      rw [through, publishing, call_bind, course_call_iff]
      simp only [done_bind]
      constructor
      · rintro ⟨found, rest, rfl, course⟩
        cases checked : Ingest.checkOwner organization reading found with
        | error failure =>
            rw [checked] at course
            obtain ⟨rfl, rfl⟩ := course_done_iff.mp course
            exact .inl ⟨found, failure, checked, rfl, rfl⟩
        | ok owner =>
            rw [checked] at course
            obtain ⟨rfl, rfl⟩ := Ingest.checkOwner_eq_ok_iff.mp checked
            obtain ⟨now, last, rfl, published⟩ := course_call_iff.mp course
            rw [done_bind, through, course_bind_iff] at published
            obtain ⟨before, value, after, rfl, sending, ended⟩ := published
            obtain ⟨sent, rfl, rfl⟩ := course_publish_iff.mp sending
            obtain ⟨rfl, rfl⟩ := course_done_iff.mp ended
            exact .inr ⟨now, sent, rfl, rfl⟩
      · rintro (⟨found, failure, checked, rfl, rfl⟩ | ⟨now, sent, rfl, rfl⟩)
        · refine ⟨found, [], rfl, ?_⟩
          rw [checked]
          exact .done _
        · refine ⟨_, _, rfl, ?_⟩
          rw [Ingest.checkOwner_eq_ok_iff.mpr ⟨rfl, rfl⟩]
          refine .call ?_
          rw [done_bind, through, course_bind_iff]
          exact ⟨_, _, [], rfl, course_publish_iff.mpr ⟨sent, rfl, rfl⟩, .done _⟩

/-- What the reply of the registry decides: one record for the owner, or the first failure. -/
structure Decides (base organization : String) (reading : Reading)
    (found : Except Failure (Option String)) (exchanges : List (Exchange interface))
    (outcome : Except Failure Unit) : Prop where
  publishes_iff : exchanges.filterMap publication? ≠ [] ↔ found = .ok (some organization)
  failed : ∀ failure, found = .error failure → outcome = .error failure
  unknown : found = .ok none → outcome = .error (.unknownDevice reading.device)
  foreign : ∀ owner, found = .ok (some owner) → owner ≠ organization →
    outcome = .error (.tenancyMismatch reading.device owner organization)
  owned : found = .ok (some organization) → ∃ (record : Record) (sent : Except Report Unit),
    exchanges.filterMap publication? =
        [(⟨base ++ "." ++ reading.device, record.encode⟩, sent)] ∧
      record.organization = organization ∧ record.device = reading.device ∧
      record.data = reading.data ∧ ⟨.now, record.processedAt⟩ ∈ exchanges ∧
      record.occurredAt = reading.occurredAt.getD record.processedAt ∧
      outcome = sent.mapError Failure.broker

theorem decides_of_checkOwner {found : Except Failure (Option String)} {failure : Failure}
    (checked : Ingest.checkOwner organization reading found = .error failure) :
    Decides base organization reading found [⟨.owner reading.device, found⟩] (.error failure) := by
  have foreign : found ≠ .ok (some organization) := by
    intro owned
    rw [Ingest.checkOwner_eq_ok_iff.mpr ⟨owned, rfl⟩] at checked
    cases checked
  constructor
  case publishes_iff => simp [publication?, foreign]
  case failed =>
    rintro _ rfl
    simpa [Ingest.checkOwner, eq_comm] using checked
  case unknown =>
    rintro rfl
    simpa [Ingest.checkOwner, eq_comm] using checked
  case foreign =>
    rintro owner rfl apart
    simpa [Ingest.checkOwner, apart, eq_comm] using checked
  case owned =>
    intro owned
    exact absurd owned foreign

theorem decides_of_owner (now : Instant) (sent : Except Report Unit) :
    Decides base organization reading (.ok (some organization))
      [⟨.owner reading.device, .ok (some organization)⟩, ⟨.now, now⟩,
        handing base (reading.stamp organization now) sent]
      (sent.mapError Failure.broker) := by
  constructor
  case publishes_iff => simp [publication?]
  case failed => simp
  case unknown => simp
  case foreign =>
    rintro owner same apart
    simp at same
    exact absurd same.symm apart
  case owned =>
    intro _
    refine ⟨reading.stamp organization now, sent, rfl, rfl, rfl, rfl, ?_, rfl, rfl⟩
    simp [Reading.stamp]

/-- A reading is published only if it is complete and for its device's owner. -/
theorem published_only_for_owner
    (course : Course (ingest base organization reading) exchanges outcome) :
    (¬Ingest.Complete organization reading →
        exchanges = [] ∧
          ∃ faults, faults ≠ [] ∧ outcome = .error (.rejected (.fields faults))) ∧
      (Ingest.Complete organization reading →
        ∃ found, exchanges.filterMap lookup? = [(reading.device, found)] ∧
          Decides base organization reading found exchanges outcome) ∧
      (outcome = .ok () ↔
        ∃ delivery, (delivery, .ok ()) ∈ exchanges.filterMap publication?) := by
  obtain ⟨failure, invalid, rfl, rfl⟩ | ⟨valid, ended⟩ := course_ingest_iff.mp course
  · have refused : ¬Ingest.Complete organization reading := by
      rw [← Ingest.validate_eq_ok_iff, invalid]
      exact nofun
    obtain ⟨faults, some, rfl⟩ := Ingest.exists_faults_of_validate invalid
    refine ⟨fun _ => ⟨rfl, faults, some, rfl⟩, fun complete => absurd complete refused, ?_⟩
    simp
  · have complete := Ingest.validate_eq_ok_iff.mp valid
    refine ⟨fun lacking => absurd complete lacking, fun _ => ?_, ?_⟩
    · obtain ⟨found, failure, checked, rfl, rfl⟩ | ⟨now, sent, rfl, rfl⟩ := ended
      · exact ⟨found, rfl, decides_of_checkOwner checked⟩
      · exact ⟨.ok (some organization), rfl, decides_of_owner now sent⟩
    · obtain ⟨found, failure, checked, rfl, rfl⟩ | ⟨now, sent, rfl, rfl⟩ := ended
      · simp [publication?]
      · cases sent <;> simp [publication?]

section Example

def timelessReading : Reading :=
  ⟨"device-1", none, ⟨[("humidity", .number (.integer 40 (by decide)))], by decide⟩⟩

/-- The reading gets the time of its ingestion, and the broker's refusal is returned. -/
theorem timeless_reading_handed_over :
    ∃ (exchanges : List (Exchange interface)) (record : Record),
      Course (ingest "base" "org-1" timelessReading) exchanges
          (.error (.broker (.of (.stated "timeout")))) ∧
        exchanges.filterMap publication? =
          [(⟨"base.device-1", record.encode⟩, .error (.of (.stated "timeout")))] ∧
        record.occurredAt = record.processedAt := by
  have complete : Ingest.Complete "org-1" timelessReading := ⟨by decide, by decide, by decide⟩
  have course : Course (ingest "base" "org-1" timelessReading) _ _ :=
    course_ingest_iff.mpr (.inr ⟨Ingest.validate_eq_ok_iff.mpr complete, .inr
      ⟨⟨0, 0, by decide⟩, .error (.of (.stated "timeout")), rfl, rfl⟩⟩)
  obtain ⟨-, looked, -⟩ := published_only_for_owner course
  obtain ⟨found, lookup, decides⟩ := looked complete
  obtain rfl : .ok (some "org-1") = found := by simpa [lookup?] using lookup
  obtain ⟨record, sent, published, -, -, -, -, happened, same⟩ := decides.owned rfl
  cases sent with
  | ok _ => cases same
  | error report =>
      cases same
      exact ⟨_, record, course, published, happened⟩

end Example

end Gateway
end Telemetry
