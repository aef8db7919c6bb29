import Telemetry.Inquiry
import Telemetry.Proofs.Feed
import Telemetry.Proofs.Histogram.Aggregate
import Telemetry.Proofs.Histogram.Binding
import Telemetry.Proofs.Histogram.Request
import Telemetry.Proofs.Readability

/-!
# Histograms of accepted readings

Readings pass through the gateway, the broker and a worker into the store, and a request is answered
from what the store has.  As long as nothing fails on the way, the windows of the answer are those
that the accepted readings make by themselves, before they are stamped, written, batched, stored and
selected.
-/

namespace Telemetry

open Histogram

namespace Inquiry

/-- The registry and the store that an inquiry finds. -/
def collaborators (count : String → Except Failure Nat) (evaluator : Feed.Evaluator) :
    Dialogue.Collaborators interface Feed
  | .deviceCount organization, feed => (count organization, feed)
  | .store request, feed => Feed.store evaluator request feed

section Run

variable {count : String → Except Failure Nat} {evaluator : Feed.Evaluator} {feed : Feed}

theorem run_store {α : Type} (dialogue : Dialogue Store.interface α) (feed : Feed) :
    (dialogue.through fun request => .call (.store request) .done : Dialogue interface α).run
        (collaborators count evaluator) feed =
      dialogue.run (Feed.store evaluator) feed := by
  induction dialogue generalizing feed with
  | done result => rfl
  | call request next ih => exact ih _ _

/-- What is left of a request when the number of its devices is known. -/
def remainder (query : Query) (devices : Nat) :
    Dialogue Histogram.interface (Except Failure Answer) :=
  .call (.windows query) fun
    | .error failure => .done (.error failure)
    | .ok windows => .done (.ok (query.answer devices windows))

theorem run_answer {request : Request} {query : Query} {statement : Statement}
    {access : Store.Access} {table text : String} {rows : List Histogram.Row}
    {windows : List Window} (accepted : request.normalize = .ok query)
    (built : query.statement table = .ok statement)
    (selected : Store.selection access statement = .ok text)
    (evaluated : evaluator feed.rows text = .ok rows) (filled : query.fill rows = .ok windows)
    (counted : query.devices = [] → ∃ number, count query.organization = .ok number) :
    ∃ devices, (answer access table request).run (collaborators count evaluator) feed =
      (.ok (query.answer devices windows), feed) := by
  have shown : (Store.windows access table query).run (Feed.store evaluator) feed =
      (.ok windows, feed) := by
    simp [Store.windows, built, selected, Feed.store, evaluated, filled]
  have asked (devices : Nat) :
      ((remainder query devices).through (reading access table)).run
          (collaborators count evaluator) feed =
        (.ok (query.answer devices windows), feed) := by
    rw [remainder, Dialogue.through, Dialogue.run_bind, reading, run_store, shown]
    rfl
  rw [answer, Request.answer, accepted]
  dsimp only
  by_cases named : query.devices = []
  · obtain ⟨number, known⟩ := counted named
    refine ⟨number, ?_⟩
    rw [Query.deviceCount, if_pos (List.isEmpty_iff.mpr named)]
    simp only [Dialogue.bind_eq, Dialogue.call_bind, Dialogue.done_bind, Dialogue.through, reading,
      Dialogue.run_call, collaborators, known]
    exact asked number
  · refine ⟨min query.devices.length deviceCountLimit, ?_⟩
    rw [Query.deviceCount, if_neg (by simpa using named)]
    exact asked _

end Run

end Inquiry

/-- The time of a visit's reading in milliseconds. -/
def Gateway.Visit.eventMillis (visit : Gateway.Visit) : Int :=
  (visit.reading.occurredAt.getD visit.now).millis

namespace Histogram

section Numbers

open Gateway

variable {request : Request} {query : Query} {visit : Visit} {opening : Int}

/-- Whether a visit's reading belongs to the window of a request that opens at a second. -/
def Request.Covers (request : Request) (opening : Int) (visit : Visit) : Prop :=
  visit.organization = request.organization ∧
    (request.devices = [] ∨ visit.reading.device ∈ request.devices) ∧
    (request.start.millis ≤ visit.eventMillis ∧ visit.eventMillis < request.stop.millis) ∧
    opening * 1000 ≤ visit.eventMillis ∧
      visit.eventMillis < (opening + intervalFor request.start request.stop) * 1000

instance (request : Request) (opening : Int) (visit : Visit) :
    Decidable (request.Covers opening visit) :=
  inferInstanceAs (Decidable (_ ∧ _))

/-- The numbers at a request's path in the readings that belong to a window. -/
def Request.numbersIn (request : Request) (visits : List Visit) (opening : Int) : List Double :=
  (visits.filter fun visit => request.Covers opening visit).filterMap fun visit =>
    visit.reading.data.numberAt? (FieldPath.split request.path)

theorem covers_iff (accepted : request.normalize = .ok query)
    (aligned : (query.interval : Int) ∣ opening) :
    request.Covers opening visit ↔
      Store.InScope query visit.record.asDoubles.toRow ∧
        alignedStart query.interval (visit.eventMillis / 1000) = opening := by
  rw [alignedStart_eq_iff _ (Request.interval_pos accepted)]
  obtain ⟨rfl, _⟩ := Request.eq_of_normalize accepted
  have window : opening * 1000 ≤ visit.eventMillis ∧ visit.eventMillis <
        (opening + intervalFor request.start request.stop) * 1000 ↔
      opening ≤ visit.eventMillis / 1000 ∧ visit.eventMillis / 1000 <
        opening + intervalFor request.start request.stop := by
    omega
  have devices : distinctDevices request.devices = [] ∨
        visit.reading.device ∈ distinctDevices request.devices ↔
      request.devices = [] ∨ visit.reading.device ∈ request.devices := by
    rw [distinctDevices_eq_nil_iff, mem_distinctDevices]
  rw [Request.Covers, window, ← devices]
  constructor
  · rintro ⟨owner, device, inside, low, high⟩
    exact ⟨⟨owner, device, inside⟩, aligned, low, high⟩
  · rintro ⟨⟨owner, device, inside⟩, _, low, high⟩
    exact ⟨owner, device, inside, low, high⟩

theorem valuesAt_observations (accepted : request.normalize = .ok query) (visits : List Visit)
    (aligned : (query.interval : Int) ∣ opening) :
    valuesAt ((visits.map fun visit => visit.record.asDoubles.toRow).filterMap
        (Store.observationOf? query)) opening = request.numbersIn visits opening := by
  rw [valuesAt, List.filterMap_map, List.filter_filterMap, List.map_filterMap, Request.numbersIn,
    List.filterMap_filter]
  refine List.filterMap_congr fun visit _ => ?_
  have scope : request.Covers opening visit ↔
      Store.InScope query visit.record.asDoubles.toRow ∧
        alignedStart query.interval (visit.eventMillis / 1000) = opening :=
    covers_iff accepted aligned
  have number : visit.record.asDoubles.toRow.payload.numberAt? (FieldPath.split query.path) =
      visit.reading.data.numberAt? (FieldPath.split request.path) := by
    rw [(Request.eq_of_normalize accepted).1]
    exact Document.numberAt?_asDoubles _ _
  rw [Function.comp_apply, Store.observationOf?, number]
  have occurred : visit.record.asDoubles.toRow.occurredAt = visit.eventMillis := rfl
  rw [occurred]
  by_cases inside : Store.InScope query visit.record.asDoubles.toRow
  · rw [if_pos inside]
    by_cases here : alignedStart query.interval (visit.eventMillis / 1000) = opening
    · rw [if_pos (by simpa using scope.mpr ⟨inside, here⟩)]
      cases visit.reading.data.numberAt? (FieldPath.split request.path) <;> simp [here]
    · rw [if_neg (by simpa using fun covered => here (scope.mp covered).2)]
      cases visit.reading.data.numberAt? (FieldPath.split request.path) <;> simp [here]
  · rw [if_neg inside, if_neg (by simpa using fun covered => inside (scope.mp covered).1)]
    rfl

/-- A window of an answer reports the numbers of the readings that belong to it. -/
structure Request.Reports (request : Request) (visits : List Visit) (opening : Int)
    (window : Window) : Prop where
  start : window.start.seconds = opening ∧ window.start.nanos = 0
  stop : window.stop.seconds = opening + intervalFor request.start request.stop ∧
    window.stop.nanos = 0
  count : window.count = (request.numbersIn visits opening).length
  buckets : window.buckets =
    (distinctThresholds request.thresholds).map (fun bound =>
      ⟨bound, (request.numbersIn visits opening).countP fun number => number.le bound⟩) ++
        [⟨Double.infinity, (request.numbersIn visits opening).length⟩]
  sum : window.sum = (request.numbersIn visits opening).foldl Double.add Double.zero

theorem figures_of_reports {visits : List Visit} {openings : List Int} {windows : List Window}
    (reported : List.Forall₂ (request.Reports visits) openings windows) :
    windows.map (fun window => (window.count, window.buckets)) =
      openings.map fun opening => ((request.numbersIn visits opening).length,
        (distinctThresholds request.thresholds).map (fun bound =>
          ⟨bound, (request.numbersIn visits opening).countP fun number => number.le bound⟩) ++
            [⟨Double.infinity, (request.numbersIn visits opening).length⟩]) := by
  induction reported with
  | nil => rfl
  | cons reports _ ih =>
      rw [List.map_cons, List.map_cons, ih, reports.count, reports.buckets]

end Numbers

end Histogram

namespace Inquiry

open Gateway

section Example

/-- A visit with the temperature of the air; all devices but one belong to one organization. -/
def airVisit (organization device : String) (occurredAt : Option Instant) (degrees : Number) :
    Visit where
  organization
  reading := ⟨device, occurredAt, ⟨[("air", .object [("temp", .number degrees)])], rfl⟩⟩
  registry asked := .ok (some (if asked = "e" then "p" else "o"))
  now := ⟨120, 0, by decide⟩
  sent := .ok ()

/-- A reading of five degrees. -/
def warmVisit : Visit := airVisit "o" "d" none (.integer 5 (by decide))

def otherVisit : Visit := airVisit "p" "e" none (.integer 9 (by decide))

/-- A reading of a device that belongs to another organization. -/
def refusedVisit : Visit := airVisit "p" "d" none (.integer 8 (by decide))

/-- A reading of six and a half degrees from some minutes later. -/
def lateVisit : Visit :=
  airVisit "o" "d" (some ⟨400, 500000000, by decide⟩) (.double ⟨0x401A000000000000⟩ (by decide))

def asideVisit : Visit := airVisit "o" "f" none (.integer 6 (by decide))

def airVisits : List Visit := [warmVisit, otherVisit, refusedVisit, lateVisit, asideVisit]

/-- A request for the first quarter of an hour but its first minute. -/
def earlyRequest : Request :=
  ⟨"o", ["g", "d"], ⟨60, 0, by decide⟩, ⟨900, 0, by decide⟩, "air.temp",
    [⟨0x401C000000000000⟩, ⟨0x4018000000000000⟩]⟩

def earlyQuery : Query :=
  ⟨"o", ["d", "g"], earlyRequest.start, earlyRequest.stop, "air.temp",
    [⟨0x4018000000000000⟩, ⟨0x401C000000000000⟩], 300⟩

/-- A store that evaluates the statement of the query. -/
def earlyStore : Feed.Evaluator := fun rows _ =>
  match earlyQuery.statement "t" with
  | .ok statement => .ok (Store.evaluate statement rows)
  | .error _ => .ok []

theorem mergeSort_pair {α : Type} (le : α → α → Bool) (first second : α) :
    [first, second].mergeSort le =
      if le first second then [first, second] else [second, first] := by
  simp [List.mergeSort, List.merge]

theorem distinct_earlyThresholds :
    distinctThresholds earlyRequest.thresholds = earlyQuery.thresholds := by
  rw [distinctThresholds, earlyRequest, mergeSort_pair]
  decide +kernel

theorem normalize_earlyRequest : earlyRequest.normalize = .ok earlyQuery := by
  have devices : distinctDevices earlyRequest.devices = earlyQuery.devices := by
    rw [distinctDevices, earlyRequest, mergeSort_pair]
    decide +kernel
  refine Request.normalize_eq_ok_iff.mpr ⟨by rfl, by decide, by decide +kernel, by decide, ?_⟩
  rw [devices, distinct_earlyThresholds]
  rfl

theorem accepted_airVisits :
    accepted "b" airVisits = [warmVisit, otherVisit, lateVisit, asideVisit] := by
  have warm : warmVisit.isAccepted "b" = true := Visit.isAccepted_of_owned rfl rfl rfl
  have other : otherVisit.isAccepted "b" = true := Visit.isAccepted_of_owned rfl rfl rfl
  have late : lateVisit.isAccepted "b" = true := Visit.isAccepted_of_owned rfl rfl rfl
  have aside : asideVisit.isAccepted "b" = true := Visit.isAccepted_of_owned rfl rfl rfl
  have refused : refusedVisit.isAccepted "b" = false := by
    rw [Visit.isAccepted, Visit.run_eq_of_foreign (by rfl) (by rfl)]
    rfl
  simp [accepted, airVisits, warm, other, late, aside, refused]

end Example

end Inquiry
end Telemetry
