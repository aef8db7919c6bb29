import Telemetry.Proofs.Histogram.Aggregate
import Telemetry.Proofs.Histogram.Binding
import Telemetry.Proofs.Histogram.Request
import Telemetry.Proofs.Inquiry

/-!
# Requests at the end of the calendar

A request is checked before anything is exchanged, but the edges of its windows meet the calendar
only when its query is filled.  The calendar ends in the last second before a multiple of every
window length, so the one edge that an accepted request can miss is the end of its last window: a
request that reaches into the last window of the calendar is refused too late, and no other one is.
-/

namespace Telemetry

open Dialogue Histogram

namespace Histogram

theorem bind_eq_error_iff {ε α β : Type} {first : Except ε α} {next : α → Except ε β} {fault : ε} :
    first.bind next = .error fault ↔
      first = .error fault ∨ ∃ value, first = .ok value ∧ next value = .error fault := by
  cases first with
  | error other => simp [Except.bind]
  | ok value => simp [Except.bind]

/-- There is no edge outside the calendar, and this is the only complaint. -/
theorem edge_eq_error_iff {second : Int} {failure : Failure} :
    edge second = .error failure ↔
      (second < firstSecond ∨ lastSecond < second) ∧
        failure = .rejected (.outOfCalendar second) := by
  have inside := Instant.ofSeconds?_isSome_iff second
  rw [edge]
  cases found : Instant.ofSeconds? second with
  | none =>
      rw [found, Option.isSome_none] at inside
      have outside : second < firstSecond ∨ lastSecond < second := by
        by_contra within
        exact Bool.false_ne_true (inside.mpr (by omega))
      simp only [outside, true_and, Except.error.injEq, eq_comm]
  | some instant =>
      have within := inside.mp (by rw [found]; rfl)
      constructor
      · intro impossible
        cases impossible
      · rintro ⟨outside, -⟩
        omega

namespace Query

variable {query : Query} {rows : List (Int × Row)} {opening : Int} {failure : Failure}
  {why : Rejection}

/-- Why a query makes no window of ordered rows at an opening. -/
inductive FailsAt (query : Query) (rows : List (Int × Row)) (opening : Int) (failure : Failure) :
    Prop where
  | start (opens : edge opening = .error failure)
  | stop {start : Instant} (opens : edge opening = .ok start)
      (closes : edge (opening + query.interval) = .error failure)
  | content {start stop : Instant} (made : query.windowAt rows opening start stop = .error failure)

theorem exists_failsAt_of_fillFrom (interval_pos : 0 < query.interval) {all : List (Int × Row)}
    (agree : ∀ start, opening ≤ start → Keyed.find? start rows = Keyed.find? start all)
    (failed : query.fillFrom interval_pos opening rows = .error failure) :
    ∃ start ∈ query.axisFrom opening, query.FailsAt all start failure := by
  induction opening, rows using fillFrom.induct query interval_pos with
  | case1 opening rows before ih =>
      rw [fillFrom_of_lt interval_pos before] at failed
      rw [axisFrom_of_lt interval_pos before]
      obtain failed | ⟨start, opens, failed⟩ := bind_eq_error_iff.mp failed
      · exact ⟨opening, List.mem_cons_self, .start failed⟩
      obtain failed | ⟨stop, -, failed⟩ := bind_eq_error_iff.mp failed
      · exact ⟨opening, List.mem_cons_self, .stop opens failed⟩
      obtain failed | ⟨window, -, failed⟩ := bind_eq_error_iff.mp failed
      · rw [windowAt_of_agree agree] at failed
        exact ⟨opening, List.mem_cons_self, .content failed⟩
      obtain failed | ⟨rest, -, impossible⟩ := bind_eq_error_iff.mp failed
      · obtain ⟨start, member, fails⟩ := ih (agree_erase agree interval_pos) failed
        exact ⟨start, List.mem_cons_of_mem _ member, fails⟩
      · cases impossible
  | case2 opening rows done =>
      rw [fillFrom_of_le interval_pos (by omega)] at failed
      cases failed

theorem FailsAt.edge_of_rejected (fails : query.FailsAt rows opening (.rejected why)) :
    edge opening = .error (.rejected why) ∨
      ∃ start, edge opening = .ok start ∧
        edge (opening + query.interval) = .error (.rejected why) := by
  cases fails with
  | start opens => exact .inl opens
  | stop opens closes => exact .inr ⟨_, opens, closes⟩
  | content made =>
      rw [windowAt] at made
      split at made
      next row found =>
        rw [Row.toWindow] at made
        split at made <;> cases made
      next => cases made

end Query

theorem Query.Fills.stop_le {query : Query} {rows : List (Int × Row)} {opening : Int}
    {window : Window} (fills : query.Fills rows opening window) :
    opening + query.interval ≤ lastSecond := by
  obtain ⟨-, stop, -, closes, -⟩ := fills
  exact (edge_eq_ok_iff.mp closes).1 ▸ stop.bounds.2.1

namespace Request

variable {request : Request} {query : Query}

theorem stop_of_normalize (accepted : request.normalize = .ok query) :
    query.stop = request.stop := by
  rw [(eq_of_normalize accepted).1]

/-- A window of the calendar ends where the calendar does. -/
theorem interval_dvd_end (accepted : request.normalize = .ok query) :
    (query.interval : Int) ∣ lastSecond + 1 := by
  rw [(eq_of_normalize accepted).1]
  exact (Int.natCast_dvd_natCast.mpr (intervalFor_dvd_day _ _)).trans (by decide)

/-- An accepted request is refused only for the end of the calendar's last window. -/
theorem rejection_of_fill (accepted : request.normalize = .ok query) {rows : List Row}
    {why : Rejection} (refused : query.fill rows = .error (.rejected why)) :
    why = .outOfCalendar (lastSecond + 1) ∧
      (lastSecond + 1 - query.interval) * 1000 < query.stop.millis := by
  have interval_pos := interval_pos accepted
  rw [Query.fill_eq interval_pos (Nat.lt_of_le_of_lt (interval_le_day accepted) (by decide))
    (wordMillis_firstOpening accepted)] at refused
  obtain refused | ⟨filled, -, impossible⟩ := bind_eq_error_iff.mp refused
  · obtain ⟨start, member, fails⟩ :=
      Query.exists_failsAt_of_fillFrom interval_pos (fun _ _ => rfl) refused
    have low := firstSecond_le_of_mem_axis accepted member
    obtain ⟨aligned, -, before⟩ := (Query.mem_axis_iff interval_pos).mp member
    obtain refused | ⟨opens, opened, refused⟩ := fails.edge_of_rejected
    · -- Only a leap second at the very end lets a range touch the second after the calendar.
      obtain ⟨outside, same⟩ := edge_eq_error_iff.mp refused
      have calendar := query.stop.bounds
      simp only [Instant.millis, nanosPerSecond] at *
      obtain rfl : start = lastSecond + 1 := by omega
      cases same
      exact ⟨rfl, by omega⟩
    · obtain ⟨outside, same⟩ := edge_eq_error_iff.mp refused
      have inside : start ≤ lastSecond := (edge_eq_ok_iff.mp opened).1 ▸ opens.bounds.2.1
      have distance := Int.le_of_dvd (by omega) (dvd_sub (interval_dvd_end accepted) aligned)
      obtain same' : start + query.interval = lastSecond + 1 := by omega
      rw [same'] at same
      cases same
      exact ⟨rfl, by omega⟩
  · split at impossible <;> cases impossible

theorem fill_aggregate_of_late (accepted : request.normalize = .ok query)
    (late : (lastSecond + 1 - query.interval) * 1000 < query.stop.millis)
    (observations : List Observation) :
    query.fill (aggregate query.thresholds observations) =
      .error (.rejected (.outOfCalendar (lastSecond + 1))) := by
  have interval_pos := interval_pos accepted
  have last : lastSecond + 1 - query.interval ∈ query.axis := by
    have before := query.start.bounds.2.1
    exact (Query.mem_axis_iff interval_pos).mpr
      ⟨dvd_sub (interval_dvd_end accepted) dvd_rfl, by omega, late⟩
  have filled := Query.fill_eq interval_pos
    (Nat.lt_of_le_of_lt (interval_le_day accepted) (by decide)) (wordMillis_firstOpening accepted)
    (aggregate query.thresholds observations)
  cases walked : query.fillFrom interval_pos query.firstOpening
      (Query.byStart (aggregate query.thresholds observations)) with
  | ok result =>
      have follow := ((Query.fillFrom_eq_ok_iff interval_pos fun _ _ => rfl).mp walked).1
      obtain ⟨window, -, fills⟩ := exists_of_mem_left follow last
      have impossible := fills.stop_le
      omega
  | error failure =>
      rw [walked] at filled
      obtain ⟨start, -, fails⟩ :=
        Query.exists_failsAt_of_fillFrom interval_pos (fun _ _ => rfl) walked
      obtain ⟨why, rfl⟩ : ∃ why, failure = .rejected why := by
        cases fails with
        | start opens => exact ⟨_, (edge_eq_error_iff.mp opens).2⟩
        | stop opens closes => exact ⟨_, (edge_eq_error_iff.mp closes).2⟩
        | content made => cases (windowAt_aggregate query _ _).symm.trans made
      rw [(rejection_of_fill accepted filled).1] at filled
      exact filled

end Request
end Histogram

namespace Inquiry

variable {access : Store.Access} {table : String} {request : Request} {query : Query}
  {exchanges : List (Exchange interface)} {why : Rejection}

/-- Whether the registry refuses nothing that it is asked. -/
def RegistryAccepts (exchanges : List (Exchange interface)) : Prop :=
  ∀ organization why, ⟨.deviceCount organization, .error (.rejected why)⟩ ∉ exchanges

theorem exists_fill_of_late_rejection
    (course : Course (Inquiry.answer access table request) exchanges (.error (.rejected why)))
    (accepts : RegistryAccepts exchanges) (late : exchanges ≠ []) :
    ∃ query rows, request.normalize = .ok query ∧ query.fill rows = .error (.rejected why) := by
  obtain ⟨_, -, none, -⟩ | ⟨query, counting, counted, normal, counts, ended⟩ :=
    course_answer_iff.mp course
  · exact absurd none late
  obtain ⟨failure, rfl, rfl, ⟨⟩⟩ | ⟨devices, selecting, windowed, -, read, rfl, made⟩ := ended
  · rw [Counts] at counts
    split at counts
    · rw [counts] at accepts
      exact absurd (List.mem_singleton_self _) (accepts _ _)
    · cases counts.2
  cases windowed with
  | ok windows => cases made
  | error failure =>
      cases made
      obtain ⟨_, unbuilt, -⟩ | ⟨statement, -, ⟨_, -, -, ⟨⟩⟩ | ⟨text, reply, -, -, same⟩⟩ :=
        Store.course_windows_cases read
      · obtain ⟨statement, built⟩ := Request.exists_statement normal table
        cases built.symm.trans unbuilt
      · cases reply with
        | error fault => cases same
        | ok rows => exact ⟨query, rows, normal, same.symm⟩

theorem Counts.registryAccepts {counting : List (Exchange interface)} {devices : Nat}
    (counts : Counts query counting (.ok devices)) : RegistryAccepts counting := by
  intro organization why member
  rw [Counts] at counts
  split at counts
  · rw [counts] at member
    cases List.mem_singleton.mp member
  · rw [counts.1] at member
    cases member

/-- A request that reaches into the calendar's last window is refused once evaluated. -/
theorem course_of_late (accepted : request.normalize = .ok query)
    (late : (lastSecond + 1 - query.interval) * 1000 < query.stop.millis)
    (ready : Store.Ready access table) (stored : List Store.Row)
    {counting : List (Exchange interface)} {devices : Nat}
    (counts : Counts query counting (.ok devices)) :
    ∃ text reply, Course (Inquiry.answer access table request)
      (counting ++ [⟨.store (.select text), .ok reply⟩])
      (.error (.rejected (.outOfCalendar (lastSecond + 1)))) := by
  obtain ⟨statement, built⟩ := Request.exists_statement accepted table
  obtain ⟨text, selected⟩ := ready.exists_selection built
  have course :=
    course_of_reply accepted built selected counts (.ok (Store.evaluate statement stored))
  rw [Store.windowsOf, Store.evaluate_eq built,
    Request.fill_aggregate_of_late accepted late] at course
  exact ⟨text, _, course⟩

/-- A rejected request has exchanged nothing unless it reaches into the calendar's last window. -/
theorem refused_before_exchanges_iff (request : Request) :
    ((∀ access table exchanges why,
        Course (Inquiry.answer access table request) exchanges (.error (.rejected why)) →
        RegistryAccepts exchanges → exchanges = []) ↔
      ∀ query, request.normalize = .ok query →
        request.stop.millis ≤ (lastSecond + 1 - query.interval) * 1000) ∧
    (∀ access table exchanges why,
      Course (Inquiry.answer access table request) exchanges (.error (.rejected why)) →
      RegistryAccepts exchanges → exchanges ≠ [] → why = .outOfCalendar (lastSecond + 1)) ∧
    ∀ query access table stored exchanges outcome, request.normalize = .ok query →
      (lastSecond + 1 - query.interval) * 1000 < request.stop.millis →
      Course (Inquiry.answer access table request) exchanges outcome →
      (∀ statement text reply, query.statement table = .ok statement →
        ⟨.store (.select text), .ok reply⟩ ∈ exchanges → reply = Store.evaluate statement stored) →
      (∃ text reply, ⟨.store (.select text), .ok reply⟩ ∈ exchanges) →
      outcome = .error (.rejected (.outOfCalendar (lastSecond + 1))) := by
  refine ⟨⟨?_, ?_⟩, ?_, ?_⟩
  · intro early query accepted
    by_contra late
    rw [Int.not_le, ← Request.stop_of_normalize accepted] at late
    obtain ⟨counting, devices, counts⟩ := exists_counts query
    obtain ⟨text, reply, course⟩ :=
      course_of_late accepted late Store.ready_localAccess [] counts
    have none := early _ _ _ _ course fun organization why member => by
      obtain member | member := List.mem_append.mp member
      · exact counts.registryAccepts organization why member
      · cases List.mem_singleton.mp member
    exact List.append_ne_nil_of_right_ne_nil _ (List.cons_ne_nil _ _) none
  · intro early access table exchanges why course accepts
    by_contra late
    obtain ⟨query, rows, accepted, refused⟩ := exists_fill_of_late_rejection course accepts late
    have reaches := (Request.rejection_of_fill accepted refused).2
    have bound := early query accepted
    rw [Request.stop_of_normalize accepted] at reaches
    omega
  · intro access table exchanges why course accepts late
    obtain ⟨query, rows, accepted, refused⟩ := exists_fill_of_late_rejection course accepts late
    exact (Request.rejection_of_fill accepted refused).1
  · intro query access table stored exchanges outcome accepted late course faithful replied
    rw [← Request.stop_of_normalize accepted] at late
    obtain ⟨text, rows, replied⟩ := replied
    obtain ⟨statement, devices, built, rfl⟩ := outcome_of_reply accepted course replied
    rw [faithful statement text rows built replied, Store.evaluate_eq built,
      Request.fill_aggregate_of_late accepted late]
    rfl

section Example

/-- A request about a quarter of an hour that ends with the last second of the calendar. -/
def lastRequest : Request :=
  ⟨"org-1", [], ⟨8210266876000, 0, by decide⟩, ⟨8210266876799, 0, by decide⟩, "temp", []⟩

def lastQuery : Query :=
  ⟨"org-1", [], lastRequest.start, lastRequest.stop, "temp", [], 300⟩

theorem normalize_lastRequest : lastRequest.normalize = .ok lastQuery :=
  eq_ok_of_toOption (by decide +kernel)

def lastRow : Store.Row :=
  ⟨"org-1", "device-1", 8210266876798000, 0,
    ⟨[("temp", .number (.integer 21 (by decide)))], by decide⟩⟩

/-- The request is refused late, with or without a row of its last second. -/
theorem last_request_refused :
    (¬∀ access table exchanges why,
        Course (Inquiry.answer access table lastRequest) exchanges (.error (.rejected why)) →
        RegistryAccepts exchanges → exchanges = []) ∧
      ∃ exchanges, exchanges ≠ [] ∧
        Course (Inquiry.answer Store.localAccess "t" lastRequest) exchanges
          (.error (.rejected (.outOfCalendar (lastSecond + 1)))) := by
  obtain ⟨complete, -, refused⟩ := refused_before_exchanges_iff lastRequest
  refine ⟨fun early => ?_, ?_⟩
  · exact absurd (complete.mp early lastQuery normalize_lastRequest) (by decide)
  obtain ⟨counting, devices, counts⟩ := exists_counts lastQuery
  obtain ⟨statement, built⟩ := Request.exists_statement normalize_lastRequest "t"
  obtain ⟨text, selected⟩ := Store.ready_localAccess.exists_selection built
  have course := course_of_reply normalize_lastRequest built selected counts
    (.ok (Store.evaluate statement [lastRow]))
  have replied : (⟨.store (.select text), .ok (Store.evaluate statement [lastRow])⟩ :
      Exchange interface) ∈ counting ++
        [⟨.store (.select text), .ok (Store.evaluate statement [lastRow])⟩] :=
    List.mem_append_right _ (List.mem_singleton_self _)
  rw [refused lastQuery _ _ [lastRow] _ _ normalize_lastRequest (by decide) course ?_
    ⟨_, _, replied⟩] at course
  · exact ⟨_, List.ne_nil_of_mem replied, course⟩
  · intro other further rows same member
    cases built.symm.trans same
    obtain member | member := List.mem_append.mp member
    · exact absurd member counts.store_not_mem
    · cases List.mem_singleton.mp member
      rfl

/-- The request is counted and evaluated before it is refused. -/
theorem last_window_refused_late :
    lastRequest.normalize = .ok lastQuery ∧
      ∃ text reply, Course (Inquiry.answer Store.localAccess "t" lastRequest)
        [⟨.deviceCount "org-1", .ok 1⟩, ⟨.store (.select text), .ok reply⟩]
        (.error (.rejected (.outOfCalendar 8210266876800))) := by
  have counts : Counts lastQuery [⟨.deviceCount "org-1", .ok 1⟩] (.ok 1) := by
    rw [Counts, if_pos (show lastQuery.devices = [] from rfl)]
    rfl
  exact ⟨normalize_lastRequest,
    course_of_late normalize_lastRequest (by decide) Store.ready_localAccess [] counts⟩

end Example

end Inquiry
end Telemetry
