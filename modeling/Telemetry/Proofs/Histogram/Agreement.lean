import Telemetry.Proofs.Histogram.Binding
import Telemetry.Proofs.Histogram.Request
import Telemetry.Proofs.Histogram.Tally
import Telemetry.Proofs.Inquiry

/-!
# Statement and axis agree

A statement selects by milliseconds and groups by whole seconds; the axis starts at the window of
the start and ends with a comparison of milliseconds.  Both sides agree on the windows: whatever a
statement selects falls into a window of the axis, so the rows that the store makes of it are all
placed and together count what was selected.
-/

namespace Telemetry

open Dialogue Histogram

namespace Histogram

variable {query : Query}

namespace Query

/-- The windows of a query lie in the calendar. -/
def Representable (query : Query) : Prop :=
  ∀ opening ∈ query.axis, firstSecond ≤ opening ∧ opening + query.interval ≤ lastSecond

theorem wordMillis_of_representable (interval_pos : 0 < query.interval)
    (representable : query.Representable) :
    wordMillis query.firstOpening = query.firstOpening * 1000 := by
  have low : query.firstOpening ≤ query.start.seconds := alignedStart_le _ interval_pos
  have begins := query.start.bounds.2.1
  have ends := query.stop.bounds.1
  simp only [firstSecond, lastSecond] at begins ends
  refine wordMillis_of_small ?_ (by omega)
  by_cases some : query.firstOpening * 1000 < query.stop.millis
  · have member : query.firstOpening ∈ query.axis := by
      rw [axis, axisFrom_of_lt interval_pos some]
      exact List.mem_cons_self
    have inside := (representable _ member).1
    simp only [firstSecond] at inside
    omega
  · rw [Instant.millis] at some
    omega

theorem usable_of_fill {rows : List Row} {windows : List Window}
    (filled : query.fill rows = .ok windows) :
    0 < query.interval ∧ query.interval < 0x8000000000000000 := by
  rw [fill] at filled
  split at filled
  next usable => exact usable
  next => cases filled

/-- Whether a window lasts for one interval of a query from a second on. -/
structure Spans (query : Query) (opening : Int) (window : Window) : Prop where
  start : edge opening = .ok window.start
  stop : edge (opening + query.interval) = .ok window.stop

theorem edges_of_windowAt {rows : List (Int × Row)} {opening : Int} {start stop : Instant}
    {window : Window} (made : query.windowAt rows opening start stop = .ok window) :
    window.start = start ∧ window.stop = stop := by
  rw [windowAt] at made
  cases found : Keyed.find? opening rows with
  | none =>
      rw [found] at made
      cases made
      exact ⟨rfl, rfl⟩
  | some row =>
      simp only [found, Row.toWindow] at made
      split at made
      next => cases made; exact ⟨rfl, rfl⟩
      next => cases made

theorem Fills.spans {rows : List (Int × Row)} {opening : Int} {window : Window}
    (fills : query.Fills rows opening window) : query.Spans opening window := by
  obtain ⟨start, stop, opens, closes, made⟩ := fills
  obtain ⟨rfl, rfl⟩ := edges_of_windowAt made
  exact ⟨opens, closes⟩

theorem starts_of_spans {windows : List Window}
    (spans : List.Forall₂ query.Spans query.axis windows) :
    windows.map (fun window => window.start.seconds) = query.axis := by
  have starts : List.Forall₂ (fun opening (window : Window) => opening = window.start.seconds)
      query.axis windows :=
    spans.imp fun _ _ spans => (edge_eq_ok_iff.mp spans.start).1.symm
  exact (List.forall₂_eq_eq_eq ▸ List.forall₂_map_right_iff.mpr starts).symm

theorem fill_of_large (large : 0x8000000000000000 ≤ query.interval) (rows : List Row) :
    query.fill rows = .error (.rejected .noInterval) := by
  rw [fill, dif_neg fun usable => Nat.not_lt.mpr large usable.2]

/-- The windows that fill a query last from its axis on. -/
theorem spans_of_fill (small : wordMillis query.firstOpening = query.firstOpening * 1000)
    {rows : List Row} {windows : List Window} (filled : query.fill rows = .ok windows) :
    List.Forall₂ query.Spans query.axis windows := by
  obtain ⟨interval_pos, interval_lt⟩ := usable_of_fill filled
  exact ((fill_eq_ok_iff interval_pos interval_lt small).mp filled).1.imp fun _ _ => Fills.spans

theorem starts_of_fill (representable : query.Representable) {rows : List Row}
    {windows : List Window} (filled : query.fill rows = .ok windows) :
    windows.map (fun window => window.start.seconds) = query.axis := by
  apply starts_of_spans
  exact spans_of_fill
    (wordMillis_of_representable (usable_of_fill filled).1 representable) filled

/-- Observations within the axis are counted once each. -/
theorem sum_counts {observations : List Observation} {windows : List Window}
    (interval_pos : 0 < query.interval)
    (inside : ∀ observation ∈ observations, observation.opening ∈ query.axis)
    (shown : List.Forall₂ (query.Shows observations) query.axis windows) :
    (windows.map Window.count).sum = observations.length := by
  rw [sum_map_of_shows interval_pos (Window.tallies_count _) inside shown]
  simp

end Query
end Histogram

namespace Store

variable {query : Query} {table : String} {statement : Statement}

theorem exists_rejection_of_statement {failure : Failure}
    (unbuilt : query.statement table = .error failure) : ∃ why, failure = .rejected why := by
  rw [Query.statement, FieldPath.segments] at unbuilt
  split at unbuilt
  · cases unbuilt
    exact ⟨_, rfl⟩
  · simp only [Bind.bind, Except.bind] at unbuilt
    split at unbuilt
    next => cases unbuilt; exact ⟨_, rfl⟩
    next => cases unbuilt

theorem mem_axis_of_observed (interval_pos : 0 < query.interval) (stored : List Row) :
    ∀ observation ∈ stored.filterMap (observationOf? query), observation.opening ∈ query.axis := by
  intro observation member
  obtain ⟨row, -, observed⟩ := List.mem_filterMap.mp member
  exact opening_mem_axis interval_pos observed

/-- The rows of a statement fill the axis, and together they count what it selects. -/
theorem exists_fill_evaluate (built : query.statement table = .ok statement)
    (interval_lt : query.interval < 0x8000000000000000) (representable : query.Representable)
    (stored : List Row) :
    ∃ windows, query.fill (evaluate statement stored) = .ok windows ∧
      (windows.map Window.count).sum = (stored.filter (selects statement)).length := by
  have interval_pos : 0 < query.interval :=
    Nat.pos_of_ne_zero (statement_eq_ok_iff.mp built).2.1
  have inside := mem_axis_of_observed interval_pos stored
  obtain ⟨windows, filled, shown⟩ := Query.exists_fill_aggregate interval_pos interval_lt
    (Query.wordMillis_of_representable interval_pos representable)
    (fun opening member => (representable opening member).1)
    (fun opening member => (representable opening member).2) inside
  refine ⟨windows, by rw [evaluate_eq built]; exact filled, ?_⟩
  rw [Query.sum_counts interval_pos inside shown, List.length_filterMap_eq_countP,
    List.countP_eq_length_filter]
  congr 2
  funext row
  exact isSome_observationOf? built row

section Example

/-- A query whose range begins inside a leap second before the epoch and ends a nanosecond after the
epoch. -/
def leapQuery : Query :=
  ⟨"o", [], ⟨-61, 1500000000, by decide⟩, ⟨0, 1, by decide⟩, "t", [], 60⟩

/-- A row of the first millisecond of that range. -/
def leapRow : Row :=
  ⟨"o", "d", -59500, 0, ⟨[("t", .number (.integer 7 (by decide)))], by decide⟩⟩

theorem eq_of_mem_singleton {text other : String} {rows reply : List Histogram.Row}
    (member : (⟨.select other, .ok reply⟩ : Exchange interface) ∈ [⟨.select text, .ok rows⟩]) :
    reply = rows := by
  cases List.mem_singleton.mp member
  rfl

end Example

end Store

namespace Inquiry

variable {access : Store.Access} {table : String} {request : Request} {query : Query}

/-- An accepted request is answered once its statement is evaluated, whatever is stored. -/
theorem exists_answer (accepted : request.normalize = .ok query)
    (closes : ∀ opening ∈ query.axis, opening + query.interval ≤ lastSecond)
    (ready : Store.Ready access table) (stored : List Store.Row)
    {counting : List (Exchange interface)} {devices : Nat}
    (counts : Counts query counting (.ok devices)) :
    ∃ statement text windows, query.statement table = .ok statement ∧
      query.fill (Store.evaluate statement stored) = .ok windows ∧
      (windows.map Window.count).sum = (stored.filter (Store.selects statement)).length ∧
      Course (Inquiry.answer access table request)
        (counting ++ [⟨.store (.select text), .ok (Store.evaluate statement stored)⟩])
        (.ok (query.answer devices windows)) := by
  have representable : query.Representable := fun opening member =>
    ⟨Request.firstSecond_le_of_mem_axis accepted member, closes opening member⟩
  obtain ⟨statement, built⟩ := Request.exists_statement accepted table
  obtain ⟨text, selected⟩ := ready.exists_selection built
  obtain ⟨windows, filled, counted⟩ := Store.exists_fill_evaluate built
    (Nat.lt_of_le_of_lt (Request.interval_le_day accepted) (by decide)) representable stored
  have course :=
    course_of_reply accepted built selected counts (.ok (Store.evaluate statement stored))
  rw [Store.windowsOf, filled] at course
  exact ⟨statement, text, windows, built, filled, counted, course⟩

end Inquiry
end Telemetry
