import Telemetry.Histogram.Aggregate
import Telemetry.Proofs.Histogram.Fill

/-!
# Windows of observations

The rows that the store makes of observations are one for each window that has any, so filling them
in gives every window of the axis the values observed in it, none being a list of values like any
other.
-/

namespace Telemetry
namespace Histogram

/-- The window of the values that were observed in it, in their order. -/
def Window.ofValues (start stop : Instant) (thresholds values : List Double) : Window where
  start := start
  stop := stop
  buckets := thresholds.map (fun bound => ⟨bound, values.countP fun value => value.le bound⟩) ++
    [⟨Double.infinity, values.length⟩]
  count := values.length
  sum := values.foldl Double.add Double.zero

def valuesAt (observations : List Observation) (opening : Int) : List Double :=
  (observations.filter fun observation => observation.opening == opening).map Observation.value

theorem Window.ofValues_nil (start stop : Instant) (thresholds : List Double) :
    Window.ofValues start stop thresholds [] = Window.empty start stop thresholds := by
  simp [Window.ofValues, Window.empty]

theorem toWindow_rowOf (start stop : Instant) (thresholds : List Double) (opening : Int)
    (values : List Double) :
    (rowOf thresholds opening values).toWindow start stop thresholds =
      .ok (Window.ofValues start stop thresholds values) := by
  have zipped : List.zipWith Bucket.mk thresholds
        (thresholds.map fun bound => values.countP fun value => value.le bound) =
      thresholds.map fun bound => ⟨bound, values.countP fun value => value.le bound⟩ := by
    rw [List.zipWith_map_right, List.zipWith_self]
  rw [Row.toWindow, rowOf, if_pos (List.length_map _), zipped, Window.ofValues]

section Openings

variable {observations : List Observation} {opening : Int}

theorem mem_openings_iff :
    opening ∈ openings observations ↔
      ∃ observation ∈ observations, observation.opening = opening := by
  rw [openings, Keyed.mem_keys_ofEntries, List.map_map, List.mem_map]
  rfl

theorem pairwise_openings : (openings observations).Pairwise (· < ·) :=
  Keyed.ascending_iff_pairwise.mp (Keyed.ascending_ofEntries _)

theorem valuesAt_of_not_mem (absent : opening ∉ openings observations) :
    valuesAt observations opening = [] := by
  rw [valuesAt, List.map_eq_nil_iff, List.filter_eq_nil_iff]
  intro observation member same
  exact absent (mem_openings_iff.mpr ⟨observation, member, by simpa using same⟩)

theorem byStart_aggregate (thresholds : List Double) (observations : List Observation) :
    Query.byStart (aggregate thresholds observations) =
      (openings observations).map fun opening =>
        (opening, rowOf thresholds opening (valuesAt observations opening)) := by
  have entries : (aggregate thresholds observations).map (fun row => (row.start, row)) =
      (openings observations).map fun opening =>
        (opening, rowOf thresholds opening (valuesAt observations opening)) := by
    rw [aggregate, List.map_map]
    rfl
  rw [Query.byStart, entries]
  refine Keyed.ofEntries_of_ascending (Keyed.ascending_iff_pairwise.mpr ?_)
  have ordered : (openings observations).Pairwise (· < ·) := pairwise_openings
  simpa [Function.comp_def] using ordered

theorem windowAt_aggregate (query : Query) (start stop : Instant) :
    query.windowAt (Query.byStart (aggregate query.thresholds observations)) opening start stop =
      .ok (Window.ofValues start stop query.thresholds (valuesAt observations opening)) := by
  have ordered : Keyed.ascending (Query.byStart (aggregate query.thresholds observations)) = true :=
    Keyed.ascending_ofEntries _
  rw [Query.windowAt]
  by_cases present : opening ∈ openings observations
  · have found : Keyed.find? opening
          (Query.byStart (aggregate query.thresholds observations)) =
        some (rowOf query.thresholds opening (valuesAt observations opening)) := by
      rw [Keyed.find?_eq_some_iff ordered, byStart_aggregate]
      exact List.mem_map_of_mem present
    rw [found]
    exact toWindow_rowOf _ _ _ _ _
  · have missing : Keyed.find? opening
        (Query.byStart (aggregate query.thresholds observations)) = none := by
      rw [Option.eq_none_iff_forall_ne_some]
      intro row found
      rw [Keyed.find?_eq_some_iff ordered, byStart_aggregate] at found
      obtain ⟨other, member, same⟩ := List.mem_map.mp found
      cases same
      exact present member
    rw [missing, valuesAt_of_not_mem present, Window.ofValues_nil]

end Openings

/-- A window shows the values observed in it. -/
structure Query.Shows (query : Query) (observations : List Observation) (opening : Int)
    (window : Window) : Prop where
  start : edge opening = .ok window.start
  stop : edge (opening + query.interval) = .ok window.stop
  content : window = Window.ofValues window.start window.stop query.thresholds
    (valuesAt observations opening)

theorem Query.fills_aggregate_iff {query : Query} {observations : List Observation} {opening : Int}
    {window : Window} :
    query.Fills (Query.byStart (aggregate query.thresholds observations)) opening window ↔
      query.Shows observations opening window := by
  simp only [Query.Fills, windowAt_aggregate, Except.ok.injEq]
  constructor
  · rintro ⟨start, stop, opens, closes, rfl⟩
    exact ⟨opens, closes, rfl⟩
  · rintro ⟨opens, closes, content⟩
    exact ⟨window.start, window.stop, opens, closes, content.symm⟩

theorem exists_forall₂ {α β : Type} {relation : α → β → Prop} {elements : List α}
    (each : ∀ element ∈ elements, ∃ value, relation element value) :
    ∃ values, List.Forall₂ relation elements values := by
  induction elements with
  | nil => exact ⟨[], .nil⟩
  | cons element rest ih =>
      obtain ⟨value, related⟩ := each element List.mem_cons_self
      obtain ⟨values, further⟩ := ih fun other member => each other (List.mem_cons_of_mem _ member)
      exact ⟨value :: values, .cons related further⟩

/-- Observations within the axis make a window for each opening of it. -/
theorem Query.exists_fill_aggregate {query : Query} {observations : List Observation}
    (interval_pos : 0 < query.interval) (interval_lt : query.interval < 0x8000000000000000)
    (small : wordMillis query.firstOpening = query.firstOpening * 1000)
    (low : ∀ opening ∈ query.axis, firstSecond ≤ opening)
    (high : ∀ opening ∈ query.axis, opening + query.interval ≤ lastSecond)
    (inside : ∀ observation ∈ observations, observation.opening ∈ query.axis) :
    ∃ windows, query.fill (aggregate query.thresholds observations) = .ok windows ∧
      List.Forall₂ (query.Shows observations) query.axis windows := by
  have each : ∀ opening ∈ query.axis, ∃ window, query.Shows observations opening window := by
    intro opening member
    have lower := low opening member
    have upper := high opening member
    obtain ⟨start, opens⟩ := exists_edge lower (by omega)
    have further : firstSecond ≤ opening + query.interval := by omega
    obtain ⟨stop, closes⟩ := exists_edge further upper
    exact ⟨.ofValues start stop query.thresholds (valuesAt observations opening), opens, closes,
      rfl⟩
  obtain ⟨windows, shown⟩ := exists_forall₂ each
  refine ⟨windows, (fill_eq_ok_iff interval_pos interval_lt small).mpr ⟨?_, ?_⟩, shown⟩
  · exact shown.imp fun _ _ shows => fills_aggregate_iff.mpr shows
  · intro row member
    obtain ⟨opening, present, rfl⟩ := List.mem_map.mp member
    obtain ⟨observation, observed, same⟩ := mem_openings_iff.mp present
    exact same ▸ inside observation observed

end Histogram
end Telemetry
