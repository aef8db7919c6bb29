import Mathlib.Data.List.Nodup
import Telemetry.Proofs.Histogram.Aggregate

/-!
# Tallies of windows

A number that windows show is a tally when it is how many of a window's values one test chooses: the
count of a window is one, and so is the count in each of its buckets.  Every observation falls into
exactly one window of the axis, so over the windows a tally adds up to that of all observations, and
over a part of the windows to that of the observations in them.
-/

namespace Telemetry

namespace Histogram

theorem Query.nodup_axis {query : Query} (interval_pos : 0 < query.interval) :
    query.axis.Nodup := by
  rw [axis, axisFrom]
  refine List.Nodup.map (fun index other same => ?_) List.nodup_range
  have steps : (index : Int) * query.interval = other * query.interval := Int.add_left_cancel same
  exact Int.ofNat_inj.mp (Int.eq_of_mul_eq_mul_right (by omega) steps)

/-- Whether a number that windows over thresholds show is how many of their values are chosen. -/
def Window.Tallies (thresholds : List Double) (shown : Window → Nat) (chosen : Double → Bool) :
    Prop :=
  ∀ start stop values, shown (.ofValues start stop thresholds values) = values.countP chosen

/-- The count in the bucket at an index. -/
def Window.countAt (window : Window) (index : Nat) : Nat :=
  (window.buckets[index]?.map Bucket.count).getD 0

namespace Window

theorem tallies_count (thresholds : List Double) : Tallies thresholds count fun _ => true := by
  intro start stop values
  simp [ofValues]

theorem exists_tallies_countAt (thresholds : List Double) (index : Nat) :
    ∃ chosen, Tallies thresholds (·.countAt index) chosen := by
  obtain below | rfl | above := Nat.lt_trichotomy index thresholds.length
  · refine ⟨fun value => value.le thresholds[index], fun start stop values => ?_⟩
    simp [countAt, ofValues, List.getElem?_append_left, below]
  · refine ⟨fun _ => true, fun start stop values => ?_⟩
    simp [countAt, ofValues]
  · refine ⟨fun _ => false, fun start stop values => ?_⟩
    have beyond : (ofValues start stop thresholds values).buckets.length ≤ index := by
      simp only [ofValues, List.length_append, List.length_map, List.length_singleton]
      omega
    simp [countAt, List.getElem?_eq_none beyond]

theorem bounds_ofValues (start stop : Instant) (thresholds values : List Double) :
    (ofValues start stop thresholds values).buckets.map Bucket.bound =
      thresholds ++ [Double.infinity] := by
  simp [ofValues, Function.comp_def]

end Window

section Sums

variable {observations : List Observation} {openings : List Int} {windows : List Window}
  {shown : Window → Nat} {chosen : Double → Bool} {query : Query}

theorem countP_valuesAt (observations : List Observation) (opening : Int)
    (chosen : Double → Bool) :
    (valuesAt observations opening).countP chosen =
      (observations.filter fun observation => observation.opening == opening).countP
        fun observation => chosen observation.value := by
  rw [valuesAt, List.countP_map]
  rfl

theorem sum_countP_valuesAt (distinct : openings.Nodup) (observations : List Observation)
    (chosen : Double → Bool) :
    (openings.map fun opening => (valuesAt observations opening).countP chosen).sum =
      observations.countP fun observation =>
        decide (observation.opening ∈ openings) && chosen observation.value := by
  induction openings with
  | nil => simp
  | cons opening rest ih =>
      obtain ⟨absent, distinct⟩ := List.nodup_cons.mp distinct
      rw [List.map_cons, List.sum_cons, ih distinct, countP_valuesAt,
        List.countP_eq_countP_filter_add observations
          (fun observation => decide (observation.opening ∈ opening :: rest) && _)
          (fun observation => observation.opening == opening)]
      congr 1
      · refine List.countP_congr fun observation member => ?_
        have here := (List.mem_filter.mp member).2
        simp_all
      · rw [List.countP_filter]
        refine List.countP_congr fun observation _ => ?_
        by_cases here : observation.opening = opening
        · simp [here, absent]
        · simp [here]

/-- A window shows the chosen values of its opening. -/
theorem tally_of_shows {opening : Int} {window : Window}
    (tallies : Window.Tallies query.thresholds shown chosen)
    (shows : query.Shows observations opening window) :
    shown window = (valuesAt observations opening).countP chosen := by
  rw [shows.content]
  exact tallies _ _ _

theorem map_filter_of_shows (tallies : Window.Tallies query.thresholds shown chosen)
    (part : Int → Bool) (shows : List.Forall₂ (query.Shows observations) openings windows) :
    (windows.filter fun window => part window.start.seconds).map shown =
      (openings.filter part).map fun opening =>
        (valuesAt observations opening).countP chosen := by
  induction shows with
  | nil => rfl
  | @cons opening window openings windows shows _ ih =>
      have starts : window.start.seconds = opening := (edge_eq_ok_iff.mp shows.start).1
      have counts := tally_of_shows tallies shows
      by_cases inside : part opening = true
      · simp [starts, inside, counts, ih]
      · simp [starts, inside, ih]

/-- A part of the windows tallies the observations in them. -/
theorem sum_filter_of_shows (interval_pos : 0 < query.interval)
    (tallies : Window.Tallies query.thresholds shown chosen) (part : Int → Bool)
    (inside : ∀ observation ∈ observations, observation.opening ∈ query.axis)
    (shows : List.Forall₂ (query.Shows observations) query.axis windows) :
    ((windows.filter fun window => part window.start.seconds).map shown).sum =
      observations.countP fun observation => part observation.opening && chosen observation.value := by
  rw [map_filter_of_shows tallies part shows,
    sum_countP_valuesAt ((Query.nodup_axis interval_pos).filter part)]
  refine List.countP_congr fun observation member => ?_
  simp [inside observation member]

theorem sum_map_of_shows (interval_pos : 0 < query.interval)
    (tallies : Window.Tallies query.thresholds shown chosen)
    (inside : ∀ observation ∈ observations, observation.opening ∈ query.axis)
    (shows : List.Forall₂ (query.Shows observations) query.axis windows) :
    (windows.map shown).sum = observations.countP fun observation => chosen observation.value := by
  simpa using sum_filter_of_shows interval_pos tallies (fun _ => true) inside shows

end Sums

end Histogram
end Telemetry
