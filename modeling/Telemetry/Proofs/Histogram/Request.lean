import Telemetry.Histogram.Request
import Telemetry.Proofs.Histogram.Statement

/-!
# Normalized requests

What a query has is what its request has: the same organization, range and path, the same devices
and the same thresholds, each once.  The interval is one of five, each of which divides a day, so
no window opens before the calendar.
-/

namespace Telemetry
namespace Histogram

section Repeats

variable {α β : Type} {same : α → α → Bool} {rank : α → β} {kept : α} {elements : List α}

theorem dropRepeats_go_sublist : (dropRepeats.go same kept elements).Sublist elements := by
  induction elements generalizing kept with
  | nil => exact List.Sublist.slnil
  | cons next rest ih =>
      rw [dropRepeats.go]
      split
      · exact ih.cons next
      · exact ih.cons_cons next

theorem dropRepeats_sublist (elements : List α) :
    (dropRepeats same elements).Sublist elements := by
  cases elements with
  | nil => exact List.Sublist.slnil
  | cons first rest => exact dropRepeats_go_sublist.cons_cons first

theorem mem_rank_dropRepeats_go
    (ranked : (kept :: elements).Pairwise fun left right =>
      same left right = true ↔ rank left = rank right) {value : β} :
    value ∈ (kept :: dropRepeats.go same kept elements).map rank ↔
      value ∈ (kept :: elements).map rank := by
  induction elements generalizing kept with
  | nil => rfl
  | cons next rest ih =>
      obtain ⟨agrees, others⟩ := List.pairwise_cons.mp ranked
      rw [dropRepeats.go]
      split
      · rename_i equal
        have skipped := ranked.sublist ((List.sublist_cons_self next rest).cons_cons kept)
        rw [ih skipped]
        simp only [List.map_cons, List.mem_cons, (agrees next List.mem_cons_self).mp equal,
          or_self_left]
      · rw [List.map_cons, List.mem_cons, ih others]
        exact List.mem_cons.symm

theorem mem_rank_dropRepeats
    (ranked : elements.Pairwise fun left right => same left right = true ↔ rank left = rank right)
    {value : β} :
    value ∈ (dropRepeats same elements).map rank ↔ value ∈ elements.map rank := by
  cases elements with
  | nil => rfl
  | cons first rest => exact mem_rank_dropRepeats_go ranked

theorem pairwise_dropRepeats_go [PartialOrder β]
    (ranked : (kept :: elements).Pairwise fun left right =>
      same left right = true ↔ rank left = rank right)
    (ordered : (kept :: elements).Pairwise (rank · ≤ rank ·)) :
    (kept :: dropRepeats.go same kept elements).Pairwise (rank · < rank ·) := by
  induction elements generalizing kept with
  | nil => exact List.pairwise_singleton _ _
  | cons next rest ih =>
      rw [dropRepeats.go]
      split
      · have skips := (List.sublist_cons_self next rest).cons_cons kept
        exact ih (ranked.sublist skips) (ordered.sublist skips)
      · rename_i apart
        obtain ⟨agrees, others⟩ := List.pairwise_cons.mp ranked
        obtain ⟨above, further⟩ := List.pairwise_cons.mp ordered
        have step : rank kept < rank next := by
          apply lt_of_le_of_ne (above next List.mem_cons_self)
          rwa [ne_eq, ← agrees next List.mem_cons_self]
        have increasing := ih others further
        refine List.pairwise_cons.mpr ⟨List.forall_mem_cons.mpr ⟨step, ?_⟩, increasing⟩
        exact fun element member =>
          step.trans ((List.pairwise_cons.mp increasing).1 element member)

/-- Dropping repeats from elements in the order of their ranks leaves increasing ranks. -/
theorem pairwise_dropRepeats [PartialOrder β]
    (ranked : elements.Pairwise fun left right => same left right = true ↔ rank left = rank right)
    (ordered : elements.Pairwise (rank · ≤ rank ·)) :
    (dropRepeats same elements).Pairwise (rank · < rank ·) := by
  cases elements with
  | nil => exact List.Pairwise.nil
  | cons first rest => exact pairwise_dropRepeats_go ranked ordered

theorem beq_ranked [BEq α] [LawfulBEq α] (elements : List α) :
    elements.Pairwise fun left right => (left == right) = true ↔ id left = id right :=
  List.pairwise_of_forall fun _ _ => beq_iff_eq

theorem mem_dropRepeats [BEq α] [LawfulBEq α] {element : α} :
    element ∈ dropRepeats (· == ·) elements ↔ element ∈ elements := by
  simpa using mem_rank_dropRepeats (beq_ranked elements)

end Repeats

theorem mem_distinctDevices {device : String} {devices : List String} :
    device ∈ distinctDevices devices ↔ device ∈ devices := by
  rw [distinctDevices, mem_dropRepeats, List.mem_mergeSort]

theorem distinctDevices_eq_nil_iff {devices : List String} :
    distinctDevices devices = [] ↔ devices = [] := by
  simp only [List.eq_nil_iff_forall_not_mem, mem_distinctDevices]

/-- Every interval divides a day. -/
theorem intervalFor_dvd_day (start stop : Instant) : intervalFor start stop ∣ day := by
  rw [intervalFor, intervalForRange]
  repeat' split
  all_goals decide

theorem intervalFor_pos (start stop : Instant) : 0 < intervalFor start stop :=
  intervalForRange_pos _

theorem intervalFor_le_day (start stop : Instant) : intervalFor start stop ≤ day :=
  Nat.le_of_dvd (by decide) (intervalFor_dvd_day start stop)

theorem Query.wordMillis_of_le_day {query : Query} (interval_pos : 0 < query.interval)
    (length : query.interval ≤ day) :
    wordMillis query.firstOpening = query.firstOpening * 1000 := by
  have low := alignedStart_le query.start.seconds interval_pos
  have high := lt_alignedStart_add query.start.seconds interval_pos
  have calendar := query.start.bounds
  simp only [day, hour, minute, firstSecond, lastSecond] at length calendar
  refine wordMillis_of_small ?_ ?_ <;> rw [Query.firstOpening] <;> omega

namespace Request

variable {request : Request} {query : Query}

theorem hasEmptySegment_eq (path : String) :
    FieldPath.hasEmptySegment path = (FieldPath.split path).any String.isEmpty := by
  have same : (· == "") = String.isEmpty := by
    funext text
    rw [Bool.eq_iff_iff, beq_iff_eq, String.isEmpty_iff]
  rw [FieldPath.hasEmptySegment, same]

/-- A request is accepted exactly when it passes its four checks, which leave its query. -/
theorem normalize_eq_ok_iff :
    request.normalize = .ok query ↔
      request.validate = .ok () ∧ request.stop.le request.start = false ∧
        FieldPath.hasEmptySegment request.path = false ∧ request.windowEstimate ≤ windowLimit ∧
        query =
          { organization := request.organization
            devices := distinctDevices request.devices
            start := request.start
            stop := request.stop
            path := request.path
            thresholds := distinctThresholds request.thresholds
            interval := intervalFor request.start request.stop } := by
  rw [normalize]
  cases request.validate with
  | error failure => exact ⟨nofun, fun ⟨impossible, _⟩ => nomatch impossible⟩
  | ok _ =>
      simp only [Bind.bind, Except.bind, true_and]
      split
      next backwards =>
        exact ⟨nofun, fun ⟨forwards, _⟩ => nomatch backwards.symm.trans forwards⟩
      next forwards =>
        rw [and_iff_right (Bool.eq_false_iff.mpr forwards)]
        split
        next empty => exact ⟨nofun, fun ⟨whole, _⟩ => nomatch empty.symm.trans whole⟩
        next whole =>
          rw [and_iff_right (Bool.eq_false_iff.mpr whole)]
          split
          next many => exact ⟨nofun, fun ⟨few, _⟩ => absurd few (Nat.not_le.mpr many)⟩
          next few => rw [and_iff_right (Nat.not_lt.mp few), Except.ok.injEq, eq_comm]

theorem eq_of_normalize (accepted : request.normalize = .ok query) :
    query =
      { organization := request.organization
        devices := distinctDevices request.devices
        start := request.start
        stop := request.stop
        path := request.path
        thresholds := distinctThresholds request.thresholds
        interval := intervalFor request.start request.stop } ∧
      FieldPath.segments request.path = .ok (FieldPath.split request.path) := by
  obtain ⟨-, -, whole, -, same⟩ := normalize_eq_ok_iff.mp accepted
  rw [hasEmptySegment_eq] at whole
  exact ⟨same, by rw [FieldPath.segments, if_neg (Bool.eq_false_iff.mp whole)]⟩

theorem interval_le_day (accepted : request.normalize = .ok query) : query.interval ≤ day := by
  rw [(eq_of_normalize accepted).1]
  exact intervalFor_le_day _ _

theorem interval_pos (accepted : request.normalize = .ok query) : 0 < query.interval := by
  rw [(eq_of_normalize accepted).1]
  exact intervalFor_pos _ _

theorem wordMillis_firstOpening (accepted : request.normalize = .ok query) :
    wordMillis query.firstOpening = query.firstOpening * 1000 :=
  Query.wordMillis_of_le_day (interval_pos accepted) (interval_le_day accepted)

theorem firstSecond_le_of_mem_axis (accepted : request.normalize = .ok query) {opening : Int}
    (member : opening ∈ query.axis) : firstSecond ≤ opening := by
  obtain ⟨aligned, touches, _⟩ := (Query.mem_axis_iff (interval_pos accepted)).mp member
  have whole : (query.interval : Int) ∣ firstSecond := by
    rw [(eq_of_normalize accepted).1]
    exact (Int.natCast_dvd_natCast.mpr (intervalFor_dvd_day _ _)).trans (by decide)
  have calendar := query.start.bounds
  have distance := Int.le_of_dvd (by omega)
    (dvd_sub (dvd_add aligned (dvd_refl (query.interval : Int))) whole)
  omega

/-- A window that ends two days before the calendar closes within it. -/
theorem le_lastSecond_of_mem_axis (accepted : request.normalize = .ok query)
    (early : query.stop.seconds + 2 * day ≤ lastSecond) {opening : Int}
    (member : opening ∈ query.axis) : opening + query.interval ≤ lastSecond := by
  have before := ((Query.mem_axis_iff (interval_pos accepted)).mp member).2.2
  have length := interval_le_day accepted
  have nanos := query.stop.bounds.2.2
  simp only [Instant.millis, nanosPerSecond, day, hour, minute] at *
  omega

theorem exists_statement (accepted : request.normalize = .ok query) (table : String) :
    ∃ statement, query.statement table = .ok statement := by
  have segments : FieldPath.segments query.path = .ok (FieldPath.split query.path) := by
    rw [(eq_of_normalize accepted).1]
    exact (eq_of_normalize accepted).2
  have positive := interval_pos accepted
  exact ⟨_, Store.statement_eq_ok_iff.mpr ⟨segments, by omega, rfl⟩⟩

end Request
end Histogram
end Telemetry
