import Telemetry.Proofs.Histogram.Agreement

/-!
# The number of windows in an answer

A request is refused when its estimate, the whole intervals between start and end and one more,
exceeds the limit.  The windows of the answer are counted from the aligned start instead, so they
stay within the limit exactly when the end lies at most that many intervals after the aligned
start; an end beyond it makes one window too many, and leap seconds can make two.
-/

namespace Telemetry

open Dialogue Histogram

namespace Instant

variable {start stop : Instant}

theorem neg_one_le_leapCorrection (later earlier : Instant) :
    -1 ≤ leapCorrection later earlier := by
  rw [leapCorrection]
  repeat' split
  all_goals decide

theorem leapCorrection_nonneg {later : Instant} (ordinary : later.isLeap = false)
    (earlier : Instant) : 0 ≤ leapCorrection later earlier := by
  rw [leapCorrection, ordinary]
  split
  · split <;> decide
  · split <;> decide

theorem nanosBetween_lt {bound : Nat} (few : rangeSeconds start stop < bound) :
    nanosBetween stop start < bound * nanosPerSecond := by
  by_contra many
  rw [Int.not_lt] at many
  have forwards : 0 ≤ nanosBetween stop start :=
    (Int.mul_nonneg (Int.natCast_nonneg _) (Int.natCast_nonneg _)).trans many
  have whole : (bound : Int) ≤ secondsBetween stop start := by
    rw [secondsBetween, Int.tdiv_eq_ediv_of_nonneg forwards]
    exact (Int.le_ediv_iff_mul_le (by decide)).mpr many
  rw [rangeSeconds] at few
  omega

/-- How far the end lies beyond the second of the start. -/
theorem millis_lt {bound : Nat} (few : rangeSeconds start stop < bound) :
    stop.millis < (start.seconds + bound + 3) * 1000 := by
  have correction := neg_one_le_leapCorrection stop start
  have nanos := start.bounds.2.2
  have between := nanosBetween_lt few
  simp only [nanosBetween, nanosPerSecond, millis] at *
  omega

theorem millis_lt_of_ordinary {bound : Nat} (few : rangeSeconds start stop < bound)
    (begins : start.isLeap = false) (ends : stop.isLeap = false) :
    stop.millis < (start.seconds + bound + 1) * 1000 := by
  have correction := leapCorrection_nonneg ends start
  have between := nanosBetween_lt few
  have nanos : start.nanos < nanosPerSecond := by simpa [isLeap] using begins
  simp only [nanosBetween, nanosPerSecond, millis] at *
  omega

end Instant

namespace Histogram

variable {query : Query}

namespace Query

theorem windowCount_le_iff (interval_pos : 0 < query.interval) {opening : Int} {limit : Nat} :
    query.windowCount opening ≤ limit ↔
      query.stop.millis ≤ (opening + limit * query.interval) * 1000 := by
  rw [← Nat.not_lt, lt_windowCount_iff interval_pos, Int.not_lt]

theorem length_of_fill (interval_pos : 0 < query.interval)
    (interval_lt : query.interval < 0x8000000000000000)
    (small : wordMillis query.firstOpening = query.firstOpening * 1000) {rows : List Row}
    {windows : List Window} (filled : query.fill rows = .ok windows) :
    windows.length = query.windowCount query.firstOpening := by
  have follow := ((fill_eq_ok_iff interval_pos interval_lt small).mp filled).1
  rw [← follow.length_eq, axis, axisFrom, List.length_map, List.length_range]

end Query

namespace Request

variable {request : Request}

/-- What the estimate says about the length of an accepted range. -/
theorem rangeSeconds_lt (accepted : request.normalize = .ok query) :
    Instant.rangeSeconds request.start request.stop < windowLimit * query.interval := by
  obtain ⟨-, -, -, few, rfl⟩ := normalize_eq_ok_iff.mp accepted
  rw [windowEstimate, Nat.add_one_le_iff] at few
  exact (Nat.div_lt_iff_lt_mul (intervalFor_pos _ _)).mp few

theorem length_of_fill (accepted : request.normalize = .ok query) {rows : List Row}
    {windows : List Window} (filled : query.fill rows = .ok windows) :
    windows.length = query.windowCount query.firstOpening :=
  Query.length_of_fill (interval_pos accepted)
    (Nat.lt_of_le_of_lt (interval_le_day accepted) (by decide)) (wordMillis_firstOpening accepted)
    filled

end Request
end Histogram

namespace Inquiry

/-- The windows are within the limit exactly when the end is, from the aligned start. -/
theorem windows_within_limit_iff {access : Store.Access} {table : String} {request : Request}
    {exchanges : List (Exchange interface)} {answer : Answer}
    (course : Course (Inquiry.answer access table request) exchanges (.ok answer)) :
    (answer.windows.length ≤ windowLimit ↔
        request.stop.millis ≤
          (alignedStart (intervalFor request.start request.stop) request.start.seconds +
            windowLimit * intervalFor request.start request.stop) * 1000) ∧
      answer.windows.length ≤ windowLimit + 2 ∧
      (request.start.isLeap = false → request.stop.isLeap = false →
        answer.windows.length ≤ windowLimit + 1) := by
  obtain ⟨query, rows, accepted, filled⟩ := exists_fill_of_answer course
  have interval_pos := Request.interval_pos accepted
  have aligned := lt_alignedStart_add request.start.seconds interval_pos
  have long : 300 ≤ query.interval := by
    rw [(Request.eq_of_normalize accepted).1]
    exact intervalForRange_mono (Nat.zero_le _)
  have few := Request.rangeSeconds_lt accepted
  rw [Request.length_of_fill accepted filled]
  simp only [Query.windowCount_le_iff interval_pos, Query.firstOpening]
  obtain ⟨-, -, -, -, rfl⟩ := Request.normalize_eq_ok_iff.mp accepted
  refine ⟨Iff.rfl, ?_, fun begins ends => ?_⟩
  · have before := Instant.millis_lt few
    simp only [windowLimit] at *
    push_cast at *
    omega
  · have before := Instant.millis_lt_of_ordinary few begins ends
    simp only [windowLimit] at *
    push_cast at *
    omega

section Example

/-- A request about ten thousand days that begins somewhere in its first day. -/
def longRequest (start stop : Instant) : Request :=
  ⟨"org-1", ["device-1"], start, stop, "temp", []⟩

def longQuery (start stop : Instant) : Query :=
  ⟨"org-1", ["device-1"], start, stop, "temp", [], day⟩

theorem exists_empty_answer {access : Store.Access} {table : String}
    (ready : Store.Ready access table) {request : Request} {query : Query}
    (accepted : request.normalize = .ok query)
    (representable : ∀ opening ∈ query.axis, opening + query.interval ≤ lastSecond) :
    ∃ exchanges answer,
      Course (Inquiry.answer access table request) exchanges (.ok answer) ∧
        answer.windows.length = query.windowCount query.firstOpening := by
  obtain ⟨counting, devices, counts⟩ := exists_counts query
  obtain ⟨statement, text, windows, -, filled, -, course⟩ :=
    exists_answer accepted representable ready [] counts
  exact ⟨_, _, course, Request.length_of_fill accepted filled⟩

theorem normalize_longRequest {start stop : Instant}
    (forwards : stop.le start = false)
    (few : (longRequest start stop).windowEstimate ≤ windowLimit)
    (long : intervalFor start stop = day) :
    (longRequest start stop).normalize = .ok (longQuery start stop) := by
  have valid : (longRequest start stop).validate = .ok () := by
    rw [Request.validate, Request.faults]
    rfl
  have whole : FieldPath.hasEmptySegment "temp" = false := by decide +kernel
  refine Request.normalize_eq_ok_iff.mpr ⟨valid, forwards, whole, few, ?_⟩
  have devices : distinctDevices ["device-1"] = ["device-1"] := by
    rw [distinctDevices, List.mergeSort_singleton]
    rfl
  have thresholds : distinctThresholds [] = [] := by
    rw [distinctThresholds, List.mergeSort_nil]
    rfl
  simp only [longRequest, longQuery, long, devices, thresholds]

theorem representable_longQuery {start stop : Instant} (early : stop.seconds ≤ 864000000) :
    ∀ opening ∈ (longQuery start stop).axis,
      opening + (longQuery start stop).interval ≤ lastSecond := by
  intro opening member
  have touches := ((Query.mem_axis_iff (show 0 < day by decide)).mp member).2.2
  have nanos := stop.bounds.2.2
  simp only [longQuery, Instant.millis, nanosPerSecond, day, hour, minute, lastSecond] at *
  omega

/-- A range just within ten thousand days has as many windows. -/
theorem ten_thousand_windows :
    ∃ exchanges answer,
      Course (Inquiry.answer Store.localAccess "t"
        (longRequest ⟨0, 0, by decide⟩ ⟨863999999, 0, by decide⟩)) exchanges (.ok answer) ∧
      answer.windows.length ≤ windowLimit := by
  have accepted : (longRequest ⟨0, 0, by decide⟩ ⟨863999999, 0, by decide⟩).normalize =
      .ok (longQuery _ _) :=
    normalize_longRequest (by decide) (by decide) (by decide)
  obtain ⟨exchanges, answer, course, -⟩ :=
    exists_empty_answer Store.ready_localAccess accepted (representable_longQuery (by decide))
  exact ⟨exchanges, answer, course, (windows_within_limit_iff course).1.mpr (by decide)⟩

/-- A range that begins a second into its first day has a window too many. -/
theorem one_window_too_many :
    ∃ exchanges answer,
      Course (Inquiry.answer Store.localAccess "t"
        (longRequest ⟨1, 0, by decide⟩ ⟨864000000, 1000000, by decide⟩)) exchanges (.ok answer) ∧
      answer.windows.length = windowLimit + 1 := by
  have accepted : (longRequest ⟨1, 0, by decide⟩ ⟨864000000, 1000000, by decide⟩).normalize =
      .ok (longQuery _ _) :=
    normalize_longRequest (by decide) (by decide) (by decide)
  obtain ⟨exchanges, answer, course, counted⟩ :=
    exists_empty_answer Store.ready_localAccess accepted (representable_longQuery (by decide))
  exact ⟨exchanges, answer, course, counted.trans (by decide)⟩

end Example

end Inquiry
end Telemetry
