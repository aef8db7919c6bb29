import Telemetry.Proofs.Histogram.Closed
import Telemetry.Proofs.Histogram.Coverage
import Telemetry.Proofs.Histogram.Finding

/-!
# Ranges split in two

A range may be split anywhere, also within a window or a millisecond.  Both parts may have other
windows than the whole, and a window of the whole may be split itself; but a row is selected by the
millisecond, and the first part ends with the same millisecond that the second one begins with.  So
each row in the scope of the whole is in the scope of one part, and tallies of the parts add up.
-/

namespace Telemetry

open Dialogue Histogram

theorem Double.le_congr {bound threshold : Double} (same : bound.same threshold = true)
    (value : Double) : value.le bound = value.le threshold := by
  simp only [Double.same, Bool.and_eq_true, Bool.not_eq_true', beq_iff_eq] at same
  simp [Double.le, same]

namespace Histogram

def Request.before (request : Request) (middle : Instant) : Request :=
  { request with stop := middle }

def Request.after (request : Request) (middle : Instant) : Request :=
  { request with start := middle }

/-- The part of a query before an instant, with an interval of its own. -/
def Query.before (query : Query) (middle : Instant) (interval : Nat) : Query :=
  { query with stop := middle, interval }

def Query.after (query : Query) (middle : Instant) (interval : Nat) : Query :=
  { query with start := middle, interval }

/-- The count in the bucket that a threshold bounds. -/
def Window.countUpTo (window : Window) (threshold : Double) : Nat :=
  ((window.buckets.filter (·.bound.same threshold)).map Bucket.count).sum

/-- The counts in the buckets that a threshold bounds, over all windows. -/
def Answer.countUpTo (answer : Answer) (threshold : Double) : Nat :=
  (answer.windows.map (·.countUpTo threshold)).sum

namespace Window

variable {thresholds : List Double}

theorem tallies_countUpTo (finite : ∀ threshold ∈ thresholds, threshold.isFinite = true)
    {threshold : Double} (member : threshold ∈ thresholds) :
    Tallies (distinctThresholds thresholds) (·.countUpTo threshold) (·.le threshold) := by
  intro start stop values
  have once := (closed_ofValues finite start stop values).requested threshold member
  have counts : ∀ bucket ∈ (ofValues start stop (distinctThresholds thresholds) values).buckets,
      bucket.bound.same threshold = true → bucket.count = values.countP (·.le threshold) := by
    intro bucket inside same
    obtain listed | last := List.mem_append.mp inside
    · obtain ⟨bound, -, rfl⟩ := List.mem_map.mp listed
      simp only [Double.le_congr same]
    · rw [List.mem_singleton.mp last] at same
      have number := Double.isNaN_eq_false_of_isFinite (finite threshold member)
      rw [Double.same_iff Double.isNaN_infinity number] at same
      exact absurd same.symm (Int.ne_of_lt (Double.rank_lt_infinity (finite threshold member)))
  rw [List.countP_eq_length_filter] at once
  obtain ⟨bucket, alone⟩ := List.length_eq_one_iff.mp once
  obtain ⟨inside, same⟩ := List.mem_filter.mp (alone ▸ List.mem_singleton_self bucket)
  dsimp only [countUpTo]
  rw [alone, List.map_singleton, List.sum_singleton]
  exact counts bucket inside same

end Window

end Histogram

namespace Store

variable {query : Query} {middle : Instant}

theorem picks_after_eq_false {near : Nat} {chosen : Double → Bool} {row : Row}
    (early : picks (query.before middle near) chosen row = true) (far : Nat) :
    picks (query.after middle far) chosen row = false := by
  rw [picks, Bool.and_eq_true, decide_eq_true_eq] at early
  have missed : ¬InScope (query.after middle far) row :=
    fun late => absurd early.1.2.2.2 (Int.not_lt.mpr late.2.2.1)
  simp [picks, missed]

section Split

variable (low : query.start.millis ≤ middle.millis) (high : middle.millis ≤ query.stop.millis)
  (near far : Nat)

include low high

/-- A row is in scope exactly if it is in that of a part. -/
theorem inScope_iff_of_split (row : Row) :
    InScope query row ↔
      InScope (query.before middle near) row ∨ InScope (query.after middle far) row := by
  constructor
  · rintro ⟨owned, listed, after, before⟩
    obtain early | late := Int.lt_or_le row.occurredAt middle.millis
    · exact .inl ⟨owned, listed, after, early⟩
    · exact .inr ⟨owned, listed, late, before⟩
  · rintro (⟨owned, listed, after, early⟩ | ⟨owned, listed, late, before⟩)
    · exact ⟨owned, listed, after, early.trans_le high⟩
    · exact ⟨owned, listed, low.trans late, before⟩

theorem picks_of_split (chosen : Double → Bool) (row : Row) :
    picks query chosen row =
      (picks (query.before middle near) chosen row ||
        picks (query.after middle far) chosen row) := by
  rw [Bool.eq_iff_iff]
  simp only [picks, Bool.or_eq_true, Bool.and_eq_true, decide_eq_true_eq,
    inScope_iff_of_split low high near far row, or_and_right]
  rfl

/-- The rows that a query picks are those that its parts pick, each once. -/
theorem countP_picks_of_split (chosen : Double → Bool) (stored : List Row) :
    stored.countP (picks query chosen) =
      stored.countP (picks (query.before middle near) chosen) +
        stored.countP (picks (query.after middle far) chosen) := by
  induction stored with
  | nil => rfl
  | cons row rest ih =>
      rw [List.countP_cons, List.countP_cons, List.countP_cons, ih,
        picks_of_split low high near far]
      cases early : picks (query.before middle near) chosen row with
      | false =>
          simp only [Bool.false_or, Bool.false_eq_true, if_false]
          omega
      | true =>
          simp only [picks_after_eq_false early far, Bool.or_false, if_true, Bool.false_eq_true,
            if_false]
          omega

end Split

end Store

namespace Inquiry

variable {access : Store.Access} {table : String} {stored : List Store.Row} {request : Request}
  {middle : Instant} {shown : Window → Nat} {chosen : Double → Bool}
  {exchanges earlyExchanges lateExchanges : List (Exchange interface)}
  {answer early late : Answer}

/-- A tally of an answer sums those of its parts' answers. -/
theorem Finds.sum_of_split (ordinary : request.start.isLeap = false)
    (middle_ordinary : middle.isLeap = false)
    (whole : Finds access table stored request exchanges answer)
    (before : Finds access table stored (request.before middle) earlyExchanges early)
    (after : Finds access table stored (request.after middle) lateExchanges late)
    (tallies : Window.Tallies (distinctThresholds request.thresholds) shown chosen) :
    (answer.windows.map shown).sum =
      (early.windows.map shown).sum + (late.windows.map shown).sum := by
  obtain ⟨query, accepted, -, tally⟩ := whole.exists_tally
  obtain ⟨first, first_accepted, -, first_tally⟩ := before.exists_tally
  obtain ⟨second, second_accepted, -, second_tally⟩ := after.exists_tally
  have starts := (Request.normalize_eq_ok_iff.mp first_accepted).2.1
  have ends := (Request.normalize_eq_ok_iff.mp second_accepted).2.1
  rw [tally shown chosen tallies, first_tally shown chosen tallies,
    second_tally shown chosen tallies, (Request.eq_of_normalize accepted).1,
    (Request.eq_of_normalize first_accepted).1, (Request.eq_of_normalize second_accepted).1]
  apply Store.countP_picks_of_split
  · exact Instant.millis_le_of_le ordinary (Instant.le_of_le_eq_false starts)
  · exact Instant.millis_le_of_le middle_ordinary (Instant.le_of_le_eq_false ends)

theorem Finds.countP_bound (finds : Finds access table stored request exchanges answer)
    {threshold : Double} (member : threshold ∈ request.thresholds) :
    ∀ window ∈ answer.windows, window.buckets.countP (·.bound.same threshold) = 1 := by
  obtain ⟨query, devices, selecting, windows, accepted, reads, rfl⟩ := finds.reads
  intro window inside
  obtain ⟨opening, -, shows⟩ :=
    exists_of_mem_right (reads.shows (Request.wordMillis_firstOpening accepted)) inside
  rw [shows.content, (Request.eq_of_normalize accepted).1]
  exact (Window.closed_ofValues (Request.finite_of_normalize accepted) _ _ _).requested
    threshold member

/-- The parts of a split range together count what the whole does. -/
theorem answers_of_parts_add (ordinary : request.start.isLeap = false)
    (middle_ordinary : middle.isLeap = false)
    (whole : Finds access table stored request exchanges answer)
    (before : Finds access table stored (request.before middle) earlyExchanges early)
    (after : Finds access table stored (request.after middle) lateExchanges late) :
    (answer.windows.map Window.count).sum =
        (early.windows.map Window.count).sum + (late.windows.map Window.count).sum ∧
      answer.summary.total = (early.summary.total + late.summary.total) % totalLimit ∧
      (stored.length < totalLimit →
        answer.summary.total = early.summary.total + late.summary.total) ∧
      ∀ threshold ∈ request.thresholds,
        (∀ window ∈ answer.windows ++ early.windows ++ late.windows,
          window.buckets.countP (·.bound.same threshold) = 1) ∧
        answer.countUpTo threshold = early.countUpTo threshold + late.countUpTo threshold := by
  obtain ⟨query, accepted, total, tally⟩ := whole.exists_tally
  obtain ⟨-, -, early_total, -⟩ := before.exists_tally
  obtain ⟨-, -, late_total, -⟩ := after.exists_tally
  have count : Window.Tallies (distinctThresholds request.thresholds) Window.count fun _ => true :=
    Window.tallies_count _
  have sums := whole.sum_of_split ordinary middle_ordinary before after count
  refine ⟨sums, ?_, fun few => ?_, fun threshold member => ⟨?_, ?_⟩⟩
  · rw [total, early_total, late_total, sums, Nat.add_mod]
  · have bounded : (answer.windows.map Window.count).sum ≤ stored.length := by
      rw [tally _ _ count]
      exact List.countP_le_length
    have room : (answer.windows.map Window.count).sum < totalLimit :=
      Nat.lt_of_le_of_lt bounded few
    rw [total, early_total, late_total, Nat.mod_eq_of_lt room, Nat.mod_eq_of_lt (by omega),
      Nat.mod_eq_of_lt (by omega), sums]
  · intro window inside
    obtain (inside | inside) | inside :=
      (List.mem_append.mp inside).imp_left List.mem_append.mp
    · exact whole.countP_bound member window inside
    · exact before.countP_bound member window inside
    · exact after.countP_bound member window inside
  · exact whole.sum_of_split ordinary middle_ordinary before after
      (Window.tallies_countUpTo (Request.finite_of_normalize accepted) member)

section Example

/-- A request about one device with zero as its threshold. -/
def zeroRequest (start stop : Instant) : Request :=
  ⟨"o", ["d"], start, stop, "t", [⟨0⟩]⟩

/-- Two rows, in the last millisecond of the first second and in the millisecond after it. -/
def zeroRows : List Store.Row :=
  [⟨"o", "d", 999, 0, ⟨[("t", .number (.integer (-1) (by decide)))], by decide⟩⟩,
    ⟨"o", "d", 1000, 0, ⟨[("t", .number (.integer 1 (by decide)))], by decide⟩⟩]

theorem normalize_zeroRequest {start stop : Instant} (forwards : stop.le start = false)
    (few : (zeroRequest start stop).windowEstimate ≤ windowLimit) :
    (zeroRequest start stop).normalize =
      .ok ⟨"o", ["d"], start, stop, "t", [⟨0⟩], intervalFor start stop⟩ := by
  have devices : distinctDevices ["d"] = ["d"] := by
    rw [distinctDevices, List.mergeSort_singleton]
    rfl
  have thresholds : distinctThresholds [⟨0⟩] = [⟨0⟩] := by
    rw [distinctThresholds, List.mergeSort_singleton]
    rfl
  have whole : FieldPath.hasEmptySegment "t" = false := by decide +kernel
  refine Request.normalize_eq_ok_iff.mpr ⟨by rfl, forwards, whole, few, ?_⟩
  simp only [zeroRequest, devices, thresholds]

theorem exists_finds_zeroRequest (start stop : Instant) (forwards : stop.le start = false)
    (few : (zeroRequest start stop).windowEstimate ≤ windowLimit)
    (early : stop.seconds + 2 * day ≤ lastSecond) :
    ∃ exchanges answer,
      Finds Store.localAccess "t" zeroRows (zeroRequest start stop) exchanges answer ∧
      answer.summary.total = zeroRows.countP (Store.picks
        ⟨"o", ["d"], start, stop, "t", [⟨0⟩], intervalFor start stop⟩ fun _ => true) := by
  have accepted := normalize_zeroRequest forwards few
  obtain ⟨exchanges, answer, finds⟩ := exists_finds accepted
    (fun _ => Request.le_lastSecond_of_mem_axis accepted early) Store.ready_localAccess zeroRows
  obtain ⟨query, again, total, tally⟩ := finds.exists_tally
  cases accepted.symm.trans again
  refine ⟨exchanges, answer, finds, ?_⟩
  rw [total, tally _ _ (Window.tallies_count _)]
  exact Nat.mod_eq_of_lt (Nat.lt_of_le_of_lt List.countP_le_length (by decide))

/-- A nanosecond into the hundredth second before the epoch. -/
def wideStart : Instant := ⟨-100, 1, by decide⟩

/-- Half a millisecond into the second after the one of the epoch. -/
def wideMiddle : Instant := ⟨1, 500000, by decide⟩

/-- Almost two hours later than the start. -/
def wideStop : Instant := ⟨7100, 0, by decide⟩

/-- A range is split within a millisecond that has a row in each part. -/
theorem split_within_millisecond :
    ∃ exchanges earlyExchanges lateExchanges answer early late,
      Finds Store.localAccess "t" zeroRows (zeroRequest wideStart wideStop) exchanges
        answer ∧
      Finds Store.localAccess "t" zeroRows (zeroRequest wideStart wideMiddle)
        earlyExchanges early ∧
      Finds Store.localAccess "t" zeroRows (zeroRequest wideMiddle wideStop)
        lateExchanges late ∧
      early.summary.total = 1 ∧ late.summary.total = 1 ∧ answer.summary.total = 2 ∧
      answer.countUpTo ⟨0⟩ = early.countUpTo ⟨0⟩ + late.countUpTo ⟨0⟩ := by
  obtain ⟨exchanges, answer, whole, -⟩ :=
    exists_finds_zeroRequest wideStart wideStop (by decide) (by decide) (by decide)
  obtain ⟨earlyExchanges, early, before, early_total⟩ :=
    exists_finds_zeroRequest wideStart wideMiddle (by decide) (by decide) (by decide)
  obtain ⟨lateExchanges, late, after, late_total⟩ :=
    exists_finds_zeroRequest wideMiddle wideStop (by decide) (by decide) (by decide)
  obtain ⟨-, -, total, counted⟩ :=
    answers_of_parts_add (by decide) (by decide) whole before after
  have first : early.summary.total = 1 := early_total.trans (by decide +kernel)
  have second : late.summary.total = 1 := late_total.trans (by decide +kernel)
  refine ⟨_, _, _, _, _, _, whole, before, after, first, second, ?_, ?_⟩
  · rw [total (by decide), first, second]
  · exact (counted ⟨0⟩ (List.mem_singleton_self _)).2

end Example

end Inquiry
end Telemetry
