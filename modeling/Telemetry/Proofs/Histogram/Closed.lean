import Telemetry.Proofs.Histogram.Agreement

/-!
# Closed histograms

Thresholds are sorted by the total order of bit patterns and then taken once by numeric equality,
for which both zeros are one.  The total order refines the numeric one, so equal numbers stand
together and the bounds that are left increase strictly.  The numbers of values at or below
increasing bounds do not decrease, and the infinite bucket counts every value.
-/

namespace Telemetry

open Dialogue Histogram

namespace Double

variable {left middle right : Double}

/-- The strict numeric comparison: false as soon as one side is not a number. -/
def lt (left right : Double) : Bool :=
  !left.isNaN && !right.isNaN && left.rank < right.rank

theorem rank_le_of_totalLe (ordered : left.totalLe right = true) : left.rank ≤ right.rank := by
  have total : left.totalRank ≤ right.totalRank := of_decide_eq_true ordered
  simp only [totalRank] at total
  simp only [rank]
  split_ifs at total ⊢ <;> omega

theorem lt_iff (first : left.isNaN = false) (second : right.isNaN = false) :
    left.lt right = true ↔ left.rank < right.rank := by
  simp [lt, first, second]

theorem same_iff (first : left.isNaN = false) (second : right.isNaN = false) :
    left.same right = true ↔ left.rank = right.rank := by
  simp [same, first, second]

theorem same_ranked {numbers : List Double} (each : ∀ number ∈ numbers, number.isNaN = false) :
    numbers.Pairwise fun left right => left.same right = true ↔ left.rank = right.rank :=
  List.pairwise_of_forall_mem_list fun left first right second =>
    same_iff (each left first) (each right second)

theorem le_of_le_of_lt (first : left.le middle = true) (second : middle.lt right = true) :
    left.le right = true := by
  simp only [le, lt, Bool.and_eq_true, decide_eq_true_eq] at *
  exact ⟨⟨first.1.1, second.1.2⟩, first.2.trans (Int.le_of_lt second.2)⟩

theorem isNaN_infinity : infinity.isNaN = false := by decide

theorem rank_lt_infinity {number : Double} (finite : number.isFinite = true) :
    number.rank < infinity.rank := by
  have top : infinity.rank = infiniteMagnitude := by decide
  simp only [isFinite, decide_eq_true_eq] at finite
  rw [top, rank]
  split <;> omega

end Double

namespace Histogram

section Thresholds

variable {thresholds : List Double}

theorem mem_of_mem_distinctThresholds {bound : Double}
    (member : bound ∈ distinctThresholds thresholds) : bound ∈ thresholds :=
  List.mem_mergeSort.mp ((dropRepeats_sublist _).subset member)

theorem sorted_ranked (numbers : ∀ threshold ∈ thresholds, threshold.isNaN = false) :
    (thresholds.mergeSort Double.totalLe).Pairwise fun left right =>
      left.same right = true ↔ left.rank = right.rank :=
  Double.same_ranked fun element member => numbers element (List.mem_mergeSort.mp member)

theorem pairwise_mergeSort_totalLe (thresholds : List Double) :
    (thresholds.mergeSort Double.totalLe).Pairwise (·.totalLe · = true) :=
  @List.pairwise_mergeSort _ Double.totalLe (fun _ _ _ => Double.totalLe_trans)
    Double.totalLe_total thresholds

theorem pairwise_distinctThresholds
    (numbers : ∀ threshold ∈ thresholds, threshold.isNaN = false) :
    (distinctThresholds thresholds).Pairwise (·.rank < ·.rank) :=
  pairwise_dropRepeats (sorted_ranked numbers)
    ((pairwise_mergeSort_totalLe thresholds).imp Double.rank_le_of_totalLe)

theorem increasing_distinctThresholds
    (numbers : ∀ threshold ∈ thresholds, threshold.isNaN = false) :
    (distinctThresholds thresholds).Pairwise (·.lt · = true) := by
  refine (pairwise_distinctThresholds numbers).imp_of_mem fun {left right} first second less => ?_
  exact (Double.lt_iff (numbers left (mem_of_mem_distinctThresholds first))
    (numbers right (mem_of_mem_distinctThresholds second))).mpr less

/-- Each threshold is left once, though perhaps as the other zero. -/
theorem countP_same_distinctThresholds
    (numbers : ∀ threshold ∈ thresholds, threshold.isNaN = false) {threshold : Double}
    (member : threshold ∈ thresholds) :
    (distinctThresholds thresholds).countP (·.same threshold) = 1 := by
  have present : threshold.rank ∈ (distinctThresholds thresholds).map Double.rank := by
    rw [distinctThresholds, mem_rank_dropRepeats (sorted_ranked numbers)]
    exact List.mem_map_of_mem (List.mem_mergeSort.mpr member)
  have once : ((distinctThresholds thresholds).map Double.rank).Nodup :=
    (List.pairwise_map.mpr (pairwise_distinctThresholds numbers)).imp Int.ne_of_lt
  rw [← List.count_eq_one_of_mem once present, List.count_eq_countP, List.countP_map]
  refine List.countP_congr fun bound inside => ?_
  have number := numbers bound (mem_of_mem_distinctThresholds inside)
  rw [Double.same_iff number (numbers threshold member), Function.comp_apply, beq_iff_eq]

theorem Request.finite_of_validate {request : Request} (valid : request.validate = .ok ()) :
    ∀ threshold ∈ request.thresholds, threshold.isFinite = true := by
  by_cases finite : request.thresholds.all Double.isFinite = true
  · exact List.all_eq_true.mp finite
  · rw [validate, requireSound, faults, if_neg finite] at valid
    simp at valid

theorem Request.finite_of_normalize {request : Request} {query : Query}
    (accepted : request.normalize = .ok query) :
    ∀ threshold ∈ request.thresholds, threshold.isFinite = true :=
  finite_of_validate (normalize_eq_ok_iff.mp accepted).1

end Thresholds

/-- A window whose buckets close a histogram over thresholds, with infinity at the end. -/
structure Window.Closed (thresholds : List Double) (window : Window) : Prop where
  increasing : window.buckets.Pairwise (·.bound.lt ·.bound = true)
  requested : ∀ threshold ∈ thresholds, window.buckets.countP (·.bound.same threshold) = 1
  bounded : ∀ bucket ∈ window.buckets.dropLast, bucket.bound ∈ thresholds
  ending : window.buckets.getLast? = some ⟨Double.infinity, window.count⟩
  cumulative : window.buckets.Pairwise (·.count ≤ ·.count)

/-- Whatever its values, a window over distinct finite thresholds is closed. -/
theorem Window.closed_ofValues {thresholds : List Double}
    (finite : ∀ threshold ∈ thresholds, threshold.isFinite = true) (start stop : Instant)
    (values : List Double) :
    (Window.ofValues start stop (distinctThresholds thresholds) values).Closed thresholds := by
  have numbers : ∀ threshold ∈ thresholds, threshold.isNaN = false :=
    fun threshold member => Double.isNaN_eq_false_of_isFinite (finite threshold member)
  have bounds : ∀ bound ∈ distinctThresholds thresholds, bound.isFinite = true :=
    fun bound member => finite bound (mem_of_mem_distinctThresholds member)
  have increasing := increasing_distinctThresholds numbers
  constructor
  case increasing =>
    refine List.pairwise_append.mpr ⟨List.pairwise_map.mpr increasing,
      List.pairwise_singleton _ _, ?_⟩
    intro bucket member last infinite
    obtain ⟨bound, inside, rfl⟩ := List.mem_map.mp member
    rw [List.mem_singleton.mp infinite]
    exact (Double.lt_iff (Double.isNaN_eq_false_of_isFinite (bounds bound inside))
      Double.isNaN_infinity).mpr (Double.rank_lt_infinity (bounds bound inside))
  case requested =>
    intro threshold member
    have apart : Double.infinity.same threshold = false := by
      rw [← Bool.not_eq_true, Double.same_iff Double.isNaN_infinity (numbers threshold member)]
      exact (Int.ne_of_lt (Double.rank_lt_infinity (finite threshold member))).symm
    rw [Window.ofValues, List.countP_append, List.countP_map, List.countP_singleton]
    simp only [apart, Bool.false_eq_true, if_false]
    exact countP_same_distinctThresholds numbers member
  case bounded =>
    intro bucket member
    rw [Window.ofValues, List.dropLast_concat] at member
    obtain ⟨bound, inside, rfl⟩ := List.mem_map.mp member
    exact mem_of_mem_distinctThresholds inside
  case ending => exact List.getLast?_concat
  case cumulative =>
    refine List.pairwise_append.mpr ⟨List.pairwise_map.mpr (increasing.imp fun less => ?_),
      List.pairwise_singleton _ _, ?_⟩
    · exact List.countP_mono_left fun value _ low => Double.le_of_le_of_lt low less
    · intro bucket member last infinite
      obtain ⟨bound, inside, rfl⟩ := List.mem_map.mp member
      rw [List.mem_singleton.mp infinite]
      exact List.countP_le_length

end Histogram

namespace Inquiry

variable {access : Store.Access} {table : String} {request : Request}
  {exchanges : List (Exchange interface)} {answer : Answer}

/-- Each window of an answer is closed, and the total sums their counts. -/
theorem answer_closed (stored : List Store.Row)
    (course : Course (Inquiry.answer access table request) exchanges (.ok answer))
    (faithful : ∀ query statement text rows, request.normalize = .ok query →
      query.statement table = .ok statement → ⟨.store (.select text), .ok rows⟩ ∈ exchanges →
      rows = Store.evaluate statement stored) :
    (∀ window ∈ answer.windows, window.Closed request.thresholds) ∧
      answer.summary.total = (answer.windows.map Window.count).sum % totalLimit ∧
      (stored.length < totalLimit →
        answer.summary.total = (answer.windows.map Window.count).sum) := by
  obtain ⟨query, statement, text, rows, devices, windows, accepted, built, replied, filled, rfl⟩ :=
    exists_reply_of_answer course
  have interval_pos := Request.interval_pos accepted
  rw [faithful query statement text rows accepted built replied, Store.evaluate_eq built,
    Query.fill_eq_ok_iff interval_pos
      (Nat.lt_of_le_of_lt (Request.interval_le_day accepted) (by decide))
      (Request.wordMillis_firstOpening accepted)] at filled
  have shown : List.Forall₂ (query.Shows (stored.filterMap (Store.observationOf? query)))
      query.axis windows :=
    filled.1.imp fun opening window fills => Query.fills_aggregate_iff.mp fills
  have counted : (windows.map Window.count).sum ≤ stored.length := by
    have inside : ∀ observation ∈ stored.filterMap (Store.observationOf? query),
        observation.opening ∈ query.axis := by
      intro observation member
      obtain ⟨row, -, observed⟩ := List.mem_filterMap.mp member
      exact Store.opening_mem_axis interval_pos observed
    rw [Query.sum_counts interval_pos inside shown]
    exact List.length_filterMap_le _ _
  have total : (query.answer devices windows).summary.total =
      (windows.map Window.count).sum % totalLimit := rfl
  refine ⟨?_, total, fun few => ?_⟩
  · intro window member
    obtain ⟨opening, -, shows⟩ := exists_of_mem_right shown member
    rw [shows.content, (Request.eq_of_normalize accepted).1]
    exact Window.closed_ofValues (Request.finite_of_normalize accepted) _ _ _
  · rw [total, Nat.mod_eq_of_lt (Nat.lt_of_le_of_lt counted few)]
    rfl

section Example

/-- A request whose thresholds are in no order, with a repeat and both zeros. -/
def mixedRequest : Request :=
  ⟨"o", [], ⟨600, 0, by decide⟩, ⟨1500, 0, by decide⟩, "t",
    [⟨0x4039800000000000⟩, ⟨0⟩, ⟨0x8000000000000000⟩, ⟨0xC008000000000000⟩, ⟨0x4039800000000000⟩]⟩

def mixedQuery : Query :=
  ⟨"o", [], mixedRequest.start, mixedRequest.stop, "t",
    distinctThresholds mixedRequest.thresholds, 300⟩

/-- Two rows, the second one beyond the last threshold. -/
def mixedRows : List Store.Row :=
  [⟨"o", "d", 601000, 0, ⟨[("t", .number (.integer 0 (by decide)))], by decide⟩⟩,
    ⟨"o", "d", 1000000, 0, ⟨[("t", .number (.integer 26 (by decide)))], by decide⟩⟩]

theorem normalize_mixedRequest : mixedRequest.normalize = .ok mixedQuery := by
  have devices : distinctDevices [] = [] := by
    rw [distinctDevices, List.mergeSort_nil]
    rfl
  refine Request.normalize_eq_ok_iff.mpr ⟨by rfl, by decide, by decide +kernel, by decide, ?_⟩
  rw [mixedRequest, devices]
  rfl

/-- The rows are counted in closed windows. -/
theorem mixed_answer_closed :
    ∃ exchanges answer,
      Course (Inquiry.answer Store.localAccess "t" mixedRequest) exchanges (.ok answer) ∧
        (∀ window ∈ answer.windows, window.Closed mixedRequest.thresholds) ∧
        answer.summary.total = 2 := by
  obtain ⟨counting, devices, counts⟩ := exists_counts mixedQuery
  obtain ⟨statement, text, windows, built, -, counted, course⟩ :=
    exists_answer normalize_mixedRequest (by decide) Store.ready_localAccess mixedRows counts
  have faithful : ∀ query other further rows, mixedRequest.normalize = .ok query →
      query.statement "t" = .ok other →
      (⟨.store (.select further), .ok rows⟩ : Exchange interface) ∈ counting ++
        [⟨.store (.select text), .ok (Store.evaluate statement mixedRows)⟩] →
      rows = Store.evaluate other mixedRows := by
    intro query other further rows accepted same member
    cases normalize_mixedRequest.symm.trans accepted
    cases built.symm.trans same
    obtain member | member := List.mem_append.mp member
    · exact absurd member counts.store_not_mem
    · cases List.mem_singleton.mp member
      rfl
  obtain ⟨closed, -, total⟩ := answer_closed mixedRows course faithful
  refine ⟨_, _, course, closed, (total (by decide)).trans (counted.trans ?_)⟩
  have chosen : ∀ row ∈ mixedRows, Store.selects statement row = true := by
    intro row member
    rw [Store.selects_iff built]
    revert row
    decide +kernel
  rw [List.filter_eq_self.mpr chosen]
  rfl

end Example

end Inquiry
end Telemetry
