import Mathlib.Data.Finset.Card
import Mathlib.Data.List.Sort
import Mathlib.Data.String.Basic
import Telemetry.Proofs.Histogram.Closed

/-!
# Order and repetition

Devices and thresholds are sorted and taken once before anything is asked.  Of the thresholds that
are numerically equal the one that comes first in the total order is left, so what is left is known
from the set of thresholds alone.  Requests that differ in the order and repetition of devices and
thresholds therefore have the same answer, by the same calls.
-/

namespace Telemetry

open Dialogue Histogram

namespace Double

theorem toNat_bits (number : Double) :
    number.bits.toNat = number.magnitude + if number.negative then signWeight else 0 := by
  have bound : number.bits.toNat < 2 * signWeight := number.bits.toNat_lt
  cases sign : number.negative with
  | false =>
      have below : number.bits.toNat < signWeight := Nat.lt_of_not_le (of_decide_eq_false sign)
      rw [magnitude, Nat.mod_eq_of_lt below]
      rfl
  | true =>
      have above : signWeight ≤ number.bits.toNat := of_decide_eq_true sign
      rw [magnitude, Nat.mod_eq_sub_mod above, Nat.mod_eq_of_lt (by omega), if_pos rfl,
        Nat.sub_add_cancel above]

theorem totalRank_injective : Function.Injective totalRank := by
  intro left right same
  have bits : left.bits.toNat = right.bits.toNat := by
    rw [toNat_bits, toNat_bits]
    simp only [totalRank] at same
    split_ifs at same ⊢ <;> omega
  cases left
  cases right
  exact congrArg mk (UInt64.toNat_inj.mp bits)

theorem totalLe_antisymm {left right : Double} (first : left.totalLe right = true)
    (second : right.totalLe left = true) : left = right :=
  totalRank_injective (Int.le_antisymm (of_decide_eq_true first) (of_decide_eq_true second))

end Double

namespace Histogram

section First

variable {α β : Type} [PartialOrder β] {same : α → α → Bool} {rank : α → β}
  {kept element other : α} {elements : List α}

theorem before_of_mem_dropRepeats_go (before : α → α → Prop)
    (refl : ∀ element, before element element)
    (ranked : (kept :: elements).Pairwise fun left right =>
      same left right = true ↔ rank left = rank right)
    (ordered : (kept :: elements).Pairwise (rank · ≤ rank ·))
    (sorted : (kept :: elements).Pairwise before)
    (left : element ∈ kept :: dropRepeats.go same kept elements)
    (present : other ∈ kept :: elements) (equal : rank other = rank element) :
    before element other := by
  induction elements generalizing kept with
  | nil =>
      rw [List.mem_singleton.mp left, List.mem_singleton.mp present]
      exact refl kept
  | cons next rest ih =>
      obtain rfl | later := List.mem_cons.mp left
      · obtain rfl | present := List.mem_cons.mp present
        · exact refl _
        · exact (List.pairwise_cons.mp sorted).1 other present
      have increasing := pairwise_dropRepeats_go ranked ordered
      have above : rank kept < rank element := (List.pairwise_cons.mp increasing).1 element later
      have present : other ∈ next :: rest :=
        (List.mem_cons.mp present).resolve_left fun same => above.ne (same ▸ equal)
      rw [dropRepeats.go] at later
      split at later
      next repeated =>
        have level : rank kept = rank next :=
          ((List.pairwise_cons.mp ranked).1 next List.mem_cons_self).mp repeated
        have present : other ∈ rest :=
          (List.mem_cons.mp present).resolve_left fun same =>
            above.ne (level.trans (same ▸ equal))
        have skips := (List.sublist_cons_self next rest).cons_cons kept
        exact ih (ranked.sublist skips) (ordered.sublist skips) (sorted.sublist skips)
          (List.mem_cons_of_mem kept later) (List.mem_cons_of_mem kept present)
      next further => exact ih ranked.of_cons ordered.of_cons sorted.of_cons later present

theorem before_of_mem_dropRepeats (before : α → α → Prop)
    (refl : ∀ element, before element element)
    (ranked : elements.Pairwise fun left right => same left right = true ↔ rank left = rank right)
    (ordered : elements.Pairwise (rank · ≤ rank ·)) (sorted : elements.Pairwise before)
    (left : element ∈ dropRepeats same elements) (present : other ∈ elements)
    (equal : rank other = rank element) : before element other := by
  cases elements with
  | nil => cases present
  | cons first rest =>
      exact before_of_mem_dropRepeats_go before refl ranked ordered sorted left present equal

end First

section Thresholds

variable {thresholds others : List Double}

/-- The thresholds that are left are those that no numerically equal threshold precedes. -/
theorem mem_distinctThresholds_iff
    (numbers : ∀ threshold ∈ thresholds, threshold.isNaN = false) {bound : Double} :
    bound ∈ distinctThresholds thresholds ↔
      bound ∈ thresholds ∧
        ∀ threshold ∈ thresholds, threshold.same bound = true → bound.totalLe threshold = true := by
  have sorted := pairwise_mergeSort_totalLe thresholds
  have ordered := sorted.imp Double.rank_le_of_totalLe
  have least {bound threshold : Double} (left : bound ∈ distinctThresholds thresholds)
      (present : threshold ∈ thresholds) (equal : threshold.rank = bound.rank) :
      bound.totalLe threshold = true :=
    before_of_mem_dropRepeats (·.totalLe · = true)
      (fun element => decide_eq_true (Int.le_refl element.totalRank)) (sorted_ranked numbers)
      ordered sorted left (List.mem_mergeSort.mpr present) equal
  constructor
  · intro left
    have member := mem_of_mem_distinctThresholds left
    refine ⟨member, fun threshold present equal => least left present ?_⟩
    exact (Double.same_iff (numbers threshold present) (numbers bound member)).mp equal
  · rintro ⟨member, first⟩
    have ranked : bound.rank ∈ (distinctThresholds thresholds).map Double.rank := by
      rw [distinctThresholds, mem_rank_dropRepeats (sorted_ranked numbers)]
      exact List.mem_map_of_mem (List.mem_mergeSort.mpr member)
    obtain ⟨kept, left, equal⟩ := List.mem_map.mp ranked
    have present := mem_of_mem_distinctThresholds left
    have after := first kept present
      ((Double.same_iff (numbers kept present) (numbers bound member)).mpr equal)
    rwa [Double.totalLe_antisymm after (least left member equal.symm)]

theorem distinctThresholds_congr
    (numbers : ∀ threshold ∈ thresholds, threshold.isNaN = false)
    (same : ∀ threshold, threshold ∈ others ↔ threshold ∈ thresholds) :
    distinctThresholds others = distinctThresholds thresholds := by
  have further : ∀ threshold ∈ others, threshold.isNaN = false :=
    fun threshold member => numbers threshold ((same threshold).mp member)
  apply List.Pairwise.eq_of_mem_iff (r := InvImage (· < ·) Double.rank)
    (pairwise_distinctThresholds further) (pairwise_distinctThresholds numbers)
  intro bound
  simp only [mem_distinctThresholds_iff further, mem_distinctThresholds_iff numbers, same]

end Thresholds

section Devices

variable {devices others : List String}

theorem pairwise_distinctDevices (devices : List String) :
    (distinctDevices devices).Pairwise (· < ·) :=
  pairwise_dropRepeats (beq_ranked _) (List.pairwise_mergeSort' (· ≤ ·) devices)

theorem distinctDevices_congr (same : ∀ device, device ∈ others ↔ device ∈ devices) :
    distinctDevices others = distinctDevices devices := by
  apply (pairwise_distinctDevices others).eq_of_mem_iff (pairwise_distinctDevices devices)
  intro device
  rw [mem_distinctDevices, mem_distinctDevices, same]

theorem length_distinctDevices (devices : List String) :
    (distinctDevices devices).length = devices.toFinset.card := by
  have same : (distinctDevices devices).toFinset = devices.toFinset := by
    ext device
    rw [List.mem_toFinset, List.mem_toFinset, mem_distinctDevices]
  rw [← same, List.toFinset_card_of_nodup (pairwise_distinctDevices devices).nodup]

end Devices

namespace Request

/-- Requests that differ in the order and repetition of devices and thresholds alone. -/
structure Alike (request other : Request) : Prop where
  organization : other.organization = request.organization
  start : other.start = request.start
  stop : other.stop = request.stop
  path : other.path = request.path
  devices : ∀ device, device ∈ other.devices ↔ device ∈ request.devices
  thresholds : ∀ threshold, threshold ∈ other.thresholds ↔ threshold ∈ request.thresholds

variable {request other : Request}

theorem Alike.faults_eq (alike : request.Alike other) : other.faults = request.faults := by
  have finite : other.thresholds.all Double.isFinite = request.thresholds.all Double.isFinite := by
    rw [Bool.eq_iff_iff]
    simp only [List.all_eq_true, alike.thresholds]
  rw [faults, faults, alike.path, alike.organization, finite]

/-- Like requests are refused alike, and have one query. -/
theorem Alike.normalize_eq (alike : request.Alike other) : other.normalize = request.normalize := by
  have valid : other.validate = request.validate := by rw [validate, validate, alike.faults_eq]
  have estimate : other.windowEstimate = request.windowEstimate := by
    rw [windowEstimate, windowEstimate, alike.start, alike.stop]
  rw [normalize, normalize, valid, estimate, alike.organization, alike.start, alike.stop,
    alike.path, distinctDevices_congr alike.devices]
  cases accepted : request.validate with
  | error failure => rfl
  | ok _ =>
      rw [distinctThresholds_congr (fun threshold member =>
        Double.isNaN_eq_false_of_isFinite (finite_of_validate accepted threshold member))
        alike.thresholds]

theorem Alike.answer_eq (alike : request.Alike other) : other.answer = request.answer := by
  rw [answer, answer, alike.normalize_eq]

end Request

/-- A query has the devices and thresholds of a request, each once and increasing strictly. -/
structure Query.Sorts (request : Request) (query : Query) : Prop where
  devices_increasing : query.devices.Pairwise (· < ·)
  devices_requested : ∀ device, device ∈ query.devices ↔ device ∈ request.devices
  thresholds_increasing : query.thresholds.Pairwise (·.lt · = true)
  thresholds_requested : ∀ bound, bound ∈ query.thresholds ↔
    bound ∈ request.thresholds ∧
      ∀ threshold ∈ request.thresholds, threshold.same bound = true → bound.totalLe threshold = true

theorem Request.sorts_of_normalize {request : Request} {query : Query}
    (accepted : request.normalize = .ok query) : query.Sorts request := by
  have numbers : ∀ threshold ∈ request.thresholds, threshold.isNaN = false :=
    fun threshold member =>
      Double.isNaN_eq_false_of_isFinite (finite_of_normalize accepted threshold member)
  rw [(eq_of_normalize accepted).1]
  constructor
  case devices_increasing => exact pairwise_distinctDevices request.devices
  case devices_requested => exact fun device => mem_distinctDevices
  case thresholds_increasing => exact increasing_distinctThresholds numbers
  case thresholds_requested => exact fun bound => mem_distinctThresholds_iff numbers

section Courses

variable {request : Request} {query : Query} {exchanges : List (Exchange interface)}

theorem course_deviceCount_iff {counted : Except Failure Nat} :
    Course query.deviceCount exchanges counted ↔
      if query.devices = [] then
        exchanges = [⟨.deviceCount query.organization, counted⟩]
      else
        exchanges = [] ∧ counted = .ok (min query.devices.length deviceCountLimit) := by
  rw [Query.deviceCount]
  by_cases none : query.devices = []
  · rw [if_pos none, if_pos (List.isEmpty_iff.mpr none)]
    exact course_ask_iff
  · rw [if_neg none, if_neg (by simpa using none)]
    exact course_done_iff.trans (and_congr_right fun _ => eq_comm)

/-- A request is refused, or counts devices and then asks for windows. -/
theorem Request.course_answer_cases {outcome : Except Failure Answer}
    (course : Course request.answer exchanges outcome) :
    (∃ failure, request.normalize = .error failure ∧ exchanges = [] ∧ outcome = .error failure) ∨
      ∃ query counting counted, request.normalize = .ok query ∧
        Course query.deviceCount counting counted ∧
        ((∃ failure, counted = .error failure ∧ exchanges = counting ∧
            outcome = .error failure) ∨
          ∃ devices windowed, counted = .ok devices ∧
            exchanges = counting ++ [⟨.windows query, windowed⟩] ∧
            outcome = windowed.map (query.answer devices)) := by
  rw [Request.answer] at course
  cases normal : request.normalize with
  | error failure =>
      rw [normal] at course
      obtain ⟨rfl, rfl⟩ := course_done_iff.mp course
      exact .inl ⟨failure, rfl, rfl, rfl⟩
  | ok query =>
      rw [normal] at course
      refine .inr ⟨query, ?_⟩
      obtain ⟨failure, counts, rfl⟩ | ⟨counting, devices, after, rfl, counts, asked⟩ :=
        (course_attempt_iff (by exact fun _ => rfl)).mp course
      · exact ⟨exchanges, _, rfl, counts, .inl ⟨failure, rfl, rfl, rfl⟩⟩
      · obtain ⟨windowed, rest, rfl, ended⟩ := course_call_iff.mp asked
        refine ⟨counting, _, rfl, counts, .inr ⟨devices, windowed, rfl, ?_⟩⟩
        cases windowed with
        | error failure =>
            obtain ⟨rfl, rfl⟩ := course_done_iff.mp ended
            exact ⟨rfl, rfl⟩
        | ok windows =>
            obtain ⟨rfl, rfl⟩ := course_done_iff.mp ended
            exact ⟨rfl, rfl⟩

theorem Request.normalize_of_mem_course {outcome : Except Failure Answer}
    (course : Course request.answer exchanges outcome) {windowed : Except Failure (List Window)}
    (asked : ⟨.windows query, windowed⟩ ∈ exchanges) : request.normalize = .ok query := by
  obtain ⟨_, _, rfl, _⟩ | ⟨own, counting, counted, accepted, counts, ended⟩ :=
    Request.course_answer_cases course
  · cases asked
  · have unasked : ⟨.windows query, windowed⟩ ∉ counting := by
      intro member
      rw [course_deviceCount_iff] at counts
      split at counts
      · rw [counts] at member
        cases List.mem_singleton.mp member
      · rw [counts.1] at member
        cases member
    obtain ⟨_, _, rfl, _⟩ | ⟨_, _, _, rfl, _⟩ := ended
    · exact absurd asked unasked
    · cases List.mem_singleton.mp ((List.mem_append.mp asked).resolve_left unasked)
      exact accepted

/-- The devices of an answer are the different ones that the request names. -/
theorem Request.devices_of_course {answer : Answer}
    (course : Course request.answer exchanges (.ok answer)) (named : request.devices ≠ []) :
    answer.summary.devices = min request.devices.toFinset.card deviceCountLimit := by
  obtain ⟨_, _, _, ⟨⟩⟩ | ⟨query, counting, counted, accepted, counts, ended⟩ :=
    Request.course_answer_cases course
  obtain ⟨_, _, _, ⟨⟩⟩ | ⟨devices, windowed, rfl, _, made⟩ := ended
  have devices_eq : query.devices = distinctDevices request.devices := by
    rw [(eq_of_normalize accepted).1]
  have further : query.devices ≠ [] := by
    rwa [devices_eq, ne_eq, distinctDevices_eq_nil_iff]
  rw [course_deviceCount_iff, if_neg further, devices_eq, length_distinctDevices] at counts
  cases windowed with
  | error failure => cases made
  | ok windows =>
      obtain rfl := Except.ok.inj made
      exact Except.ok.inj counts.2

theorem Request.course_of_windows (accepted : request.normalize = .ok query)
    (named : query.devices ≠ []) (windowed : Except Failure (List Window)) :
    Course request.answer [⟨.windows query, windowed⟩]
      (windowed.map (query.answer (min query.devices.length deviceCountLimit))) := by
  have counts : Course query.deviceCount [] (.ok (min query.devices.length deviceCountLimit)) := by
    rw [course_deviceCount_iff, if_neg named]
    exact ⟨rfl, rfl⟩
  rw [Request.answer, accepted]
  apply (course_attempt_iff (by exact fun _ => rfl)).mpr
  refine .inr ⟨[], _, _, rfl, counts, .call ?_⟩
  cases windowed with
  | error failure => exact .done _
  | ok windows => exact .done _

/-- Requests with the same devices and thresholds make the same calls, with the same outcome. -/
theorem Request.order_and_repetition_irrelevant {request other : Request}
    (alike : request.Alike other) :
    other.answer = request.answer ∧
      (∀ access table, Inquiry.answer access table other = Inquiry.answer access table request) ∧
      ∀ exchanges outcome, Course request.answer exchanges outcome →
        (∀ query windowed, ⟨.windows query, windowed⟩ ∈ exchanges → query.Sorts request) ∧
          (request.devices ≠ [] → ∀ answer, outcome = .ok answer →
            answer.summary.devices = min request.devices.toFinset.card deviceCountLimit ∧
              (request.devices.toFinset.card ≤ deviceCountLimit →
                answer.summary.devices = request.devices.toFinset.card)) := by
  refine ⟨alike.answer_eq, fun access table => ?_, fun exchanges outcome course => ⟨?_, ?_⟩⟩
  · rw [Inquiry.answer, Inquiry.answer, alike.answer_eq]
  · intro query windowed asked
    exact sorts_of_normalize (normalize_of_mem_course course asked)
  · rintro named answer rfl
    have counted := devices_of_course course named
    exact ⟨counted, fun few => counted.trans (Nat.min_eq_left few)⟩

end Courses

section Example

def shuffledRequest : Request :=
  { Inquiry.mixedRequest with devices := ["b", "a", "b"] }

/-- The same request with its devices and thresholds in order. -/
def orderedRequest : Request :=
  { Inquiry.mixedRequest with
    devices := ["a", "b"]
    thresholds := [⟨0xC008000000000000⟩, ⟨0x8000000000000000⟩, ⟨0⟩, ⟨0x4039800000000000⟩] }

theorem alike_shuffledRequest : orderedRequest.Alike shuffledRequest where
  organization := rfl
  start := rfl
  stop := rfl
  path := rfl
  devices device := by
    simp only [orderedRequest, shuffledRequest, List.mem_cons, List.not_mem_nil, or_false]
    tauto
  thresholds threshold := by
    simp only [orderedRequest, shuffledRequest, Inquiry.mixedRequest, List.mem_cons,
      List.not_mem_nil, or_false]
    tauto

/-- Both ask one question, about two devices. -/
theorem shuffled_request_same_answer :
    shuffledRequest.answer = orderedRequest.answer ∧
      ∃ query answer, Course shuffledRequest.answer [⟨.windows query, .ok []⟩] (.ok answer) ∧
        query.Sorts orderedRequest ∧ answer.summary.devices = 2 := by
  obtain ⟨same, -, each⟩ := Request.order_and_repetition_irrelevant alike_shuffledRequest
  obtain ⟨query, accepted⟩ : ∃ query, orderedRequest.normalize = .ok query :=
    ⟨_, Request.normalize_eq_ok_iff.mpr ⟨rfl, by decide, by decide +kernel, by decide, rfl⟩⟩
  have named : query.devices ≠ [] := by
    rw [(Request.eq_of_normalize accepted).1, ne_eq, distinctDevices_eq_nil_iff]
    exact List.cons_ne_nil _ _
  have course := Request.course_of_windows accepted named (.ok [])
  obtain ⟨sorted, counted⟩ := each _ _ course
  refine ⟨same, query, _, same ▸ course, sorted query _ List.mem_cons_self, ?_⟩
  exact (counted (List.cons_ne_nil _ _) _ rfl).1.trans rfl

end Example

end Histogram
end Telemetry
