import Mathlib.Algebra.Ring.Divisibility.Basic
import Mathlib.Data.List.Forall2
import Mathlib.Tactic.Ring
import Telemetry.Histogram.Fill
import Telemetry.Proofs.Keyed

/-!
# The filled time axis

The windows of a query start at the multiples of its interval from the one at or before the start
of the range up to the end.  Filling succeeds exactly when each of them gets a window and every row
belongs to one of them, and then the windows are these, in this order.
-/

namespace Telemetry
namespace Histogram

theorem bind_eq_ok_iff {ε α β : Type} {first : Except ε α} {next : α → Except ε β} {result : β} :
    first.bind next = .ok result ↔ ∃ value, first = .ok value ∧ next value = .ok result := by
  cases first with
  | error fault => simp [Except.bind]
  | ok value => simp [Except.bind]

section Related

variable {α β : Type} {relation : α → β → Prop} {elements : List α} {values : List β}

theorem exists_of_mem_left (related : List.Forall₂ relation elements values) {element : α}
    (member : element ∈ elements) : ∃ value ∈ values, relation element value := by
  induction related with
  | nil => cases member
  | cons related _ ih =>
      obtain rfl | member := List.mem_cons.mp member
      · exact ⟨_, List.mem_cons_self, related⟩
      · obtain ⟨value, inside, related⟩ := ih member
        exact ⟨value, List.mem_cons_of_mem _ inside, related⟩

theorem exists_of_mem_right (related : List.Forall₂ relation elements values) {value : β}
    (member : value ∈ values) : ∃ element ∈ elements, relation element value := by
  have flipped : List.Forall₂ (flip relation) values elements := List.Forall₂.flip related
  exact exists_of_mem_left flipped member

end Related

theorem edge_eq_ok_iff {second : Int} {instant : Instant} :
    edge second = .ok instant ↔ instant.seconds = second ∧ instant.nanos = 0 := by
  rw [← Instant.ofSeconds?_eq_some_iff, edge]
  cases Instant.ofSeconds? second <;> simp

theorem exists_edge {second : Int} (low : firstSecond ≤ second) (high : second ≤ lastSecond) :
    ∃ instant, edge second = .ok instant := by
  have found := (Instant.ofSeconds?_isSome_iff second).mpr ⟨low, high⟩
  obtain ⟨instant, same⟩ := Option.isSome_iff_exists.mp found
  exact ⟨instant, by rw [edge, same]⟩

section Alignment

variable {interval : Nat} (second : Int)

theorem dvd_alignedStart : (interval : Int) ∣ alignedStart interval second :=
  Int.dvd_mul_left _ _

theorem alignedStart_le (interval_pos : 0 < interval) : alignedStart interval second ≤ second :=
  Int.ediv_mul_le second (by omega)

theorem lt_alignedStart_add (interval_pos : 0 < interval) :
    second < alignedStart interval second + interval := by
  have below := Int.lt_ediv_add_one_mul_self second (show (0 : Int) < interval by omega)
  rwa [Int.add_mul, Int.one_mul] at below

/-- The aligned start is the multiple less than an interval before. -/
theorem alignedStart_eq_iff (interval_pos : 0 < interval) {opening : Int} :
    alignedStart interval second = opening ↔
      (interval : Int) ∣ opening ∧ opening ≤ second ∧ second < opening + interval := by
  constructor
  · rintro rfl
    exact ⟨dvd_alignedStart second, alignedStart_le second interval_pos,
      lt_alignedStart_add second interval_pos⟩
  · rintro ⟨⟨factor, rfl⟩, low, high⟩
    rw [Int.mul_comm] at low high ⊢
    have quotient : second / interval = factor := by
      rw [Int.ediv_eq_iff_of_pos (by omega)]
      exact ⟨low, high⟩
    rw [alignedStart, quotient]

end Alignment

namespace Query

variable {query : Query} {opening : Int}

/-- The number of windows from `opening` on: the steps of one interval that stay before the end. -/
def windowCount (query : Query) (opening : Int) : Nat :=
  ((query.stop.millis - opening * 1000 + (query.interval * 1000 - 1)) /
    (query.interval * 1000)).toNat

/-- The starts of the windows from `opening` on. -/
def axisFrom (query : Query) (opening : Int) : List Int :=
  (List.range (query.windowCount opening)).map fun index : Nat => opening + index * query.interval

/-- The starts of the windows. -/
def axis (query : Query) : List Int :=
  query.axisFrom query.firstOpening

theorem lt_windowCount_iff (interval_pos : 0 < query.interval) {index : Nat} :
    index < query.windowCount opening ↔
      (opening + index * query.interval) * 1000 < query.stop.millis := by
  have unit_pos : (0 : Int) < query.interval * 1000 := by omega
  rw [windowCount, Int.lt_toNat, ← Int.add_one_le_iff, Int.le_ediv_iff_mul_le unit_pos]
  have expanded : ((index : Int) + 1) * (query.interval * 1000) =
      index * query.interval * 1000 + query.interval * 1000 := by
    ring
  rw [expanded, Int.add_mul]
  omega

theorem axisFrom_of_lt (interval_pos : 0 < query.interval)
    (before : opening * 1000 < query.stop.millis) :
    query.axisFrom opening = opening :: query.axisFrom (opening + query.interval) := by
  have counted : query.windowCount opening = query.windowCount (opening + query.interval) + 1 := by
    refine eq_of_forall_lt_iff fun index => ?_
    rw [lt_windowCount_iff interval_pos]
    cases index with
    | zero => simpa using before
    | succ index =>
        have place : opening + (index + 1 : Nat) * query.interval =
            opening + query.interval + index * query.interval := by
          rw [Nat.cast_add, Nat.cast_one]
          ring
        rw [Nat.add_lt_add_iff_right, lt_windowCount_iff interval_pos, place]
  rw [axisFrom, axisFrom, counted, List.range_succ_eq_map, List.map_cons, List.map_map]
  simp only [Nat.cast_zero, Int.zero_mul, Int.add_zero, List.cons.injEq, true_and]
  refine List.map_congr_left fun index _ => ?_
  simp only [Function.comp_apply, Nat.succ_eq_add_one, Nat.cast_add, Nat.cast_one]
  ring

theorem axisFrom_of_le (interval_pos : 0 < query.interval)
    (after : query.stop.millis ≤ opening * 1000) : query.axisFrom opening = [] := by
  have none : query.windowCount opening = 0 := by
    refine eq_of_forall_lt_iff fun index => ?_
    rw [lt_windowCount_iff interval_pos]
    have steps : (0 : Int) ≤ index * query.interval :=
      Int.mul_nonneg (Int.natCast_nonneg _) (Int.natCast_nonneg _)
    omega
  rw [axisFrom, none, List.range_zero, List.map_nil]

theorem mem_axisFrom_iff (interval_pos : 0 < query.interval) {start : Int} :
    start ∈ query.axisFrom opening ↔
      (query.interval : Int) ∣ start - opening ∧ opening ≤ start ∧
        start * 1000 < query.stop.millis := by
  rw [axisFrom, List.mem_map]
  constructor
  · rintro ⟨index, inside, rfl⟩
    rw [List.mem_range, lt_windowCount_iff interval_pos] at inside
    have steps : (0 : Int) ≤ index * query.interval :=
      Int.mul_nonneg (Int.natCast_nonneg _) (Int.natCast_nonneg _)
    exact ⟨⟨index, by ring⟩, by omega, inside⟩
  · rintro ⟨⟨steps, apart⟩, above, before⟩
    have steps_nonneg : 0 ≤ steps := by
      refine Int.nonneg_of_mul_nonneg_right ?_ (show (0 : Int) < query.interval by omega)
      omega
    obtain ⟨index, rfl⟩ := Int.eq_ofNat_of_zero_le steps_nonneg
    have place : opening + index * query.interval = start := by
      rw [Int.mul_comm]
      omega
    refine ⟨index, ?_, place⟩
    rw [List.mem_range, lt_windowCount_iff interval_pos, place]
    exact before

/-- Windows start at the multiples of the interval whose windows touch the range. -/
theorem mem_axis_iff (interval_pos : 0 < query.interval) {start : Int} :
    start ∈ query.axis ↔
      (query.interval : Int) ∣ start ∧ query.start.seconds < start + query.interval ∧
        start * 1000 < query.stop.millis := by
  have aligned : (query.interval : Int) ∣ query.firstOpening := dvd_alignedStart _
  have low := alignedStart_le query.start.seconds interval_pos
  have high := lt_alignedStart_add query.start.seconds interval_pos
  rw [axis, mem_axisFrom_iff interval_pos, dvd_sub_left aligned]
  refine and_congr_right fun multiple => and_congr_left fun _ => ?_
  constructor
  · intro above
    rw [firstOpening] at above
    omega
  · intro touches
    have apart : (query.interval : Int) ∣ start + query.interval - query.firstOpening :=
      dvd_sub (dvd_add multiple dvd_rfl) aligned
    have distance := Int.le_of_dvd (by rw [firstOpening]; omega) apart
    omega

theorem alignedStart_mem_axis (interval_pos : 0 < query.interval) {instant : Int}
    (after : query.start.millis ≤ instant) (before : instant < query.stop.millis) :
    alignedStart query.interval (instant / 1000) ∈ query.axis := by
  have low := alignedStart_le (instant / 1000) interval_pos
  have high := lt_alignedStart_add (instant / 1000) interval_pos
  have whole : query.start.seconds * 1000 ≤ query.start.millis := by
    rw [Instant.millis]
    omega
  refine (mem_axis_iff interval_pos).mpr ⟨dvd_alignedStart _, ?_, ?_⟩ <;> omega

/-- The window that a query makes of ordered rows at an opening. -/
def windowAt (query : Query) (rows : List (Int × Row)) (opening : Int) (start stop : Instant) :
    Except Failure Window :=
  match Keyed.find? opening rows with
  | some row => row.toWindow start stop query.thresholds
  | none => .ok (Window.empty start stop query.thresholds)

/-- Whether a window is the one that a query makes of ordered rows at an opening. -/
def Fills (query : Query) (rows : List (Int × Row)) (opening : Int) (window : Window) : Prop :=
  ∃ start stop, edge opening = .ok start ∧ edge (opening + query.interval) = .ok stop ∧
    query.windowAt rows opening start stop = .ok window

theorem fillFrom_of_lt (interval_pos : 0 < query.interval)
    (before : opening * 1000 < query.stop.millis) (rows : List (Int × Row)) :
    query.fillFrom interval_pos opening rows =
      (edge opening).bind fun start =>
        (edge (opening + query.interval)).bind fun stop =>
          (query.windowAt rows opening start stop).bind fun window =>
            (query.fillFrom interval_pos (opening + query.interval)
              (Keyed.erase opening rows)).bind fun rest => .ok (window :: rest.1, rest.2) := by
  rw [fillFrom, if_pos before]
  refine bind_congr fun start => bind_congr fun stop => ?_
  rw [windowAt]
  cases Keyed.find? opening rows <;> rfl

theorem fillFrom_of_le (interval_pos : 0 < query.interval)
    (after : query.stop.millis ≤ opening * 1000) (rows : List (Int × Row)) :
    query.fillFrom interval_pos opening rows = .ok ([], rows) := by
  rw [fillFrom, if_neg (by omega)]

section Agree

variable {rows all : List (Int × Row)}
  (agree : ∀ start, opening ≤ start → Keyed.find? start rows = Keyed.find? start all)

include agree

theorem windowAt_of_agree (start stop : Instant) :
    query.windowAt rows opening start stop = query.windowAt all opening start stop := by
  rw [windowAt, agree opening (Int.le_refl _), windowAt]

theorem agree_erase (interval_pos : 0 < query.interval) :
    ∀ start, opening + query.interval ≤ start →
      Keyed.find? start (Keyed.erase opening rows) = Keyed.find? start all := by
  intro start above
  rw [Keyed.find?_erase (by omega)]
  exact agree start (by omega)

end Agree

/-- Filling takes the row of each opening and leaves the others. -/
theorem fillFrom_eq_ok_iff (interval_pos : 0 < query.interval) {rows all left : List (Int × Row)}
    {windows : List Window}
    (agree : ∀ start, opening ≤ start → Keyed.find? start rows = Keyed.find? start all) :
    query.fillFrom interval_pos opening rows = .ok (windows, left) ↔
      List.Forall₂ (query.Fills all) (query.axisFrom opening) windows ∧
        left = rows.filter fun entry => entry.1 ∉ query.axisFrom opening := by
  induction opening, rows using fillFrom.induct query interval_pos generalizing windows left with
  | case1 opening rows before ih =>
      have later := agree_erase agree interval_pos
      have remaining : (Keyed.erase opening rows).filter
            (fun entry => entry.1 ∉ query.axisFrom (opening + query.interval)) =
          rows.filter fun entry =>
            entry.1 ∉ opening :: query.axisFrom (opening + query.interval) := by
        rw [Keyed.erase, List.filter_filter]
        refine List.filter_congr fun entry _ => ?_
        simp [Bool.and_comm]
      rw [axisFrom_of_lt interval_pos before, fillFrom_of_lt interval_pos before,
        List.forall₂_cons_left_iff, ← remaining]
      simp only [bind_eq_ok_iff, Prod.exists, ih later, windowAt_of_agree agree, Except.ok.injEq,
        Prod.mk.injEq]
      constructor
      · rintro ⟨start, opens, stop, closes, window, made, further, _, ⟨follow, rfl⟩, rfl, rfl⟩
        exact ⟨⟨window, further, ⟨start, stop, opens, closes, made⟩, follow, rfl⟩, rfl⟩
      · rintro ⟨⟨window, further, ⟨start, stop, opens, closes, made⟩, follow, rfl⟩, rfl⟩
        exact ⟨start, opens, stop, closes, window, made, further, _, ⟨follow, rfl⟩, rfl, rfl⟩
  | case2 opening rows done =>
      rw [axisFrom_of_le interval_pos (by omega), fillFrom_of_le interval_pos (by omega)]
      simp only [List.forall₂_nil_left_iff, Except.ok.injEq, Prod.mk.injEq, List.not_mem_nil,
        not_false_eq_true, decide_true, List.filter_true, eq_comm]

/-- The rows of a query by the seconds that they start at. -/
def byStart (rows : List Row) : List (Int × Row) :=
  Keyed.ofEntries (rows.map fun row => (row.start, row))

theorem mem_keys_byStart {rows : List Row} {start : Int} :
    start ∈ (byStart rows).map Prod.fst ↔ ∃ row ∈ rows, row.start = start := by
  rw [byStart, Keyed.mem_keys_ofEntries, List.map_map, List.mem_map]
  rfl

theorem filter_byStart_eq_nil_iff {rows : List Row} {openings : List Int} :
    (byStart rows).filter (fun entry => entry.1 ∉ openings) = [] ↔
      ∀ row ∈ rows, row.start ∈ openings := by
  rw [List.filter_eq_nil_iff]
  constructor
  · intro none row member
    obtain ⟨entry, inside, same⟩ := List.mem_map.mp (mem_keys_byStart.mpr ⟨row, member, rfl⟩)
    simpa [same] using none entry inside
  · intro every entry inside
    obtain ⟨row, member, same⟩ := mem_keys_byStart.mp (List.mem_map_of_mem inside)
    simpa [same] using every row member

theorem ascending_byStart (rows : List Row) : Keyed.ascending (byStart rows) = true :=
  Keyed.ascending_ofEntries _

theorem byStart_perm (rows : List Row) :
    (byStart rows).Perm ((Keyed.lasting Row.start rows).map fun row => (row.start, row)) := by
  have pairs : Keyed.lasting Prod.fst (rows.map fun row => (row.start, row)) =
      (Keyed.lasting Row.start rows).map fun row => (row.start, row) :=
    Keyed.lasting_map _ rows
  exact pairs ▸ Keyed.ofEntries_perm

/-- Neither order nor replaced rows matter to filling. -/
theorem fill_eq_of_perm {rows others : List Row}
    (perm : (Keyed.lasting Row.start rows).Perm (Keyed.lasting Row.start others)) :
    query.fill rows = query.fill others := by
  have same : byStart rows = byStart others :=
    Keyed.eq_of_perm (ascending_byStart rows) (ascending_byStart others)
      ((byStart_perm rows).trans ((perm.map _).trans (byStart_perm others).symm))
  rw [byStart, byStart] at same
  simp only [fill, same]

theorem fill_eq (interval_pos : 0 < query.interval)
    (interval_lt : query.interval < 0x8000000000000000)
    (small : wordMillis query.firstOpening = query.firstOpening * 1000) (rows : List Row) :
    query.fill rows =
      (query.fillFrom interval_pos query.firstOpening (byStart rows)).bind fun filled =>
        if filled.2.isEmpty then
          .ok filled.1
        else
          .error (.store (.of (.strayRows (filled.2.map Prod.fst) query.interval))) := by
  rw [fill, dif_pos ⟨interval_pos, interval_lt⟩]
  simp only [small]
  split
  · rfl
  · rw [fillFrom_of_le interval_pos (by omega)]
    rfl

/-- Filling succeeds when each opening gets a window and each row an opening. -/
theorem fill_eq_ok_iff (interval_pos : 0 < query.interval)
    (interval_lt : query.interval < 0x8000000000000000)
    (small : wordMillis query.firstOpening = query.firstOpening * 1000) {rows : List Row}
    {windows : List Window} :
    query.fill rows = .ok windows ↔
      List.Forall₂ (query.Fills (byStart rows)) query.axis windows ∧
        ∀ row ∈ rows, row.start ∈ query.axis := by
  rw [fill_eq interval_pos interval_lt small, bind_eq_ok_iff, ← filter_byStart_eq_nil_iff]
  simp only [Prod.exists, fillFrom_eq_ok_iff interval_pos fun _ _ => rfl]
  constructor
  · rintro ⟨made, left, ⟨follow, rfl⟩, result⟩
    split at result
    · rename_i none
      cases result
      exact ⟨follow, List.isEmpty_iff.mp none⟩
    · cases result
  · rintro ⟨follow, none⟩
    refine ⟨windows, [], ⟨follow, none.symm⟩, ?_⟩
    rfl

end Query
end Histogram
end Telemetry
