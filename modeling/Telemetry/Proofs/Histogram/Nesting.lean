import Telemetry.Proofs.Histogram.Coverage
import Telemetry.Proofs.Histogram.Finding

/-!
# Nested windows

When one interval divides another one, both grids of windows are aligned to the epoch, so every
window of the finer grid lies in one window of the coarser grid, on both sides of the epoch and
wherever the ranges begin and end.  Then the coarser windows are sums of the finer ones.  The
intervals that ranges choose for themselves divide each other, the one of the narrower range that of
the wider one.
-/

namespace Telemetry

open Dialogue Histogram

namespace Instant

variable {start stop outerStart outerStop : Instant}

theorem leapCorrection_of_ordinary (begins : start.isLeap = false) (ends : stop.isLeap = false) :
    leapCorrection stop start = 0 := by
  simp [leapCorrection, begins, ends]

theorem rangeSeconds_mono (begins : outerStart.le start = true) (ends : stop.le outerStop = true)
    (ordinary : ∀ instant ∈ [outerStart, start, stop, outerStop], instant.isLeap = false) :
    rangeSeconds start stop ≤ rangeSeconds outerStart outerStop := by
  simp only [List.forall_mem_cons] at ordinary
  obtain ⟨outer_begins, inner_begins, inner_ends, outer_ends, -⟩ := ordinary
  have between : nanosBetween stop start ≤ nanosBetween outerStop outerStart := by
    rw [nanosBetween, nanosBetween, leapCorrection_of_ordinary inner_begins inner_ends,
      leapCorrection_of_ordinary outer_begins outer_ends]
    have begins_nanos := nanos_lt_of_ordinary outer_begins
    have ends_nanos := nanos_lt_of_ordinary inner_ends
    rw [le_iff] at begins ends
    rw [nanosPerSecond] at *
    omega
  rw [rangeSeconds, rangeSeconds, secondsBetween, secondsBetween]
  apply Int.toNat_le_toNat
  exact Int.tdiv_le_tdiv (by decide) between

end Instant

namespace Histogram

/-- Of two lengths of windows, the one for the shorter range divides the other one. -/
theorem intervalForRange_dvd {shorter longer : Nat} (le : shorter ≤ longer) :
    intervalForRange shorter ∣ intervalForRange longer := by
  rw [intervalForRange, intervalForRange]
  repeat' split
  all_goals first | decide | (simp only [minute, hour, day] at *; omega)

/-- Whether the span of a window lies in that of another one. -/
def Window.Within (window cover : Window) : Prop :=
  cover.start.le window.start = true ∧ window.stop.le cover.stop = true

instance (window cover : Window) : Decidable (window.Within cover) :=
  inferInstanceAs (Decidable (_ ∧ _))

section Alignment

variable {fine coarse : Nat} {opening cover : Int}

theorem alignedStart_eq_iff_le_and_le (fine_pos : 0 < fine) (coarse_pos : 0 < coarse)
    (divides : fine ∣ coarse) (aligned : (fine : Int) ∣ opening)
    (cover_aligned : (coarse : Int) ∣ cover) :
    alignedStart coarse opening = cover ↔
      cover ≤ opening ∧ opening + fine ≤ cover + coarse := by
  rw [alignedStart_eq_iff opening coarse_pos, and_iff_right cover_aligned]
  have whole : (fine : Int) ∣ coarse := Int.natCast_dvd_natCast.mpr divides
  refine and_congr_right fun _ => ⟨fun below => ?_, fun inside => by omega⟩
  have apart : (fine : Int) ∣ cover + coarse - opening :=
    dvd_sub (dvd_add (whole.trans cover_aligned) whole) aligned
  have distance := Int.le_of_dvd (by omega) apart
  omega

theorem alignedStart_alignedStart (fine_pos : 0 < fine) (coarse_pos : 0 < coarse)
    (divides : fine ∣ coarse) (second : Int) :
    alignedStart coarse (alignedStart fine second) = alignedStart coarse second := by
  have low := alignedStart_le second fine_pos
  have high := lt_alignedStart_add second fine_pos
  obtain ⟨below, above⟩ := (alignedStart_eq_iff_le_and_le fine_pos coarse_pos divides
    (dvd_alignedStart second) (dvd_alignedStart _)).mp rfl
  refine ((alignedStart_eq_iff second coarse_pos).mpr ⟨dvd_alignedStart _, ?_, ?_⟩).symm
  · exact below.trans low
  · exact high.trans_le above

end Alignment

namespace Query

/-- Whether the windows of a query are parts of those of another one. -/
structure Nests (fine coarse : Query) : Prop where
  fine_pos : 0 < fine.interval
  coarse_pos : 0 < coarse.interval
  divides : fine.interval ∣ coarse.interval
  start : coarse.start.seconds ≤ fine.start.seconds
  stop : fine.stop.millis ≤ coarse.stop.millis

variable {fine coarse : Query} {opening : Int} {window cover : Window}
  {windows covers : List Window}

theorem Nests.alignedStart_mem_axis (nests : Nests fine coarse) (member : opening ∈ fine.axis) :
    alignedStart coarse.interval opening ∈ coarse.axis := by
  obtain ⟨aligned, touches, before⟩ := (mem_axis_iff nests.fine_pos).mp member
  obtain ⟨below, above⟩ := (alignedStart_eq_iff_le_and_le nests.fine_pos nests.coarse_pos
    nests.divides aligned (dvd_alignedStart _)).mp rfl
  have start := nests.start
  have stop := nests.stop
  refine (mem_axis_iff nests.coarse_pos).mpr ⟨dvd_alignedStart _, ?_, ?_⟩
  · omega
  · omega

theorem Nests.representable (nests : Nests fine coarse) (representable : coarse.Representable) :
    fine.Representable := by
  intro opening member
  have aligned := ((mem_axis_iff nests.fine_pos).mp member).1
  obtain ⟨below, above⟩ := (alignedStart_eq_iff_le_and_le nests.fine_pos nests.coarse_pos
    nests.divides aligned (dvd_alignedStart _)).mp rfl
  obtain ⟨low, high⟩ := representable _ (nests.alignedStart_mem_axis member)
  exact ⟨low.trans below, above.trans high⟩

/-- A window lies in the coarser one that its start is aligned to. -/
theorem Nests.within_iff (nests : Nests fine coarse) {covering : Int}
    (aligned : (fine.interval : Int) ∣ opening) (cover_aligned : (coarse.interval : Int) ∣ covering)
    (spans : fine.Spans opening window) (cover_spans : coarse.Spans covering cover) :
    window.Within cover ↔ alignedStart coarse.interval opening = covering := by
  obtain ⟨opens, opens_whole⟩ := edge_eq_ok_iff.mp spans.start
  obtain ⟨closes, closes_whole⟩ := edge_eq_ok_iff.mp spans.stop
  obtain ⟨begins, begins_whole⟩ := edge_eq_ok_iff.mp cover_spans.start
  obtain ⟨ends, ends_whole⟩ := edge_eq_ok_iff.mp cover_spans.stop
  rw [alignedStart_eq_iff_le_and_le nests.fine_pos nests.coarse_pos nests.divides aligned
    cover_aligned, Window.Within, Instant.le_iff, Instant.le_iff]
  omega

theorem Nests.within_iff_of_mem (nests : Nests fine coarse)
    (spans : List.Forall₂ fine.Spans fine.axis windows)
    (cover_spans : List.Forall₂ coarse.Spans coarse.axis covers) (member : window ∈ windows)
    (cover_member : cover ∈ covers) :
    window.Within cover ↔
      alignedStart coarse.interval window.start.seconds = cover.start.seconds := by
  obtain ⟨opening, inside, span⟩ := exists_of_mem_right spans member
  obtain ⟨covering, cover_inside, cover_span⟩ := exists_of_mem_right cover_spans cover_member
  rw [(edge_eq_ok_iff.mp span.start).1, (edge_eq_ok_iff.mp cover_span.start).1]
  exact nests.within_iff ((mem_axis_iff nests.fine_pos).mp inside).1
    ((mem_axis_iff nests.coarse_pos).mp cover_inside).1 span cover_span

/-- Each finer window lies in exactly one coarser window. -/
theorem Nests.existsUnique_within (nests : Nests fine coarse)
    (spans : List.Forall₂ fine.Spans fine.axis windows)
    (cover_spans : List.Forall₂ coarse.Spans coarse.axis covers) (member : window ∈ windows) :
    ∃! cover, cover ∈ covers ∧ window.Within cover := by
  have within {cover : Window} (cover_member : cover ∈ covers) : window.Within cover ↔ _ :=
    nests.within_iff_of_mem spans cover_spans member cover_member
  have starts := starts_of_spans cover_spans
  have injective := List.inj_on_of_nodup_map (starts ▸ nodup_axis nests.coarse_pos)
  obtain ⟨opening, inside, span⟩ := exists_of_mem_right spans member
  have listed := nests.alignedStart_mem_axis inside
  rw [← (edge_eq_ok_iff.mp span.start).1, ← starts] at listed
  obtain ⟨cover, cover_member, same⟩ := List.mem_map.mp listed
  refine ⟨cover, ⟨cover_member, (within cover_member).mpr same.symm⟩, ?_⟩
  rintro other ⟨other_member, contains⟩
  apply injective other_member cover_member
  exact ((within other_member).mp contains).symm.trans same.symm

/-- Each window of a range lies in exactly one window of a wider one. -/
theorem windows_nest_in_wider_range (near far : Query)
    (near_interval : near.interval = intervalFor near.start near.stop)
    (far_interval : far.interval = intervalFor far.start far.stop)
    (begins : far.start.le near.start = true) (ends : near.stop.le far.stop = true)
    (ordinary : ∀ instant ∈ [far.start, near.start, near.stop, far.stop],
      instant.isLeap = false) :
    near.interval ≤ far.interval ∧ near.interval ∣ far.interval ∧
      (∀ rows others windows covers, near.fill rows = .ok windows → far.fill others = .ok covers →
        ∀ window ∈ windows, ∃! cover, cover ∈ covers ∧ window.Within cover) ∧
      (far.Representable → ∃ windows covers,
        near.fill [] = .ok windows ∧ far.fill [] = .ok covers) := by
  have longer := Instant.rangeSeconds_mono begins ends ordinary
  have divides : near.interval ∣ far.interval := by
    rw [near_interval, far_interval]
    exact intervalForRange_dvd longer
  have near_day : near.interval ≤ day := near_interval ▸ intervalFor_le_day _ _
  have far_day : far.interval ≤ day := far_interval ▸ intervalFor_le_day _ _
  have nests : Nests near far := by
    constructor
    case fine_pos => exact near_interval ▸ intervalFor_pos _ _
    case coarse_pos => exact far_interval ▸ intervalFor_pos _ _
    case divides => exact divides
    case start =>
      rw [Instant.le_iff] at begins
      omega
    case stop => exact Instant.millis_le_of_le (ordinary near.stop (by simp)) ends
  refine ⟨Nat.le_of_dvd nests.coarse_pos divides, divides, ?_, fun representable => ?_⟩
  · intro rows others windows covers filled cover_filled window member
    exact nests.existsUnique_within
      (spans_of_fill (wordMillis_of_le_day nests.fine_pos near_day) filled)
      (spans_of_fill (wordMillis_of_le_day nests.coarse_pos far_day) cover_filled) member
  · have word (query : Query) (length : query.interval ≤ day) :
        query.interval < 0x8000000000000000 := Nat.lt_of_le_of_lt length (by decide)
    obtain ⟨windows, filled, -⟩ :=
      exists_fill_nil nests.fine_pos (word near near_day) (nests.representable representable)
    obtain ⟨covers, cover_filled, -⟩ :=
      exists_fill_nil nests.coarse_pos (word far far_day) representable
    exact ⟨windows, covers, filled, cover_filled⟩

section Example

/-- A query from two nanoseconds before the epoch to a full window after it. -/
def narrowQuery : Query :=
  ⟨"o", [], ⟨-1, 999999998, by decide⟩, ⟨300, 0, by decide⟩, "t", [], 300⟩

/-- A query from the same start that is one hour long, to the nanosecond. -/
def hourQuery : Query :=
  ⟨"o", [], ⟨-1, 999999998, by decide⟩, ⟨3599, 999999998, by decide⟩, "t", [], 900⟩

/-- Two windows of the narrow query lie in two of the hour's five. -/
theorem narrow_windows_nest_in_hour :
    ∃ windows covers, narrowQuery.fill [] = .ok windows ∧ hourQuery.fill [] = .ok covers ∧
      windows.map (fun window => window.start.seconds) = [-300, 0] ∧
      covers.map (fun cover => cover.start.seconds) = [-900, 0, 900, 1800, 2700] ∧
      ∀ window ∈ windows, ∃! cover, cover ∈ covers ∧ window.Within cover := by
  have axis : narrowQuery.axis = [-300, 0] := by decide
  have cover_axis : hourQuery.axis = [-900, 0, 900, 1800, 2700] := by decide
  have representable : narrowQuery.Representable := by
    rw [Representable, axis]
    decide
  have cover_representable : hourQuery.Representable := by
    rw [Representable, cover_axis]
    decide
  obtain ⟨-, -, nested, succeeds⟩ := windows_nest_in_wider_range narrowQuery hourQuery
    (by decide) (by decide) (by decide) (by decide) (by decide)
  obtain ⟨windows, covers, filled, cover_filled⟩ := succeeds cover_representable
  refine ⟨windows, covers, filled, cover_filled, ?_, ?_, ?_⟩
  · rw [starts_of_fill representable filled, axis]
  · rw [starts_of_fill cover_representable cover_filled, cover_axis]
  · exact nested [] [] windows covers filled cover_filled

end Example

end Query

def Query.withInterval (query : Query) (interval : Nat) : Query :=
  { query with interval }

/-- An observation in the window of another interval that its window starts in. -/
def Observation.aligned (interval : Nat) (observation : Observation) : Observation :=
  { observation with opening := alignedStart interval observation.opening }

end Histogram

namespace Store

variable {access : Access} {table : String} {stored : List Row} {query : Query} {fine coarse : Nat}
  {fineExchanges coarseExchanges : List (Exchange interface)} {windows covers : List Window}
  {shown : Window → Nat} {chosen : Double → Bool}

theorem observationOf?_withInterval (query : Query) (interval : Nat) (row : Row) :
    observationOf? (query.withInterval interval) row =
      if InScope query row then
        (row.payload.numberAt? (FieldPath.split query.path)).map fun value =>
          ⟨alignedStart interval (row.occurredAt / 1000), value⟩
      else
        none :=
  rfl

/-- A coarser interval observes the same values in coarser windows. -/
theorem observations_of_dvd (fine_pos : 0 < fine) (coarse_pos : 0 < coarse)
    (divides : fine ∣ coarse) (query : Query) (stored : List Row) :
    stored.filterMap (observationOf? (query.withInterval coarse)) =
      (stored.filterMap (observationOf? (query.withInterval fine))).map
        (Observation.aligned coarse) := by
  induction stored with
  | nil => rfl
  | cons row rest ih =>
      rw [List.filterMap_cons, List.filterMap_cons, ih, observationOf?_withInterval,
        observationOf?_withInterval]
      by_cases inside : InScope query row
      · rw [if_pos inside, if_pos inside]
        cases row.payload.numberAt? (FieldPath.split query.path) with
        | none => rfl
        | some value =>
            simp [Observation.aligned, alignedStart_alignedStart fine_pos coarse_pos divides]
      · rw [if_neg inside, if_neg inside]

section Coarser

variable (divides : fine ∣ coarse) (representable : (query.withInterval coarse).Representable)
  (narrow : Reads access table stored (query.withInterval fine) fineExchanges windows)
  (wide : Reads access table stored (query.withInterval coarse) coarseExchanges covers)

include divides narrow wide

theorem nests_of_dvd : (query.withInterval fine).Nests (query.withInterval coarse) where
  fine_pos := (Query.usable_of_fill narrow.filled).1
  coarse_pos := (Query.usable_of_fill wide.filled).1
  divides := divides
  start := le_rfl
  stop := le_rfl

include representable

/-- A tally of a coarser window sums those of the finer ones. -/
theorem tally_eq_sum_within (tallies : Window.Tallies query.thresholds shown chosen) {cover : Window}
    (member : cover ∈ covers) :
    shown cover = ((windows.filter fun window => window.Within cover).map shown).sum := by
  have nests := nests_of_dvd divides narrow wide
  have fine_pos : 0 < fine := nests.fine_pos
  have coarse_pos : 0 < coarse := nests.coarse_pos
  have small := Query.wordMillis_of_representable nests.fine_pos (nests.representable representable)
  have cover_small := Query.wordMillis_of_representable nests.coarse_pos representable
  have inside : windows.filter (fun window => window.Within cover) =
      windows.filter fun window =>
        alignedStart coarse window.start.seconds == cover.start.seconds := by
    refine List.filter_congr fun window window_member => ?_
    rw [beq_eq_decide, decide_eq_decide]
    exact nests.within_iff_of_mem (Query.spans_of_fill small narrow.filled)
      (Query.spans_of_fill cover_small wide.filled) window_member member
  obtain ⟨opening, -, shows⟩ := exists_of_mem_right (wide.shows cover_small) member
  obtain rfl : cover.start.seconds = opening := (edge_eq_ok_iff.mp shows.start).1
  calc shown cover
      = (stored.filterMap (observationOf? (query.withInterval coarse))).countP fun observation =>
          observation.opening == cover.start.seconds && chosen observation.value := by
        rw [tally_of_shows
          (show Window.Tallies (query.withInterval coarse).thresholds _ _ from tallies) shows, countP_valuesAt, List.countP_filter]
        simp only [Bool.and_comm]
    _ = (stored.filterMap (observationOf? (query.withInterval fine))).countP fun observation =>
          alignedStart coarse observation.opening == cover.start.seconds &&
            chosen observation.value := by
        rw [observations_of_dvd fine_pos coarse_pos divides, List.countP_map]
        rfl
    _ = ((windows.filter fun window => window.Within cover).map shown).sum := by
        rw [inside]
        exact (sum_filter_of_shows nests.fine_pos tallies
          (fun second => alignedStart coarse second == cover.start.seconds)
          (mem_axis_of_observed nests.fine_pos stored) (narrow.shows small)).symm

end Coarser

section Example

/-- A query about some minutes around the epoch. -/
def epochQuery : Query :=
  ⟨"o", [], ⟨-100, 999000000, by decide⟩, ⟨130, 1000000, by decide⟩, "t", [⟨0⟩], 40⟩

/-- Rows of the first millisecond of the range and of the two around the epoch. -/
def epochRows : List Row :=
  [⟨"o", "d", -99001, 0, ⟨[("t", .number (.integer 3 (by decide)))], by decide⟩⟩,
    ⟨"o", "d", -1, 0, ⟨[("t", .number (.integer (-3) (by decide)))], by decide⟩⟩,
    ⟨"o", "d", 0, 0, ⟨[("t", .number (.integer 4 (by decide)))], by decide⟩⟩]

theorem exists_reads_epochQuery {interval : Nat} (interval_pos : 0 < interval)
    (interval_lt : interval < 0x8000000000000000)
    (representable : (epochQuery.withInterval interval).Representable) :
    ∃ exchanges windows, Reads localAccess "t" epochRows (epochQuery.withInterval interval)
        exchanges windows ∧
      windows.map Window.count = (epochQuery.withInterval interval).axis.map fun opening =>
        (valuesAt (epochRows.filterMap (observationOf? (epochQuery.withInterval interval)))
          opening).countP fun _ => true := by
  have segments : FieldPath.segments "t" = .ok (FieldPath.split "t") := by
    rw [FieldPath.segments, if_neg (by decide +kernel)]
  have apart : interval ≠ 0 := by omega
  obtain ⟨exchanges, windows, reads⟩ := exists_reads
    (statement_eq_ok_iff.mpr ⟨segments, apart, rfl⟩) interval_lt representable
    ready_localAccess epochRows
  refine ⟨exchanges, windows, reads, ?_⟩
  have shows := reads.shows (Query.wordMillis_of_representable interval_pos representable)
  simpa using map_filter_of_shows (Window.tallies_count _) (fun _ => true) shows

end Example

end Store
end Telemetry
