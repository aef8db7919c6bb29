import Mathlib.Data.List.Chain
import Mathlib.Data.List.Range
import Telemetry.Proofs.Histogram.Agreement

/-!
# Filling as it is described

Filling walks over the axis and takes rows out of a map until nothing is left.  Its description knows
neither the walk nor the map: windows start at the steps of one interval from the aligned start that
lie before the end, a window shows the row that starts with it, rows come in any order, and among
rows that do not fit or do not belong to a window it is fixed which one is reported.  Filling does
what is described exactly for the intervals that signed words of sixty-four bits hold.
-/

namespace Telemetry
namespace Histogram

/-- Whether a row has a count for each threshold. -/
def Row.Fits (thresholds : List Double) (row : Row) : Prop :=
  row.counts.length = thresholds.length

namespace Row

variable {row : Row} {thresholds : List Double} {start stop : Instant}

theorem toWindow_of_fits (fits : row.Fits thresholds) :
    row.toWindow start stop thresholds =
      .ok ⟨start, stop,
        List.zipWith Bucket.mk thresholds row.counts ++ [⟨Double.infinity, row.total⟩],
        row.total, row.sum⟩ :=
  if_pos fits

theorem toWindow_of_not_fits (misfit : ¬row.Fits thresholds) :
    row.toWindow start stop thresholds =
      .error (.store (.of (.rowWidth row.counts.length thresholds.length))) :=
  if_neg misfit

end Row

namespace Query

/-- Whether a window starts at a second. -/
def Opens (query : Query) (start : Int) : Prop :=
  ∃ index : Nat, start = alignedStart query.interval query.start.seconds + index * query.interval ∧
    start * 1000 < query.stop.millis

/-- What a window shows of rows: the row that starts in its second, or nothing. -/
structure Describes (query : Query) (rows : List Row) (window : Window) : Prop where
  opens : window.start.nanos = 0
  closes : window.stop.seconds = window.start.seconds + query.interval ∧ window.stop.nanos = 0
  row : ∀ row ∈ rows, row.start = window.start.seconds →
    window.count = row.total ∧ window.sum = row.sum ∧
      window.buckets =
        List.zipWith Bucket.mk query.thresholds row.counts ++ [⟨Double.infinity, row.total⟩]
  empty : (∀ row ∈ rows, row.start ≠ window.start.seconds) →
    window = Window.empty window.start window.stop query.thresholds

/-- The windows of a query: one for each second that one starts at, ascending and without gaps. -/
structure Covers (query : Query) (windows : List Window) : Prop where
  starts : ∀ start, query.Opens start ↔ start ∈ windows.map fun window => window.start.seconds
  ascending : (windows.map fun window => window.start.seconds).Pairwise (· < ·)
  contiguous : windows.IsChain fun window next => window.stop = next.start

/-- How rows fill a query. -/
structure FillsAsDescribed (query : Query) (rows : List Row) : Prop where
  /-- Filling succeeds exactly when every row belongs to a window and fits. -/
  succeeds : (∃ windows, query.fill rows = .ok windows) ↔
    ∀ row ∈ rows, query.Opens row.start ∧ row.Fits query.thresholds
  windows : ∀ windows, query.fill rows = .ok windows →
    query.Covers windows ∧ ∀ window ∈ windows, query.Describes rows window
  /-- The order of the rows does not matter, whatever comes out. -/
  unordered : ∀ others, rows.Perm others → query.fill others = query.fill rows
  /-- The first row that does not fit is reported before any row without a window. -/
  misfit : ∀ row ∈ rows, query.Opens row.start → ¬row.Fits query.thresholds →
    (∀ earlier ∈ rows, query.Opens earlier.start → earlier.start < row.start →
      earlier.Fits query.thresholds) →
    query.fill rows =
      .error (.store (.of (.rowWidth row.counts.length query.thresholds.length)))
  /-- Rows without a window are reported together, in ascending order. -/
  stray : (∀ row ∈ rows, query.Opens row.start → row.Fits query.thresholds) →
    (∃ row ∈ rows, ¬query.Opens row.start) →
    ∃ starts, query.fill rows = .error (.store (.of (.strayRows starts query.interval))) ∧
      starts.Pairwise (· < ·) ∧
      ∀ start, start ∈ starts ↔ ¬query.Opens start ∧ ∃ row ∈ rows, row.start = start

variable {query : Query} {opening start : Int} {rows : List Row}

theorem opens_iff_mem_axis (interval_pos : 0 < query.interval) :
    query.Opens start ↔ start ∈ query.axis := by
  rw [Opens, axis, axisFrom, List.mem_map]
  constructor
  · rintro ⟨index, rfl, before⟩
    exact ⟨index, List.mem_range.mpr ((lt_windowCount_iff interval_pos).mpr before), rfl⟩
  · rintro ⟨index, inside, rfl⟩
    exact ⟨index, rfl, (lt_windowCount_iff interval_pos).mp (List.mem_range.mp inside)⟩

theorem pairwise_axis (interval_pos : 0 < query.interval) : query.axis.Pairwise (· < ·) := by
  rw [axis, axisFrom, List.pairwise_map]
  refine List.pairwise_lt_range.imp fun {index other} less => ?_
  have steps : (index : Int) * query.interval < other * query.interval :=
    Int.mul_lt_mul_of_pos_right (Int.ofNat_lt.mpr less) (by omega)
  omega

theorem isChain_axis (query : Query) :
    query.axis.IsChain fun start next : Int => next = start + query.interval := by
  rw [axis, axisFrom, List.isChain_map, List.isChain_range]
  intro index _
  rw [Nat.cast_succ]
  ring

theorem Representable.exists_edges (representable : query.Representable)
    (member : opening ∈ query.axis) :
    ∃ start stop, edge opening = .ok start ∧ edge (opening + query.interval) = .ok stop := by
  obtain ⟨low, high⟩ := representable opening member
  obtain ⟨start, opens⟩ := exists_edge low (by omega)
  obtain ⟨stop, closes⟩ := exists_edge (by omega) high
  exact ⟨start, stop, opens, closes⟩

section Walk

variable {ordered all : List (Int × Row)} {failure : Failure} {before after : Instant}

/-- The first window that its row does not fit ends the walk. -/
theorem fillFrom_eq_error (interval_pos : 0 < query.interval)
    (agree : ∀ start, opening ≤ start → Keyed.find? start ordered = Keyed.find? start all)
    (member : start ∈ query.axisFrom opening) (opens : edge start = .ok before)
    (closes : edge (start + query.interval) = .ok after)
    (fails : query.windowAt all start before after = .error failure)
    (earlier : ∀ other ∈ query.axisFrom opening, other < start →
      ∃ window, query.Fills all other window) :
    query.fillFrom interval_pos opening ordered = .error failure := by
  induction opening, ordered using fillFrom.induct query interval_pos with
  | case1 opening ordered early ih =>
      rw [axisFrom_of_lt interval_pos early] at member earlier
      rw [fillFrom_of_lt interval_pos early]
      obtain rfl | member := List.mem_cons.mp member
      · simp only [opens, closes, windowAt_of_agree agree, fails, Except.bind]
      · have above := ((mem_axisFrom_iff interval_pos).mp member).2.1
        obtain ⟨window, start', stop', opens', closes', made⟩ :=
          earlier opening List.mem_cons_self (by omega)
        have rest := ih (agree_erase agree interval_pos) member fun other inside =>
          earlier other (List.mem_cons_of_mem _ inside)
        simp only [opens', closes', windowAt_of_agree agree, made, rest, Except.bind]
  | case2 opening ordered late =>
      rw [axisFrom_of_le interval_pos (by omega)] at member
      cases member

end Walk

section Content

theorem find?_byStart_eq_none_iff :
    Keyed.find? start (byStart rows) = none ↔ ∀ row ∈ rows, row.start ≠ start := by
  rw [Keyed.find?_eq_none_iff, mem_keys_byStart]
  simp only [not_exists, not_and, ne_eq]

variable (distinct : (rows.map Row.start).Nodup)

include distinct

theorem find?_byStart_eq_some_iff {row : Row} :
    Keyed.find? start (byStart rows) = some row ↔ row ∈ rows ∧ row.start = start := by
  rw [Keyed.find?_eq_some_iff (ascending_byStart rows), (byStart_perm rows).mem_iff,
    Keyed.lasting_of_nodup distinct, List.mem_map]
  constructor
  · rintro ⟨row, member, ⟨⟩⟩
    exact ⟨member, rfl⟩
  · rintro ⟨member, rfl⟩
    exact ⟨row, member, rfl⟩

theorem exists_fills (representable : query.Representable) (member : opening ∈ query.axis)
    (fits : ∀ row ∈ rows, row.start = opening → row.Fits query.thresholds) :
    ∃ window, query.Fills (byStart rows) opening window := by
  obtain ⟨start, stop, opens, closes⟩ := representable.exists_edges member
  cases found : Keyed.find? opening (byStart rows) with
  | none => exact ⟨_, start, stop, opens, closes, by simp only [windowAt, found]; rfl⟩
  | some row =>
      obtain ⟨inside, same⟩ := (find?_byStart_eq_some_iff distinct).mp found
      have made : row.toWindow start stop query.thresholds = .ok _ :=
        Row.toWindow_of_fits (fits row inside same)
      exact ⟨_, start, stop, opens, closes, by simpa only [windowAt, found] using made⟩

theorem Fills.fits {window : Window} (fills : query.Fills (byStart rows) opening window) {row : Row}
    (member : row ∈ rows) (same : row.start = opening) : row.Fits query.thresholds := by
  obtain ⟨start, stop, -, -, made⟩ := fills
  by_contra misfit
  simp only [windowAt, (find?_byStart_eq_some_iff distinct).mpr ⟨member, same⟩,
    Row.toWindow_of_not_fits misfit] at made
  cases made

theorem Fills.describes {window : Window} (fills : query.Fills (byStart rows) opening window) :
    query.Describes rows window := by
  have ⟨start, stop, opens, closes, made⟩ := fills
  obtain ⟨opens_at, opensWhole⟩ := edge_eq_ok_iff.mp opens
  obtain ⟨closes_at, closesWhole⟩ := edge_eq_ok_iff.mp closes
  cases found : Keyed.find? opening (byStart rows) with
  | none =>
      have absent := find?_byStart_eq_none_iff.mp found
      simp only [windowAt, found] at made
      cases made
      refine ⟨opensWhole, ⟨?_, closesWhole⟩, ?_, fun _ => rfl⟩
      · exact closes_at.trans (by rw [← opens_at]; rfl)
      · exact fun row member same => absurd (same.trans opens_at) (absent row member)
  | some row =>
      obtain ⟨inside, same⟩ := (find?_byStart_eq_some_iff distinct).mp found
      have fits := fills.fits distinct inside same
      simp only [windowAt, found, Row.toWindow_of_fits fits] at made
      cases made
      refine ⟨opensWhole, ⟨?_, closesWhole⟩, ?_, ?_⟩
      · exact closes_at.trans (by rw [← opens_at])
      · intro other member same'
        have twice := (find?_byStart_eq_some_iff distinct).mpr ⟨member, same'.trans opens_at⟩
        rw [found, Option.some.injEq] at twice
        exact twice ▸ ⟨rfl, rfl, rfl⟩
      · exact fun none => absurd (same.trans opens_at.symm) (none row inside)

end Content

theorem covers_of_fill (representable : query.Representable) {windows : List Window}
    (described : ∀ window ∈ windows, query.Describes rows window)
    (filled : query.fill rows = .ok windows) : query.Covers windows := by
  have interval_pos := (usable_of_fill filled).1
  have starts := starts_of_fill representable filled
  refine ⟨fun start => by rw [starts, opens_iff_mem_axis interval_pos],
    starts ▸ pairwise_axis interval_pos, ?_⟩
  have steps : windows.IsChain fun window next : Window =>
      next.start.seconds = window.start.seconds + query.interval := by
    have chain := isChain_axis query
    rwa [← starts, List.isChain_map] at chain
  refine steps.imp_of_mem_imp fun window next member further step => ?_
  have closes := edge_eq_ok_iff.mpr (described window member).closes
  have opens := edge_eq_ok_iff.mpr ⟨step, (described next further).opens⟩
  exact Except.ok.inj (closes.symm.trans opens)

/-- The first row that does not fit is reported. -/
theorem fill_eq_error_of_misfit (interval_pos : 0 < query.interval)
    (interval_lt : query.interval < 0x8000000000000000) (representable : query.Representable)
    (distinct : (rows.map Row.start).Nodup) {row : Row} (member : row ∈ rows)
    (inside : row.start ∈ query.axis) (misfit : ¬row.Fits query.thresholds)
    (first : ∀ earlier ∈ rows, earlier.start ∈ query.axis → earlier.start < row.start →
      earlier.Fits query.thresholds) :
    query.fill rows =
      .error (.store (.of (.rowWidth row.counts.length query.thresholds.length))) := by
  have small := wordMillis_of_representable interval_pos representable
  obtain ⟨start, stop, opens, closes⟩ := representable.exists_edges inside
  have fails : query.windowAt (byStart rows) row.start start stop =
      .error (.store (.of (.rowWidth row.counts.length query.thresholds.length))) := by
    simp only [windowAt, (find?_byStart_eq_some_iff distinct).mpr ⟨member, rfl⟩]
    exact Row.toWindow_of_not_fits misfit
  have made : ∀ opening ∈ query.axis, opening < row.start →
      ∃ window, query.Fills (byStart rows) opening window := by
    intro opening between early
    refine exists_fills distinct representable between ?_
    rintro earlier present rfl
    exact first earlier present between early
  rw [fill_eq interval_pos interval_lt small,
    fillFrom_eq_error interval_pos (fun _ _ => rfl) inside opens closes fails made]
  rfl

/-- When every window is made, the rows that are left are reported. -/
theorem fill_eq_error_of_stray (interval_pos : 0 < query.interval)
    (interval_lt : query.interval < 0x8000000000000000)
    (small : wordMillis query.firstOpening = query.firstOpening * 1000) {windows : List Window}
    (follow : List.Forall₂ (query.Fills (byStart rows)) query.axis windows)
    (outside : ∃ row ∈ rows, row.start ∉ query.axis) :
    query.fill rows = .error (.store (.of (.strayRows
      (((byStart rows).map Prod.fst).filter fun start => start ∉ query.axis)
      query.interval))) := by
  have walked := (fillFrom_eq_ok_iff interval_pos fun _ _ => rfl).mpr ⟨follow, rfl⟩
  obtain ⟨row, member, stray⟩ := outside
  have left : ¬((byStart rows).filter fun entry => entry.1 ∉ query.axis).isEmpty = true := by
    rw [List.isEmpty_iff, filter_byStart_eq_nil_iff]
    exact fun placed => stray (placed row member)
  rw [fill_eq interval_pos interval_lt small, walked, List.filter_map]
  exact if_neg left

theorem fillsAsDescribed (interval_pos : 0 < query.interval)
    (interval_lt : query.interval < 0x8000000000000000) (representable : query.Representable)
    (distinct : (rows.map Row.start).Nodup) : query.FillsAsDescribed rows := by
  have small := wordMillis_of_representable interval_pos representable
  have filled_iff (windows : List Window) : query.fill rows = .ok windows ↔ _ :=
    fill_eq_ok_iff interval_pos interval_lt small
  have opens_iff (start : Int) : query.Opens start ↔ start ∈ query.axis :=
    opens_iff_mem_axis interval_pos
  constructor
  case succeeds =>
    constructor
    · rintro ⟨windows, filled⟩ row member
      obtain ⟨follow, placed⟩ := (filled_iff windows).mp filled
      obtain ⟨window, -, fills⟩ := exists_of_mem_left follow (placed row member)
      exact ⟨(opens_iff _).mpr (placed row member), fills.fits distinct member rfl⟩
    · intro sound
      obtain ⟨windows, follow⟩ := exists_forall₂ fun opening member =>
        exists_fills distinct representable member fun row inside _ => (sound row inside).2
      exact ⟨windows, (filled_iff windows).mpr
        ⟨follow, fun row member => (opens_iff _).mp (sound row member).1⟩⟩
  case windows =>
    intro windows filled
    have described : ∀ window ∈ windows, query.Describes rows window := by
      intro window member
      obtain ⟨opening, -, fills⟩ := exists_of_mem_right ((filled_iff windows).mp filled).1 member
      exact fills.describes distinct
    exact ⟨covers_of_fill representable described filled, described⟩
  case unordered =>
    intro others perm
    apply fill_eq_of_perm
    rw [Keyed.lasting_of_nodup distinct,
      Keyed.lasting_of_nodup ((perm.map Row.start).nodup_iff.mp distinct)]
    exact perm.symm
  case misfit =>
    intro row member opens misfit first
    refine fill_eq_error_of_misfit interval_pos interval_lt representable distinct member
      ((opens_iff _).mp opens) misfit fun earlier present inside => ?_
    exact first earlier present ((opens_iff _).mpr inside)
  case stray =>
    intro fits outside
    obtain ⟨windows, follow⟩ := exists_forall₂ fun opening member =>
      exists_fills distinct representable member fun row inside same =>
        fits row inside (same ▸ (opens_iff _).mpr member)
    simp only [opens_iff] at outside ⊢
    refine ⟨_, fill_eq_error_of_stray interval_pos interval_lt small follow outside, ?_, ?_⟩
    · exact (Keyed.ascending_iff_pairwise.mp (ascending_byStart rows)).filter _
    · intro start
      rw [List.mem_filter, mem_keys_byStart, decide_eq_true_eq, and_comm]

/-- Distinct rows fill a query as it is described exactly for signed intervals. -/
theorem fillsAsDescribed_iff (interval_pos : 0 < query.interval)
    (representable : query.Representable) :
    ((∀ rows : List Row, (rows.map Row.start).Nodup → query.FillsAsDescribed rows) ↔
        query.interval < 0x8000000000000000) ∧
      (0x8000000000000000 ≤ query.interval →
        ∀ rows, query.fill rows = .error (.rejected .noInterval)) := by
  refine ⟨⟨fun described => ?_, fun interval_lt rows distinct => ?_⟩, fill_of_large⟩
  · obtain ⟨windows, filled⟩ := (described [] List.nodup_nil).succeeds.mpr
      (List.forall_mem_nil _)
    exact (usable_of_fill filled).2
  · exact fillsAsDescribed interval_pos interval_lt representable distinct

section Example

/-- A query about ten minutes and a millisecond from the second before the epoch on. -/
def minutesQuery : Query :=
  ⟨"o", [], ⟨-1, 500000000, by decide⟩, ⟨600, 1000000, by decide⟩, "t", [⟨0x4039800000000000⟩], 300⟩

def firstRow : Row :=
  ⟨-300, 1, ⟨0x4039800000000000⟩, [1]⟩

def thirdRow : Row :=
  ⟨300, 2, ⟨0x4049800000000000⟩, [0]⟩

theorem axis_minutesQuery : minutesQuery.axis = [-300, 0, 300, 600] := by decide

/-- Rows in either order make the same four windows. -/
theorem rows_fill_four_windows :
    minutesQuery.Representable ∧ 0 < minutesQuery.interval ∧
      ∃ windows, minutesQuery.fill [firstRow, thirdRow] = .ok windows ∧
        minutesQuery.fill [thirdRow, firstRow] = .ok windows ∧ minutesQuery.Covers windows := by
  have interval_pos : 0 < minutesQuery.interval := by decide
  have representable : minutesQuery.Representable := by
    rw [Representable, axis_minutesQuery]
    decide
  have described := (fillsAsDescribed_iff interval_pos representable).1.mpr (by decide)
    [firstRow, thirdRow] (by decide)
  obtain ⟨windows, filled⟩ := described.succeeds.mpr fun row member => by
    rw [opens_iff_mem_axis interval_pos, axis_minutesQuery]
    revert row
    simp [firstRow, thirdRow, Row.Fits, minutesQuery]
  refine ⟨representable, interval_pos, windows, filled, ?_, (described.windows windows filled).1⟩
  exact (described.unordered _ (.swap _ _ _)).trans filled

/-- A query whose interval is too large for words. -/
def hugeQuery : Query :=
  ⟨"org-1", [], ⟨0, 250000, by decide⟩, ⟨0, 500000, by decide⟩, "temp", [], 0x8000000000000000⟩

/-- It has no window and nothing to place, and it is refused. -/
theorem huge_interval_refused :
    hugeQuery.Representable ∧ (∀ start, ¬hugeQuery.Opens start) ∧
      hugeQuery.fill [] = .error (.rejected .noInterval) ∧ ¬hugeQuery.FillsAsDescribed [] := by
  have interval_pos : 0 < hugeQuery.interval := by decide
  have none : hugeQuery.axis = [] := by decide
  have refused : hugeQuery.fill [] = .error (.rejected .noInterval) :=
    fill_of_large (by decide) []
  refine ⟨?_, fun start => ?_, refused, fun described => ?_⟩
  · rw [Representable, none]
    exact List.forall_mem_nil _
  · rw [opens_iff_mem_axis interval_pos, none]
    exact List.not_mem_nil
  · obtain ⟨windows, filled⟩ := described.succeeds.mpr (List.forall_mem_nil _)
    cases refused.symm.trans filled

end Example

end Query
end Histogram
end Telemetry
