import Telemetry.Proofs.Histogram.Reference

/-!
# Ranges and their windows

A range is given to the nanosecond, while the walk over the axis compares milliseconds.  So an
aligned interval that has an instant of the range gets a window, with one exception: of an interval
in whose first millisecond the range ends, the axis knows nothing.
-/

namespace Telemetry

namespace Instant

variable {left right : Instant}

theorem le_iff :
    left.le right = true ↔
      left.seconds < right.seconds ∨ left.seconds = right.seconds ∧ left.nanos ≤ right.nanos := by
  simp [le]

theorem le_eq_false_iff :
    left.le right = false ↔
      right.seconds < left.seconds ∨ left.seconds = right.seconds ∧ right.nanos < left.nanos := by
  rw [← Bool.not_eq_true, le_iff]
  omega

theorem le_of_le_eq_false (after : left.le right = false) : right.le left = true := by
  rw [le_eq_false_iff] at after
  rw [le_iff]
  omega

theorem nanos_lt_of_ordinary (ordinary : left.isLeap = false) : left.nanos < nanosPerSecond := by
  simpa [isLeap] using ordinary

theorem millis_le_of_le (ordinary : left.isLeap = false) (ordered : left.le right = true) :
    left.millis ≤ right.millis := by
  have nanos := nanos_lt_of_ordinary ordinary
  rw [nanosPerSecond] at nanos
  rw [le_iff] at ordered
  rw [millis, millis]
  omega

end Instant

namespace Histogram

/-- Whether an instant lies in the span of a window, which does not include its end. -/
def Window.Contains (window : Window) (instant : Instant) : Prop :=
  window.start.le instant = true ∧ window.stop.le instant = false

namespace Query

/-- Whether an instant lies in the range of a query, which does not include its end. -/
def InRange (query : Query) (instant : Instant) : Prop :=
  query.start.le instant = true ∧ query.stop.le instant = false

/-- Whether the aligned interval that starts at a second has an instant of the range. -/
def Touches (query : Query) (opening : Int) : Prop :=
  (query.interval : Int) ∣ opening ∧
    ∃ instant, query.InRange instant ∧ opening ≤ instant.seconds ∧
      instant.seconds < opening + query.interval

/-- Whether the range ends within the first millisecond of an aligned interval, but not with its
first instant. -/
def ClipsEnd (query : Query) : Prop :=
  (query.interval : Int) ∣ query.stop.seconds ∧ 0 < query.stop.nanos ∧
    query.stop.nanos < 1000000

instance (query : Query) : Decidable query.ClipsEnd :=
  inferInstanceAs (Decidable (_ ∧ _))

/-- The windows of a range: empty, ascending, and each instant of the range in exactly one of them.
-/
structure Tiles (query : Query) (windows : List Window) : Prop where
  starts : ∀ opening, query.Touches opening ↔
    opening ∈ windows.map fun window => window.start.seconds
  ascending : (windows.map fun window => window.start.seconds).Pairwise (· < ·)
  spans : ∀ window ∈ windows, window.start.nanos = 0 ∧
    window.stop.seconds = window.start.seconds + query.interval ∧ window.stop.nanos = 0
  empty : ∀ window ∈ windows, window = Window.empty window.start window.stop query.thresholds
  inhabited : windows ≠ []
  once : ∀ instant, query.InRange instant →
    ∃! window, window ∈ windows ∧ window.Contains instant

variable {query : Query} {opening : Int} {windows : List Window}

theorem contains_iff {window : Window} (opens : window.start.nanos = 0)
    (closes : window.stop.seconds = window.start.seconds + query.interval ∧ window.stop.nanos = 0)
    (instant : Instant) :
    window.Contains instant ↔
      window.start.seconds ≤ instant.seconds ∧
        instant.seconds < window.start.seconds + query.interval := by
  rw [Window.Contains, Instant.le_iff, Instant.le_eq_false_iff, opens, closes.1, closes.2]
  omega

theorem touches_iff (interval_pos : 0 < query.interval)
    (forwards : query.stop.le query.start = false) :
    query.Touches opening ↔
      (query.interval : Int) ∣ opening ∧ query.start.seconds < opening + query.interval ∧
        (opening < query.stop.seconds ∨ opening = query.stop.seconds ∧ 0 < query.stop.nanos) := by
  rw [Instant.le_eq_false_iff] at forwards
  rw [Touches, and_congr_right_iff]
  intro _
  simp only [InRange, Instant.le_iff, Instant.le_eq_false_iff]
  constructor
  · rintro ⟨instant, inside, above, below⟩
    omega
  · rintro ⟨touches, before⟩
    by_cases early : opening ≤ query.start.seconds
    · exact ⟨query.start, by omega⟩
    · have first := query.start.bounds.1
      have last := query.stop.bounds.2.1
      have valid := (Instant.isInstant_zero_iff opening).mpr (by omega)
      exact ⟨⟨opening, 0, valid⟩, by dsimp only; omega⟩

/-- The axis has the touched intervals, except one whose first millisecond the range ends in. -/
theorem touches_iff_mem_axis (interval_pos : 0 < query.interval)
    (forwards : query.stop.le query.start = false) (ordinary : query.stop.isLeap = false) :
    query.Touches opening ↔
      opening ∈ query.axis ∨ opening = query.stop.seconds ∧ query.ClipsEnd := by
  have nanos := Instant.nanos_lt_of_ordinary ordinary
  rw [touches_iff interval_pos forwards, mem_axis_iff interval_pos, ClipsEnd, Instant.millis]
  rw [Instant.le_eq_false_iff] at forwards
  rw [nanosPerSecond] at nanos
  constructor
  · rintro ⟨aligned, touches, before⟩
    by_cases clipped : opening = query.stop.seconds ∧ query.stop.nanos < 1000000
    · obtain ⟨rfl, few⟩ := clipped
      exact .inr ⟨rfl, aligned, by omega, few⟩
    · exact .inl ⟨aligned, touches, by omega⟩
  · rintro (⟨aligned, touches, before⟩ | ⟨rfl, aligned, some, -⟩)
    · exact ⟨aligned, touches, by omega⟩
    · exact ⟨aligned, by omega, .inr ⟨rfl, some⟩⟩

theorem touches_firstOpening (interval_pos : 0 < query.interval)
    (forwards : query.stop.le query.start = false) : query.Touches query.firstOpening := by
  have low := alignedStart_le query.start.seconds interval_pos
  have high := lt_alignedStart_add query.start.seconds interval_pos
  exact ⟨dvd_alignedStart _, query.start, ⟨Instant.le_iff.mpr (.inr ⟨rfl, le_rfl⟩), forwards⟩,
    low, high⟩

theorem InRange.touches {instant : Instant} (inside : query.InRange instant)
    (interval_pos : 0 < query.interval) :
    query.Touches (alignedStart query.interval instant.seconds) :=
  ⟨dvd_alignedStart _, instant, inside, alignedStart_le _ interval_pos,
    lt_alignedStart_add _ interval_pos⟩

/-- Windows of one interval each that start at the touched intervals contain each instant once. -/
theorem existsUnique_contains (interval_pos : 0 < query.interval)
    (starts : ∀ opening, query.Touches opening ↔
      opening ∈ windows.map fun window => window.start.seconds)
    (ascending : (windows.map fun window => window.start.seconds).Pairwise (· < ·))
    (described : ∀ window ∈ windows, query.Describes [] window) {instant : Instant}
    (inside : query.InRange instant) :
    ∃! window, window ∈ windows ∧ window.Contains instant := by
  have contains (window : Window) (member : window ∈ windows) :
      window.Contains instant ↔
        alignedStart query.interval instant.seconds = window.start.seconds := by
    have touched := (starts _).mpr (List.mem_map_of_mem member)
    rw [contains_iff (described window member).opens (described window member).closes,
      alignedStart_eq_iff _ interval_pos, and_iff_right touched.1]
  have injective := List.inj_on_of_nodup_map (ascending.imp Int.ne_of_lt)
  obtain ⟨window, member, same⟩ := List.mem_map.mp ((starts _).mp (inside.touches interval_pos))
  refine ⟨window, ⟨member, (contains window member).mpr same.symm⟩, ?_⟩
  rintro other ⟨present, within⟩
  apply injective present member
  exact ((contains other present).mp within).symm.trans same.symm

theorem exists_fill_nil (interval_pos : 0 < query.interval)
    (interval_lt : query.interval < 0x8000000000000000) (representable : query.Representable) :
    ∃ windows, query.fill [] = .ok windows ∧
      windows.map (fun window => window.start.seconds) = query.axis ∧
      ∀ window ∈ windows, query.Describes [] window := by
  have described : query.FillsAsDescribed [] :=
    fillsAsDescribed interval_pos interval_lt representable List.nodup_nil
  obtain ⟨windows, filled⟩ := described.succeeds.mpr (List.forall_mem_nil _)
  exact ⟨windows, filled, starts_of_fill representable filled,
    (described.windows windows filled).2⟩

/-- The windows of a query are tiles unless it touches more than the axis has. -/
theorem tiles_of_axis (interval_pos : 0 < query.interval)
    (forwards : query.stop.le query.start = false)
    (touched : ∀ opening, query.Touches opening ↔ opening ∈ query.axis)
    (axis : windows.map (fun window => window.start.seconds) = query.axis)
    (described : ∀ window ∈ windows, query.Describes [] window) : query.Tiles windows := by
  rw [← axis] at touched
  have ascending : (windows.map fun window => window.start.seconds).Pairwise (· < ·) := by
    rw [axis]
    exact pairwise_axis interval_pos
  constructor
  case starts => exact touched
  case ascending => exact ascending
  case spans =>
    intro window member
    exact ⟨(described window member).opens, (described window member).closes⟩
  case empty =>
    intro window member
    apply (described window member).empty
    simp
  case inhabited =>
    rintro rfl
    exact List.not_mem_nil ((touched _).mp (touches_firstOpening interval_pos forwards))
  case once =>
    intro instant inside
    exact existsUnique_contains interval_pos touched ascending described inside

/-- A query is filled with the tiles of its range unless it clips its end. -/
theorem tiles_iff (interval_pos : 0 < query.interval)
    (forwards : query.stop.le query.start = false) (ordinary : query.stop.isLeap = false)
    (representable : ∀ opening, query.Touches opening →
      firstSecond ≤ opening ∧ opening + query.interval ≤ lastSecond) :
    ((∃ windows, query.fill [] = .ok windows ∧ query.Tiles windows) ↔ ¬query.ClipsEnd) ∧
      (query.ClipsEnd → query.Touches query.stop.seconds ∧
        ∃ windows, query.fill [] = .ok windows ∧
          ∀ opening, opening ∈ windows.map (fun window => window.start.seconds) ↔
            query.Touches opening ∧ opening ≠ query.stop.seconds) := by
  have touched (opening : Int) : query.Touches opening ↔ _ :=
    touches_iff_mem_axis interval_pos forwards ordinary
  have inside : query.Representable := fun opening member =>
    representable opening ((touched opening).mpr (.inl member))
  have interval_lt : query.interval < 0x8000000000000000 := by
    have first := representable _ (touches_firstOpening interval_pos forwards)
    simp only [firstSecond, lastSecond] at first
    omega
  have absent (clips : query.ClipsEnd) : query.stop.seconds ∉ query.axis := by
    have nanos := clips.2.2
    rw [mem_axis_iff interval_pos, Instant.millis]
    omega
  obtain ⟨windows, filled, axis, described⟩ := exists_fill_nil interval_pos interval_lt inside
  refine ⟨⟨?_, fun whole => ?_⟩, fun clips => ?_⟩
  · rintro ⟨others, again, tiles⟩ clips
    obtain rfl : others = windows := Except.ok.inj (again.symm.trans filled)
    apply absent clips
    rw [← axis, ← tiles.starts]
    exact (touched _).mpr (.inr ⟨rfl, clips⟩)
  · refine ⟨windows, filled, tiles_of_axis interval_pos forwards (fun opening => ?_) axis described⟩
    simp [touched, whole]
  · refine ⟨(touched _).mpr (.inr ⟨rfl, clips⟩), windows, filled, fun opening => ?_⟩
    rw [axis, touched]
    constructor
    · intro member
      refine ⟨.inl member, ?_⟩
      rintro rfl
      exact absent clips member
    · rintro ⟨member | ⟨same, -⟩, apart⟩
      · exact member
      · exact absurd same apart

section Example

/-- A query from just before the epoch to the end of a millisecond. -/
def nanosQuery : Query :=
  ⟨"org-1", [], ⟨-1, 999999000, by decide⟩, ⟨300, 1000000, by decide⟩, "temp", [], 300⟩

/-- Its three windows are tiles of its range. -/
theorem three_windows_tile :
    ∃ windows, nanosQuery.fill [] = .ok windows ∧ nanosQuery.Tiles windows ∧
      windows.map (fun window => window.start.seconds) = [-300, 0, 300] := by
  have axis : nanosQuery.axis = [-300, 0, 300] := by decide
  have touched (opening : Int) : nanosQuery.Touches opening ↔ opening ∈ [-300, 0, 300] := by
    rw [touches_iff_mem_axis (by decide) (by decide) (by decide), axis,
      or_iff_left (fun clipped => absurd clipped.2 (by decide))]
  have representable : ∀ opening, nanosQuery.Touches opening →
      firstSecond ≤ opening ∧ opening + nanosQuery.interval ≤ lastSecond := by
    simp only [touched]
    decide
  obtain ⟨windows, filled, tiles⟩ :=
    (tiles_iff (by decide) (by decide) (by decide) representable).1.mpr (by decide)
  refine ⟨windows, filled, tiles, ?_⟩
  rw [starts_of_fill (fun opening member => representable opening ?_) filled, axis]
  rwa [touched, ← axis]

/-- A query about the first half of a millisecond, the first one of an interval. -/
def halfMillisecond : Query :=
  ⟨"org-1", [], ⟨1200, 0, by decide⟩, ⟨1200, 500000, by decide⟩, "temp", [], 300⟩

/-- The range has an instant and lies in one interval, which gets no window. -/
theorem half_millisecond_unseen :
    halfMillisecond.InRange halfMillisecond.start ∧ halfMillisecond.Touches 1200 ∧
      halfMillisecond.fill [] = .ok [] ∧ ¬halfMillisecond.Tiles [] := by
  have axis : halfMillisecond.axis = [] := by decide
  have representable : halfMillisecond.Representable := by simp [Representable, axis]
  have inside : halfMillisecond.InRange halfMillisecond.start := ⟨by decide, by decide⟩
  obtain ⟨windows, filled, starts, -⟩ := exists_fill_nil (by decide) (by decide) representable
  obtain rfl : windows = [] := by simpa [axis] using starts
  exact ⟨inside, inside.touches (by decide), filled, fun tiles => tiles.inhabited rfl⟩

end Example

end Query
end Histogram
end Telemetry
