import Mathlib.Data.Set.Card
import Telemetry.Proofs.Histogram.Calendar
import Telemetry.Proofs.Histogram.Limit

/-!
# The walk over the axis on words

Filling walks over the axis turn by turn, on words of sixty-four bits.  `Query.turn` is one turn in
which every sum and product is checked to fit.  For a window length that is chosen by the range, no
turn meets one that does not fit, the edges that are looked up never lie before the calendar, and the
walk makes one turn for every opening and then comes to what `Query.fill` says, unless it fails before.
-/

namespace Telemetry
namespace Histogram

/-! ## Words -/

/-- An integer, if it is a signed word. -/
def signed? (value : Int) : Option Int :=
  if -0x8000000000000000 ≤ value ∧ value < 0x8000000000000000 then some value else none

/-- A natural number, if it is a word. -/
def unsigned? (value : Nat) : Option Nat :=
  if value < 0x10000000000000000 then some value else none

theorem signed?_eq_some {value : Int} (low : -0x8000000000000000 ≤ value)
    (high : value < 0x8000000000000000) : signed? value = some value :=
  if_pos ⟨low, high⟩

theorem unsigned?_eq_some {value : Nat} (small : value < 0x10000000000000000) :
    unsigned? value = some value :=
  if_pos small

/-- The nanoseconds from `earlier` to `later`, if their milliseconds are a signed word. -/
def duration? (later earlier : Instant) : Option Int :=
  let nanos := Instant.nanosBetween later earlier
  if nanos.natAbs ≤ 0x7FFFFFFFFFFFFFFF * 1000000 then some nanos else none

def rangeSeconds? (start stop : Instant) : Option Nat := do
  let nanos ← duration? stop start
  let seconds ← signed? (nanos.tdiv nanosPerSecond)
  unsigned? seconds.toNat

/-- The estimate of the number of windows in a range, on words. -/
def windowEstimate? (start stop : Instant) : Option Nat := do
  let range ← rangeSeconds? start stop
  let whole ← unsigned? (range / intervalForRange range)
  unsigned? (whole + 1)

namespace Query

/-- Where the walk over the axis stands. -/
structure Walk where
  /-- The start of the window that comes next. -/
  opening : Int
  /-- The rows that no window has taken. -/
  rows : List (Int × Row)
  /-- The windows that have been made. -/
  windows : List Window

/-- What a turn of the walk comes to. -/
inductive Turn where
  | goesOn (next : Walk)
  /-- The end of the range is reached. -/
  | ends
  | fails (failure : Failure)
  /-- A sum or a product is no word. -/
  | overflows

/-- Where the walk begins, if it can be told on words. -/
def begin? (query : Query) (rows : List Row) : Option Walk := do
  let interval ← signed? query.interval
  let _ ← signed? query.stop.millis
  let quotient ← signed? (query.start.seconds / interval)
  let opening ← signed? (quotient * interval)
  return ⟨opening, byStart rows, []⟩

def turn (query : Query) (walk : Walk) : Turn :=
  match signed? (walk.opening * 1000) with
  | none => .overflows
  | some millis =>
      if millis < query.stop.millis then
        match edge walk.opening with
        | .error failure => .fails failure
        | .ok start =>
            match signed? (walk.opening + query.interval) with
            | none => .overflows
            | some next =>
                match edge next with
                | .error failure => .fails failure
                | .ok stop =>
                    match query.windowAt walk.rows walk.opening start stop with
                    | .error failure => .fails failure
                    | .ok window =>
                        .goesOn ⟨next, Keyed.erase walk.opening walk.rows, walk.windows ++ [window]⟩
      else
        .ends

/-- The walk after so many turns, if all of them go on. -/
def walkFor (query : Query) : Nat → Walk → Option Walk
  | 0, walk => some walk
  | turns + 1, walk =>
      match query.turn walk with
      | .goesOn next => query.walkFor turns next
      | _ => none

/-- The multiples of the interval from the first opening on that lie before the end. -/
def openings (query : Query) : Set Int :=
  { opening | (query.interval : Int) ∣ opening ∧ query.firstOpening ≤ opening ∧
      opening * 1000 < query.stop.millis }

/-- What comes of ordered rows at an opening: the window there, or why there is none. -/
def windowFrom (query : Query) (rows : List (Int × Row)) (opening : Int) : Except Failure Window :=
  (edge opening).bind fun start =>
    (edge (opening + query.interval)).bind fun stop => query.windowAt rows opening start stop

/-- What filling has made of the rows when the walk ends. -/
def settled (query : Query) (walk : Walk) : Except Failure (List Window) :=
  if walk.rows.isEmpty then
    .ok walk.windows
  else
    .error (.store (.of (.strayRows (walk.rows.map Prod.fst) query.interval)))

/-- A walk that stands at a multiple of the interval within the calendar. -/
structure Walk.InCalendar (query : Query) (walk : Walk) : Prop where
  aligned : (query.interval : Int) ∣ walk.opening
  low : firstSecond ≤ walk.opening
  high : walk.opening ≤ lastSecond

end Query

/-! ## The range -/

section Range

variable (start stop : Instant)

theorem leapCorrection_le_one (later earlier : Instant) :
    Instant.leapCorrection later earlier ≤ 1 := by
  rw [Instant.leapCorrection]
  repeat' split
  all_goals decide

/-- From end to end the calendar has less than two to the forty-eighth seconds. -/
theorem natAbs_nanosBetween_le :
    (Instant.nanosBetween stop start).natAbs ≤ 0x1000000000000 * nanosPerSecond := by
  have lower := Instant.neg_one_le_leapCorrection stop start
  have upper := leapCorrection_le_one stop start
  have starts := start.bounds
  have stops := stop.bounds
  simp only [Instant.nanosBetween, firstSecond, lastSecond, nanosPerSecond] at *
  omega

theorem natAbs_secondsBetween_le :
    (Instant.secondsBetween stop start).natAbs ≤ 0x1000000000000 := by
  have near := natAbs_nanosBetween_le start stop
  rw [Nat.mul_comm] at near
  rw [Instant.secondsBetween, Int.natAbs_tdiv]
  exact Nat.div_le_of_le_mul near

theorem rangeSeconds_le : Instant.rangeSeconds start stop ≤ 0x1000000000000 := by
  have seconds := natAbs_secondsBetween_le start stop
  rw [Instant.rangeSeconds]
  omega

theorem rangeSeconds?_eq : rangeSeconds? start stop = some (Instant.rangeSeconds start stop) := by
  have near := natAbs_nanosBetween_le start stop
  have seconds := natAbs_secondsBetween_le start stop
  have range := rangeSeconds_le start stop
  have reached : duration? stop start = some (Instant.nanosBetween stop start) :=
    if_pos (near.trans (by decide))
  rw [rangeSeconds?, reached, Option.bind_eq_bind, Option.bind_some, ← Instant.secondsBetween,
    signed?_eq_some (by omega) (by omega), Option.bind_some, ← Instant.rangeSeconds,
    unsigned?_eq_some (by omega)]

theorem windowEstimate?_eq :
    windowEstimate? start stop =
      some (Instant.rangeSeconds start stop / intervalFor start stop + 1) := by
  have range := rangeSeconds_le start stop
  have whole := Nat.div_le_self (Instant.rangeSeconds start stop) (intervalFor start stop)
  rw [windowEstimate?, rangeSeconds?_eq, Option.bind_eq_bind, Option.bind_some, ← intervalFor,
    unsigned?_eq_some (by omega), Option.bind_some, unsigned?_eq_some (by omega)]

end Range

/-! ## The walk -/

namespace Query

variable {query : Query} {walk : Walk}

theorem dvd_firstSecond (regular : query.interval = intervalFor query.start query.stop) :
    (query.interval : Int) ∣ firstSecond := by
  rw [regular]
  exact (Int.natCast_dvd_natCast.mpr (intervalFor_dvd_day _ _)).trans (by decide)

section Regular

variable (regular : query.interval = intervalFor query.start query.stop)

include regular

theorem interval_bounds : 0 < query.interval ∧ query.interval ≤ 86400 := by
  rw [regular]
  exact ⟨intervalFor_pos _ _, intervalFor_le_day _ _⟩

/-- No walk begins before the calendar, because the calendar begins with a window. -/
theorem inCalendar_firstOpening (rows : List (Int × Row)) (windows : List Window) :
    Walk.InCalendar query ⟨query.firstOpening, rows, windows⟩ := by
  have bounds := interval_bounds regular
  have starts := query.start.bounds
  have low := alignedStart_le query.start.seconds bounds.1
  have high := lt_alignedStart_add query.start.seconds bounds.1
  have aligned : (query.interval : Int) ∣ query.firstOpening := dvd_alignedStart _
  refine ⟨aligned, ?_, low.trans starts.2.1⟩
  have apart : (query.interval : Int) ∣ query.firstOpening + query.interval - firstSecond :=
    dvd_sub (dvd_add aligned dvd_rfl) (dvd_firstSecond regular)
  have distance := Int.le_of_dvd (by rw [firstOpening]; omega) apart
  change firstSecond ≤ query.firstOpening
  omega

theorem begin?_eq (rows : List Row) :
    query.begin? rows = some ⟨query.firstOpening, byStart rows, []⟩ := by
  have bounds := interval_bounds regular
  have starts := query.start.bounds
  have stops := query.stop.bounds
  have first := inCalendar_firstOpening regular (byStart rows) []
  have low := first.low
  have high := first.high
  have quotient : (query.start.seconds / query.interval).natAbs ≤ query.start.seconds.natAbs :=
    Int.natAbs_ediv_le_natAbs _ _
  simp only [firstSecond, lastSecond, nanosPerSecond] at *
  have millis : -0x8000000000000000 ≤ query.stop.millis ∧
      query.stop.millis < 0x8000000000000000 := by
    rw [Instant.millis]
    omega
  rw [begin?, signed?_eq_some (by omega) (by omega), Option.bind_eq_bind, Option.bind_some,
    signed?_eq_some millis.1 millis.2, Option.bind_some, signed?_eq_some (by omega) (by omega),
    Option.bind_some, ← alignedStart, ← firstOpening, signed?_eq_some (by omega) (by omega)]
  rfl

/-- A turn in the calendar ends, fails, or makes its window. -/
theorem turn_cases (inside : walk.InCalendar query) :
    (query.stop.millis ≤ walk.opening * 1000 ∧ query.turn walk = .ends) ∨
      walk.opening * 1000 < query.stop.millis ∧
        ((∃ failure, query.windowFrom walk.rows walk.opening = .error failure ∧
            query.turn walk = .fails failure) ∨
          ∃ window, query.windowFrom walk.rows walk.opening = .ok window ∧
            query.turn walk = .goesOn
              ⟨walk.opening + query.interval, Keyed.erase walk.opening walk.rows,
                walk.windows ++ [window]⟩) := by
  have bounds := interval_bounds regular
  have low := inside.low
  have high := inside.high
  rw [firstSecond] at low
  rw [lastSecond] at high
  rw [turn, signed?_eq_some (by omega) (by omega), signed?_eq_some (by omega) (by omega),
    windowFrom]
  dsimp only
  split
  next before =>
    refine .inr ⟨before, ?_⟩
    cases edge walk.opening with
    | error failure => exact .inl ⟨failure, rfl, rfl⟩
    | ok start =>
        cases edge (walk.opening + query.interval) with
        | error failure => exact .inl ⟨failure, rfl, rfl⟩
        | ok stop =>
            simp only [Except.bind]
            cases query.windowAt walk.rows walk.opening start stop with
            | error failure => exact .inl ⟨failure, rfl, rfl⟩
            | ok window => exact .inr ⟨window, rfl, rfl⟩
  next after => exact .inl ⟨Int.not_lt.mp after, rfl⟩

end Regular

theorem windowFrom_eq_ok_iff {rows : List (Int × Row)} {opening : Int} {window : Window} :
    query.windowFrom rows opening = .ok window ↔ query.Fills rows opening window := by
  simp only [windowFrom, bind_eq_ok_iff, Fills, exists_and_left]

theorem Walk.InCalendar.next (inside : walk.InCalendar query) {rows : List (Int × Row)}
    {window : Window} (made : query.windowFrom rows walk.opening = .ok window)
    (left : List (Int × Row)) (windows : List Window) :
    Walk.InCalendar query ⟨walk.opening + query.interval, left, windows⟩ where
  aligned := dvd_add inside.aligned dvd_rfl
  low := by
    have low := inside.low
    dsimp only
    omega
  high := (windowFrom_eq_ok_iff.mp made).stop_le

theorem fillFrom_eq_bind (interval_pos : 0 < query.interval) {opening : Int}
    {rows : List (Int × Row)} (before : opening * 1000 < query.stop.millis) :
    query.fillFrom interval_pos opening rows =
      (query.windowFrom rows opening).bind fun window =>
        (query.fillFrom interval_pos (opening + query.interval) (Keyed.erase opening rows)).bind
          fun rest => .ok (window :: rest.1, rest.2) := by
  rw [fillFrom_of_lt interval_pos before, windowFrom]
  cases edge opening with
  | error failure => rfl
  | ok start => cases edge (opening + query.interval) <;> rfl

/-- The walk makes a turn for every opening, or fails as filling does. -/
theorem exists_last (regular : query.interval = intervalFor query.start query.stop)
    (interval_pos : 0 < query.interval) (inside : walk.InCalendar query) :
    ∃ turns last, query.walkFor turns walk = some last ∧
      ((turns = (query.axisFrom walk.opening).length ∧ query.turn last = .ends ∧
          ∃ windows, last.windows = walk.windows ++ windows ∧
            query.fillFrom interval_pos walk.opening walk.rows = .ok (windows, last.rows)) ∨
        ∃ failure, turns < (query.axisFrom walk.opening).length ∧
          query.turn last = .fails failure ∧
          query.fillFrom interval_pos walk.opening walk.rows = .error failure) := by
  induction counted : (query.axisFrom walk.opening).length generalizing walk with
  | zero =>
      obtain ⟨after, ends⟩ | ⟨before, -⟩ := turn_cases regular inside
      · exact ⟨0, walk, rfl, .inl ⟨rfl, ends, [], (List.append_nil _).symm,
          fillFrom_of_le interval_pos after _⟩⟩
      · rw [axisFrom_of_lt interval_pos before] at counted
        cases counted
  | succ count ih =>
      obtain ⟨after, -⟩ | ⟨before, ⟨failure, unmade, fails⟩ | ⟨window, made, goes⟩⟩ :=
        turn_cases regular inside
      · rw [axisFrom_of_le interval_pos after] at counted
        cases counted
      · refine ⟨0, walk, rfl, .inr ⟨failure, Nat.succ_pos _, fails, ?_⟩⟩
        rw [fillFrom_eq_bind interval_pos before, unmade]
        rfl
      · rw [axisFrom_of_lt interval_pos before, List.length_cons, Nat.add_right_cancel_iff] at counted
        obtain ⟨turns, last, walked, ended⟩ := ih (inside.next made _ _) counted
        refine ⟨turns + 1, last, ?_, ?_⟩
        · rw [walkFor, goes]
          exact walked
        · rw [fillFrom_eq_bind interval_pos before, made]
          obtain ⟨all, ends, windows, appended, filled⟩ | ⟨failure, few, fails, unfilled⟩ := ended
          · refine .inl ⟨congrArg Nat.succ all, ends, window :: windows, ?_, ?_⟩
            · rw [appended, List.append_assoc, List.singleton_append]
            · rw [Except.bind, filled]
              rfl
          · refine .inr ⟨failure, Nat.succ_lt_succ few, fails, ?_⟩
            rw [Except.bind, unfilled]
            rfl

theorem Walk.InCalendar.walkFor (regular : query.interval = intervalFor query.start query.stop)
    (inside : walk.InCalendar query) {turns : Nat} {reached : Walk}
    (walked : query.walkFor turns walk = some reached) : reached.InCalendar query := by
  induction turns generalizing walk with
  | zero => exact Option.some.inj walked ▸ inside
  | succ turns ih =>
      rw [Query.walkFor] at walked
      obtain ⟨-, ends⟩ | ⟨-, ⟨failure, -, fails⟩ | ⟨window, made, goes⟩⟩ :=
        turn_cases regular inside
      · rw [ends] at walked
        cases walked
      · rw [fails] at walked
        cases walked
      · rw [goes] at walked
        exact ih (inside.next made _ _) walked

theorem ncard_openings (interval_pos : 0 < query.interval) :
    query.openings.ncard = query.axis.length := by
  have same : query.openings = (query.axis.toFinset : Set Int) := by
    ext opening
    have aligned : (query.interval : Int) ∣ query.firstOpening := dvd_alignedStart _
    rw [List.coe_toFinset, Set.mem_ofPred_eq, axis, mem_axisFrom_iff interval_pos,
      dvd_sub_left aligned]
    rfl
  rw [same, Set.ncard_coe_finset, List.toFinset_card_of_nodup (nodup_axis interval_pos)]

/-- Everything that the walk over the axis meets is a word. -/
theorem walk_stays_within_words
    (regular : query.interval = intervalFor query.start query.stop) (rows : List Row) :
    windowEstimate? query.start query.stop =
        some (Instant.rangeSeconds query.start query.stop / query.interval + 1) ∧
      ∃ first, query.begin? rows = some first ∧ first.opening = query.firstOpening ∧
        (∀ turns walk, query.walkFor turns first = some walk →
          query.turn walk ≠ .overflows ∧
            ∀ bound ∈ [walk.opening, walk.opening + query.interval],
              firstSecond ≤ bound ∧
                ((∃ failure, edge bound = .error failure) ↔ lastSecond < bound)) ∧
        ∃ turns last, query.walkFor turns first = some last ∧
          ((turns = query.openings.ncard ∧ query.turn last = .ends ∧
              query.fill rows = query.settled last) ∨
            ∃ failure, turns < query.openings.ncard ∧ query.turn last = .fails failure ∧
              query.fill rows = .error failure) := by
  obtain ⟨interval_pos, interval_le⟩ := interval_bounds regular
  have first := inCalendar_firstOpening regular (byStart rows) []
  have filled := fill_eq interval_pos (Nat.lt_of_le_of_lt interval_le (by decide))
    (wordMillis_of_le_day interval_pos interval_le) rows
  refine ⟨by rw [windowEstimate?_eq, regular], _, begin?_eq regular rows, rfl, ?_, ?_⟩
  · intro turns walk walked
    have inside := first.walkFor regular walked
    refine ⟨?_, fun bound member => ?_⟩
    · obtain ⟨-, turned⟩ | ⟨-, ⟨_, -, turned⟩ | ⟨_, -, turned⟩⟩ := turn_cases regular inside
      all_goals
        rw [turned]
        exact nofun
    · have low : firstSecond ≤ bound := by
        have low := inside.low
        rw [List.mem_pair] at member
        omega
      refine ⟨low, ?_⟩
      simp only [edge_eq_error_iff, exists_and_left, exists_eq, and_true]
      omega
  · obtain ⟨turns, last, walked, ended⟩ := exists_last regular interval_pos first
    rw [ncard_openings interval_pos]
    refine ⟨turns, last, walked, ?_⟩
    obtain ⟨all, ends, windows, appended, made⟩ | ⟨failure, few, fails, unmade⟩ := ended
    · refine .inl ⟨all, ends, ?_⟩
      rw [filled, made, settled, appended]
      rfl
    · refine .inr ⟨failure, few, fails, ?_⟩
      rw [filled, unmade]
      rfl

section Example

/-- A query about the whole calendar, up to the leap second at its end. -/
def calendarQuery : Query where
  organization := "org-1"
  devices := []
  start := ⟨-8334601228800, 0, by decide⟩
  stop := ⟨8210266876799, 1999999999, by decide⟩
  path := "temp"
  thresholds := []
  interval := day

/-- The walk over the whole calendar meets nothing but words. -/
theorem whole_calendar_within_words :
    calendarQuery.interval = intervalFor calendarQuery.start calendarQuery.stop ∧
      windowEstimate? calendarQuery.start calendarQuery.stop = some 191491530 ∧
      ∃ first, calendarQuery.begin? [] = some first ∧ first.opening = firstSecond ∧
        ∀ turns walk, calendarQuery.walkFor turns first = some walk →
          calendarQuery.turn walk ≠ .overflows := by
  have regular : calendarQuery.interval = intervalFor calendarQuery.start calendarQuery.stop := by
    decide
  obtain ⟨estimate, first, begins, opens, within, -⟩ := walk_stays_within_words regular []
  refine ⟨regular, estimate.trans (by decide), first, begins, opens.trans (by decide), ?_⟩
  exact fun turns walk walked => (within turns walk walked).1

end Example

end Query
end Histogram
end Telemetry
