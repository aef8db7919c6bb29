import Telemetry.Histogram.Window
import Telemetry.Keyed

/-!
# Filling the time axis

The store reports only windows that have observations.  `Query.fill` walks over every window of the
range, from the one that holds the start up to the end, takes the row that belongs to it or an empty
window, and refuses rows that are left over.
-/

namespace Telemetry
namespace Histogram

/-- The start of the window, aligned to the epoch, that a second falls into. -/
def alignedStart (interval : Nat) (second : Int) : Int :=
  second / interval * interval

/-- The instant of a window's edge. -/
def edge (second : Int) : Except Failure Instant :=
  match Instant.ofSeconds? second with
  | some instant => .ok instant
  | none => .error (.rejected (.outOfCalendar second))

/-- The milliseconds of a second, as a word of sixty-four bits holds them. -/
def wordMillis (second : Int) : Int :=
  Int.bmod (second * 1000) 0x10000000000000000

theorem wordMillis_of_small {second : Int} (low : -9223372036854775 ≤ second)
    (high : second ≤ 9223372036854775) : wordMillis second = second * 1000 :=
  Int.bmod_eq_of_le (by omega) (by omega)

namespace Query

/-- The windows from `opening` on, and the rows that belong to none of them. -/
def fillFrom (query : Query) (interval_pos : 0 < query.interval) (opening : Int)
    (rows : List (Int × Row)) : Except Failure (List Window × List (Int × Row)) :=
  if opening * 1000 < query.stop.millis then do
    let start ← edge opening
    let stop ← edge (opening + query.interval)
    let window ← match Keyed.find? opening rows with
      | some row => row.toWindow start stop query.thresholds
      | none => .ok (Window.empty start stop query.thresholds)
    let (windows, left) ← query.fillFrom interval_pos (opening + query.interval)
      (Keyed.erase opening rows)
    .ok (window :: windows, left)
  else
    .ok ([], rows)
termination_by (query.stop.millis - opening * 1000).toNat
decreasing_by omega

/-- The start of the first window. -/
def firstOpening (query : Query) : Int :=
  alignedStart query.interval query.start.seconds

/-- One window for every interval that the range touches.  Of rows with the same start the last one
counts, and a row that no window takes is an error.  Whether there is a first window is decided on
words; only a start far outside the calendar exceeds them. -/
def fill (query : Query) (rows : List Row) : Except Failure (List Window) :=
  if usable : 0 < query.interval ∧ query.interval < 0x8000000000000000 then do
    let byStart := Keyed.ofEntries (rows.map fun row => (row.start, row))
    let (windows, left) ←
      if wordMillis query.firstOpening < query.stop.millis then
        query.fillFrom usable.1 query.firstOpening byStart
      else
        .ok ([], byStart)
    if left.isEmpty then
      .ok windows
    else
      .error (.store (.of (.strayRows (left.map Prod.fst) query.interval)))
  else
    .error (.rejected .noInterval)

end Query
end Histogram
end Telemetry
