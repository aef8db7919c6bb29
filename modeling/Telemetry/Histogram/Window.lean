import Telemetry.Failure

/-!
# Windows

A window of a histogram counts the observations of a span of time, cumulatively by thresholds.  Its
last bucket is bounded by infinity and counts all of them.
-/

namespace Telemetry
namespace Histogram

/-- The number of observations at most `bound`. -/
structure Bucket where
  bound : Double
  count : Nat
  deriving DecidableEq, Repr

/-- The observations of the span from `start` to just before `stop`. -/
structure Window where
  start : Instant
  stop : Instant
  buckets : List Bucket
  count : Nat
  sum : Double
  deriving DecidableEq, Repr

/-- The window without observations. -/
def Window.empty (start stop : Instant) (thresholds : List Double) : Window :=
  { start
    stop
    buckets := (thresholds ++ [Double.infinity]).map fun bound => ⟨bound, 0⟩
    count := 0
    sum := Double.zero }

/-- A group of observations as the store reports it. -/
structure Row where
  /-- The second in which the window starts. -/
  start : Int
  total : Nat
  sum : Double
  /-- For each threshold the number of observations at most it. -/
  counts : List Nat
  deriving DecidableEq, Repr

/-- The window of a row, closed by the infinite bucket. -/
def Row.toWindow (row : Row) (start stop : Instant) (thresholds : List Double) :
    Except Failure Window :=
  if row.counts.length = thresholds.length then
    .ok
      { start
        stop
        buckets := List.zipWith Bucket.mk thresholds row.counts ++ [⟨Double.infinity, row.total⟩]
        count := row.total
        sum := row.sum }
  else
    .error (.store (.of (.rowWidth row.counts.length thresholds.length)))

/-- A question to the store: one organization's observations at a path, by windows. -/
structure Query where
  organization : String
  /-- Without devices, every device of the organization counts. -/
  devices : List String
  start : Instant
  stop : Instant
  path : String
  thresholds : List Double
  /-- The length of a window in whole seconds. -/
  interval : Nat
  deriving DecidableEq, Repr

end Histogram
end Telemetry
