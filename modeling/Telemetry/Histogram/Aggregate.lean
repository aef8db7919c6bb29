import Telemetry.Double.Rounding
import Telemetry.Histogram.Window
import Telemetry.Keyed

/-!
# Aggregating observations

Observations that share a window make one row: how many there are, their sum in the order they are
given, and how many lie at or below each threshold.
-/

namespace Telemetry
namespace Histogram

/-- A value observed in the window that starts at a second. -/
structure Observation where
  opening : Int
  value : Double
  deriving DecidableEq, Repr

/-- The row of the values in one window. -/
def rowOf (thresholds : List Double) (opening : Int) (values : List Double) : Row :=
  { start := opening
    total := values.length
    sum := values.foldl Double.add Double.zero
    counts := thresholds.map fun bound => values.countP fun value => value.le bound }

/-- The windows that have observations, in ascending order. -/
def openings (observations : List Observation) : List Int :=
  (Keyed.ofEntries (observations.map fun observation => (observation.opening, ()))).map Prod.fst

/-- One row for every window that has observations, in ascending order. -/
def aggregate (thresholds : List Double) (observations : List Observation) : List Row :=
  (openings observations).map fun opening =>
    rowOf thresholds opening
      ((observations.filter fun observation => observation.opening == opening).map
        Observation.value)

end Histogram
end Telemetry
