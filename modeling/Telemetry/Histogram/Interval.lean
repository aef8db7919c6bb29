import Telemetry.Instant

/-!
# Window lengths

The longer the range, the longer its windows: five lengths, each a multiple of the one before.
-/

namespace Telemetry
namespace Histogram

def minute : Nat := 60

def hour : Nat := 60 * minute

def day : Nat := 24 * hour

/-- The window length, in seconds, for a range of the given number of seconds. -/
def intervalForRange (range : Nat) : Nat :=
  if range < hour then 5 * minute
  else if range < 6 * hour then 15 * minute
  else if range < day then hour
  else if range < 7 * day then 6 * hour
  else day

/-- The window length for a range of time; a range that runs backwards counts as empty. -/
def intervalFor (start stop : Instant) : Nat :=
  intervalForRange (Instant.rangeSeconds start stop)

theorem intervalForRange_pos (range : Nat) : 0 < intervalForRange range := by
  grind [intervalForRange, minute, hour, day]

theorem intervalForRange_mono {shorter longer : Nat} (le : shorter ≤ longer) :
    intervalForRange shorter ≤ intervalForRange longer := by
  grind [intervalForRange, minute, hour, day]

end Histogram
end Telemetry
