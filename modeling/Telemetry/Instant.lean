/-!
# Instants

An instant is a count of whole seconds since the epoch and the nanoseconds within that second.  In a
leap second they go on for another second's worth, so an instant and its reading on the millisecond
scale of the store may lie in different seconds.  Any second can be drawn out like this, but only the
leap seconds that end a minute can be looked up by their parts.
-/

namespace Telemetry

/-- The first second of the calendar. -/
def firstSecond : Int := -8334601228800

/-- The last second of the calendar. -/
def lastSecond : Int := 8210266876799

/-- The number of nanoseconds in a second. -/
def nanosPerSecond : Nat := 1000000000

/-- The number of seconds in a day. -/
def secondsPerDay : Int := 86400

/-- Whether seconds and nanoseconds make an instant. -/
def isInstant (seconds : Int) (nanos : Nat) : Bool :=
  firstSecond ≤ seconds && seconds ≤ lastSecond && nanos < 2 * nanosPerSecond

/-- A moment of the calendar, to the nanosecond. -/
structure Instant where
  /-- Whole seconds since the epoch; negative before it. -/
  seconds : Int
  /-- Nanoseconds within the second; a leap second has those from one second on. -/
  nanos : Nat
  valid : isInstant seconds nanos = true
  deriving DecidableEq, Repr

namespace Instant

/-- Whether the instant lies outside leap seconds or in one that ends a minute. -/
def isRegular (instant : Instant) : Bool :=
  instant.nanos < nanosPerSecond || instant.seconds % 60 == 59

/-- The regular instant with the given parts, if there is one. -/
def ofParts? (seconds : Int) (nanos : Nat) : Option Instant :=
  if valid : isInstant seconds nanos = true then
    let instant : Instant := ⟨seconds, nanos, valid⟩
    if instant.isRegular then some instant else none
  else
    none

/-- The start of a second, if the calendar has it. -/
def ofSeconds? (seconds : Int) : Option Instant :=
  ofParts? seconds 0

/-- Whether the instant lies inside a leap second. -/
def isLeap (instant : Instant) : Bool :=
  nanosPerSecond ≤ instant.nanos

/-- Milliseconds since the epoch, rounded down within the second. -/
def millis (instant : Instant) : Int :=
  instant.seconds * 1000 + (instant.nanos / 1000000 : Nat)

/-- The second of the day. -/
def secondOfDay (instant : Instant) : Int :=
  instant.seconds % secondsPerDay

/-- Calendar order: seconds first, then nanoseconds. -/
def le (left right : Instant) : Bool :=
  left.seconds < right.seconds || (left.seconds == right.seconds && left.nanos ≤ right.nanos)

/-- The second that a difference gains or loses because one side lies inside a leap second, as seen
from the times of day alone. -/
def leapCorrection (later earlier : Instant) : Int :=
  if earlier.secondOfDay < later.secondOfDay then
    if earlier.isLeap then 1 else 0
  else if later.secondOfDay < earlier.secondOfDay then
    if later.isLeap then -1 else 0
  else
    0

/-- The nanoseconds from `earlier` to `later`. -/
def nanosBetween (later earlier : Instant) : Int :=
  (later.seconds - earlier.seconds + leapCorrection later earlier) * nanosPerSecond
    + ((later.nanos : Int) - earlier.nanos)

/-- The whole seconds from `earlier` to `later`, rounded toward zero. -/
def secondsBetween (later earlier : Instant) : Int :=
  (nanosBetween later earlier).tdiv nanosPerSecond

/-- The whole seconds of a range, where a range that runs backwards has none. -/
def rangeSeconds (start stop : Instant) : Nat :=
  (secondsBetween stop start).toNat

theorem bounds (instant : Instant) :
    firstSecond ≤ instant.seconds ∧ instant.seconds ≤ lastSecond ∧
      instant.nanos < 2 * nanosPerSecond := by
  have valid := instant.valid
  simp only [isInstant, Bool.and_eq_true, decide_eq_true_eq] at valid
  exact ⟨valid.1.1, valid.1.2, valid.2⟩

theorem eq_of_parts {one other : Instant} (seconds : one.seconds = other.seconds)
    (nanos : one.nanos = other.nanos) : one = other := by
  cases one
  cases other
  simp_all

theorem isRegular_of_lt {instant : Instant} (ordinary : instant.nanos < nanosPerSecond) :
    instant.isRegular = true := by
  simp [isRegular, ordinary]

theorem ofParts?_eq_some_iff {seconds : Int} {nanos : Nat} {instant : Instant} :
    ofParts? seconds nanos = some instant ↔
      (instant.seconds = seconds ∧ instant.nanos = nanos) ∧ instant.isRegular = true := by
  obtain ⟨ownSeconds, ownNanos, valid⟩ := instant
  constructor
  · intro found
    simp only [ofParts?, Option.dite_none_right_eq_some, Option.ite_none_right_eq_some,
      Option.some.injEq] at found
    obtain ⟨_, regular, same⟩ := found
    obtain ⟨rfl, rfl⟩ := Instant.mk.inj same
    exact ⟨⟨rfl, rfl⟩, regular⟩
  · rintro ⟨⟨rfl, rfl⟩, regular⟩
    simp [ofParts?, valid, regular]

theorem isInstant_zero_iff (seconds : Int) :
    isInstant seconds 0 = true ↔ firstSecond ≤ seconds ∧ seconds ≤ lastSecond := by
  simp [isInstant, nanosPerSecond]

theorem ofSeconds?_eq_some_iff {second : Int} {instant : Instant} :
    ofSeconds? second = some instant ↔ instant.seconds = second ∧ instant.nanos = 0 := by
  rw [ofSeconds?, ofParts?_eq_some_iff]
  refine ⟨And.left, fun same => ⟨same, isRegular_of_lt ?_⟩⟩
  rw [same.2]
  decide

theorem ofSeconds?_isSome_iff (second : Int) :
    (ofSeconds? second).isSome = true ↔ firstSecond ≤ second ∧ second ≤ lastSecond := by
  rw [← isInstant_zero_iff, Option.isSome_iff_exists]
  constructor
  · rintro ⟨instant, found⟩
    obtain ⟨rfl, none⟩ := ofSeconds?_eq_some_iff.mp found
    exact none ▸ instant.valid
  · intro valid
    exact ⟨⟨second, 0, valid⟩, ofSeconds?_eq_some_iff.mpr ⟨rfl, rfl⟩⟩

end Instant
end Telemetry
