/-!
# Double-precision numbers

A double is its 64 bits.  Comparison, the total order and finiteness are read off the bits as
integers, so every statement about them is one about `Nat` and `Int`.
-/

namespace Telemetry

/-- A double-precision binary floating-point number, given by its bit pattern. -/
structure Double where
  /-- Sign bit, eleven exponent bits, fifty-two fraction bits. -/
  bits : UInt64
  deriving DecidableEq, Repr

namespace Double

/-- The weight of the sign bit. -/
def signWeight : Nat := 0x8000000000000000

/-- The weight of the lowest exponent bit. -/
def exponentWeight : Nat := 0x10000000000000

/-- The magnitude of an infinity: every exponent bit set and an empty fraction. -/
def infiniteMagnitude : Nat := 2047 * exponentWeight

/-- Whether the sign bit is set. -/
def negative (number : Double) : Bool :=
  signWeight ≤ number.bits.toNat

/-- The bits below the sign, as a number: it grows with the absolute value. -/
def magnitude (number : Double) : Nat :=
  number.bits.toNat % signWeight

/-- The double with the given sign and magnitude bits. -/
def ofParts (negative : Bool) (magnitude : Nat) : Double :=
  ⟨UInt64.ofNat ((if negative then signWeight else 0) + magnitude % signWeight)⟩

/-- The positive zero. -/
def zero : Double := ⟨0⟩

/-- The positive infinity. -/
def infinity : Double := ofParts false infiniteMagnitude

/-- A quiet not-a-number. -/
def nan : Double := ofParts false (infiniteMagnitude + exponentWeight / 2)

def isNaN (number : Double) : Bool :=
  infiniteMagnitude < number.magnitude

def isFinite (number : Double) : Bool :=
  number.magnitude < infiniteMagnitude

/-- The opposite number. -/
def neg (number : Double) : Double :=
  ofParts (!number.negative) number.magnitude

/-- The position of a number on the line: both zeros stand at zero. -/
def rank (number : Double) : Int :=
  if number.negative then -(number.magnitude : Int) else number.magnitude

/-- The position of a bit pattern in the total order: the negative zero stands before the
positive one, and a not-a-number beyond the infinity of its sign. -/
def totalRank (number : Double) : Int :=
  if number.negative then -(number.magnitude : Int) - 1 else number.magnitude

/-- The numeric comparison: false as soon as one side is not a number. -/
def le (left right : Double) : Bool :=
  !left.isNaN && !right.isNaN && left.rank ≤ right.rank

/-- Numeric equality: the two zeros are equal, and nothing equals a not-a-number. -/
def same (left right : Double) : Bool :=
  !left.isNaN && !right.isNaN && left.rank == right.rank

/-- The total order on bit patterns. -/
def totalLe (left right : Double) : Bool :=
  left.totalRank ≤ right.totalRank

/-- The integer part of the number's value `± significand * 2 ^ exponent`. -/
def significand (number : Double) : Nat :=
  if number.magnitude < exponentWeight then
    number.magnitude
  else
    number.magnitude % exponentWeight + exponentWeight

/-- The binary exponent of the number's value `± significand * 2 ^ exponent`. -/
def exponent (number : Double) : Int :=
  if number.magnitude < exponentWeight then
    -1074
  else
    (number.magnitude / exponentWeight : Nat) - 1075

theorem totalLe_total (left right : Double) :
    (left.totalLe right || right.totalLe left) = true := by
  simp only [totalLe, Bool.or_eq_true, decide_eq_true_eq]
  omega

theorem totalLe_trans {left middle right : Double} (first : left.totalLe middle = true)
    (second : middle.totalLe right = true) : left.totalLe right = true := by
  simp only [totalLe, decide_eq_true_eq] at *
  omega

theorem isNaN_eq_false_of_isFinite {number : Double} (finite : number.isFinite = true) :
    number.isNaN = false := by
  simp only [isFinite, isNaN, decide_eq_true_eq, decide_eq_false_iff_not] at *
  omega

end Double
end Telemetry
