import Mathlib.Algebra.Order.Field.Power
import Mathlib.Data.Rat.Cast.Order
import Mathlib.Tactic.FieldSimp
import Mathlib.Tactic.Linarith
import Mathlib.Tactic.NormNum
import Mathlib.Tactic.Positivity
import Mathlib.Tactic.Ring
import Telemetry.Proofs.Rounding

/-!
# The double nearest to an integer

An integer of sixty-four bits is cut at fifty-three bits and the rest is rounded, so the double that
comes out is a multiple of the unit of the cut and at most half a unit away.  Every other double is
a multiple of that unit too or lies below all integers of that length, so none is nearer.
-/

namespace Telemetry

/-- Rounding moves a quotient by at most half, and by half only to an even integer. -/
theorem roundHalfEven_spec (numerator : Nat) {denominator : Nat} (positive : 0 < denominator) :
    2 * |(roundHalfEven numerator denominator * denominator : Int) - numerator| ≤ denominator ∧
      (2 * |(roundHalfEven numerator denominator * denominator : Int) - numerator| = denominator →
        roundHalfEven numerator denominator % 2 = 0) := by
  have below := Nat.mod_lt numerator positive
  have whole : (numerator : Int) =
      (numerator / denominator : Nat) * denominator + (numerator % denominator : Nat) := by
    exact_mod_cast (Nat.div_add_mod' numerator denominator).symm
  simp only [roundHalfEven, Bool.or_eq_true, Bool.and_eq_true, decide_eq_true_eq, beq_iff_eq]
  generalize numerator / denominator = floor at *
  generalize numerator % denominator = rest at *
  split
  · rename_i up
    have distance : ((floor + 1 : Nat) * denominator : Int) - numerator = denominator - rest := by
      rw [whole, Nat.cast_add, Nat.cast_one]
      ring
    rw [distance, abs_of_nonneg (by omega)]
    omega
  · rename_i down
    have distance : (floor * denominator : Int) - numerator = -rest := by
      rw [whole]
      ring
    rw [distance, abs_neg, abs_of_nonneg (by omega)]
    omega

namespace Double

/-- The factor that a sign stands for. -/
def signOf (negative : Bool) : Int :=
  if negative then -1 else 1

/-- The exact value of a finite number. -/
def value (number : Double) : ℚ :=
  signOf number.negative * number.significand * 2 ^ number.exponent

/-- A double is the nearest to an integer, and of two that are equally near the even one. -/
structure IsNearest (found : Double) (exact : Int) : Prop where
  finite : found.isFinite = true
  negative : found.negative = decide (exact < 0)
  nearest : ∀ other : Double, other.isFinite = true → |found.value - exact| ≤ |other.value - exact|
  even : ∀ other : Double, other.isFinite = true → other.value ≠ found.value →
    |found.value - exact| = |other.value - exact| → found.significand % 2 = 0

section Signs

theorem abs_signOf_mul (negative : Bool) (number : Int) :
    |signOf negative * number| = |number| := by
  cases negative <;> simp [signOf]

theorem signOf_mul_natAbs (exact : Int) :
    (signOf (exact < 0) * exact.natAbs : ℚ) = exact := by
  have same : signOf (exact < 0) * (exact.natAbs : Int) = exact := by
    simp only [signOf, decide_eq_true_eq]
    split <;> omega
  rw [← Int.cast_natCast, ← Int.cast_mul, same]

theorem signOf_mul_signOf_mul (negative : Bool) (number : ℚ) :
    signOf negative * (signOf negative * number) = number := by
  cases negative <;> simp [signOf]

theorem abs_signOf_mul_sub (negative : Bool) (left right : ℚ) :
    |signOf negative * left - right| = |left - signOf negative * right| := by
  cases negative with
  | false => simp [signOf]
  | true =>
      rw [signOf, if_pos rfl, Int.cast_neg, Int.cast_one, neg_one_mul, neg_one_mul, ← abs_neg]
      congr 1
      ring

end Signs

theorem significand_lt (number : Double) : number.significand < 2 * exponentWeight := by
  rw [significand]
  split
  · omega
  · have := Nat.mod_lt number.magnitude (show 0 < exponentWeight by decide)
    omega

@[simp]
theorem negative_ofParts (negative : Bool) (magnitude : Nat) :
    (ofParts negative magnitude).negative = negative := by
  have below : magnitude % signWeight < signWeight := Nat.mod_lt _ (by decide)
  simp only [Double.negative, ofParts, UInt64.toNat_ofNat', signWeight] at *
  cases negative <;> simp <;> omega

section Cut

theorem cutExponent_one {value : Nat} (positive : value ≠ 0) :
    cutExponent value 1 = (Nat.log2 value : Int) - 52 := by
  have unit : Nat.log2 1 = 0 := by decide
  have low := Nat.log2_self_le positive
  simp only [cutExponent, unit, Nat.cast_zero, sub_zero]
  generalize place : (Nat.log2 value : Int) - 52 = guess
  have fits : (if 0 ≤ guess then decide (1 <<< (guess.toNat + 52) ≤ value)
      else decide (1 <<< 52 ≤ value <<< (-guess).toNat)) = true := by
    split
    · have bits : guess.toNat + 52 = Nat.log2 value := by omega
      rw [decide_eq_true_eq, bits, Nat.one_shiftLeft]
      exact low
    · have bits : Nat.log2 value + (-guess).toNat = 52 := by omega
      rw [decide_eq_true_eq, Nat.one_shiftLeft, Nat.shiftLeft_eq]
      calc
        2 ^ 52 = 2 ^ Nat.log2 value * 2 ^ (-guess).toNat := by rw [← Nat.pow_add, bits]
        _ ≤ value * 2 ^ (-guess).toNat := Nat.mul_le_mul_right _ low
  rw [if_pos fits]
  omega

/-- What is left of an integer after the cut: fifty-three bits, rounded. -/
def leading (value : Nat) : Nat :=
  if 0 ≤ cutExponent value 1 then
    roundHalfEven value (1 <<< (cutExponent value 1).toNat)
  else
    roundHalfEven (value <<< (-cutExponent value 1).toNat) 1

theorem roundHalfEven_one (value : Nat) : roundHalfEven value 1 = value := by
  simp [roundHalfEven, Nat.mod_one]

/-- Cutting an integer moves it by at most half a unit. -/
theorem leading_spec (value : Nat) :
    2 * |(leading value * 2 ^ cutExponent value 1 : ℚ) - value| ≤ 2 ^ cutExponent value 1 ∧
      (2 * |(leading value * 2 ^ cutExponent value 1 : ℚ) - value| = 2 ^ cutExponent value 1 →
        leading value % 2 = 0) := by
  rw [leading]
  generalize cutExponent value 1 = cut
  split
  · rename_i coarse
    obtain ⟨bits, rfl⟩ := Int.eq_ofNat_of_zero_le coarse
    have spec := roundHalfEven_spec value (Nat.two_pow_pos bits)
    rw [Int.toNat_natCast, Nat.one_shiftLeft, zpow_natCast]
    exact_mod_cast spec
  · rename_i fine
    obtain ⟨bits, opposite⟩ := Int.eq_ofNat_of_zero_le (show 0 ≤ -cut by omega)
    obtain rfl : cut = -(bits : Int) := by omega
    have unit : (0 : ℚ) < 2 ^ (-(bits : Int)) := zpow_pos (by norm_num) _
    have exact : ((roundHalfEven (value <<< (- -(bits : Int)).toNat) 1 : Nat) : ℚ) *
        2 ^ (-(bits : Int)) = value := by
      rw [roundHalfEven_one, neg_neg, Int.toNat_natCast, Nat.shiftLeft_eq, Nat.cast_mul,
        Nat.cast_pow, Nat.cast_ofNat, zpow_neg, zpow_natCast]
      field_simp
    rw [exact, sub_self, abs_zero, mul_zero]
    exact ⟨unit.le, fun none => absurd none unit.ne⟩

theorem unit_bounds {value : Nat} (positive : value ≠ 0) :
    2 ^ 52 * 2 ^ cutExponent value 1 ≤ (value : ℚ) ∧
      (value : ℚ) < 2 ^ 53 * 2 ^ cutExponent value 1 := by
  have low : 2 ^ Nat.log2 value ≤ value := Nat.log2_self_le positive
  have high : value < 2 ^ (Nat.log2 value + 1) := Nat.lt_log2_self
  have unit : (2 ^ 52 * 2 ^ cutExponent value 1 : ℚ) = (2 ^ Nat.log2 value : Nat) := by
    rw [cutExponent_one positive, zpow_sub₀ two_ne_zero, zpow_natCast, Nat.cast_pow]
    norm_num
    field_simp
  have double : (2 ^ 53 * 2 ^ cutExponent value 1 : ℚ) = (2 ^ (Nat.log2 value + 1) : Nat) := by
    rw [Nat.pow_succ, Nat.cast_mul, ← unit]
    ring
  rw [unit, double]
  exact_mod_cast And.intro low high

/-- Fifty-three bits are left of an integer, unless rounding carries into one more. -/
theorem leading_bounds {value : Nat} (positive : value ≠ 0) :
    exponentWeight ≤ leading value ∧ leading value ≤ 2 * exponentWeight := by
  have weight : exponentWeight = 2 ^ 52 := by decide
  obtain ⟨low, high⟩ := unit_bounds positive
  have near := abs_le.mp ((le_div_iff₀' two_pos).mpr (leading_spec value).1)
  have unit_pos : (0 : ℚ) < 2 ^ cutExponent value 1 := zpow_pos two_pos _
  have lower : (2 ^ 52 : ℚ) < leading value + 1 := by
    refine lt_of_mul_lt_mul_right ?_ unit_pos.le
    linarith
  have upper : (leading value : ℚ) < 2 ^ 53 + 1 := by
    refine lt_of_mul_lt_mul_right ?_ unit_pos.le
    linarith
  have lower' : 2 ^ 52 < leading value + 1 := by exact_mod_cast lower
  have upper' : leading value < 2 ^ 53 + 1 := by exact_mod_cast upper
  rw [weight]
  omega

theorem leading_nearest_multiple (value : Nat) (multiple : Int) :
    |(leading value * 2 ^ cutExponent value 1 : ℚ) - value| ≤
        |(multiple * 2 ^ cutExponent value 1 : ℚ) - value| ∧
      (multiple ≠ leading value →
        |(leading value * 2 ^ cutExponent value 1 : ℚ) - value| =
            |(multiple * 2 ^ cutExponent value 1 : ℚ) - value| →
          leading value % 2 = 0) := by
  obtain ⟨near, even⟩ := leading_spec value
  have unit_pos : (0 : ℚ) < 2 ^ cutExponent value 1 := zpow_pos two_pos _
  generalize (2 : ℚ) ^ cutExponent value 1 = unit at *
  by_cases same : multiple = leading value
  · rw [same, Int.cast_natCast]
    exact ⟨le_refl _, fun different => absurd rfl different⟩
  · have one : (1 : ℚ) ≤ |((multiple - leading value : Int) : ℚ)| := by
      exact_mod_cast Int.one_le_abs (sub_ne_zero.mpr same)
    have apart : unit ≤ |(multiple * unit : ℚ) - leading value * unit| := by
      rw [← sub_mul, abs_mul, abs_of_pos unit_pos]
      refine le_mul_of_one_le_left unit_pos.le ?_
      exact_mod_cast one
    have triangle := abs_sub_le (multiple * unit : ℚ) value (leading value * unit)
    rw [abs_sub_comm (value : ℚ) (leading value * unit)] at triangle
    refine ⟨by linarith, fun _ equal => even ?_⟩
    linarith

/-- A double is a multiple of an integer's unit or lies below it. -/
theorem multiple_or_lt (unit : Int) (significand exponent : Int)
    (small : |significand| < 2 * exponentWeight) :
    (∃ multiple : Int, (significand * 2 ^ exponent : ℚ) = multiple * 2 ^ unit) ∨
      (significand * 2 ^ exponent : ℚ) < 2 ^ 52 * 2 ^ unit := by
  by_cases coarse : unit ≤ exponent
  · left
    obtain ⟨steps, apart⟩ := Int.le.dest coarse
    refine ⟨significand * 2 ^ steps, ?_⟩
    rw [← apart, zpow_add₀ two_ne_zero, zpow_natCast]
    push_cast
    ring
  · right
    have weight : (2 * exponentWeight : Int) = 2 ^ 53 := by decide
    have bounded : (significand : ℚ) < 2 ^ 53 := by
      have below := lt_of_le_of_lt (le_abs_self significand) small
      rw [weight] at below
      exact_mod_cast below
    calc
      (significand * 2 ^ exponent : ℚ) < 2 ^ 53 * 2 ^ exponent :=
        mul_lt_mul_of_pos_right bounded (zpow_pos two_pos _)
      _ = 2 ^ 52 * 2 ^ (exponent + 1) := by
        rw [zpow_add_one₀ two_ne_zero]
        ring
      _ ≤ 2 ^ 52 * 2 ^ unit := by
        gcongr
        · norm_num
        · omega

/-- No number of fifty-three bits is nearer to an integer than its leading ones. -/
theorem leading_nearest {value : Nat} (positive : value ≠ 0) (significand exponent : Int)
    (small : |significand| < 2 * exponentWeight) :
    |(leading value * 2 ^ cutExponent value 1 : ℚ) - value| ≤
        |(significand * 2 ^ exponent : ℚ) - value| ∧
      ((significand * 2 ^ exponent : ℚ) ≠ leading value * 2 ^ cutExponent value 1 →
        |(leading value * 2 ^ cutExponent value 1 : ℚ) - value| =
            |(significand * 2 ^ exponent : ℚ) - value| →
          leading value % 2 = 0) := by
  rcases multiple_or_lt (cutExponent value 1) significand exponent small with
    ⟨multiple, same⟩ | below
  · obtain ⟨nearest, even⟩ := leading_nearest_multiple value multiple
    rw [same]
    refine ⟨nearest, fun different => even ?_⟩
    rintro rfl
    exact different (by rw [Int.cast_natCast])
  · -- the least number of the integer's length is a multiple and lies between
    have low := (unit_bounds positive).1
    have nearest := (leading_nearest_multiple value (2 ^ 52)).1
    rw [Int.cast_pow, Int.cast_ofNat, abs_sub_comm _ (value : ℚ),
      abs_sub_comm (2 ^ 52 * 2 ^ cutExponent value 1) (value : ℚ),
      abs_of_nonneg (sub_nonneg.mpr low)] at nearest
    have farther : |(leading value * 2 ^ cutExponent value 1 : ℚ) - value| <
        |(significand * 2 ^ exponent : ℚ) - value| := by
      rw [abs_sub_comm, abs_sub_comm (significand * 2 ^ exponent : ℚ),
        abs_of_pos (sub_pos.mpr (below.trans_le low))]
      linarith
    exact ⟨farther.le, fun _ equal => absurd equal farther.ne⟩

end Cut

section Assembly

variable {number : Double} {negative : Bool} {rounded : Nat} {exponent : Int}

theorem parts_of_assemble (made : number = ofParts negative (assemble rounded exponent))
    (low : exponentWeight ≤ rounded) (high : rounded ≤ 2 * exponentWeight)
    (above : -1074 ≤ exponent) (below : exponent ≤ 11) :
    number.significand = rounded ∧ number.exponent = exponent ∨
      rounded = 2 * exponentWeight ∧ number.significand = exponentWeight ∧
        number.exponent = exponent + 1 := by
  have small := assemble_lt_infiniteMagnitude (show rounded ≤ 4 * exponentWeight by omega) below
  have room : infiniteMagnitude < signWeight := by decide
  have weight_pos : 0 < exponentWeight := by decide
  obtain ⟨steps, place⟩ := Int.eq_ofNat_of_zero_le (show 0 ≤ exponent + 1074 by omega)
  have assembled : assemble rounded exponent = steps * exponentWeight + rounded := by
    rw [assemble, if_neg (Nat.not_lt.mpr low), place, Int.toNat_natCast]
  have magnitude : number.magnitude = steps * exponentWeight + rounded := by
    rw [made, magnitude_ofParts, Nat.mod_eq_of_lt (small.trans room), assembled]
  have normal : ¬steps * exponentWeight + rounded < exponentWeight := by omega
  rw [significand, Double.exponent, magnitude, if_neg normal, if_neg normal]
  rcases Nat.lt_or_eq_of_le high with shorter | rfl
  · left
    have whole : steps * exponentWeight + rounded =
        (rounded - exponentWeight) + exponentWeight * (steps + 1) := by
      rw [Nat.mul_add, Nat.mul_comm]
      omega
    rw [whole, Nat.add_mul_mod_self_left, Nat.add_mul_div_left _ _ weight_pos,
      Nat.mod_eq_of_lt (by omega), Nat.div_eq_of_lt (by omega)]
    omega
  · right
    have whole : steps * exponentWeight + 2 * exponentWeight = exponentWeight * (steps + 2) := by
      ring
    rw [whole, Nat.mul_mod_right, Nat.mul_div_cancel_left _ weight_pos]
    omega

theorem value_of_assemble (made : number = ofParts negative (assemble rounded exponent))
    (low : exponentWeight ≤ rounded) (high : rounded ≤ 2 * exponentWeight)
    (above : -1074 ≤ exponent) (below : exponent ≤ 11) :
    number.value = signOf negative * (rounded * 2 ^ exponent) ∧
      number.significand % 2 = rounded % 2 := by
  have sign : number.negative = negative := by rw [made, negative_ofParts]
  have scaled : (number.significand * 2 ^ number.exponent : ℚ) = rounded * 2 ^ exponent ∧
      number.significand % 2 = rounded % 2 := by
    rcases parts_of_assemble made low high above below with
      ⟨significand, exponent⟩ | ⟨carried, significand, exponent⟩
    · rw [significand, exponent]
      exact ⟨rfl, rfl⟩
    · rw [carried, significand, exponent, zpow_add_one₀ two_ne_zero]
      refine ⟨?_, by decide⟩
      push_cast
      ring
  refine ⟨?_, scaled.2⟩
  rw [Double.value, sign, mul_assoc, scaled.1]

end Assembly

section Integers

theorem nearest_one {value : Nat} (negative : Bool) (positive : value ≠ 0)
    (fits : value < 1 <<< 64) :
    nearest negative value 1 =
      ofParts negative (assemble (leading value) (cutExponent value 1)) := by
  have length : Nat.log2 value < 64 := (Nat.log2_lt positive).mpr fits
  have cut := cutExponent_one positive
  have bounds := leading_bounds positive
  have small := assemble_lt_infiniteMagnitude
    (show leading value ≤ 4 * exponentWeight by omega) (show cutExponent value 1 ≤ 11 by omega)
  rw [nearest, if_neg positive]
  exact congrArg (ofParts negative) (Nat.min_eq_left small.le)

variable {exact : Int}

theorem parts_ofInt (nonzero : exact ≠ 0) (fits : exact.natAbs < 1 <<< 64) :
    (ofInt exact).negative = decide (exact < 0) ∧
      (ofInt exact).value =
        signOf (exact < 0) * (leading exact.natAbs * 2 ^ cutExponent exact.natAbs 1) ∧
      (ofInt exact).significand % 2 = leading exact.natAbs % 2 := by
  have positive : exact.natAbs ≠ 0 := Int.natAbs_ne_zero.mpr nonzero
  have length : Nat.log2 exact.natAbs < 64 := (Nat.log2_lt positive).mpr fits
  have cut := cutExponent_one positive
  have made : ofInt exact = _ := nearest_one (exact < 0) positive fits
  obtain ⟨low, high⟩ := leading_bounds positive
  refine ⟨?_, value_of_assemble made low high (by omega) (by omega)⟩
  rw [made, negative_ofParts]

theorem isNearest_zero : (ofInt 0).IsNearest 0 := by
  have none : (ofInt 0).value = 0 := by decide +kernel
  refine ⟨by decide +kernel, by decide +kernel, ?_, ?_⟩
  · intro other _
    rw [none, Int.cast_zero, sub_self, abs_zero]
    exact abs_nonneg _
  · intro other _ different equal
    rw [none, Int.cast_zero, sub_self, abs_zero, sub_zero] at equal
    rw [none] at different
    exact absurd (abs_eq_zero.mp equal.symm) different

/-- An integer of sixty-four bits becomes the double nearest to it. -/
theorem isNearest_ofInt (fits : exact.natAbs < 1 <<< 64) : (ofInt exact).IsNearest exact := by
  rcases eq_or_ne exact 0 with rfl | nonzero
  · exact isNearest_zero
  obtain ⟨sign, value, even⟩ := parts_ofInt nonzero fits
  have own : |(ofInt exact).value - exact| =
      |(leading exact.natAbs * 2 ^ cutExponent exact.natAbs 1 : ℚ) - exact.natAbs| := by
    rw [value, ← signOf_mul_natAbs exact, abs_signOf_mul_sub, signOf_mul_signOf_mul]
  have others (other : Double) := leading_nearest (Int.natAbs_ne_zero.mpr nonzero)
    (signOf (exact < 0) * (signOf other.negative * other.significand)) other.exponent (by
      rw [abs_signOf_mul, abs_signOf_mul, Nat.abs_cast]
      exact_mod_cast other.significand_lt)
  have turned (other : Double) :
      (((signOf (exact < 0) * (signOf other.negative * other.significand) : Int) : ℚ) *
        2 ^ other.exponent) = signOf (exact < 0) * other.value := by
    rw [Double.value, Int.cast_mul, Int.cast_mul, Int.cast_natCast]
    ring
  refine ⟨isFinite_ofInt fits, sign, ?_, ?_⟩
  · intro other _
    have nearer := (others other).1
    rwa [turned, abs_signOf_mul_sub, signOf_mul_natAbs, ← own] at nearer
  · intro other _ different equal
    have tie := (others other).2
    rw [turned, abs_signOf_mul_sub, signOf_mul_natAbs, ← own] at tie
    rw [even]
    refine tie (fun same => different ?_) equal
    rw [value, ← same, signOf_mul_signOf_mul]

end Integers

end Double
end Telemetry
