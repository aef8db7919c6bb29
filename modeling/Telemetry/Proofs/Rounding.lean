import Telemetry.Document

/-!
# Integers of sixty-four bits have finite doubles

Rounding keeps at most fifty-four bits and cuts an integer of sixty-four bits at an exponent of at
most eleven, so the exponent bits stay far below those of an infinity.
-/

namespace Telemetry

theorem roundHalfEven_le (numerator denominator : Nat) :
    roundHalfEven numerator denominator ≤ numerator / denominator + 1 := by
  simp only [roundHalfEven]
  split <;> omega

namespace Double

@[simp]
theorem magnitude_ofParts (negative : Bool) (magnitude : Nat) :
    (ofParts negative magnitude).magnitude = magnitude % signWeight := by
  simp only [Double.magnitude, ofParts, UInt64.toNat_ofNat', signWeight]
  cases negative <;> simp

theorem isFinite_ofParts (negative : Bool) {magnitude : Nat}
    (small : magnitude < infiniteMagnitude) : (ofParts negative magnitude).isFinite = true := by
  have within : magnitude % signWeight = magnitude :=
    Nat.mod_eq_of_lt (Nat.lt_trans small (by decide))
  simpa [isFinite, within] using small

theorem assemble_lt_infiniteMagnitude {rounded : Nat} {exponent : Int}
    (fewBits : rounded ≤ 4 * exponentWeight) (low : exponent ≤ 11) :
    assemble rounded exponent < infiniteMagnitude := by
  have exponentBits : (exponent + 1074).toNat ≤ 1085 := by omega
  simp only [assemble]
  split
  · rename_i subnormal
    exact Nat.lt_trans subnormal (by decide)
  · calc
      (exponent + 1074).toNat * exponentWeight + rounded
          ≤ 1085 * exponentWeight + 4 * exponentWeight :=
        Nat.add_le_add (Nat.mul_le_mul_right _ exponentBits) fewBits
      _ < infiniteMagnitude := by decide

theorem cutExponent_one_bounds (value : Nat) :
    (Nat.log2 value : Int) - 53 ≤ cutExponent value 1 ∧
      cutExponent value 1 ≤ max ((Nat.log2 value : Int) - 52) (-1074) := by
  have unit : Nat.log2 1 = 0 := by decide
  simp only [cutExponent, unit]
  split <;> omega

theorem shiftLeft_lt {value bits shift : Nat} (room : Nat.log2 value + 1 + shift ≤ bits) :
    value <<< shift < 1 <<< bits := by
  have below : value < Nat.pow 2 (Nat.log2 value + 1) := Nat.lt_log2_self
  rw [Nat.shiftLeft_eq, Nat.shiftLeft_eq, Nat.one_mul]
  calc
    value * 2 ^ shift < 2 ^ (Nat.log2 value + 1) * 2 ^ shift :=
      Nat.mul_lt_mul_of_pos_right below (Nat.two_pow_pos shift)
    _ = 2 ^ (Nat.log2 value + 1 + shift) := (Nat.pow_add 2 _ _).symm
    _ ≤ 2 ^ bits := Nat.pow_le_pow_right (by decide) room

theorem rounded_le {value : Nat} {cut : Int} (near : (Nat.log2 value : Int) - 53 ≤ cut) :
    (if 0 ≤ cut then
        roundHalfEven value (1 <<< cut.toNat)
      else
        roundHalfEven (value <<< (-cut).toNat) 1) ≤ 4 * exponentWeight := by
  have weight : 4 * exponentWeight = 1 <<< 54 := by decide
  split
  · have quotient : value / (1 <<< cut.toNat) < 1 <<< 54 := by
      have positive : 0 < 1 <<< cut.toNat := by
        rw [Nat.one_shiftLeft]
        exact Nat.two_pow_pos _
      rw [Nat.div_lt_iff_lt_mul positive, Nat.shiftLeft_eq, Nat.shiftLeft_eq, Nat.one_mul,
        Nat.one_mul, ← Nat.pow_add]
      exact Nat.lt_of_lt_of_le Nat.lt_log2_self (Nat.pow_le_pow_right (by decide) (by omega))
    have rounding := roundHalfEven_le value (1 <<< cut.toNat)
    omega
  · have shifted : value <<< (-cut).toNat < 1 <<< 54 := shiftLeft_lt (by omega)
    have rounding := roundHalfEven_le (value <<< (-cut).toNat) 1
    rw [Nat.div_one] at rounding
    omega

theorem isFinite_nearest_one (negative : Bool) {value : Nat} (fits : value < 1 <<< 64) :
    (nearest negative value 1).isFinite = true := by
  simp only [nearest]
  split
  · exact isFinite_ofParts negative (by decide)
  · rename_i positive
    have length : Nat.log2 value < 64 := (Nat.log2_lt positive).mpr fits
    obtain ⟨near, low⟩ := cutExponent_one_bounds value
    apply isFinite_ofParts
    apply Nat.lt_of_le_of_lt (Nat.min_le_left _ _)
    exact assemble_lt_infiniteMagnitude (rounded_le near) (by omega)

/-- Every integer of sixty-four bits is near a finite double. -/
theorem isFinite_ofInt {value : Int} (fits : value.natAbs < 1 <<< 64) :
    (ofInt value).isFinite = true :=
  isFinite_nearest_one _ fits

end Double

theorem Number.isFinite_toDouble (number : Number) : number.toDouble.isFinite = true := by
  cases number with
  | integer value fits =>
      apply Double.isFinite_ofInt
      have bound : (1 <<< 64 : Nat) = 0x10000000000000000 := by decide
      omega
  | double value finite => exact finite

end Telemetry
