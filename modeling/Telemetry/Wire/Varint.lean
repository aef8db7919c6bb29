import Telemetry.Text.Octets
import Telemetry.Wire.Fault

/-!
# Varints

A number is written seven bits to a byte, lowest first, with the high bit set on every byte but the
last.  Sixty-four bits need at most ten bytes, and the tenth has room for one bit only.
-/

namespace Telemetry
namespace Wire

/-- The largest number of bytes in a varint. -/
def varintBytes : Nat := 10

/-- Write a number in at most the given number of bytes. -/
def writeGroups : Nat → Nat → Bytes
  | 0, _ => []
  | room + 1, value =>
      if value < 128 then
        [UInt8.ofNat value]
      else
        UInt8.ofNat (value % 128 + 128) :: writeGroups room (value / 128)

/-- Write a number below `2 ^ 64`. -/
def writeVarint (value : Nat) : Bytes :=
  writeGroups varintBytes value

/-- Read a number that takes at most the given number of bytes. -/
def readGroups : Nat → Bytes → Except Fault (Nat × Bytes)
  | 0, _ => .error (.of .badVarint)
  | _ + 1, [] => .error (.of .badVarint)
  | room + 1, byte :: rest =>
      if byte.toNat < 128 then
        if room = 0 ∧ 1 < byte.toNat then .error (.of .badVarint) else .ok (byte.toNat, rest)
      else do
        let (value, rest) ← readGroups room rest
        .ok (byte.toNat - 128 + 128 * value, rest)

/-- Read a number below `2 ^ 64`; longer spellings than needed are accepted. -/
def readVarint (input : Bytes) : Except Fault (Nat × Bytes) :=
  readGroups varintBytes input

theorem toNat_ofNat_byte {value : Nat} (small : value < 256) :
    (UInt8.ofNat value).toNat = value := by
  rw [UInt8.toNat_ofNat']
  exact Nat.mod_eq_of_lt small

theorem readGroups_writeGroups (room value : Nat) (rest : Bytes)
    (fits : value < 1 <<< (7 * room + 1)) :
    readGroups (room + 1) (writeGroups (room + 1) value ++ rest) = .ok (value, rest) := by
  induction room generalizing value with
  | zero =>
      have small : value < 128 := Nat.lt_trans fits (by decide)
      simp only [writeGroups, small, ↓reduceIte, List.cons_append, List.nil_append, readGroups,
        toNat_ofNat_byte (show value < 256 by omega)]
      simp only [true_and]
      split
      · omega
      · rfl
  | succ room ih =>
      rw [writeGroups]
      split
      · rename_i small
        simp [readGroups, toNat_ofNat_byte (show value < 256 by omega), small]
      · rename_i large
        have smaller : value / 128 < 1 <<< (7 * room + 1) := by
          rw [Nat.div_lt_iff_lt_mul (by omega)]
          calc
            value < 1 <<< (7 * (room + 1) + 1) := fits
            _ = 1 <<< (7 * room + 1) * 128 := by
              rw [show 7 * (room + 1) + 1 = 7 * room + 1 + 7 by omega, Nat.shiftLeft_add]
              exact Nat.shiftLeft_eq _ 7
        have continues : ¬ value % 128 + 128 < 128 := by omega
        simp only [List.cons_append, readGroups,
          toNat_ofNat_byte (show value % 128 + 128 < 256 by omega), continues, ↓reduceIte]
        rw [ih (value / 128) smaller]
        simp only [bind, Except.bind]
        congr 2
        omega

theorem readVarint_writeVarint {value : Nat} (fits : value < 0x10000000000000000)
    (rest : Bytes) :
    readVarint (writeVarint value ++ rest) = .ok (value, rest) :=
  readGroups_writeGroups 9 value rest fits

end Wire
end Telemetry
