import NetLookup.Decimal.Power
import Mathlib

/-! # Powers of two as floating-point numbers

Doubling never rounds: up to 2 ^ 1023 every power of two is a floating-point number, and beyond that a power
is out of range. So how long a wait that doubles has become is known exactly, or it cannot be told at all. -/

namespace NetLookup.Decimal

open Float.Model (UnpackedFloat Format totalExponent)
open Float.Model.UnpackedFloat (ExtendedMantissa)

/-! ## Taken apart -/

/-- 2 ^ (52 + exponent), with the mantissa that a power of two has. -/
def unpackedPower (exponent : Int) : UnpackedFloat := .finite .positive (2 ^ 52) exponent (by decide)

theorem exponentBias_eq : Format.exponentBias .binary64 = 1023 := by decide

theorem mantissaBits_eq : Format.mantissaBits .binary64 = 53 := by decide

theorem minExponent_eq : Format.minExponent .binary64 = -1074 := by decide

def packedPower (field : Nat) : BitVec 64 :=
  UnpackedFloat.packComponents .binary64 .positive (BitVec.ofNat 11 field) 0#52

theorem toNat_packedPower {field : Nat} (hfinite : field < 2047) :
    (packedPower field).toNat = field * 2 ^ 52 := by
  unfold packedPower UnpackedFloat.packComponents
  rw [BitVec.toNat_append, BitVec.toNat_append]
  simp [UnpackedFloat.Sign.toBitVec, Nat.shiftLeft_eq]
  omega

section Field

variable {field : Nat} (hpos : 0 < field) (hfinite : field < 2047)

include hpos hfinite

theorem unpack_packedPower :
    UnpackedFloat.unpack .binary64 (packedPower field) = unpackedPower (field - 1075) := by
  -- Neither the exponent of infinity nor that of the numbers nearest to zero.
  have hones : BitVec.ofNat 11 field ≠ -1#11 := by
    intro h
    have := congrArg BitVec.toNat h
    simp at this
    omega
  have hzeros : BitVec.ofNat 11 field ≠ 0#11 := by
    intro h
    have := congrArg BitVec.toNat h
    simp at this
    omega
  unfold UnpackedFloat.unpack unpackedPower packedPower
  simp only [UnpackedFloat.unpackSign_packComponents, UnpackedFloat.unpackExponent_packComponents,
    UnpackedFloat.unpackMantissa_packComponents, if_neg hones, if_neg hzeros]
  congr 1
  rw [exponentBias_eq, BitVec.toNat_ofNat]
  omega

theorem pack_unpackedPower :
    UnpackedFloat.pack .binary64 (unpackedPower (field - 1075)) = packedPower field := by
  have hlog : (2 ^ 52 : Nat).log2 = 52 := by decide +kernel
  have hbiased : ((field : Int) - 1075 + (Format.exponentBias .binary64 : Nat) + (52 : Nat)).toNat
      = field := by
    rw [exponentBias_eq]
    omega
  unfold UnpackedFloat.pack unpackedPower
  simp only [hlog, hbiased]
  rw [if_neg (by simp; omega), if_pos mantissaBits_eq.symm]
  rfl

theorem unpack_pack_power :
    UnpackedFloat.unpack .binary64 (UnpackedFloat.pack .binary64 (unpackedPower (field - 1075)))
      = unpackedPower (field - 1075) := by
  rw [pack_unpackedPower hpos hfinite, unpack_packedPower hpos hfinite]

theorem unpack_ofBits :
    (Float.ofBits (UInt64.ofNat (field * 2 ^ 52))).toModel.unpack = unpackedPower (field - 1075) := by
  have hbits : (UInt64.ofNat (field * 2 ^ 52)).toBitVec = packedPower field := by
    apply BitVec.eq_of_toNat_eq
    rw [UInt64.toNat_toBitVec, UInt64.toNat_ofNat', toNat_packedPower hfinite]
    exact Nat.mod_eq_of_lt (by omega)
  show UnpackedFloat.unpack .binary64
    (UnpackedFloat.pack .binary64 (UnpackedFloat.unpack .binary64 (UInt64.ofNat (field * 2 ^ 52)).toBitVec)) = _
  rw [hbits, unpack_packedPower hpos hfinite, unpack_pack_power hpos hfinite]

end Field

/-! ## Multiplied and compared -/

theorem unpack_one : (1.0 : Float).toModel.unpack = unpackedPower (-52) := by
  have hbits : (1.0 : Float) = Float.ofBits 0x3FF0000000000000 := by decide +kernel
  rw [hbits]
  rfl

/-- The product has twice the digits, all of them zeros that are shifted out. -/
theorem mul_power {exponent : Int} (h : -1074 ≤ exponent) :
    UnpackedFloat.mul .binary64 (unpackedPower (-52)) (unpackedPower exponent) = unpackedPower exponent := by
  have hlogs : (2 ^ 52 * 2 ^ 52 : Nat).log2 = 104 ∧ (2 ^ 52 : Nat).log2 = 52 := by decide +kernel
  have hshifted : ExtendedMantissa.ofMantissaAndAccuracy (2 ^ 52 * 2 ^ 52) .exact >>> 52
      = ⟨2 ^ 52, false, false⟩ := by rfl
  have hproduct : UnpackedFloat.shiftToTargetExponent .binary64 (2 ^ 52 * 2 ^ 52) (-52 + exponent) .exact
      = (⟨2 ^ 52, false, false⟩, exponent) := by
    have hamount : (max ((104 : Nat) + 1 + (-52 + exponent) - (53 : Nat) : Int) (-1074)
        - (-52 + exponent)).toNat = 52 := by omega
    unfold UnpackedFloat.shiftToTargetExponent UnpackedFloat.shiftToExponent Format.targetExponent
      totalExponent
    simp only [hlogs.1, minExponent_eq, mantissaBits_eq, hamount, hshifted]
    exact congrArg _ (by omega)
  have hrounded : UnpackedFloat.shiftToTargetExponent .binary64 (2 ^ 52) exponent .exact
      = (⟨2 ^ 52, false, false⟩, exponent) := by
    have hamount : (max ((52 : Nat) + 1 + exponent - (53 : Nat) : Int) (-1074) - exponent).toNat = 0 := by
      omega
    unfold UnpackedFloat.shiftToTargetExponent UnpackedFloat.shiftToExponent Format.targetExponent
      totalExponent
    simp only [hlogs.2, minExponent_eq, mantissaBits_eq, hamount]
    exact congrArg (Prod.mk _) (by omega)
  show UnpackedFloat.roundWithAccuracy .binary64 .positive (2 ^ 52 * 2 ^ 52) (-52 + exponent) .exact = _
  unfold UnpackedFloat.roundWithAccuracy
  rw [hproduct]
  show (match UnpackedFloat.shiftToTargetExponent .binary64 (2 ^ 52) exponent .exact with
    | (m, e) => if h : m.mantissa = 0 then UnpackedFloat.zero .positive
        else .finite .positive m.mantissa e (Nat.pos_of_ne_zero h)) = _
  rw [hrounded]
  rfl

/-! ## Powers -/

def twoPower (n : Nat) : Float := .ofBits (.ofNat ((n + 1023) * 2 ^ 52))

theorem thirty_lt_twoPower {n : Nat} (hlow : 5 ≤ n) (hfinite : n < 1024) :
    (30.0 : Float) < 1.0 * twoPower n := by
  have hthirty : (30.0 : Float).toModel.unpack = .finite .positive (15 * 2 ^ 49) (-48) (by decide) := by
    have hbits : (30.0 : Float) = Float.ofBits 0x403E000000000000 := by decide +kernel
    rw [hbits]
    rfl
  have hproduct : ((1.0 : Float) * twoPower n).toModel.unpack = unpackedPower ((n + 1023 : Nat) - 1075) := by
    show UnpackedFloat.unpack .binary64 (UnpackedFloat.pack .binary64
      (UnpackedFloat.mul .binary64 (1.0 : Float).toModel.unpack (twoPower n).toModel.unpack)) = _
    rw [unpack_one, twoPower, unpack_ofBits (by omega) (by omega), mul_power (by omega),
      unpack_pack_power (by omega) (by omega)]
  have hexponents : compare (-48 : Int) ((n + 1023 : Nat) - 1075) = .lt := by
    rw [Int.compare_eq_lt]
    omega
  show decide ((30.0 : Float).toModel < ((1.0 : Float) * twoPower n).toModel) = true
  rw [decide_eq_true_iff]
  show UnpackedFloat.lt (30.0 : Float).toModel.unpack ((1.0 : Float) * twoPower n).toModel.unpack = true
  rw [hthirty, hproduct]
  -- Both are positive, so the exponents decide.
  show (some ((compare (-48 : Int) ((n + 1023 : Nat) - 1075)).then _) == some Ordering.lt) = true
  rw [hexponents]
  rfl

theorem exactFloat?_power {n : Nat} (h : n < 1024) : exactFloat? false 1 n = some (twoPower n) := by
  have hlength : bitLength 1 = 1 := by decide
  have hfield : ((1 : Nat) + (n : Int) - 53 - leastExponent + 1).toNat = n + 1023 := by
    unfold leastExponent
    omega
  unfold exactFloat?
  rw [hlength, if_neg (by decide), if_neg (by unfold leastExponent; omega),
    if_neg (by unfold leastExponent; omega), hfield]
  show some (Float.ofBits (UInt64.ofNat
    (0 + (n + 1023) * powerOf2 52 + (1 * powerOf2 52 - powerOf2 52)))) = _
  rw [Nat.one_mul, Nat.sub_self, Nat.zero_add, Nat.add_zero]
  rfl

theorem powerOfTwo_eq (n : Nat) :
    powerOfTwo n = if n < 1024 then .ok (twoPower n) else .error (.fault .overflow) := by
  unfold powerOfTwo
  by_cases hrange : n < 1024
  · rw [if_neg (by omega), if_pos hrange, exactFloat?_power hrange]
    rfl
  · rw [if_pos (by omega), if_neg hrange]

theorem power_two (n : Nat) :
    power 2.0 n = if n < 1024 then .ok (twoPower n) else .error (.fault .overflow) := by
  have htwo : Binary.ofFloat 2.0 = .finite false (2 ^ 52) (-51) := by decide +kernel
  have hodd : oddPart 53 (2 ^ 52) (-51) = (1, 1) := by decide
  have hone : (1.0 : Float) = twoPower 0 := by decide +kernel
  have hbeyond : 1024 ≤ beyondFloats := by decide +kernel
  have hpositive : powerOfPositive 2.0 (2 ^ 52) (-51) n = powerOfTwo n := by
    unfold powerOfPositive
    rw [hodd]
    simp only [if_true, Int.one_mul]
  by_cases hzero : n = 0
  · subst hzero
    exact congrArg Except.ok hone
  unfold power
  rw [if_neg (by omega)]
  by_cases hfar : beyondFloats ≤ (n : Int).natAbs
  · rw [if_pos hfar, if_neg (by omega)]
  · rw [if_neg hfar, htwo]
    show (powerOfPositive 2.0 (2 ^ 52) (-51) n).map _ = _
    rw [hpositive, powerOfTwo_eq]
    by_cases hrange : n < 1024
    · rw [if_pos hrange]
      rfl
    · rw [if_neg hrange]
      rfl

end NetLookup.Decimal
