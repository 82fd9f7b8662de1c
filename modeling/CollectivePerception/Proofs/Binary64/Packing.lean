/-
This file relates a double to the sign, the significand and the exponent that it is unpacked
into. What unpacking returns is in one form (`IsCanonical`), and packing a value of that form
loses nothing (`unpack_pack`). A value whose significand has at most 53 bits and whose
exponent lies in the range of the format is brought into that form by rounding without a
change of its size (`round_eq`).
-/

import CollectivePerception.Binary64
import Mathlib

namespace CollectivePerception.Binary64

open Float.Model
open Float.Model.UnpackedFloat (Sign packComponents)

/-! ### The form of an unpacked value -/

/-- A finite value has a significand of 53 bits, or of fewer if its exponent is the least. -/
def IsCanonical : UnpackedFloat → Prop
  | .finite _ significand exponent _ =>
    significand < 2 ^ 53 ∧ -1074 ≤ exponent ∧ exponent ≤ 971 ∧
      (2 ^ 52 ≤ significand ∨ exponent = -1074)
  | _ => True

theorem toNat_implicit_append (mantissa : BitVec 52) :
    (1#1 ++ mantissa).toNat = 2 ^ 52 + mantissa.toNat := by
  rw [BitVec.toNat_append, ← Nat.shiftLeft_add_eq_or_of_lt mantissa.isLt]
  rfl

/-- Unpacking returns values of this form only. -/
theorem isCanonical_unpack (x : Float.Model) : IsCanonical x.unpack := by
  unfold Float.Model.unpack
  fun_cases UnpackedFloat.unpack with
  | case1 => trivial
  | case2 => trivial
  | case3 => trivial
  | case4 mantissa exponentBits exponent _ _ _ least _ =>
    have small := mantissa.isLt
    have lowest : exponent + 1 = -1074 := by
      show (exponentBits.toNat : Int) - (1023 + 52) + 1 = -1074
      rw [least]
      rfl
    rw [IsCanonical, lowest]
    dsimp only at small
    exact ⟨by omega, by decide, by decide, .inr rfl⟩
  | case5 mantissa exponentBits exponent _ _ below above =>
    have small := mantissa.isLt
    have bounded := exponentBits.isLt
    have notLeast : exponentBits.toNat ≠ 0 := fun same => above (BitVec.eq_of_toNat_eq same)
    have notGreatest : exponentBits.toNat ≠ 2047 := fun same => below (BitVec.eq_of_toNat_eq same)
    have shifted : exponent = (exponentBits.toNat : Int) - (1023 + 52) := rfl
    rw [IsCanonical, toNat_implicit_append]
    dsimp only at small bounded
    exact ⟨by omega, by omega, by omega, .inl (Nat.le_add_right _ _)⟩

/-! ### Unpacking what was packed -/

theorem unpack_packComponents_normal (sign : Sign) {significand : Nat} {exponent : Nat}
    (full : 2 ^ 52 ≤ significand) (small : significand < 2 ^ 53)
    (above : exponent ≠ 0) (below : exponent < 2047) (positive : 0 < significand) :
    UnpackedFloat.unpack .binary64 (packComponents .binary64 sign (BitVec.ofNat 11 exponent)
      (BitVec.ofNat 52 significand)) = .finite sign significand (exponent - 1075) positive := by
  have exponentValue : (BitVec.ofNat 11 exponent).toNat = exponent := by
    rw [BitVec.toNat_ofNat, Nat.mod_eq_of_lt (by omega)]
  have notGreatest : BitVec.ofNat 11 exponent ≠ -1#11 := by
    intro same
    rw [same] at exponentValue
    exact absurd exponentValue (by simp; omega)
  have notLeast : BitVec.ofNat 11 exponent ≠ 0#11 := by
    intro same
    rw [same] at exponentValue
    exact above exponentValue.symm
  have mantissaValue : (1#1 ++ BitVec.ofNat 52 significand).toNat = significand := by
    rw [toNat_implicit_append, BitVec.toNat_ofNat]
    omega
  unfold UnpackedFloat.unpack
  simp only [UnpackedFloat.unpackExponent_packComponents,
    UnpackedFloat.unpackMantissa_packComponents, UnpackedFloat.unpackSign_packComponents,
    UnpackedFloat.Sign.ofBitVec_toBitVec, if_neg notGreatest, if_neg notLeast, exponentValue,
    mantissaValue]
  rfl

theorem unpack_packComponents_subnormal (sign : Sign) {significand : Nat}
    (small : significand < 2 ^ 52) (positive : 0 < significand) :
    UnpackedFloat.unpack .binary64 (packComponents .binary64 sign 0#11
      (BitVec.ofNat 52 significand)) = .finite sign significand (-1074) positive := by
  have mantissaValue : (BitVec.ofNat 52 significand).toNat = significand := by
    rw [BitVec.toNat_ofNat, Nat.mod_eq_of_lt small]
  have nonzero : BitVec.ofNat 52 significand ≠ 0#52 := by
    intro same
    rw [same] at mantissaValue
    exact Nat.ne_of_lt positive mantissaValue
  have notGreatest : 0#11 ≠ -1#11 := by decide
  unfold UnpackedFloat.unpack
  simp only [UnpackedFloat.unpackExponent_packComponents,
    UnpackedFloat.unpackMantissa_packComponents, UnpackedFloat.unpackSign_packComponents,
    UnpackedFloat.Sign.ofBitVec_toBitVec, if_neg notGreatest, if_pos, dif_neg nonzero,
    mantissaValue]
  rfl

theorem unpack_packedInfinity (sign : Sign) :
    UnpackedFloat.unpack .binary64 (UnpackedFloat.packedInfinity .binary64 sign) =
      .infinity sign := by
  simp [UnpackedFloat.unpack, UnpackedFloat.packedInfinity]

/-- Packing loses nothing of a value in canonical form. -/
theorem unpack_pack {value : UnpackedFloat} (canonical : IsCanonical value) :
    (Float.Model.pack value).unpack = value := by
  show UnpackedFloat.unpack .binary64 (UnpackedFloat.pack .binary64 value) = value
  cases value with
  | notANumber => exact UnpackedFloat.unpack_packedNaN
  | zero sign => exact UnpackedFloat.unpack_packedZero
  | infinity sign => exact unpack_packedInfinity sign
  | finite sign significand exponent positive =>
    obtain ⟨small, above, below, full⟩ := canonical
    have notZero := Nat.ne_of_gt positive
    obtain ⟨biased, shifted⟩ : ∃ biased : Nat, exponent = biased - 1075 :=
      ⟨(exponent + 1075).toNat, by omega⟩
    have sum : (exponent + (1023 : Nat) + (52 : Nat)).toNat = biased := by omega
    unfold UnpackedFloat.pack
    show UnpackedFloat.unpack .binary64
      (if 2048 ≤ (exponent + (1023 : Nat) + (52 : Nat)).toNat + 1 then
        UnpackedFloat.packedInfinity .binary64 sign
      else if significand.log2 + 1 = 53 then
        packComponents .binary64 sign
          (BitVec.ofNat 11 (exponent + (1023 : Nat) + (52 : Nat)).toNat)
          (BitVec.ofNat 52 significand)
      else
        packComponents .binary64 sign 0#11 (BitVec.ofNat 52 significand)) = _
    rw [sum, if_neg (by omega)]
    by_cases normal : 2 ^ 52 ≤ significand
    · have bits : significand.log2 = 52 := (Nat.log2_eq_iff notZero).mpr ⟨normal, small⟩
      rw [if_pos (by rw [bits]), shifted]
      exact unpack_packComponents_normal sign normal small (by omega) (by omega) positive
    · have bits : significand.log2 < 52 := (Nat.log2_lt notZero).mpr (by omega)
      rw [if_neg (by omega), full.resolve_left normal]
      exact unpack_packComponents_subnormal sign (by omega) positive

/-! ### Rounding what needs no rounding -/

theorem targetExponent_eq (significand : Nat) (exponent : Int) :
    Format.binary64.targetExponent (totalExponent significand exponent) =
      max (significand.log2 + exponent - 52) (-1074) := by
  show max ((significand.log2 : Int) + 1 + exponent - 53) (-1074) = _
  omega

theorem shiftToTargetExponent_eq {significand : Nat} {exponent : Int}
    (small : significand.log2 ≤ 52) (above : -1074 ≤ exponent) :
    UnpackedFloat.shiftToTargetExponent .binary64 significand exponent .exact =
      (⟨significand, false, false⟩, exponent) := by
  have unshifted : (Format.binary64.targetExponent (totalExponent significand exponent) -
      exponent).toNat = 0 := by
    rw [targetExponent_eq]
    omega
  rw [UnpackedFloat.shiftToTargetExponent, UnpackedFloat.shiftToExponent, unshifted]
  exact congrArg (Prod.mk _) (Int.add_zero exponent)

theorem roundWithAccuracy_eq {significand : Nat} {exponent : Int} (sign : Sign)
    (small : significand.log2 ≤ 52) (above : -1074 ≤ exponent) :
    UnpackedFloat.roundWithAccuracy .binary64 sign significand exponent .exact =
      if zero : significand = 0 then .zero sign
      else .finite sign significand exponent (Nat.pos_of_ne_zero zero) := by
  have rounded : (UnpackedFloat.ExtendedMantissa.mk significand false false).roundedMantissa =
      significand := rfl
  unfold UnpackedFloat.roundWithAccuracy
  simp only [shiftToTargetExponent_eq small above, rounded]

theorem round_zero {exponent : Int} (sign : Sign) (above : -1074 ≤ exponent) :
    UnpackedFloat.round .binary64 sign 0 exponent = .zero sign := by
  unfold UnpackedFloat.round UnpackedFloat.decreaseExponent
  simp only [Nat.zero_shiftLeft, targetExponent_eq, Nat.log2_zero]
  exact roundWithAccuracy_eq sign (by decide) (by omega)

/-- Rounding a value of at most 53 bits only shifts its significand to the left. -/
theorem round_eq {significand : Nat} {exponent : Int} (sign : Sign)
    (positive : 0 < significand) (small : significand < 2 ^ 53) (above : -1074 ≤ exponent)
    (below : exponent ≤ 971) :
    ∃ (shift : Nat) (shifted : 0 < significand * 2 ^ shift),
      UnpackedFloat.round .binary64 sign significand exponent =
          .finite sign (significand * 2 ^ shift) (exponent - shift) shifted ∧
        IsCanonical (.finite sign (significand * 2 ^ shift) (exponent - shift) shifted) := by
  have notZero := Nat.ne_of_gt positive
  have bits : significand.log2 < 53 := (Nat.log2_lt notZero).mpr small
  obtain ⟨shift, target⟩ : ∃ shift : Nat,
      Format.binary64.targetExponent (totalExponent significand exponent) = exponent - shift := by
    refine ⟨(exponent - max (significand.log2 + exponent - 52) (-1074)).toNat, ?_⟩
    rw [targetExponent_eq]
    omega
  have shifted : 0 < significand * 2 ^ shift := by positivity
  have shiftedBits : (significand * 2 ^ shift).log2 = significand.log2 + shift := by
    have power : 0 < 2 ^ shift := by positivity
    rw [Nat.log2_eq_iff (Nat.ne_of_gt shifted), Nat.add_right_comm, pow_add, pow_add]
    exact ⟨Nat.mul_le_mul_right _ (Nat.log2_self_le notZero),
      Nat.mul_lt_mul_of_pos_right Nat.lt_log2_self power⟩
  have rounded : UnpackedFloat.round .binary64 sign significand exponent =
      .finite sign (significand * 2 ^ shift) (exponent - shift) shifted := by
    have amount : (exponent - (exponent - (shift : Int))).toNat = shift := by omega
    rw [UnpackedFloat.round, target, UnpackedFloat.decreaseExponent, amount, Nat.shiftLeft_eq]
    rw [targetExponent_eq] at target
    exact (roundWithAccuracy_eq sign (by omega) (by omega)).trans (dif_neg (Nat.ne_of_gt shifted))
  refine ⟨shift, shifted, rounded, ?_⟩
  rw [targetExponent_eq] at target
  refine ⟨(Nat.log2_lt (Nat.ne_of_gt shifted)).mp (by omega), by omega, by omega, ?_⟩
  by_cases least : exponent - shift = -1074
  · exact .inr least
  · exact .inl ((Nat.le_log2 (Nat.ne_of_gt shifted)).mp (by omega))

end CollectivePerception.Binary64
