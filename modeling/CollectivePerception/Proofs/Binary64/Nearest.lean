/-
This file says which quotients are rounded to a given double. The double with significand `s` and
exponent `e` is the result for every quotient that lies, counted in units of `2 ^ e`, at most half
a unit from `s`; an exact half needs an even `s`. Below the least significand of 53 bits the next
double is nearer, so that only a quarter of a unit counts there (`RoundsTo`,
`nearestQuotient_eq`).

A quotient is cut to as many bits as a significand has, and two more bits say how what was cut off
compares with one half (`Represents`). Cutting off further bits keeps that meaning.
-/

import CollectivePerception.Proofs.Binary64.Packing

namespace CollectivePerception.Binary64

open Float.Model
open Float.Model.UnpackedFloat (Sign Accuracy ExtendedMantissa packComponents)

/-! ### Packing what was unpacked -/

section

variable {bits : BitVec 64} {exponent : BitVec 11} {mantissa : BitVec 52}

/-- A word consists of a sign, an exponent and a mantissa. -/
theorem packComponents_eq
    (sameExponent : @UnpackedFloat.unpackExponent .binary64 bits = exponent)
    (sameMantissa : @UnpackedFloat.unpackMantissa .binary64 bits = mantissa) :
    packComponents .binary64 (.ofBitVec (@UnpackedFloat.unpackSign .binary64 bits))
      exponent mantissa = bits := by
  subst sameExponent sameMantissa
  have sign : (Sign.ofBitVec (@UnpackedFloat.unpackSign .binary64 bits)).toBitVec =
      @UnpackedFloat.unpackSign .binary64 bits := by
    generalize @UnpackedFloat.unpackSign .binary64 bits = bit
    revert bit
    decide
  rw [packComponents, sign]
  simp only [UnpackedFloat.unpackSign, UnpackedFloat.unpackExponent, UnpackedFloat.unpackMantissa,
    BitVec.extractLsb]
  ext place inside
  grind

theorem pack_finite {sign : Sign} {significand : Nat} {exponent : Int}
    {positive : 0 < significand} {biased : Nat} (shifted : exponent = biased - 1075)
    (below : biased < 2047) :
    UnpackedFloat.pack .binary64 (.finite sign significand exponent positive) =
      packComponents .binary64 sign (if significand.log2 = 52 then BitVec.ofNat 11 biased else 0#11)
        (BitVec.ofNat 52 significand) := by
  have sum : (exponent + (1023 : Nat) + (52 : Nat)).toNat = biased := by omega
  unfold UnpackedFloat.pack
  show (if 2048 ≤ (exponent + (1023 : Nat) + (52 : Nat)).toNat + 1 then
      UnpackedFloat.packedInfinity .binary64 sign
    else if significand.log2 + 1 = 53 then
      packComponents .binary64 sign
        (BitVec.ofNat 11 (exponent + (1023 : Nat) + (52 : Nat)).toNat)
        (BitVec.ofNat 52 significand)
    else
      packComponents .binary64 sign 0#11 (BitVec.ofNat 52 significand)) = _
  rw [sum, if_neg (by omega)]
  by_cases normal : significand.log2 = 52
  · rw [if_pos (by omega), if_pos normal]
  · rw [if_neg (by omega), if_neg normal]

/-- Unpacking loses nothing of a word that stands for a double. -/
theorem pack_unpack_of_valid (valid : Format.binary64.Valid bits) :
    UnpackedFloat.pack .binary64 (UnpackedFloat.unpack .binary64 bits) = bits := by
  fun_cases UnpackedFloat.unpack with
  | case1 mantissa exponent _ _ greatest none => exact packComponents_eq greatest none
  | case2 mantissa exponent greatest some => exact (valid.eq_packedNaN greatest some).symm
  | case3 mantissa exponent _ _ _ least none => exact packComponents_eq least none
  | case4 mantissa exponent value _ _ _ least some =>
    have small := mantissa.isLt
    have positive : 0 < mantissa.toNat :=
      Nat.pos_of_ne_zero fun same => some (BitVec.eq_of_toNat_eq same)
    have shifted : value + 1 = (1 : Nat) - 1075 := by
      show (exponent.toNat : Int) - (1023 + 52) + 1 = _
      rw [least]
      rfl
    have short : mantissa.toNat.log2 ≠ 52 := Nat.ne_of_lt ((Nat.log2_lt positive.ne').mpr small)
    rw [pack_finite shifted (by decide), if_neg short, BitVec.ofNat_toNat, BitVec.setWidth_eq]
    exact packComponents_eq least rfl
  | case5 mantissa exponent value _ _ notGreatest notLeast =>
    have small := mantissa.isLt
    have bounded := exponent.isLt
    have below : exponent.toNat ≠ 2047 := fun same => notGreatest (BitVec.eq_of_toNat_eq same)
    have full : (1#1 ++ mantissa).toNat.log2 = 52 := by
      rw [toNat_implicit_append, Nat.log2_eq_iff (by omega)]
      dsimp only at small
      omega
    have shifted : value = exponent.toNat - 1075 := rfl
    rw [pack_finite shifted (by dsimp only at bounded; omega), if_pos full, BitVec.ofNat_toNat,
      BitVec.setWidth_eq]
    refine packComponents_eq rfl (BitVec.eq_of_toNat_eq ?_)
    rw [BitVec.toNat_ofNat, toNat_implicit_append]
    exact ((Nat.add_mod_left _ _).trans (Nat.mod_eq_of_lt small)).symm

/-- Unpacking loses nothing of a double. -/
theorem pack_unpack (x : Float.Model) : Float.Model.pack x.unpack = x := by
  obtain ⟨bits, valid⟩ := x
  simp only [Float.Model.pack, Float.Model.unpack, pack_unpack_of_valid valid,
    UInt64.ofBitVec_toBitVec]

end

/-! ### What the bits that were cut off say -/

/-- The numbers that a significand stands for together with what is known of the bits after it. -/
def Represents (extended : ExtendedMantissa) (value : ℚ) : Prop :=
  match extended.roundBit, extended.stickyBit with
  | false, false => value = extended.mantissa
  | false, true => extended.mantissa < value ∧ value < extended.mantissa + 1 / 2
  | true, false => value = extended.mantissa + 1 / 2
  | true, true => extended.mantissa + 1 / 2 < value ∧ value < extended.mantissa + 1

namespace Represents

variable {extended : ExtendedMantissa} {value : ℚ}

/-- The significand is the number without its fraction. -/
theorem bounds (represents : Represents extended value) :
    extended.mantissa ≤ value ∧ value < extended.mantissa + 1 := by
  obtain ⟨mantissa, _ | _, _ | _⟩ := extended <;> simp only [Represents] at represents <;>
    constructor <;> linarith

/-- A number that is at most half a unit from an integer, which is even if it is exactly half a
unit, is rounded to that integer. -/
theorem roundedMantissa_eq {integer : Nat} (represents : Represents extended value)
    (above : integer - 1 / 2 ≤ value) (below : value ≤ integer + 1 / 2)
    (even : value = integer - 1 / 2 ∨ value = integer + 1 / 2 → integer % 2 = 0) :
    extended.roundedMantissa = integer := by
  obtain ⟨mantissa, _ | _, _ | _⟩ := extended <;>
    simp only [Represents] at represents <;>
    simp only [ExtendedMantissa.roundedMantissa, ExtendedMantissa.accuracy,
      Accuracy.roundToNearestEven]
  · have lower : (2 * integer : ℚ) ≤ 2 * mantissa + 1 := by linarith
    have upper : (2 * mantissa : ℚ) ≤ 2 * integer + 1 := by linarith
    norm_cast at lower upper
    omega
  · have lower : (2 * integer : ℚ) < 2 * mantissa + 2 := by linarith
    have upper : (2 * mantissa : ℚ) < 2 * integer + 1 := by linarith
    norm_cast at lower upper
    omega
  · have lower : (2 * integer : ℚ) ≤ 2 * mantissa + 2 := by linarith
    have upper : (2 * mantissa : ℚ) ≤ 2 * integer := by linarith
    norm_cast at lower upper
    have border : integer % 2 = 0 := by
      obtain rfl | rfl : integer = mantissa ∨ integer = mantissa + 1 := by omega
      · exact even (.inr represents)
      · refine even (.inl ?_)
        push_cast
        linarith
    omega
  · have lower : (2 * integer : ℚ) < 2 * mantissa + 3 := by linarith
    have upper : (2 * mantissa : ℚ) < 2 * integer := by linarith
    norm_cast at lower upper
    omega

/-- Half the number is represented after a shift by one place. -/
theorem shiftRightOne (represents : Represents extended value) :
    Represents extended.shiftRightOne (value / 2) := by
  obtain ⟨mantissa, roundBit, stickyBit⟩ := extended
  have halves : (mantissa : ℚ) = 2 * (mantissa / 2 : Nat) + (mantissa % 2 : Nat) := by
    exact_mod_cast (Nat.div_add_mod mantissa 2).symm
  obtain last | last := Nat.mod_two_eq_zero_or_one mantissa <;>
    rw [last] at halves <;> push_cast at halves <;>
    obtain _ | _ := roundBit <;> obtain _ | _ := stickyBit <;>
    simp [Represents, ExtendedMantissa.shiftRightOne, last] at represents ⊢
  all_goals grind

theorem shiftRight (represents : Represents extended value) (places : Nat) :
    Represents (extended >>> places) (value / 2 ^ places) := by
  show Represents (places.repeat ExtendedMantissa.shiftRightOne extended) _
  induction places with
  | zero => simpa [Nat.repeat] using represents
  | succ places inductionHypothesis =>
    rw [Nat.repeat, pow_succ, ← div_div]
    exact inductionHypothesis.shiftRightOne

end Represents

theorem div_zpow_eq (value : ℚ) (exponent : Int) (places : Nat) :
    value / 2 ^ exponent = value / 2 ^ (exponent + places) * 2 ^ places := by
  rw [zpow_add₀ two_ne_zero, zpow_natCast]
  field_simp

/-- A quotient is represented by its whole part and by how twice the remainder compares with the
denominator. -/
theorem represents_quotient (numerator : Nat) {denominator : Nat} (positive : 0 < denominator) :
    Represents (.ofMantissaAndAccuracy (numerator / denominator)
      (UnpackedFloat.accuracyOfFraction (numerator % denominator) denominator))
      (numerator / denominator) := by
  have divided : (numerator : ℚ) =
      denominator * (numerator / denominator : Nat) + (numerator % denominator : Nat) := by
    exact_mod_cast (Nat.div_add_mod numerator denominator).symm
  have bounded := Nat.mod_lt numerator positive
  have above : (0 : ℚ) < denominator := by exact_mod_cast positive
  generalize numerator / denominator = whole at divided ⊢
  generalize numerator % denominator = rest at divided bounded ⊢
  have split : (numerator : ℚ) / denominator = whole + rest / denominator := by
    rw [divided]
    field_simp
  rw [split, UnpackedFloat.accuracyOfFraction]
  by_cases none : rest = 0
  · rw [if_pos none, none]
    simp [Represents, ExtendedMantissa.ofMantissaAndAccuracy]
  · rw [if_neg none]
    have some : (0 : ℚ) < rest / denominator :=
      div_pos (by exact_mod_cast Nat.pos_of_ne_zero none) above
    have proper : (rest : ℚ) / denominator < 1 := by
      rw [div_lt_one above]
      exact_mod_cast bounded
    cases order : compare (2 * rest) denominator with
    | lt =>
      have half : (rest : ℚ) / denominator < 1 / 2 := by
        rw [div_lt_iff₀ above]
        have less : (2 * rest : ℚ) < denominator := by
          exact_mod_cast Nat.compare_eq_lt.mp order
        linarith
      exact ⟨lt_add_of_pos_right _ some, add_lt_add_right half _⟩
    | eq =>
      have half : (rest : ℚ) / denominator = 1 / 2 := by
        rw [div_eq_iff above.ne']
        have same : (2 * rest : ℚ) = denominator := by
          exact_mod_cast Nat.compare_eq_eq.mp order
        linarith
      exact congrArg ((whole : ℚ) + ·) half
    | gt =>
      have half : 1 / 2 < (rest : ℚ) / denominator := by
        rw [lt_div_iff₀ above]
        have more : (denominator : ℚ) < 2 * rest := by
          exact_mod_cast Nat.compare_eq_gt.mp order
        linarith
      exact ⟨add_lt_add_right half _, add_lt_add_right proper _⟩

/-! ### Rounding a quotient -/

section

variable {value : ℚ} {mantissa : Nat} {exponent : Int} {accuracy : Accuracy}

theorem divCore_eq {numerator denominator : Nat} (above : 0 < numerator)
    (below : 0 < denominator) : ∃ mantissa exponent accuracy,
      UnpackedFloat.divCore .binary64 numerator 0 denominator 0 =
          (mantissa, exponent, accuracy) ∧
        Represents (.ofMantissaAndAccuracy mantissa accuracy)
          (numerator / denominator / 2 ^ exponent) ∧
        -1074 ≤ exponent ∧ (2 ^ 52 ≤ mantissa ∨ exponent = -1074) := by
  obtain ⟨places, target⟩ : ∃ places : Nat,
      min 0 (max ((numerator.log2 : Int) - denominator.log2 - 53) (-1074)) = -places :=
    ⟨(-min 0 (max ((numerator.log2 : Int) - denominator.log2 - 53) (-1074))).toNat, by omega⟩
  have core : UnpackedFloat.divCore .binary64 numerator 0 denominator 0 =
      (numerator * 2 ^ places / denominator, -(places : Int),
        UnpackedFloat.accuracyOfFraction (numerator * 2 ^ places % denominator) denominator) := by
    have same : min (0 - 0) (Format.binary64.targetExponent
        (totalExponent numerator 0 - totalExponent denominator 0)) = -(places : Int) := by
      show min (0 : Int) (max ((numerator.log2 : Int) + 1 + 0 - (denominator.log2 + 1 + 0) - 53)
        (-1074)) = _
      omega
    have amount : ((0 : Int) - 0 - -(places : Int)).toNat = places := by omega
    simp only [UnpackedFloat.divCore, same, amount, Nat.shiftLeft_eq]
  refine ⟨_, _, _, core, ?_, by omega, ?_⟩
  · have scaled : (numerator : ℚ) / denominator / 2 ^ (-(places : Int)) =
        (numerator * 2 ^ places : Nat) / denominator := by
      rw [zpow_neg, div_inv_eq_mul, zpow_natCast]
      push_cast
      ring
    rw [scaled]
    exact represents_quotient _ below
  · by_cases least : places = 1074
    · exact .inr (by omega)
    · refine .inl ((Nat.le_div_iff_mul_le below).mpr ?_)
      calc 2 ^ 52 * denominator
          ≤ 2 ^ 52 * 2 ^ (denominator.log2 + 1) := Nat.mul_le_mul_left _ Nat.lt_log2_self.le
        _ = 2 ^ (52 + (denominator.log2 + 1)) := (pow_add ..).symm
        _ ≤ 2 ^ (numerator.log2 + places) := Nat.pow_le_pow_right (by decide) (by omega)
        _ = 2 ^ numerator.log2 * 2 ^ places := pow_add ..
        _ ≤ numerator * 2 ^ places := Nat.mul_le_mul_right _ (Nat.log2_self_le above.ne')

/-- Then as many bits are kept as a significand has, or as many as the least exponent leaves. -/
theorem shiftToTargetExponent_represents
    (represents : Represents (.ofMantissaAndAccuracy mantissa accuracy) (value / 2 ^ exponent))
    (lowest : -1074 ≤ exponent) (full : 2 ^ 52 ≤ mantissa ∨ exponent = -1074) :
    ∃ extended target,
      UnpackedFloat.shiftToTargetExponent .binary64 mantissa exponent accuracy =
          (extended, target) ∧
        Represents extended (value / 2 ^ target) ∧ -1074 ≤ target ∧
        value / 2 ^ target < 2 ^ 53 ∧ (2 ^ 52 ≤ value / 2 ^ target ∨ target = -1074) := by
  have bits : 52 ≤ mantissa.log2 ∨ exponent = -1074 :=
    full.imp_left fun full => (Nat.le_log2 (by omega)).mpr full
  obtain ⟨places, target⟩ : ∃ places : Nat,
      max ((mantissa.log2 : Int) + exponent - 52) (-1074) = exponent + places :=
    ⟨(max (mantissa.log2 + exponent - 52) (-1074) - exponent).toNat, by omega⟩
  have shifted : UnpackedFloat.shiftToTargetExponent .binary64 mantissa exponent accuracy =
      (ExtendedMantissa.ofMantissaAndAccuracy mantissa accuracy >>> places,
        exponent + places) := by
    have amount : (exponent + places - exponent).toNat = places := by omega
    simp only [UnpackedFloat.shiftToTargetExponent, targetExponent_eq, target,
      UnpackedFloat.shiftToExponent, amount]
  have split : value / 2 ^ (exponent + places) = value / 2 ^ exponent / 2 ^ places := by
    rw [zpow_add₀ two_ne_zero, zpow_natCast, div_div]
  have whole : (ExtendedMantissa.ofMantissaAndAccuracy mantissa accuracy).mantissa = mantissa := by
    obtain _ | _ | _ | _ := accuracy <;> rfl
  obtain ⟨above, below⟩ := represents.bounds
  rw [whole] at above below
  refine ⟨_, _, shifted, split ▸ represents.shiftRight places, by omega, ?_⟩
  rw [split, div_lt_iff₀ (by positivity), le_div_iff₀ (by positivity)]
  constructor
  · calc value / 2 ^ exponent < mantissa + 1 := below
      _ ≤ 2 ^ (mantissa.log2 + 1) := by exact_mod_cast Nat.lt_log2_self
      _ ≤ 2 ^ (53 + places) := pow_le_pow_right₀ one_le_two (by omega)
      _ = 2 ^ 53 * 2 ^ places := pow_add ..
  · by_cases least : exponent + places = -1074
    · exact .inr least
    · refine .inl ?_
      have same : 52 + places = mantissa.log2 := by omega
      calc (2 : ℚ) ^ 52 * 2 ^ places = 2 ^ mantissa.log2 := by rw [← pow_add, same]
        _ ≤ mantissa := by
          exact_mod_cast Nat.log2_self_le fun none => by
            rw [none, Nat.log2_zero] at same
            omega
        _ ≤ value / 2 ^ exponent := above

/-! ### The quotients that are rounded to a double -/

/-- How far the numbers that are rounded to a double reach below it, in units of its last place:
half a unit, or a quarter from where the places get finer. -/
def reachBelow (significand : Nat) (exponent : Int) : ℚ :=
  if significand = 2 ^ 52 ∧ -1074 < exponent then 1 / 4 else 1 / 2

/-- A number, counted in units of the last place of a double, is rounded to the double: it is not
further away than the numbers that are rounded to it reach, and it is exactly half a unit away only
from an even significand. -/
structure RoundsTo (value : ℚ) (significand : Nat) (exponent : Int) : Prop where
  above : significand - reachBelow significand exponent ≤ value
  below : value ≤ significand + 1 / 2
  even : value = significand - 1 / 2 ∨ value = significand + 1 / 2 → significand % 2 = 0

theorem reachBelow_le (significand : Nat) (exponent : Int) :
    reachBelow significand exponent ≤ 1 / 2 := by
  rw [reachBelow]
  split <;> norm_num

theorem quarter_le_reachBelow (significand : Nat) (exponent : Int) :
    1 / 4 ≤ reachBelow significand exponent := by
  rw [reachBelow]
  split <;> norm_num

theorem RoundsTo.half_above {significand : Nat} (rounds : RoundsTo value significand exponent) :
    (significand : ℚ) - 1 / 2 ≤ value := by
  have reach := reachBelow_le significand exponent
  linarith [rounds.above]

theorem roundWithAccuracy_of_shifts {sign : Sign} {significand : Nat} {target last : Int}
    {extended final : ExtendedMantissa} (positive : 0 < significand)
    (first : UnpackedFloat.shiftToTargetExponent .binary64 mantissa exponent accuracy =
      (extended, target))
    (second : UnpackedFloat.shiftToTargetExponent .binary64 extended.roundedMantissa target .exact =
      (final, last)) (result : final.mantissa = significand) :
    UnpackedFloat.roundWithAccuracy .binary64 sign mantissa exponent accuracy =
      .finite sign significand last positive := by
  subst result
  unfold UnpackedFloat.roundWithAccuracy
  simp only [first, second]
  exact dif_neg positive.ne'

/-- A significand that was rounded up to 54 bits is shifted once more. -/
theorem shiftToTargetExponent_overflow {target : Int} (lowest : -1074 ≤ target) :
    UnpackedFloat.shiftToTargetExponent .binary64 (2 ^ 53) target .exact =
      (⟨2 ^ 52, false, false⟩, target + 1) := by
  have bits : (2 ^ 53).log2 = 53 := Nat.log2_two_pow
  have next : Format.binary64.targetExponent (totalExponent (2 ^ 53) target) = target + 1 := by
    rw [targetExponent_eq, bits]
    omega
  have amount : (target + 1 - target).toNat = 1 := by omega
  rw [UnpackedFloat.shiftToTargetExponent, next, UnpackedFloat.shiftToExponent, amount]
  rfl

theorem roundWithAccuracy_of_roundsTo {sign : Sign} {significand : Nat} {last : Int}
    {positive : 0 < significand} (canonical : IsCanonical (.finite sign significand last positive))
    (represents : Represents (.ofMantissaAndAccuracy mantissa accuracy) (value / 2 ^ exponent))
    (lowest : -1074 ≤ exponent) (full : 2 ^ 52 ≤ mantissa ∨ exponent = -1074)
    (rounds : RoundsTo (value / 2 ^ last) significand last) :
    UnpackedFloat.roundWithAccuracy .binary64 sign mantissa exponent accuracy =
      .finite sign significand last positive := by
  obtain ⟨extended, target, shifted, represents, above, below, complete⟩ :=
    shiftToTargetExponent_represents represents lowest full
  obtain ⟨short, least, _, normal⟩ := canonical
  have small : (significand : ℚ) + 1 ≤ 2 ^ 53 := by exact_mod_cast short
  obtain less | rfl | more := lt_trichotomy target last
  · -- The quotient lies just below the least significand of 53 bits and is rounded up to it.
    obtain ⟨places, rfl⟩ : ∃ places : Nat, last = target + (places + 1 : Nat) :=
      ⟨(last - target - 1).toNat, by omega⟩
    have scaled := div_zpow_eq value target (places + 1)
    generalize value / 2 ^ (target + (places + 1 : Nat)) = counted at rounds scaled
    have lower := rounds.above
    have border : significand = 2 ^ 52 := by
      by_contra other
      have next : (2 : ℚ) ^ 52 + 1 ≤ significand := by
        exact_mod_cast Nat.lt_of_le_of_ne (normal.resolve_right (by omega)) (Ne.symm other)
      have far := rounds.half_above
      have power : (2 : ℚ) ^ 1 ≤ 2 ^ (places + 1) := pow_le_pow_right₀ one_le_two (by omega)
      nlinarith
    subst border
    rw [reachBelow, if_pos ⟨rfl, by omega⟩] at lower
    push_cast at lower
    obtain rfl : places = 0 := by
      by_contra other
      have power : (2 : ℚ) ^ 2 ≤ 2 ^ (places + 1) := pow_le_pow_right₀ one_le_two (by omega)
      nlinarith
    have rounded : extended.roundedMantissa = 2 ^ 53 := by
      refine represents.roundedMantissa_eq ?_ ?_ fun _ => by decide
      · push_cast
        linarith
      · push_cast
        linarith
    exact roundWithAccuracy_of_shifts positive shifted
      (rounded ▸ shiftToTargetExponent_overflow above) rfl
  · have rounded : extended.roundedMantissa = significand :=
      represents.roundedMantissa_eq rounds.half_above rounds.below rounds.even
    have bits : significand.log2 < 53 := (Nat.log2_lt positive.ne').mpr short
    have kept := shiftToTargetExponent_eq (Nat.le_of_lt_succ bits) above
    exact roundWithAccuracy_of_shifts positive shifted (rounded ▸ kept) rounded
  · -- The quotient would have more bits than the double.
    exfalso
    obtain ⟨places, rfl⟩ : ∃ places : Nat, target = last + (places + 1 : Nat) :=
      ⟨(target - last - 1).toNat, by omega⟩
    have scaled := div_zpow_eq value last (places + 1)
    have large := complete.resolve_right (by omega)
    have power : (2 : ℚ) ^ 1 ≤ 2 ^ (places + 1) := pow_le_pow_right₀ one_le_two (by omega)
    have near := rounds.below
    nlinarith

/-- A quotient is rounded to the double that it rounds to. -/
theorem div_eq {sign : Sign} {significand : Nat} {positive : 0 < significand}
    (canonical : IsCanonical (.finite sign significand exponent positive))
    {numerator denominator : Nat} (above : 0 < numerator) (below : 0 < denominator)
    (rounds : RoundsTo (numerator / denominator / 2 ^ exponent) significand exponent) :
    UnpackedFloat.div .binary64 (.finite sign numerator 0 above)
      (.finite .positive denominator 0 below) = .finite sign significand exponent positive := by
  obtain ⟨mantissa, first, accuracy, core, represents, lowest, full⟩ := divCore_eq above below
  have unsigned : sign / .positive = sign := by cases sign <;> rfl
  show UnpackedFloat.roundWithAccuracy .binary64 (sign / .positive)
    (UnpackedFloat.divCore .binary64 numerator 0 denominator 0).1
    (UnpackedFloat.divCore .binary64 numerator 0 denominator 0).2.1
    (UnpackedFloat.divCore .binary64 numerator 0 denominator 0).2.2 = _
  rw [core, unsigned]
  exact roundWithAccuracy_of_roundsTo canonical represents lowest full rounds

end

/-! ### Doubles -/

/-- A double is the one that its unpacked form packs to. -/
theorem eq_of_unpack {x : Float} {value : UnpackedFloat} (unpacked : x.toModel.unpack = value) :
    ⟨Float.Model.pack value⟩ = x := by
  rw [← unpacked, pack_unpack]

/-- The double nearest to a quotient is the one that the quotient rounds to. -/
theorem nearestQuotient_eq {x : Float} {sign : Sign} {significand : Nat} {exponent : Int}
    {positive : 0 < significand}
    (unpacked : x.toModel.unpack = .finite sign significand exponent positive)
    {numerator denominator : Nat} (above : 0 < numerator) (below : 0 < denominator)
    (rounds : RoundsTo (numerator / denominator / 2 ^ exponent) significand exponent) :
    nearestQuotient (isNegative x) numerator denominator = x := by
  have signed : (if isNegative x then Sign.negative else .positive) = sign := by
    rw [isNegative, unpacked]
    cases sign <;> rfl
  have canonical : IsCanonical (.finite sign significand exponent positive) :=
    unpacked ▸ isCanonical_unpack x.toModel
  rw [nearestQuotient, signed, dif_pos above, dif_pos below,
    div_eq canonical above below rounds, eq_of_unpack unpacked]

/-- A quotient of zero is the zero of its sign. -/
theorem nearestQuotient_zero {x : Float} {sign : Sign} (unpacked : x.toModel.unpack = .zero sign) :
    nearestQuotient (isNegative x) 0 1 = x := by
  have signed : (if isNegative x then Sign.negative else .positive) = sign := by
    rw [isNegative, unpacked]
    cases sign <;> rfl
  rw [nearestQuotient, signed, dif_neg (Nat.lt_irrefl 0), eq_of_unpack unpacked]

end CollectivePerception.Binary64
