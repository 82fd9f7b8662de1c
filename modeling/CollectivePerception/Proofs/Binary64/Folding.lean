/-
This file proves that folding an angle never leaves it below zero, whatever the angle. A
remainder below zero is the exact one and no larger than the modulus
(`remainder_negative_le`), so adding the modulus brings it up to zero at least, and the
operations that follow keep it there: a product with a positive factor is not below zero if
the other factor is not, and neither is the integer nearest to it.
-/

import CollectivePerception.Proofs.Binary64.Packing

namespace CollectivePerception.Binary64

open Float.Model
open Float.Model.UnpackedFloat (Sign packComponents)

/-! ### Values below zero -/

/-- Whether a value lies below zero; a negative zero does not. -/
def BelowZero : UnpackedFloat → Prop
  | .finite .negative _ _ _ => True
  | .infinity .negative => True
  | _ => False

/-- Packing takes no value below zero, not even one that is not in canonical form. -/
theorem not_belowZero_pack {value : UnpackedFloat} (notBelow : ¬BelowZero value) :
    ¬BelowZero (Float.Model.pack value).unpack := by
  have unpackPositive (exponent : BitVec 11) (mantissa : BitVec 52) :
      ¬BelowZero (UnpackedFloat.unpack .binary64
        (packComponents .binary64 .positive exponent mantissa)) := by
    unfold UnpackedFloat.unpack
    simp only [UnpackedFloat.unpackSign_packComponents, UnpackedFloat.Sign.ofBitVec_toBitVec]
    split
    · split <;> exact id
    · split
      · split <;> exact id
      · exact id
  show ¬BelowZero (UnpackedFloat.unpack .binary64 (UnpackedFloat.pack .binary64 value))
  cases value with
  | notANumber => exact unpackPositive _ _
  | zero sign =>
    rw [UnpackedFloat.pack, UnpackedFloat.unpack_packedZero]
    exact id
  | infinity sign =>
    cases sign with
    | negative => exact absurd trivial notBelow
    | positive => exact unpackPositive _ _
  | finite sign significand exponent positive =>
    cases sign with
    | negative => exact absurd trivial notBelow
    | positive =>
      unfold UnpackedFloat.pack
      dsimp only
      split
      · exact unpackPositive _ _
      · split <;> exact unpackPositive _ _

theorem finite_of_belowZero {value : UnpackedFloat} (isFinite : value.isFinite = true)
    (below : BelowZero value) :
    ∃ significand exponent positive, value = .finite .negative significand exponent positive := by
  rcases value with (_ | _) | _ | _ | ⟨_ | _, significand, exponent, positive⟩
  · cases isFinite
  · exact below.elim
  · exact below.elim
  · exact below.elim
  · exact ⟨significand, exponent, positive, rfl⟩
  · exact below.elim

theorem lt_iff (x y : Float) :
    x < y ↔ x.toModel.unpack.compare y.toModel.unpack = some .lt := by
  show decide ((x.toModel.unpack.compare y.toModel.unpack == some .lt) = true) = true ↔ _
  rw [decide_eq_true_iff, beq_iff_eq]

theorem lt_zero_iff (x : Float) : x < 0.0 ↔ BelowZero x.toModel.unpack := by
  have zero : (0.0 : Float).toModel.unpack = .zero .positive := rfl
  rw [lt_iff, zero]
  rcases x.toModel.unpack with (_ | _) | _ | _ | ⟨_ | _, _, _, _⟩ <;>
    simp [UnpackedFloat.compare, BelowZero]

theorem roundToInt64_nonneg {x : Float} (notBelow : ¬BelowZero x.toModel.unpack) :
    0 ≤ roundToInt64 x := by
  unfold roundToInt64
  split
  · unfold clampInt64 leastInt64 greatestInt64
    omega
  · rename_i below
    rw [below] at notBelow
    exact absurd trivial notBelow
  · decide
  · rename_i below
    rw [below] at notBelow
    exact absurd trivial notBelow
  · decide
  · decide

/-! ### Operations -/

theorem unpack_abs (x : Float) : x.abs.toModel.unpack = x.toModel.unpack.abs := by
  have canonical := isCanonical_unpack x.toModel
  show (Float.Model.pack x.toModel.unpack.abs).unpack = _
  cases unpacked : x.toModel.unpack with
  | finite sign significand exponent positive =>
    rw [unpacked] at canonical
    exact unpack_pack canonical
  | _ => exact unpack_pack trivial

theorem not_belowZero_roundWithAccuracy (significand : Nat) (exponent : Int)
    (accuracy : UnpackedFloat.Accuracy) :
    ¬BelowZero (UnpackedFloat.roundWithAccuracy .binary64 .positive significand exponent
      accuracy) := by
  unfold UnpackedFloat.roundWithAccuracy
  dsimp only
  split <;> exact id

/-- A product with a positive factor lies below zero only if the other factor does. -/
theorem not_belowZero_mul {x factor : Float} {significand : Nat} {exponent : Int}
    {positive : 0 < significand} (notBelow : ¬BelowZero x.toModel.unpack)
    (unpacked : factor.toModel.unpack = .finite .positive significand exponent positive) :
    ¬BelowZero (x * factor).toModel.unpack := by
  show ¬BelowZero (Float.Model.pack
    (UnpackedFloat.mul .binary64 x.toModel.unpack factor.toModel.unpack)).unpack
  refine not_belowZero_pack ?_
  rw [unpacked]
  cases first : x.toModel.unpack with
  | notANumber => exact id
  | zero sign => exact id
  | infinity sign =>
    cases sign with
    | negative => exact absurd (first ▸ trivial) notBelow
    | positive => exact id
  | finite sign _ _ _ =>
    cases sign with
    | negative => exact absurd (first ▸ trivial) notBelow
    | positive => exact not_belowZero_roundWithAccuracy _ _ _

/-- A sum of a negative value and one that is at least as large does not lie below zero. -/
theorem not_belowZero_add {x y : Float} {first second : Nat}
    {firstExponent secondExponent : Int} {firstPositive : 0 < first}
    {secondPositive : 0 < second}
    (unpackedFirst : x.toModel.unpack = .finite .negative first firstExponent firstPositive)
    (unpackedSecond : y.toModel.unpack = .finite .positive second secondExponent secondPositive)
    (notAbove : scaled first firstExponent (min firstExponent secondExponent) ≤
      scaled second secondExponent (min firstExponent secondExponent)) :
    ¬BelowZero (x + y).toModel.unpack := by
  show ¬BelowZero (Float.Model.pack
    (UnpackedFloat.add .binary64 x.toModel.unpack y.toModel.unpack)).unpack
  refine not_belowZero_pack ?_
  rw [unpackedFirst, unpackedSecond]
  show ¬BelowZero (UnpackedFloat.normalize .binary64
    (-(scaled first firstExponent (min firstExponent secondExponent) : Int) +
      (scaled second secondExponent (min firstExponent secondExponent) : Int)) _ .positive)
  unfold UnpackedFloat.normalize
  split
  · rename_i negative
    rw [compare_lt_iff_lt] at negative
    omega
  · exact id
  · exact not_belowZero_roundWithAccuracy _ _ _

/-! ### The remainder -/

theorem scaled_eq (significand : Nat) (exponent unit : Int) :
    scaled significand exponent unit = significand * 2 ^ (exponent - unit).toNat :=
  Nat.shiftLeft_eq _ _

/-- Of two values in canonical form the one with the smaller exponent, or with the smaller
significand if the exponents agree, is the smaller one. -/
theorem scaled_le_of_compare {first second : Nat} {firstExponent secondExponent : Int}
    {firstPositive : 0 < first} {secondPositive : 0 < second} {sign : Sign}
    (firstCanonical : IsCanonical (.finite sign first firstExponent firstPositive))
    (secondCanonical : IsCanonical (.finite .positive second secondExponent secondPositive))
    (less : (compare firstExponent secondExponent).then (compare first second) = .lt) :
    scaled first firstExponent (min firstExponent secondExponent) ≤
      scaled second secondExponent (min firstExponent secondExponent) := by
  obtain ⟨small, least, _⟩ := firstCanonical
  obtain ⟨_, _, _, full⟩ := secondCanonical
  rw [scaled_eq, scaled_eq]
  rcases Ordering.then_eq_lt.mp less with before | ⟨same, before⟩
  · rw [compare_lt_iff_lt] at before
    rw [min_eq_left before.le, Int.sub_self]
    have normal : 2 ^ 52 ≤ second := full.resolve_right (by omega)
    have apart : 2 ^ 1 ≤ 2 ^ (secondExponent - firstExponent).toNat :=
      Nat.pow_le_pow_right (by decide) (by omega)
    calc
      first * 2 ^ (0 : Int).toNat ≤ 2 ^ 52 * 2 ^ 1 := by
        rw [Int.toNat_zero, pow_zero, mul_one]
        omega
      _ ≤ second * 2 ^ (secondExponent - firstExponent).toNat := Nat.mul_le_mul normal apart
  · rw [compare_eq_iff_eq] at same
    rw [compare_lt_iff_lt] at before
    rw [same]
    exact Nat.mul_le_mul_right _ before.le

/-- A value that was rounded to a double below zero is that double, if it has at most 53
bits. -/
theorem unpack_nearest_of_belowZero {negative : Bool} {significand : Nat} {exponent : Int}
    (small : significand < 2 ^ 53) (above : -1074 ≤ exponent) (under : exponent ≤ 971)
    (below : BelowZero (nearest negative significand exponent).toModel.unpack) :
    ∃ (shift : Nat) (positive : 0 < significand * 2 ^ shift),
      (nearest negative significand exponent).toModel.unpack =
        .finite .negative (significand * 2 ^ shift) (exponent - shift) positive := by
  have unpacked : (nearest negative significand exponent).toModel.unpack =
      (Float.Model.pack (UnpackedFloat.round .binary64
        (if negative then .negative else .positive) significand exponent)).unpack := rfl
  rw [unpacked] at below ⊢
  rcases Nat.eq_zero_or_pos significand with rfl | positive
  · have canonical : IsCanonical (.zero (if negative then .negative else .positive)) := trivial
    rw [round_zero _ above, unpack_pack canonical] at below
    exact below.elim
  · obtain ⟨shift, shifted, rounded, canonical⟩ :=
      round_eq (if negative then .negative else .positive) positive small above under
    rw [rounded, unpack_pack canonical] at below ⊢
    cases negative with
    | false => exact below.elim
    | true => exact ⟨shift, shifted, rfl⟩

theorem magnitude_bounds {x : Float} (isFinite : x.isFinite = true) :
    ∃ significand exponent, magnitude x = some (significand, exponent) ∧
      significand < 2 ^ 53 ∧ -1074 ≤ exponent ∧ exponent ≤ 971 := by
  have canonical := isCanonical_unpack x.toModel
  have unpackedFinite : x.toModel.unpack.isFinite = true := isFinite
  unfold magnitude
  cases unpacked : x.toModel.unpack with
  | notANumber =>
    rw [unpacked] at unpackedFinite
    cases unpackedFinite
  | infinity sign =>
    rw [unpacked] at unpackedFinite
    cases unpackedFinite
  | zero sign => exact ⟨0, 0, rfl, by decide, by decide, by decide⟩
  | finite sign significand exponent positive =>
    rw [unpacked] at canonical
    exact ⟨significand, exponent, rfl, canonical.1, canonical.2.1, canonical.2.2.1⟩

/-- Counted in the smaller of the two units, the rest of a division has at most as many bits
as the value with that unit. -/
theorem scaled_mod_lt {dividend divisor : Nat} {exponent divisorExponent unit : Int}
    (small : dividend < 2 ^ 53) (smallDivisor : divisor < 2 ^ 53) (positive : 0 < divisor)
    (unitIs : min exponent divisorExponent = unit) :
    scaled dividend exponent unit % scaled divisor divisorExponent unit < 2 ^ 53 := by
  rw [scaled_eq, scaled_eq]
  rcases min_choice exponent divisorExponent with same | same
  · refine Nat.lt_of_le_of_lt (Nat.mod_le _ _) ?_
    rw [← unitIs, same, Int.sub_self, Int.toNat_zero, pow_zero, mul_one]
    exact small
  · rw [← unitIs, same, Int.sub_self, Int.toNat_zero, pow_zero, mul_one]
    exact Nat.lt_trans (Nat.mod_lt _ positive) smallDivisor

/-- A remainder below zero is a finite one, and its size is that of the modulus at most. -/
theorem remainder_negative_le {x modulus : Float} (isFinite : x.isFinite = true)
    {divisor : Nat} {divisorExponent : Int} {positive : 0 < divisor}
    (unpacked : modulus.toModel.unpack = .finite .positive divisor divisorExponent positive)
    (below : BelowZero (remainder x modulus).toModel.unpack) :
    ∃ (rest : Nat) (exponent : Int) (restPositive : 0 < rest),
      (remainder x modulus).toModel.unpack = .finite .negative rest exponent restPositive ∧
        scaled rest exponent (min exponent divisorExponent) ≤
          scaled divisor divisorExponent (min exponent divisorExponent) := by
  have canonicalDivisor := isCanonical_unpack modulus.toModel
  rw [unpacked] at canonicalDivisor
  unfold remainder at below ⊢
  split at below
  · -- The value is smaller than the modulus and stays as it is.
    rename_i less
    rw [if_pos less]
    rw [lt_iff, unpack_abs, unpack_abs, unpacked] at less
    have canonical := isCanonical_unpack x.toModel
    obtain ⟨rest, exponent, restPositive, same⟩ := finite_of_belowZero isFinite below
    rw [same] at less canonical
    exact ⟨rest, exponent, restPositive, same,
      scaled_le_of_compare canonical canonicalDivisor (Option.some.inj less)⟩
  · -- The rest of the division fits into a double, so rounding does not change it.
    rename_i notLess
    rw [if_neg notLess]
    have size : magnitude modulus = some (divisor, divisorExponent) := by
      rw [magnitude, unpacked]
    obtain ⟨dividend, exponent, found, small, least, most⟩ := magnitude_bounds isFinite
    obtain ⟨smallDivisor, leastDivisor, _⟩ := canonicalDivisor
    rw [found, size] at below ⊢
    dsimp only at below ⊢
    rw [if_neg (Nat.ne_of_gt positive)] at below ⊢
    generalize unitIs : min exponent divisorExponent = unit at below ⊢
    obtain ⟨shift, shifted, result⟩ := unpack_nearest_of_belowZero
      (scaled_mod_lt small smallDivisor positive unitIs) (by omega) (by omega) below
    have smaller : scaled dividend exponent unit % scaled divisor divisorExponent unit <
        scaled divisor divisorExponent unit := by
      refine Nat.mod_lt _ ?_
      rw [scaled_eq]
      positivity
    have lower : unit - shift ≤ divisorExponent := by omega
    have distance : (divisorExponent - (unit - shift)).toNat =
        (divisorExponent - unit).toNat + shift := by
      omega
    refine ⟨_, _, shifted, result, ?_⟩
    rw [min_eq_left lower, scaled_eq _ (unit - shift),
      scaled_eq divisor divisorExponent (unit - shift), distance, pow_add, ← mul_assoc,
      ← scaled_eq divisor divisorExponent unit, Int.sub_self, Int.toNat_zero, pow_zero, mul_one]
    exact Nat.mul_le_mul_right _ smaller.le

/-- Folding a finite value into the range of a positive modulus takes it up to zero. -/
theorem not_belowZero_euclideanRemainder {x modulus : Float} (isFinite : x.isFinite = true)
    {divisor : Nat} {divisorExponent : Int} {positive : 0 < divisor}
    (unpacked : modulus.toModel.unpack = .finite .positive divisor divisorExponent positive) :
    ¬BelowZero (euclideanRemainder x modulus).toModel.unpack := by
  unfold euclideanRemainder
  dsimp only
  split
  · rename_i below
    rw [lt_zero_iff] at below
    obtain ⟨rest, exponent, restPositive, unpackedRest, notAbove⟩ :=
      remainder_negative_le isFinite unpacked below
    have folded : modulus.abs.toModel.unpack =
        .finite .positive divisor divisorExponent positive := by
      rw [unpack_abs, unpacked]
      rfl
    exact not_belowZero_add unpackedRest folded notAbove
  · rename_i notBelow
    rwa [lt_zero_iff] at notBelow

end CollectivePerception.Binary64
