/-
This file says which integer a double is converted to, in terms of the number that it stands
for (`value?`): the nearest one, an exact half going away from zero, moved to the nearest bound
of 64 bits if it lies outside (`roundToInt64_eq`). An infinity goes to a bound as well, but an
undefined value goes to zero, as a number would.

Multiplying by a positive number keeps an undefined value undefined and makes no other value so.
It may turn a number into an infinity, but never an infinity into a number.
-/

import CollectivePerception.Proofs.Binary64.Comparison

namespace CollectivePerception

/-- Cutting off the bits behind the point rounds if half a unit was added before. -/
theorem round_div_two_pow (significand shift : Nat) :
    round ((significand : ℚ) / 2 ^ (shift + 1)) = ((significand >>> shift + 1) >>> 1 : Nat) := by
  have half : (significand : ℚ) / 2 ^ (shift + 1) + 1 / 2 =
      ((significand + 2 ^ shift : Nat) : ℚ) / (2 ^ (shift + 1) : Nat) := by
    push_cast
    rw [pow_succ]
    field_simp
  have bits : (significand >>> shift + 1) >>> 1 = (significand + 2 ^ shift) / 2 ^ (shift + 1) := by
    rw [Nat.shiftRight_eq_div_pow, Nat.shiftRight_eq_div_pow, pow_one, pow_succ,
      ← Nat.div_div_eq_div_mul, Nat.add_div_right _ (Nat.two_pow_pos shift)]
  rw [round_eq, half, bits]
  exact Rat.floor_natCast_div_natCast _ _

namespace Binary64

open Float.Model
open Float.Model.UnpackedFloat (Sign packComponents)

/-! ### The number that a double stands for -/

/-- The number that an unpacked double stands for, unless it is infinite or undefined. -/
def unpackedValue? : UnpackedFloat → Option ℚ
  | .finite .positive significand exponent _ => some (significand * 2 ^ exponent)
  | .finite .negative significand exponent _ => some (-(significand * 2 ^ exponent))
  | .zero _ => some 0
  | .infinity _ => none
  | .notANumber => none

/-- The number that a double stands for, unless it is infinite or undefined. -/
def value? (x : Float) : Option ℚ := unpackedValue? x.toModel.unpack

theorem value?_isSome (x : Float) : (value? x).isSome = x.isFinite := by
  show (unpackedValue? x.toModel.unpack).isSome = x.toModel.unpack.isFinite
  rcases x.toModel.unpack with _ | _ | _ | ⟨_ | _, _, _, _⟩ <;> rfl

/-! ### The nearest integer -/

/-- The integer nearest to a number, an exact half going away from zero. -/
def roundAway (value : ℚ) : Int :=
  if value < 0 then -round (-value) else round value

theorem roundAway_of_nonneg {value : ℚ} (nonneg : 0 ≤ value) : roundAway value = round value :=
  if_neg (not_lt.mpr nonneg)

theorem roundAway_neg {value : ℚ} (positive : 0 < value) : roundAway (-value) = -round value := by
  rw [roundAway, if_pos (neg_lt_zero.mpr positive), neg_neg]

theorem roundAway_zero : roundAway 0 = 0 := by
  simp [roundAway]

theorem nearestInteger_eq (significand : Nat) (exponent : Int) :
    (nearestInteger significand exponent : Int) = round ((significand : ℚ) * 2 ^ exponent) := by
  cases exponent with
  | ofNat shift =>
    have whole : (significand : ℚ) * 2 ^ (Int.ofNat shift) = (significand * 2 ^ shift : Nat) := by
      rw [Int.ofNat_eq_natCast, zpow_natCast, Nat.cast_mul, Nat.cast_pow, Nat.cast_ofNat]
    rw [whole, round_natCast, nearestInteger, Nat.shiftLeft_eq]
  | negSucc shift =>
    rw [zpow_negSucc, ← div_eq_mul_inv, round_div_two_pow, nearestInteger]

/-- A double that stands for a number is converted to the integer nearest to it. -/
theorem roundToInt64_eq {x : Float} {value : ℚ} (number : value? x = some value) :
    roundToInt64 x = clampInt64 (roundAway value) := by
  unfold roundToInt64
  rw [value?] at number
  generalize x.toModel.unpack = unpacked at number ⊢
  cases unpacked with
  | infinity sign => cases number
  | notANumber => cases number
  | zero sign =>
    obtain rfl := Option.some.inj number
    rw [roundAway_zero]
    rfl
  | finite sign significand exponent positive =>
    cases sign with
    | positive =>
      obtain rfl := Option.some.inj number
      rw [roundAway_of_nonneg (by positivity), ← nearestInteger_eq]
    | negative =>
      obtain rfl := Option.some.inj number
      rw [roundAway_neg (by positivity), ← nearestInteger_eq]

theorem roundToInt64_of_isNaN {x : Float} (undefined : x.isNaN = true) : roundToInt64 x = 0 := by
  unfold roundToInt64
  rw [unpack_of_isNaN undefined]

theorem roundToInt64_of_not_isFinite {x : Float} (number : x.isNaN = false)
    (infinite : x.isFinite = false) :
    roundToInt64 x = leastInt64 ∨ roundToInt64 x = greatestInt64 := by
  have notFinite : x.toModel.unpack.isFinite = false := infinite
  have defined := unpack_ne_notANumber number
  unfold roundToInt64
  generalize x.toModel.unpack = unpacked at notFinite defined ⊢
  cases unpacked with
  | infinity sign =>
    cases sign with
    | negative => exact .inl rfl
    | positive => exact .inr rfl
  | notANumber => exact absurd rfl defined
  | zero sign => cases notFinite
  | finite sign significand exponent positive => cases notFinite

/-! ### Products -/

/-- Only the greatest exponent is that of an infinity or an undefined value. -/
theorem isNaN_unpack_packComponents (sign : Sign) {exponent : BitVec 11} (mantissa : BitVec 52)
    (notGreatest : exponent ≠ -1#11) :
    (UnpackedFloat.unpack .binary64
      (packComponents .binary64 sign exponent mantissa)).isNaN = false := by
  unfold UnpackedFloat.unpack
  simp only [UnpackedFloat.unpackExponent_packComponents, if_neg notGreatest]
  split
  · split <;> rfl
  · rfl

/-- Packing leaves a value defined, even one that is not in canonical form. -/
theorem isNaN_unpack_pack (value : UnpackedFloat) :
    (Float.Model.pack value).unpack.isNaN = value.isNaN := by
  cases value with
  | notANumber => exact congrArg UnpackedFloat.isNaN (unpack_pack trivial)
  | zero sign => exact congrArg UnpackedFloat.isNaN (unpack_pack trivial)
  | infinity sign => exact congrArg UnpackedFloat.isNaN (unpack_pack trivial)
  | finite sign significand exponent positive =>
    show (UnpackedFloat.unpack .binary64 (UnpackedFloat.pack .binary64 _)).isNaN = false
    unfold UnpackedFloat.pack
    dsimp only
    split
    · rw [unpack_packedInfinity]
      rfl
    · rename_i below
      split
      · refine isNaN_unpack_packComponents sign _ fun same => below ?_
        have bits := congrArg BitVec.toNat same
        rw [BitVec.toNat_ofNat] at bits
        have greatest : (-1#11).toNat = 2047 := rfl
        show 2048 ≤ _
        omega
      · exact isNaN_unpack_packComponents sign _ (by decide)

/-- Packing may make a value infinite, but none finite. -/
theorem isFinite_of_isFinite_unpack_pack {value : UnpackedFloat}
    (finite : (Float.Model.pack value).unpack.isFinite = true) : value.isFinite = true := by
  cases value with
  | notANumber =>
    have canonical : IsCanonical .notANumber := trivial
    rwa [unpack_pack canonical] at finite
  | infinity sign =>
    have canonical : IsCanonical (.infinity sign) := trivial
    rwa [unpack_pack canonical] at finite
  | zero sign => rfl
  | finite sign significand exponent positive => rfl

section

variable {x factor : Float} {significand : Nat} {exponent : Int} {positive : 0 < significand}
  (unpacked : factor.toModel.unpack = .finite .positive significand exponent positive)
include unpacked

theorem isNaN_mul : (x * factor).isNaN = x.isNaN := by
  have product : (x * factor).isNaN = (Float.Model.pack
    (UnpackedFloat.mul .binary64 x.toModel.unpack factor.toModel.unpack)).unpack.isNaN := rfl
  have undefined : x.isNaN = x.toModel.unpack.isNaN := rfl
  rw [product, undefined, isNaN_unpack_pack, unpacked]
  cases x.toModel.unpack with
  | notANumber => rfl
  | infinity sign => rfl
  | zero sign => rfl
  | finite sign other otherExponent otherPositive =>
    show (UnpackedFloat.roundWithAccuracy _ _ _ _ _).isNaN = false
    unfold UnpackedFloat.roundWithAccuracy
    dsimp only
    split <;> rfl

theorem isFinite_of_isFinite_mul (finite : (x * factor).isFinite = true) : x.isFinite = true := by
  have product :
      (UnpackedFloat.mul .binary64 x.toModel.unpack factor.toModel.unpack).isFinite = true :=
    isFinite_of_isFinite_unpack_pack finite
  show x.toModel.unpack.isFinite = true
  rw [unpacked] at product
  generalize x.toModel.unpack = operand at product ⊢
  cases operand with
  | notANumber => cases product
  | infinity sign => cases product
  | zero sign => rfl
  | finite sign other otherExponent otherPositive => rfl

end

/-! ### The size of a value -/

theorem isNaN_abs (x : Float) : x.abs.isNaN = x.isNaN := by
  show x.abs.toModel.unpack.isNaN = x.toModel.unpack.isNaN
  rw [unpack_abs]
  cases x.toModel.unpack <;> rfl

theorem isFinite_abs (x : Float) : x.abs.isFinite = x.isFinite := by
  show x.abs.toModel.unpack.isFinite = x.toModel.unpack.isFinite
  rw [unpack_abs]
  cases x.toModel.unpack <;> rfl

end Binary64

end CollectivePerception
