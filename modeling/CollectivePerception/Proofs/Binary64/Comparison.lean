/-
This file proves that doubles are compared as numbers are, as long as neither of them is
undefined: of two numbers one is at most the other, or the other is less (`not_lt_iff`). An
undefined value is neither less than a number nor greater.
-/

import CollectivePerception.Proofs.Binary64.Folding

namespace CollectivePerception.Binary64

open Float.Model

theorem le_iff (x y : Float) :
    x ≤ y ↔ (x.toModel.unpack.compare y.toModel.unpack).any (·.isLE) = true := by
  show decide ((x.toModel.unpack.compare y.toModel.unpack).any (·.isLE) = true) = true ↔ _
  rw [decide_eq_true_iff]

/-- Comparing the other way round gives the opposite result. -/
theorem compare_swap (x y : UnpackedFloat) : y.compare x = (x.compare y).map Ordering.swap := by
  have exponents (first second : Int) : compare second first = (compare first second).swap :=
    Std.OrientedCmp.eq_swap
  have significands (first second : Nat) : compare second first = (compare first second).swap :=
    Std.OrientedCmp.eq_swap
  rcases x with (_ | _) | _ | _ | ⟨_ | _, significand, exponent, _⟩ <;>
    rcases y with (_ | _) | _ | _ | ⟨_ | _, otherSignificand, otherExponent, _⟩ <;>
    first
    | rfl
    | simp only [UnpackedFloat.compare, exponents exponent otherExponent,
        significands significand otherSignificand, Option.map_some, Ordering.swap_then]

/-- Numbers are always comparable. -/
theorem exists_compare {x y : UnpackedFloat} (number : x ≠ .notANumber)
    (other : y ≠ .notANumber) : ∃ result, x.compare y = some result := by
  rcases x with (_ | _) | _ | _ | ⟨_ | _, _, _, _⟩ <;>
    rcases y with (_ | _) | _ | _ | ⟨_ | _, _, _, _⟩ <;>
    first
    | exact ⟨_, rfl⟩
    | exact absurd rfl number
    | exact absurd rfl other

theorem unpack_ne_notANumber {x : Float} (number : x.isNaN = false) :
    x.toModel.unpack ≠ .notANumber :=
  fun same => Bool.false_ne_true (number.symm.trans (congrArg UnpackedFloat.isNaN same))

/-- Of two numbers one is not less than the other exactly if the other is at most it. -/
theorem not_lt_iff {x y : Float} (number : x.isNaN = false) (other : y.isNaN = false) :
    ¬x < y ↔ y ≤ x := by
  obtain ⟨result, compared⟩ :=
    exists_compare (unpack_ne_notANumber number) (unpack_ne_notANumber other)
  rw [lt_iff, le_iff, compare_swap x.toModel.unpack, compared]
  cases result with
  | lt => exact iff_of_false (fun different => different rfl) (by decide)
  | eq => exact iff_of_true nofun rfl
  | gt => exact iff_of_true nofun rfl

theorem unpack_of_isNaN {x : Float} (undefined : x.isNaN = true) :
    x.toModel.unpack = .notANumber :=
  UnpackedFloat.isNaN_iff.mp undefined

theorem not_lt_of_isNaN {x y : Float} (undefined : y.isNaN = true) : ¬x < y := by
  rw [lt_iff, compare_swap y.toModel.unpack, unpack_of_isNaN undefined]
  exact nofun

theorem not_le_of_isNaN {x y : Float} (undefined : x.isNaN = true) : ¬x ≤ y := by
  rw [le_iff, unpack_of_isNaN undefined]
  exact nofun

/-- A multiple of zero is zero or undefined. -/
theorem mul_zero_mem (x : Float) : x * 0.0 ∈ [0.0, -0.0, 0.0 / 0.0] := by
  have product : x * 0.0 =
      ⟨pack (UnpackedFloat.mul .binary64 x.toModel.unpack (.zero .positive))⟩ := rfl
  rw [product, List.mem_cons, List.mem_pair]
  rcases x.toModel.unpack with (_ | _) | _ | (_ | _) | ⟨_ | _, _, _, _⟩
  · exact .inr (.inr rfl)
  · exact .inr (.inr rfl)
  · exact .inr (.inr rfl)
  · exact .inr (.inl rfl)
  · exact .inl rfl
  · exact .inr (.inl rfl)
  · exact .inl rfl

theorem isNaN_of_isFinite {x : Float} (isFinite : x.isFinite = true) : x.isNaN = false := by
  have finite : x.toModel.unpack.isFinite = true := isFinite
  show x.toModel.unpack.isNaN = false
  generalize x.toModel.unpack = value at finite ⊢
  cases value with
  | notANumber => cases finite
  | _ => rfl

end CollectivePerception.Binary64
