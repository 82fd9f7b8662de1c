/-
This file proves that keeping the greater one of two doubles, again and again, ends with the
greatest of them (`foldl_greater`). Doubles are compared by a rank, so being at most is transitive
among numbers, and of two numbers one is at most the other. All of this asks that none of the values
is undefined. The quotient of a count by a positive number never is, and it does not lie below zero
either (`fromZero_ofNat`, `fromZero_div`).
-/

import CollectivePerception.Proofs.Binary64.Comparison
import CollectivePerception.Proofs.Binary64.Rounding

namespace CollectivePerception.Binary64

open Float.Model

/-! ### Order -/

/-- What a value is compared by: the class of the value, and the exponent and the significand of
a finite one. -/
def rank : UnpackedFloat → Int × Int × Int
  | .infinity .negative => (-2, 0, 0)
  | .finite .negative significand exponent _ => (-1, -exponent, -significand)
  | .zero _ => (0, 0, 0)
  | .finite .positive significand exponent _ => (1, exponent, significand)
  | .infinity .positive => (2, 0, 0)
  | .notANumber => (0, 0, 0)

/-- The ranks are compared part by part. -/
def RanksBelow (first second : Int × Int × Int) : Prop :=
  first.1 < second.1 ∨ first.1 = second.1 ∧
    (first.2.1 < second.2.1 ∨ first.2.1 = second.2.1 ∧ first.2.2 < second.2.2)

/-- A value is less than another one exactly if both are numbers and its rank is below. -/
theorem compare_eq_lt_iff {x y : UnpackedFloat} :
    x.compare y = some .lt ↔ x ≠ .notANumber ∧ y ≠ .notANumber ∧ RanksBelow (rank x) (rank y) := by
  have signs : compare UnpackedFloat.Sign.negative .positive = .lt := rfl
  rcases x with (_ | _) | _ | _ | ⟨_ | _, _, _, _⟩ <;>
    rcases y with (_ | _) | _ | _ | ⟨_ | _, _, _, _⟩ <;>
    simp [UnpackedFloat.compare, rank, RanksBelow, Ordering.then_eq_lt, Ordering.then_eq_gt,
      compare_lt_iff_lt, compare_gt_iff_gt, signs]

/-- Numbers are compared by their ranks. -/
theorem le_iff_not_ranksBelow {x y : Float} (number : x.isNaN = false) (other : y.isNaN = false) :
    x ≤ y ↔ ¬RanksBelow (rank y.toModel.unpack) (rank x.toModel.unpack) := by
  rw [← not_lt_iff other number, lt_iff, compare_eq_lt_iff,
    and_iff_right (unpack_ne_notANumber other), and_iff_right (unpack_ne_notANumber number)]

theorem le_trans {x y z : Float} (xNumber : x.isNaN = false) (yNumber : y.isNaN = false)
    (zNumber : z.isNaN = false) (first : x ≤ y) (second : y ≤ z) : x ≤ z := by
  rw [le_iff_not_ranksBelow xNumber yNumber] at first
  rw [le_iff_not_ranksBelow yNumber zNumber] at second
  rw [le_iff_not_ranksBelow xNumber zNumber]
  unfold RanksBelow at *
  omega

theorem le_of_lt {x y : Float} (less : x < y) : x ≤ y := by
  rw [lt_iff] at less
  rw [le_iff, less]
  rfl

theorem le_refl {x : Float} (number : x.isNaN = false) : x ≤ x := by
  rw [le_iff_not_ranksBelow number number]
  unfold RanksBelow
  omega

/-! ### The greatest of some numbers -/

/-- The greater one of two values, the first one if neither is greater. -/
def greater (x y : Float) : Float := if x < y then y else x

/-- Neither of two numbers is more than the greater one of them, which is one of the two. -/
theorem greater_spec {x y : Float} (xNumber : x.isNaN = false) (yNumber : y.isNaN = false) :
    (greater x y = x ∨ greater x y = y) ∧ x ≤ greater x y ∧ y ≤ greater x y := by
  rw [greater]
  by_cases less : x < y
  · rw [if_pos less]
    exact ⟨.inr rfl, le_of_lt less, le_refl yNumber⟩
  · rw [if_neg less]
    exact ⟨.inl rfl, le_refl xNumber, (not_lt_iff xNumber yNumber).mp less⟩

/-- Keeping the greater one again and again leaves the greatest of some numbers. -/
theorem foldl_greater {first : Float} {later : List Float}
    (numbers : ∀ x ∈ first :: later, x.isNaN = false) :
    later.foldl greater first ∈ first :: later ∧
      ∀ x ∈ first :: later, x ≤ later.foldl greater first := by
  induction later generalizing first with
  | nil =>
    have number := numbers first List.mem_cons_self
    exact ⟨List.mem_cons_self, List.forall_mem_singleton.mpr (le_refl number)⟩
  | cons second rest inductionHypothesis =>
    obtain ⟨firstNumber, secondNumber, others⟩ : first.isNaN = false ∧ second.isNaN = false ∧
        ∀ x ∈ rest, x.isNaN = false := by
      rwa [List.forall_mem_cons, List.forall_mem_cons] at numbers
    obtain ⟨choice, firstLe, secondLe⟩ := greater_spec firstNumber secondNumber
    have kept : (greater first second).isNaN = false := by
      rcases choice with same | same
      · rw [same, firstNumber]
      · rw [same, secondNumber]
    have remaining : ∀ x ∈ greater first second :: rest, x.isNaN = false := by
      rw [List.forall_mem_cons]
      exact ⟨kept, others⟩
    obtain ⟨among, bounds⟩ := inductionHypothesis remaining
    have last := remaining _ among
    rw [List.forall_mem_cons] at bounds
    rw [List.foldl_cons, List.forall_mem_cons, List.forall_mem_cons]
    refine ⟨?_, le_trans firstNumber kept last firstLe bounds.1,
      le_trans secondNumber kept last secondLe bounds.1, bounds.2⟩
    rcases List.mem_cons.mp among with same | inside
    · rw [same]
      rcases choice with same | same
      · rw [same]
        exact List.mem_cons_self
      · rw [same]
        exact List.mem_cons_of_mem first List.mem_cons_self
    · exact List.mem_cons_of_mem first (List.mem_cons_of_mem second inside)

/-! ### Numbers that are not below zero -/

/-- A number that does not lie below zero. -/
def FromZero (value : UnpackedFloat) : Prop := value.isNaN = false ∧ ¬BelowZero value

theorem fromZero_pack {value : UnpackedFloat} (fromZero : FromZero value) :
    FromZero (Float.Model.pack value).unpack :=
  ⟨(isNaN_unpack_pack value).trans fromZero.1, not_belowZero_pack fromZero.2⟩

theorem FromZero.isNaN_eq {x : Float} (fromZero : FromZero x.toModel.unpack) : x.isNaN = false :=
  fromZero.1

theorem FromZero.zero_le {x : Float} (fromZero : FromZero x.toModel.unpack) : 0.0 ≤ x := by
  rw [← not_lt_iff fromZero.1 (show (0.0 : Float).isNaN = false by rfl), lt_zero_iff]
  exact fromZero.2

theorem fromZero_roundWithAccuracy (significand : Nat) (exponent : Int)
    (accuracy : UnpackedFloat.Accuracy) :
    FromZero (UnpackedFloat.roundWithAccuracy .binary64 .positive significand exponent
      accuracy) := by
  refine ⟨?_, not_belowZero_roundWithAccuracy significand exponent accuracy⟩
  unfold UnpackedFloat.roundWithAccuracy
  dsimp only
  split <;> rfl

section

variable {x factor : Float} {significand : Nat} {exponent : Int} {positive : 0 < significand}
  (fromZero : FromZero x.toModel.unpack)
  (unpacked : factor.toModel.unpack = .finite .positive significand exponent positive)
include fromZero unpacked

theorem fromZero_mul : FromZero (x * factor).toModel.unpack :=
  ⟨(isNaN_mul unpacked).trans fromZero.1, not_belowZero_mul fromZero.2 unpacked⟩

theorem fromZero_div : FromZero (x / factor).toModel.unpack := by
  show FromZero (Float.Model.pack
    (UnpackedFloat.div .binary64 x.toModel.unpack factor.toModel.unpack)).unpack
  refine fromZero_pack ?_
  rw [unpacked]
  generalize x.toModel.unpack = dividend at fromZero ⊢
  rcases dividend with (_ | _) | _ | _ | ⟨_ | _, _, _, _⟩
  · exact absurd trivial fromZero.2
  · exact ⟨rfl, id⟩
  · cases fromZero.1
  · exact ⟨rfl, id⟩
  · exact absurd trivial fromZero.2
  · exact fromZero_roundWithAccuracy _ _ _

end

theorem fromZero_mul_finite {first second : Nat} {firstExponent secondExponent : Int}
    (firstPositive : 0 < first) (secondPositive : 0 < second) :
    FromZero (UnpackedFloat.mul .binary64 (.finite .positive first firstExponent firstPositive)
      (.finite .positive second secondExponent secondPositive)) :=
  fromZero_roundWithAccuracy _ _ _

theorem fromZero_unpackedOfNat (count : Nat) : FromZero (UnpackedFloat.ofNat .binary64 count) := by
  show FromZero (UnpackedFloat.normalize .binary64 (count : Int) 0 .positive)
  unfold UnpackedFloat.normalize
  split
  · rename_i negative
    rw [compare_lt_iff_lt] at negative
    omega
  · exact ⟨rfl, id⟩
  · exact fromZero_roundWithAccuracy _ _ _

/-- A count is a number that does not lie below zero, even if it is too large for a finite one. -/
theorem fromZero_ofNat (count : Nat) : FromZero (Float.ofNat count).toModel.unpack := by
  show FromZero (Float.ofScientific count false 0).toModel.unpack
  unfold Float.ofScientific
  split
  · have one : Float.exactlyRepresentablePowersOfTen[0].toModel.unpack =
        .finite .positive (2 ^ 52) (-52) (by decide) := rfl
    exact fromZero_mul (fromZero_pack (fromZero_unpackedOfNat _)) one
  · show FromZero (Float.Model.pack (UnpackedFloat.ofScientific .binary64 count 0)).unpack
    refine fromZero_pack ?_
    unfold UnpackedFloat.ofScientific
    by_cases zero : count = 0
    · rw [dif_pos zero]
      exact ⟨rfl, id⟩
    · have bounded : ¬(0 : Int) > 2 ^ Format.binary64.exponentBits := by decide
      have above : ¬(0 : Int) < -(2 ^ Format.binary64.exponentBits + (count.log2 : Int)) := by
        have width : (0 : Int) < 2 ^ Format.binary64.exponentBits := by decide
        omega
      rw [dif_neg zero, if_neg bounded, if_neg above, if_pos (Int.le_refl 0)]
      exact fromZero_mul_finite _ _

end CollectivePerception.Binary64
