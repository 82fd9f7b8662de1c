/-
This file proves that the comparison of two directions measures the circular distance between
them. In exact arithmetic, with any positive half turn, two directions are similar exactly if
some number of whole turns brings them together up to the limit (`similar_measuresCircle`). So
neither the order of the two nor a number of whole turns in either of them matters, and a wider
limit admits all that a narrower one does.
-/

import CollectivePerception.Geometry
import Mathlib

namespace CollectivePerception.Exact

variable {Number : Type} [Field Number] [LinearOrder Number]

/-! ### Distance on a circle -/

/-- What is similar up to a limit is what lies within the limit on a circle of the given length. -/
structure MeasuresCircle (whole : Number) (similar : Number → Number → Number → Bool) : Prop where
  /-- Some number of whole turns brings the two directions within the limit. -/
  within_turns : ∀ first second limit, similar first second limit = true ↔
    ∃ turns : ℤ, |first - second + turns * whole| ≤ |limit|
  symmetric : ∀ first second limit, similar first second limit = similar second first limit
  /-- Whole turns in either direction make no difference. -/
  periodic : ∀ first second limit, ∀ firstTurns secondTurns : ℤ,
    similar (first + firstTurns * whole) (second + secondTurns * whole) limit =
      similar first second limit
  monotone : ∀ first second limit wider, |limit| ≤ |wider| →
    similar first second limit = true → similar first second wider = true

/-- Whatever lies within the limit on a circle does so in either order, after any number of
turns, and within wider limits. -/
theorem MeasuresCircle.of_within_turns {whole : Number}
    {similar : Number → Number → Number → Bool}
    (within : ∀ first second limit, similar first second limit = true ↔
      ∃ turns : ℤ, |first - second + turns * whole| ≤ |limit|) :
    MeasuresCircle whole similar where
  within_turns := within
  symmetric first second limit := by
    rw [Bool.eq_iff_iff, within, within]
    -- The way back from the second direction to the first takes the turns the other way round.
    have reversed (start goal : Number) (turns : ℤ) :
        |goal - start + (-turns : ℤ) * whole| = |start - goal + turns * whole| := by
      rw [← abs_neg]
      push_cast
      ring_nf
    constructor
    · rintro ⟨turns, close⟩
      exact ⟨-turns, (reversed first second turns).trans_le close⟩
    · rintro ⟨turns, close⟩
      exact ⟨-turns, (reversed second first turns).trans_le close⟩
  periodic first second limit firstTurns secondTurns := by
    rw [Bool.eq_iff_iff, within, within]
    have shifted (turns : ℤ) :
        first + firstTurns * whole - (second + secondTurns * whole) + turns * whole =
          first - second + (turns + firstTurns - secondTurns : ℤ) * whole := by
      push_cast
      ring
    constructor
    · rintro ⟨turns, close⟩
      rw [shifted] at close
      exact ⟨_, close⟩
    · rintro ⟨turns, close⟩
      refine ⟨turns - firstTurns + secondTurns, ?_⟩
      rw [shifted]
      ring_nf at close ⊢
      exact close
  monotone first second limit wider wide similarity := by
    rw [within] at similarity ⊢
    obtain ⟨turns, close⟩ := similarity
    exact ⟨turns, close.trans wide⟩

/-! ### The shorter way around -/

variable [IsStrictOrderedRing Number]

/-- Of the two ways between two folded directions the comparison takes the shorter one. -/
theorem shorter_eq_min (half difference : Number) :
    (if half < difference then 2 * half - difference else difference) =
      min difference (2 * half - difference) := by
  by_cases far : half < difference
  · rw [if_pos far, min_eq_right (by linarith)]
  · rw [if_neg far, min_eq_left (by linarith)]

/-- No number of whole turns brings two directions closer together than the shorter way around. -/
theorem shorter_le_abs_add_turns {half difference : Number} (positive : 0 < half)
    (turns : ℤ) :
    min |difference| (2 * half - |difference|) ≤ |difference + turns * (2 * half)| := by
  rcases lt_trichotomy turns 0 with backwards | rfl | forwards
  · have atLeast : (turns : Number) ≤ -1 := by exact_mod_cast Int.le_sub_one_of_lt backwards
    have turned : turns * (2 * half) ≤ -1 * (2 * half) :=
      mul_le_mul_of_nonneg_right atLeast (by linarith)
    calc
      min |difference| (2 * half - |difference|) ≤ 2 * half - |difference| := min_le_right _ _
      _ ≤ 2 * half - difference := by linarith [le_abs_self difference]
      _ ≤ -(difference + turns * (2 * half)) := by linarith
      _ ≤ |difference + turns * (2 * half)| := neg_le_abs _
  · rw [Int.cast_zero, zero_mul, add_zero]
    exact min_le_left _ _
  · have atLeast : (1 : Number) ≤ turns := by exact_mod_cast forwards
    have turned : 1 * (2 * half) ≤ turns * (2 * half) :=
      mul_le_mul_of_nonneg_right atLeast (by linarith)
    calc
      min |difference| (2 * half - |difference|) ≤ 2 * half - |difference| := min_le_right _ _
      _ ≤ 2 * half + difference := by linarith [neg_le_abs difference]
      _ ≤ difference + turns * (2 * half) := by linarith
      _ ≤ |difference + turns * (2 * half)| := le_abs_self _

/-- The shorter way around is that with no turn or with one, against the sign of the difference. -/
theorem exists_turns_eq_shorter {half difference : Number} (near : |difference| < 2 * half) :
    ∃ turns : ℤ, |difference + turns * (2 * half)| =
      min |difference| (2 * half - |difference|) := by
  rcases le_total |difference| (2 * half - |difference|) with short | long
  · exact ⟨0, by rw [Int.cast_zero, zero_mul, add_zero, min_eq_left short]⟩
  · rw [min_eq_right long]
    rcases le_total 0 difference with ahead | behind
    · rw [abs_of_nonneg ahead] at near ⊢
      refine ⟨-1, ?_⟩
      rw [Int.cast_neg, Int.cast_one, neg_one_mul, abs_of_nonpos (by linarith)]
      ring
    · rw [abs_of_nonpos behind] at near ⊢
      refine ⟨1, ?_⟩
      rw [Int.cast_one, one_mul, abs_of_nonneg (by linarith)]
      ring

/-! ### Exact arithmetic -/

variable [FloorRing Number]

/-- The integer next to a number on the way to zero. -/
def truncate (x : Number) : Int := if 0 ≤ x then ⌊x⌋ else ⌈x⌉

/-- The remainder of `x` divided by `modulus`, with the sign of `x`. -/
def remainder (x modulus : Number) : Number := x - truncate (x / modulus) * modulus

/-- The remainder folded into the non-negative range by one addition of the modulus. -/
def euclideanRemainder (x modulus : Number) : Number :=
  let rest := remainder x modulus
  if rest < 0 then rest + |modulus| else rest

/-- Directions as exact numbers, in a unit in which a half turn is `half`. -/
def arithmetic (half : Number) : Arithmetic Number where
  half := half
  whole := 2 * half
  subtract first second := first - second
  absolute x := |x|
  fold x := euclideanRemainder x (2 * half)
  less first second := decide (first < second)
  atMost first second := decide (first ≤ second)

/-- Folding takes off whole turns. -/
theorem euclideanRemainder_eq {modulus : Number} (positive : 0 < modulus) (x : Number) :
    euclideanRemainder x modulus = x - ⌊x / modulus⌋ * modulus := by
  have below : ⌊x / modulus⌋ * modulus ≤ x := (le_div_iff₀ positive).mp (Int.floor_le _)
  unfold euclideanRemainder remainder truncate
  by_cases nonneg : 0 ≤ x / modulus
  · simp only [if_pos nonneg]
    rw [if_neg (not_lt.mpr (sub_nonneg.mpr below))]
  · simp only [if_neg nonneg]
    have notAbove : x ≤ ⌈x / modulus⌉ * modulus := (div_le_iff₀ positive).mp (Int.le_ceil _)
    by_cases whole : x = ⌈x / modulus⌉ * modulus
    · -- A number of whole turns leaves nothing, whichever way its quotient is rounded.
      have quotient : x / modulus = ⌈x / modulus⌉ := (div_eq_iff positive.ne').mpr whole
      have same : ⌊x / modulus⌋ = ⌈x / modulus⌉ := by
        rw [quotient, Int.floor_intCast, Int.ceil_intCast]
      rw [same, ← whole, sub_self, if_neg (lt_irrefl 0)]
    · have negative : x - ⌈x / modulus⌉ * modulus < 0 :=
        sub_neg.mpr (lt_of_le_of_ne notAbove whole)
      have next : ⌈x / modulus⌉ = ⌊x / modulus⌋ + 1 := by
        refine le_antisymm (Int.ceil_le_floor_add_one _) (Int.add_one_le_of_lt ?_)
        refine Int.lt_ceil.mpr (lt_of_le_of_ne (Int.floor_le _) fun same => whole ?_)
        rw [← same, Int.ceil_intCast, same, div_mul_cancel₀ x positive.ne']
      rw [if_pos negative, abs_of_pos positive, next]
      push_cast
      ring

theorem euclideanRemainder_nonneg {modulus : Number} (positive : 0 < modulus) (x : Number) :
    0 ≤ euclideanRemainder x modulus := by
  rw [euclideanRemainder_eq positive, sub_nonneg]
  exact (le_div_iff₀ positive).mp (Int.floor_le _)

theorem euclideanRemainder_lt {modulus : Number} (positive : 0 < modulus) (x : Number) :
    euclideanRemainder x modulus < modulus := by
  have above : x < (⌊x / modulus⌋ + 1) * modulus :=
    (div_lt_iff₀ positive).mp (Int.lt_floor_add_one _)
  rw [euclideanRemainder_eq positive]
  linarith

/-! ### Comparing directions -/

theorem similar_eq (half first second limit : Number) :
    (arithmetic half).similar first second limit =
      decide (min
        |euclideanRemainder first (2 * half) - euclideanRemainder second (2 * half)|
        (2 * half - |euclideanRemainder first (2 * half) -
          euclideanRemainder second (2 * half)|) ≤ |limit|) := by
  rw [← shorter_eq_min]
  simp only [Arithmetic.similar, arithmetic, decide_eq_true_eq]

/-- The comparison of two directions, in exact arithmetic and with any positive half turn,
measures the distance on the circle: the directions are similar exactly if some number of whole
turns brings them within the limit. -/
theorem similar_measuresCircle {half : Number} (positive : 0 < half) :
    MeasuresCircle (2 * half) (arithmetic half).similar := by
  refine .of_within_turns fun first second limit => ?_
  have whole : 0 < 2 * half := by linarith
  generalize difference : euclideanRemainder first (2 * half) -
    euclideanRemainder second (2 * half) = folded
  have near : |folded| < 2 * half := by
    have firstNonneg := euclideanRemainder_nonneg whole first
    have firstLess := euclideanRemainder_lt whole first
    have secondNonneg := euclideanRemainder_nonneg whole second
    have secondLess := euclideanRemainder_lt whole second
    exact abs_lt.mpr ⟨by linarith, by linarith⟩
  obtain ⟨taken, apart⟩ : ∃ taken : ℤ, folded = first - second + taken * (2 * half) := by
    refine ⟨⌊second / (2 * half)⌋ - ⌊first / (2 * half)⌋, ?_⟩
    rw [← difference, euclideanRemainder_eq whole, euclideanRemainder_eq whole]
    push_cast
    ring
  have shifted (turns : ℤ) : folded + turns * (2 * half) =
      first - second + (taken + turns : ℤ) * (2 * half) := by
    rw [apart]
    push_cast
    ring
  rw [similar_eq, decide_eq_true_iff, difference]
  constructor
  · intro close
    obtain ⟨turns, shortest⟩ := exists_turns_eq_shorter near
    refine ⟨taken + turns, ?_⟩
    rw [← shifted, shortest]
    exact close
  · rintro ⟨turns, close⟩
    refine (shorter_le_abs_add_turns positive (turns - taken)).trans ?_
    rw [shifted, add_sub_cancel]
    exact close

/-- With 180 for a half turn, 358 and -3239 are three apart, across the direction of zero and
after ten turns back. The sign of the limit does not matter. -/
theorem degrees_measureCircle : (0 : ℚ) < 180 ∧
    MeasuresCircle (2 * 180 : ℚ) (arithmetic 180).similar ∧
    (arithmetic (180 : ℚ)).similar 358 (-3239) (-3) = true ∧
    (arithmetic (180 : ℚ)).similar 358 (-3239) 2 = false :=
  ⟨by norm_num, similar_measuresCircle (by norm_num), by decide +kernel, by decide +kernel⟩

end CollectivePerception.Exact
