/-
This file proves that the fewest digits that are written for a double read back as the double.
They name a number that is rounded to it (`shortest_roundsTo`), and such a number is read as the
double (`nearestDouble_eq`). The decimal lies in the interval of the quotients that are rounded to
the double (`Interval.roundsTo_of_holds`), and one is always found, because seventeen digits leave
less than a unit of the last binary place between two decimals (`Interval.onGrid?_ne_none`).
-/

import CollectivePerception.Decimal.Reading
import CollectivePerception.Proofs.Binary64.Nearest

namespace CollectivePerception.Decimal

open Binary64

/-! ### Fractions -/

/-- The number that a fraction stands for. -/
def fractionValue (fraction : Nat × Nat) : ℚ := fraction.1 / fraction.2

/-- The number that a decimal stands for. -/
def Digits.value (decimal : Digits) : ℚ := decimal.digits * 10 ^ decimal.power

theorem fraction_snd_pos (significand : Nat) (exponent : Int) :
    0 < (fraction significand exponent).2 := Nat.two_pow_pos _

theorem fractionValue_fraction (significand : Nat) (exponent : Int) :
    fractionValue (fraction significand exponent) = significand * 2 ^ exponent := by
  rw [fractionValue, fraction, Nat.pow_eq, Nat.pow_eq]
  obtain ⟨places, rfl | rfl⟩ := exponent.eq_nat_or_neg
  · simp
  · simp [div_eq_mul_inv]

theorem timesPowerOfTen_snd_pos {value : Nat × Nat} (positive : 0 < value.2) (power : Int) :
    0 < (timesPowerOfTen value power).2 := Nat.mul_pos positive (Nat.pow_pos (by decide))

theorem timesPowerOfTen_fst_pos {value : Nat × Nat} (positive : 0 < value.1) (power : Int) :
    0 < (timesPowerOfTen value power).1 := Nat.mul_pos positive (Nat.pow_pos (by decide))

theorem fractionValue_timesPowerOfTen (value : Nat × Nat) (power : Int) :
    fractionValue (timesPowerOfTen value power) = fractionValue value * 10 ^ power := by
  rw [fractionValue, timesPowerOfTen, fractionValue, Nat.pow_eq, Nat.pow_eq]
  obtain ⟨places, rfl | rfl⟩ := power.eq_nat_or_neg
  · simp
    ring
  · simp
    ring

/-- The fraction that a decimal is compared and read as. -/
theorem fractionValue_digits (decimal : Digits) :
    fractionValue (timesPowerOfTen (decimal.digits, 1) decimal.power) = decimal.value := by
  rw [fractionValue_timesPowerOfTen, fractionValue, Nat.cast_one, div_one, Digits.value]

/-! ### Leading digits -/

/-- A positive number with `n` digits lies between two neighbouring powers of ten. -/
theorem digitCount_bounds {n : Nat} (positive : 0 < n) :
    (10 : ℚ) ^ ((digitCount n : Int) - 1) ≤ n ∧ (n : ℚ) < 10 ^ (digitCount n : Int) := by
  have some : 0 < digitCount n := Nat.length_repr_pos
  obtain ⟨count, same⟩ : ∃ count, digitCount n = count + 1 := ⟨digitCount n - 1, by omega⟩
  constructor
  · have lower : 10 ^ count ≤ n := by
      rcases count with _ | count
      · exact positive
      · by_contra less
        have short := (Nat.length_repr_le_iff (Nat.succ_pos count)).mpr (not_le.mp less)
        rw [digitCount] at same
        omega
    rw [same, Nat.cast_add_one, add_sub_cancel_right, zpow_natCast]
    exact_mod_cast lower
  · have upper : n < 10 ^ digitCount n := (Nat.length_repr_le_iff some).mp le_rfl
    rw [zpow_natCast]
    exact_mod_cast upper

theorem one_le_fractionValue_iff {value : Nat × Nat} (positive : 0 < value.2) :
    1 ≤ fractionValue value ↔ value.2 ≤ value.1 := by
  rw [fractionValue, one_le_div (by exact_mod_cast positive), Nat.cast_le]

/-- A positive fraction lies between two neighbouring powers of ten. -/
theorem leadingPower_bounds {value : Nat × Nat} (above : 0 < value.1) (below : 0 < value.2) :
    (10 : ℚ) ^ leadingPower value ≤ fractionValue value ∧
      fractionValue value < 10 ^ (leadingPower value + 1) := by
  obtain ⟨guess, guessed⟩ : ∃ guess : Int, guess = digitCount value.1 - digitCount value.2 :=
    ⟨_, rfl⟩
  have compared : (timesPowerOfTen value (-guess)).2 ≤ (timesPowerOfTen value (-guess)).1 ↔
      (10 : ℚ) ^ guess ≤ fractionValue value := by
    rw [← one_le_fractionValue_iff (timesPowerOfTen_snd_pos below _),
      fractionValue_timesPowerOfTen, zpow_neg, ← div_eq_mul_inv, one_le_div (by positivity)]
  have leading : leadingPower value =
      if (10 : ℚ) ^ guess ≤ fractionValue value then guess else guess - 1 := by
    simp only [leadingPower, ← guessed, compared]
  obtain ⟨leastAbove, mostAbove⟩ := digitCount_bounds above
  obtain ⟨leastBelow, mostBelow⟩ := digitCount_bounds below
  have positive : (0 : ℚ) < value.2 := by exact_mod_cast below
  rw [leading]
  split
  · rename_i reached
    refine ⟨reached, ?_⟩
    rw [fractionValue, div_lt_iff₀ positive]
    calc (value.1 : ℚ) < 10 ^ (digitCount value.1 : Int) := mostAbove
      _ = 10 ^ (guess + 1) * 10 ^ ((digitCount value.2 : Int) - 1) := by
        rw [← zpow_add₀ (by norm_num)]
        congr 1
        omega
      _ ≤ 10 ^ (guess + 1) * value.2 := by gcongr
  · rename_i missed
    refine ⟨?_, by simpa using missed⟩
    rw [fractionValue, le_div_iff₀ positive]
    calc (10 : ℚ) ^ (guess - 1) * value.2
        ≤ 10 ^ (guess - 1) * 10 ^ (digitCount value.2 : Int) := by gcongr
      _ = 10 ^ ((digitCount value.1 : Int) - 1) := by
        rw [← zpow_add₀ (by norm_num)]
        congr 1
        omega
      _ ≤ value.1 := leastAbove

/-! ### The interval of a double -/

section

variable {unit value : Nat × Nat} (unitPositive : 0 < unit.2) (positive : 0 < value.2) (count : Nat)
include unitPositive positive

theorem units_le_iff :
    count * unit.1 * value.2 ≤ value.1 * unit.2 ↔
      count * fractionValue unit ≤ fractionValue value := by
  have unitAbove : (0 : ℚ) < unit.2 := by exact_mod_cast unitPositive
  have above : (0 : ℚ) < value.2 := by exact_mod_cast positive
  rw [fractionValue, fractionValue, ← mul_div_assoc, div_le_div_iff₀ unitAbove above]
  exact_mod_cast Iff.rfl

theorem le_units_iff :
    value.1 * unit.2 ≤ count * unit.1 * value.2 ↔
      fractionValue value ≤ count * fractionValue unit := by
  have unitAbove : (0 : ℚ) < unit.2 := by exact_mod_cast unitPositive
  have above : (0 : ℚ) < value.2 := by exact_mod_cast positive
  rw [fractionValue, fractionValue, ← mul_div_assoc, div_le_div_iff₀ above unitAbove]
  exact_mod_cast Iff.rfl

end

section

variable {interval : Interval} {decimal : Digits} {significand : Nat} {exponent power : Int}

/-- A decimal is accepted if it lies in the interval, whose ends count only if they belong to
it. -/
theorem Interval.holds_iff : interval.holds decimal = true ↔
    if interval.border then
      interval.low * 2 ^ interval.quarter ≤ decimal.value ∧
        decimal.value ≤ interval.high * 2 ^ interval.quarter
    else
      interval.low * 2 ^ interval.quarter < decimal.value ∧
        decimal.value < interval.high * 2 ^ interval.quarter := by
  have unit : fractionValue (fraction 1 interval.quarter) = 2 ^ interval.quarter := by
    rw [fractionValue_fraction, Nat.cast_one, one_mul]
  have unitPositive := fraction_snd_pos 1 interval.quarter
  have positive : 0 < (timesPowerOfTen (decimal.digits, 1) decimal.power).2 :=
    timesPowerOfTen_snd_pos Nat.one_pos _
  have least := units_le_iff unitPositive positive
  have greatest := le_units_iff unitPositive positive
  rw [unit, fractionValue_digits] at least greatest
  cases border : interval.border with
  | true =>
    simp only [holds, border, if_true, Bool.and_eq_true, decide_eq_true_eq, least, greatest]
  | false =>
    simp only [holds, border, Bool.false_eq_true, if_false, Bool.and_eq_true, decide_eq_true_eq,
      ← not_le, least, greatest]

/-- The interval of a double, counted in units of its last place. -/
theorem Interval.holds_around_iff (positive : 0 < significand) :
    (Interval.around significand exponent).holds decimal = true ↔
      if significand % 2 = 0 then
        significand - reachBelow significand exponent ≤ decimal.value / 2 ^ exponent ∧
          decimal.value / 2 ^ exponent ≤ significand + 1 / 2
      else
        significand - reachBelow significand exponent < decimal.value / 2 ^ exponent ∧
          decimal.value / 2 ^ exponent < significand + 1 / 2 := by
  have unit : (0 : ℚ) < 2 ^ exponent := by positivity
  have quarter : (2 : ℚ) ^ (exponent - 2) = 2 ^ exponent / 4 := by
    rw [zpow_sub₀ two_ne_zero]
    norm_num
  have low : ((Interval.around significand exponent).low : ℚ) * 2 ^ (exponent - 2) =
      (significand - reachBelow significand exponent) * 2 ^ exponent := by
    rw [quarter, reachBelow, around]
    dsimp only
    by_cases finer : significand = 4503599627370496 ∧ -1074 < exponent
    · rw [if_pos finer, if_pos (c := significand = 2 ^ 52 ∧ _) finer, Nat.cast_sub (by omega)]
      push_cast
      ring
    · rw [if_neg finer, if_neg (c := significand = 2 ^ 52 ∧ _) finer, Nat.cast_sub (by omega)]
      push_cast
      ring
  have high : ((Interval.around significand exponent).high : ℚ) * 2 ^ (exponent - 2) =
      (significand + 1 / 2) * 2 ^ exponent := by
    rw [quarter, around]
    push_cast
    ring
  have border : (Interval.around significand exponent).border = decide (significand % 2 = 0) := rfl
  rw [holds_iff, border, le_div_iff₀ unit, div_le_iff₀ unit, lt_div_iff₀ unit, div_lt_iff₀ unit,
    ← low, ← high]
  simp only [decide_eq_true_eq]
  rfl

/-- A decimal that is accepted is rounded to the double. -/
theorem Interval.roundsTo_of_holds (positive : 0 < significand)
    (holds : (Interval.around significand exponent).holds decimal = true) :
    RoundsTo (decimal.value / 2 ^ exponent) significand exponent := by
  rw [holds_around_iff positive] at holds
  split at holds
  · rename_i even
    exact ⟨holds.1, holds.2, fun _ => even⟩
  · refine ⟨holds.1.le, holds.2.le, ?_⟩
    rintro (same | same)
    · have reach := reachBelow_le significand exponent
      linarith [holds.1]
    · exact absurd same holds.2.ne

/-- A decimal strictly inside the interval is accepted. -/
theorem Interval.holds_of_lt (positive : 0 < significand)
    (above : significand - reachBelow significand exponent < decimal.value / 2 ^ exponent)
    (below : decimal.value / 2 ^ exponent < significand + 1 / 2) :
    (Interval.around significand exponent).holds decimal = true := by
  rw [holds_around_iff positive]
  split
  · exact ⟨above.le, below.le⟩
  · exact ⟨above, below⟩

/-! ### Seventeen digits suffice -/

theorem Interval.holds_of_onGrid? (found : interval.onGrid? power = some decimal) :
    interval.holds decimal = true := by
  unfold onGrid? at found
  dsimp only at found
  split at found
  · rename_i below above
    cases found
    rw [roundHalfEven]
    split
    · exact below
    · exact above
  · rename_i below _
    cases found
    exact below
  · rename_i _ above
    cases found
    exact above
  · cases found

theorem Interval.not_holds_of_onGrid? (missing : interval.onGrid? power = none) :
    ∃ numerator denominator,
      timesPowerOfTen (fraction interval.value interval.quarter) (-power) =
          (numerator, denominator) ∧
        interval.holds ⟨numerator / denominator, power⟩ ≠ true ∧
        interval.holds ⟨numerator / denominator + 1, power⟩ ≠ true := by
  unfold onGrid? at missing
  dsimp only at missing
  split at missing
  · cases missing
  · cases missing
  · cases missing
  · rename_i below above
    exact ⟨_, _, rfl, ne_true_of_eq_false below, ne_true_of_eq_false above⟩

theorem Interval.fractionValue_around (significand : Nat) (exponent power : Int) :
    fractionValue (timesPowerOfTen (fraction (around significand exponent).value
      (around significand exponent).quarter) (-power)) =
      significand * 2 ^ exponent / 10 ^ power := by
  rw [fractionValue_timesPowerOfTen, fractionValue_fraction, around, zpow_sub₀ two_ne_zero,
    zpow_neg]
  push_cast
  ring

/-- Of the two decimals beside a double one is accepted if they are close enough. -/
theorem Interval.onGrid?_ne_none (positive : 0 < significand)
    (fine : (10 : ℚ) ^ power < (1 / 2 + reachBelow significand exponent) * 2 ^ exponent) :
    (around significand exponent).onGrid? power ≠ none := by
  intro missing
  obtain ⟨numerator, denominator, scaled, notBelow, notAbove⟩ := not_holds_of_onGrid? missing
  have whole := timesPowerOfTen_snd_pos (fraction_snd_pos (around significand exponent).value
    (around significand exponent).quarter) (-power)
  have counted := fractionValue_around significand exponent power
  rw [scaled] at whole counted
  have unit : (0 : ℚ) < 2 ^ exponent := by positivity
  have grid : (0 : ℚ) < 10 ^ power := by positivity
  have reach := quarter_le_reachBelow significand exponent
  have lower : Digits.value ⟨numerator / denominator, power⟩ ≤ significand * 2 ^ exponent := by
    rw [Digits.value, ← le_div_iff₀ grid, ← counted]
    exact Nat.cast_div_le
  have upper : significand * 2 ^ exponent < Digits.value ⟨numerator / denominator + 1, power⟩ := by
    rw [Digits.value, ← div_lt_iff₀ grid, ← counted, fractionValue,
      div_lt_iff₀ (by exact_mod_cast whole)]
    exact_mod_cast Nat.lt_mul_of_div_lt (Nat.lt_succ_self _) whole
  have apart : Digits.value ⟨numerator / denominator + 1, power⟩ =
      Digits.value ⟨numerator / denominator, power⟩ + 10 ^ power := by
    rw [Digits.value, Digits.value]
    push_cast
    ring
  rw [← div_le_iff₀ unit] at lower
  rw [← lt_div_iff₀ unit] at upper
  have farBelow : Digits.value ⟨numerator / denominator, power⟩ / 2 ^ exponent ≤
      significand - reachBelow significand exponent :=
    not_lt.mp fun near => notBelow (holds_of_lt positive near (by linarith))
  have farAbove : significand + 1 / 2 ≤
      Digits.value ⟨numerator / denominator + 1, power⟩ / 2 ^ exponent :=
    not_lt.mp fun near => notAbove (holds_of_lt positive (by linarith) near)
  rw [apart, add_div] at farAbove
  rw [← div_lt_iff₀ unit] at fine
  linarith

/-- The value of a decimal does not depend on the zeros at its end. -/
theorem Digits.value_trimmed (decimal : Digits) (limit : Nat) :
    (decimal.trimmed limit).value = decimal.value := by
  induction limit generalizing decimal with
  | zero => rfl
  | succ limit inductionHypothesis =>
    rw [trimmed]
    split
    · rename_i last
      rw [inductionHypothesis, value, value, zpow_add_one₀ (by norm_num)]
      have tens : (decimal.digits : ℚ) = 10 * (decimal.digits / 10 : Nat) := by
        exact_mod_cast (Nat.mul_div_cancel' (Nat.dvd_of_mod_eq_zero last)).symm
      rw [tens]
      push_cast
      ring
    · rfl

/-- Seventeen digits leave less than the interval between two decimals. -/
theorem seventeen_digits_suffice (positive : 0 < significand) (small : significand < 2 ^ 53) :
    (Interval.around significand exponent).onGrid?
      (leadingPower (fraction significand exponent) - (16 : Nat)) ≠ none := by
  have unit : (0 : ℚ) < 2 ^ exponent := by positivity
  have above : 0 < (fraction significand exponent).1 := Nat.mul_pos positive (Nat.two_pow_pos _)
  obtain ⟨leading, _⟩ := leadingPower_bounds above (fraction_snd_pos significand exponent)
  rw [fractionValue_fraction] at leading
  have size : (significand : ℚ) < (1 / 2 + reachBelow significand exponent) * 10 ^ 16 := by
    rw [reachBelow]
    split
    · rename_i finer
      rw [finer.1]
      norm_num
    · have bound : (significand : ℚ) < 2 ^ 53 := by exact_mod_cast small
      norm_num at bound ⊢
      linarith
  refine Interval.onGrid?_ne_none positive ?_
  calc (10 : ℚ) ^ (leadingPower (fraction significand exponent) - (16 : Nat))
      = 10 ^ leadingPower (fraction significand exponent) / 10 ^ 16 := by
        rw [zpow_sub₀ (by norm_num), zpow_natCast]
    _ ≤ significand * 2 ^ exponent / 10 ^ 16 := by gcongr
    _ < (1 / 2 + reachBelow significand exponent) * 10 ^ 16 * 2 ^ exponent / 10 ^ 16 := by gcongr
    _ = (1 / 2 + reachBelow significand exponent) * 2 ^ exponent := by ring

/-- The fewest digits that are written for a double name a number that is rounded to it. -/
theorem shortest_roundsTo (positive : 0 < significand) (small : significand < 2 ^ 53) :
    RoundsTo ((shortest significand exponent).value / 2 ^ exponent) significand exponent := by
  rw [shortest, Digits.value_trimmed]
  cases search : (List.range 17).findSome? fun (places : Nat) =>
      (Interval.around significand exponent).onGrid?
        (leadingPower (fraction significand exponent) - places) with
  | none =>
    exact absurd (List.findSome?_eq_none_iff.mp search 16 (by decide))
      (seventeen_digits_suffice positive small)
  | some decimal =>
    obtain ⟨places, _, found⟩ := List.exists_of_findSome?_eq_some search
    exact Interval.roundsTo_of_holds positive (Interval.holds_of_onGrid? found)

end

/-! ### Reading back -/

/-- A decimal that is rounded to a positive double has a leading digit that is neither too small
nor too large to be read. -/
theorem leading_of_roundsTo {significand digits : Nat} {exponent power : Int}
    (positive : 0 < significand) (small : significand < 2 ^ 53) (least : -1074 ≤ exponent)
    (most : exponent ≤ 971)
    (rounds : RoundsTo (Digits.value ⟨digits, power⟩ / 2 ^ exponent) significand exponent) :
    digits ≠ 0 ∧ -powerLimit ≤ power + (digitCount digits - 1 : Nat) ∧
      power + (digitCount digits - 1 : Nat) ≤ powerLimit := by
  have unit : (0 : ℚ) < 2 ^ exponent := by positivity
  have one : (1 : ℚ) ≤ significand := by exact_mod_cast positive
  have bound : (significand : ℚ) + 1 ≤ 2 ^ 53 := by exact_mod_cast small
  have lower : (2 : ℚ) ^ (-1075 : Int) ≤ Digits.value ⟨digits, power⟩ := by
    have half : (1 : ℚ) / 2 ≤ Digits.value ⟨digits, power⟩ / 2 ^ exponent := by
      linarith [rounds.half_above]
    calc (2 : ℚ) ^ (-1075 : Int) ≤ 2 ^ (exponent - 1) := zpow_le_zpow_right₀ one_le_two (by omega)
      _ = 1 / 2 * 2 ^ exponent := by
        rw [zpow_sub_one₀ two_ne_zero]
        ring
      _ ≤ Digits.value ⟨digits, power⟩ := (le_div_iff₀ unit).mp half
  have upper : Digits.value ⟨digits, power⟩ < (2 : ℚ) ^ (1024 : Int) := by
    have full : Digits.value ⟨digits, power⟩ / 2 ^ exponent < 2 ^ 53 := by
      linarith [rounds.below]
    calc Digits.value ⟨digits, power⟩ < 2 ^ 53 * 2 ^ exponent := (div_lt_iff₀ unit).mp full
      _ = 2 ^ (53 + exponent) := by rw [zpow_add₀ two_ne_zero, zpow_ofNat]
      _ ≤ 2 ^ (1024 : Int) := zpow_le_zpow_right₀ one_le_two (by omega)
  have some : digits ≠ 0 := by
    rintro rfl
    rw [Digits.value, Nat.cast_zero, zero_mul] at lower
    exact absurd lower (not_le.mpr (by positivity))
  obtain ⟨leading, following⟩ := digitCount_bounds (Nat.pos_of_ne_zero some)
  have count : 0 < digitCount digits := Nat.length_repr_pos
  have size : (2 : ℚ) ^ (1075 : Int) ≤ 10 ^ (400 : Int) := by
    have part : ((2 : ℚ) ^ 43) ^ 25 ≤ (10 ^ 16) ^ 25 :=
      pow_le_pow_left₀ (by positivity) (by norm_num) 25
    rwa [← pow_mul, ← pow_mul] at part
  have grid : (0 : ℚ) < 10 ^ power := by positivity
  refine ⟨some, ?_, ?_⟩
  · by_contra tiny
    have below : (digitCount digits : Int) + power ≤ -400 := by
      rw [powerLimit] at tiny
      omega
    refine absurd lower (not_le.mpr ?_)
    calc Digits.value ⟨digits, power⟩ < 10 ^ (digitCount digits : Int) * 10 ^ power :=
          mul_lt_mul_of_pos_right following grid
      _ = 10 ^ ((digitCount digits : Int) + power) := (zpow_add₀ (by norm_num) ..).symm
      _ ≤ 10 ^ (-400 : Int) := zpow_le_zpow_right₀ (by norm_num) below
      _ ≤ 2 ^ (-1075 : Int) := by
        rw [zpow_neg, zpow_neg]
        exact inv_anti₀ (by positivity) size
  · by_contra huge
    have above : (400 : Int) ≤ digitCount digits - 1 + power := by
      rw [powerLimit] at huge
      omega
    refine absurd upper (not_lt.mpr ?_)
    calc (2 : ℚ) ^ (1024 : Int) ≤ 2 ^ (1075 : Int) := zpow_le_zpow_right₀ one_le_two (by decide)
      _ ≤ 10 ^ (400 : Int) := size
      _ ≤ 10 ^ ((digitCount digits : Int) - 1 + power) := zpow_le_zpow_right₀ (by norm_num) above
      _ = 10 ^ ((digitCount digits : Int) - 1) * 10 ^ power := zpow_add₀ (by norm_num) ..
      _ ≤ Digits.value ⟨digits, power⟩ := mul_le_mul_of_nonneg_right leading grid.le

/-- The double nearest to a decimal is the one that the decimal is rounded to. -/
theorem nearestDouble_eq {x : Float} {sign : Float.Model.UnpackedFloat.Sign} {significand : Nat}
    {exponent : Int} {positive : 0 < significand}
    (unpacked : x.toModel.unpack = .finite sign significand exponent positive)
    {digits : Nat} {power : Int}
    (rounds : RoundsTo (Digits.value ⟨digits, power⟩ / 2 ^ exponent) significand exponent) :
    nearestDouble (isNegative x) digits power = x := by
  have canonical : IsCanonical (.finite sign significand exponent positive) :=
    unpacked ▸ isCanonical_unpack x.toModel
  obtain ⟨small, least, most, _⟩ := canonical
  obtain ⟨some, notSmall, notLarge⟩ := leading_of_roundsTo positive small least most rounds
  dsimp only [nearestDouble]
  rw [if_neg (not_or.mpr ⟨some, not_lt.mpr notSmall⟩), if_neg (not_lt.mpr notLarge)]
  rw [← fractionValue_digits ⟨digits, power⟩] at rounds
  exact nearestQuotient_eq unpacked
    (timesPowerOfTen_fst_pos (Nat.pos_of_ne_zero some) power)
    (timesPowerOfTen_snd_pos Nat.one_pos power) rounds

end CollectivePerception.Decimal
