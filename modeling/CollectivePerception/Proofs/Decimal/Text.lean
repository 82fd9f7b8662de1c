/-
This file says what the decimals of doubles look like and that they read back as the doubles. A
finite double that is written without an exponent consists of a sign, the digits of a natural
number, a point, and at least one more digit, and the number that the digits stand for is rounded
to the double (`Style.write_eq`).
-/

import CollectivePerception.Proofs.Binary64.Comparison
import CollectivePerception.Proofs.Decimal.Shortest

namespace CollectivePerception.Decimal

open Binary64

/-! ### Digits -/

theorem digitValue?_of_isDigit {c : Char} (digit : c.isDigit) :
    digitValue? 10 c = some (c.toNat - 48) := by
  rw [Char.isDigit, Bool.and_eq_true, decide_eq_true_eq, decide_eq_true_eq] at digit
  obtain ⟨least, most⟩ : '0' ≤ c ∧ c ≤ '9' := digit
  have bound : c.toNat ≤ 57 := most
  have small : c.toNat - 48 < 10 := by omega
  simp [digitValue?, least, most, small]

/-- Decimal digits stand for the same number as in the core library. -/
theorem ofDigits_eq {digits : List Char} (each : ∀ c ∈ digits, c.isDigit) :
    ofDigits 10 digits = Nat.ofDigitChars 10 digits 0 := by
  rw [ofDigits, Nat.ofDigitChars_eq_foldl]
  refine List.foldl_ext _ _ _ fun value c member => ?_
  rw [digitValue?_of_isDigit (each c member)]
  rfl

theorem isDigit_of_mem_toDigits {n : Nat} {c : Char} (member : c ∈ Nat.toDigits 10 n) :
    c.isDigit :=
  Nat.isDigit_of_mem_toDigits (by decide) (by decide) member

theorem ofDigits_toDigits (n : Nat) : ofDigits 10 (Nat.toDigits 10 n) = n := by
  rw [ofDigits_eq fun _ => isDigit_of_mem_toDigits, Nat.ofDigitChars_ten_toDigits]

/-- Digits after others count as many places further down. -/
theorem ofDigits_append {first second : List Char} (firstEach : ∀ c ∈ first, c.isDigit)
    (secondEach : ∀ c ∈ second, c.isDigit) :
    ofDigits 10 (first ++ second) =
      10 ^ second.length * ofDigits 10 first + ofDigits 10 second := by
  have each : ∀ c ∈ first ++ second, c.isDigit := fun c member =>
    (List.mem_append.mp member).elim (firstEach c) (secondEach c)
  rw [ofDigits_eq each, ofDigits_eq firstEach, ofDigits_eq secondEach, Nat.ofDigitChars_append,
    Nat.ofDigitChars_eq_ofDigitChars_zero]

theorem toList_pushn (text : String) (c : Char) (count : Nat) :
    (text.pushn c count).toList = text.toList ++ List.replicate count c := by
  rw [String.pushn_eq_repeat_push]
  induction count with
  | zero => simp [Nat.repeat]
  | succ count inductionHypothesis =>
    rw [Nat.repeat, String.toList_push, inductionHypothesis, List.replicate_succ',
      List.append_assoc]

/-- A number of at most `width` digits with zeros in front. -/
theorem padded_eq {width n : Nat} (small : n < 10 ^ width) (positive : 0 < width) :
    (padded width n).toList.length = width ∧ (∀ c ∈ (padded width n).toList, c.isDigit) ∧
      ofDigits 10 (padded width n).toList = n := by
  have short : digitCount n ≤ width := (Nat.length_repr_le_iff positive).mpr small
  have zeros : ∀ c ∈ List.replicate (width - digitCount n) '0', c.isDigit := fun c member =>
    List.eq_of_mem_replicate member ▸ rfl
  have digits : digitCount n = (Nat.toDigits 10 n).length := by
    rw [digitCount, ← Nat.toList_repr, String.length_toList]
  have written : (padded width n).toList =
      List.replicate (width - digitCount n) '0' ++ Nat.toDigits 10 n := by
    rw [padded, String.toList_append, toList_pushn, Nat.toList_repr]
    rfl
  rw [written]
  refine ⟨?_, fun c member => ?_, ?_⟩
  · rw [List.length_append, List.length_replicate, ← digits]
    omega
  · exact (List.mem_append.mp member).elim (zeros c) isDigit_of_mem_toDigits
  · rw [ofDigits_append zeros fun _ => isDigit_of_mem_toDigits, ofDigits_eq zeros,
      Nat.ofDigitChars_replicate_zero, ofDigits_toDigits, Nat.mul_zero, Nat.mul_zero, Nat.zero_add]

/-! ### Doubles -/

/-- The text of a natural number, a point, and further digits stands for a double: the decimal that
the digits before and after the point make up is read as the double. -/
structure StandsFor (whole : Nat) (places : List Char) (x : Float) : Prop where
  some : places ≠ []
  digits : ∀ c ∈ places, c.isDigit
  value : nearestDouble (isNegative x) (ofDigits 10 (Nat.toDigits 10 whole ++ places))
    (-places.length) = x

section

variable {x : Float} {sign : Float.Model.UnpackedFloat.Sign} {significand : Nat} {exponent : Int}
  {positive : 0 < significand} {decimal : Digits}

/-- A decimal that is rounded to a double is written so that it stands for the double. -/
theorem Digits.standsFor (unpacked : x.toModel.unpack = .finite sign significand exponent positive)
    (rounds : RoundsTo (decimal.value / 2 ^ exponent) significand exponent) :
    ∃ whole places, StandsFor whole places x ∧
      (if 0 ≤ decimal.power then decimal.positional ++ ".0" else decimal.positional).toList =
        Nat.toDigits 10 whole ++ '.' :: places := by
  obtain ⟨digits, zeros | places⟩ := decimal
  · have zero : ∀ c ∈ ['0'], c.isDigit := List.forall_mem_singleton.mpr rfl
    refine ⟨digits * 10 ^ zeros, ['0'], ⟨List.cons_ne_nil _ _, zero, ?_⟩, ?_⟩
    · have read : ofDigits 10 (Nat.toDigits 10 (digits * 10 ^ zeros) ++ ['0']) =
          10 * (digits * 10 ^ zeros) := by
        rw [ofDigits_append (fun _ => isDigit_of_mem_toDigits) zero, ofDigits_toDigits]
        rfl
      have same : Digits.value ⟨10 * (digits * 10 ^ zeros), -(1 : Nat)⟩ =
          Digits.value ⟨digits, .ofNat zeros⟩ := by
        rw [Digits.value, Digits.value, Int.ofNat_eq_natCast, zpow_natCast, zpow_neg]
        push_cast
        ring
      rw [read]
      exact nearestDouble_eq unpacked (same ▸ rounds)
    · have whole : 0 ≤ (⟨digits, .ofNat zeros⟩ : Digits).power := Int.natCast_nonneg zeros
      rw [if_pos whole, Digits.positional, String.toList_append, Nat.toList_repr]
      rfl
  · have small : digits % 10 ^ (places + 1) < 10 ^ (places + 1) := Nat.mod_lt _ (by positivity)
    obtain ⟨length, each, rest⟩ := padded_eq small (Nat.succ_pos places)
    refine ⟨digits / 10 ^ (places + 1), (padded (places + 1) (digits % 10 ^ (places + 1))).toList,
      ⟨?_, each, ?_⟩, ?_⟩
    · rw [← List.length_pos_iff, length]
      exact Nat.succ_pos places
    · have whole : ∀ c ∈ Nat.toDigits 10 (digits / 10 ^ (places + 1)), c.isDigit :=
        fun _ => isDigit_of_mem_toDigits
      have read := ofDigits_append whole each
      rw [length, rest, ofDigits_toDigits, Nat.div_add_mod] at read
      rw [read, length]
      exact nearestDouble_eq unpacked rounds
    · have fractional : ¬0 ≤ (⟨digits, .negSucc places⟩ : Digits).power :=
        not_le.mpr (Int.negSucc_lt_zero places)
      have written : (⟨digits, .negSucc places⟩ : Digits).positional =
          (digits / 10 ^ (places + 1)).repr ++ "." ++
            padded (places + 1) (digits % 10 ^ (places + 1)) := by
        simp [Digits.positional, withPlaces]
      rw [if_neg fractional, written, String.toList_append, String.toList_append,
        Nat.toList_repr, List.append_assoc]
      rfl

end

theorem Style.body_eq {style : Style} (full : style.positionalPowers = none) (decimal : Digits) :
    style.body decimal =
      if 0 ≤ decimal.power then decimal.positional ++ style.wholeEnding
      else decimal.positional := by
  unfold body
  rw [full]

theorem standsFor_zero {x : Float} {sign : Float.Model.UnpackedFloat.Sign}
    (unpacked : x.toModel.unpack = .zero sign) : StandsFor 0 ['0'] x where
  some := List.cons_ne_nil _ _
  digits := List.forall_mem_singleton.mpr rfl
  value := nearestQuotient_zero unpacked

/-- What a finite double is written as, without an exponent, stands for the double. -/
theorem Style.write_eq (style : Style) (full : style.positionalPowers = none)
    (ending : style.wholeEnding = ".0") {x : Float} (finite : x.isFinite = true) :
    ∃ whole places, StandsFor whole places x ∧
      (style.write x).toList =
        (if isNegative x then ['-'] else []) ++ (Nat.toDigits 10 whole ++ '.' :: places) := by
  have signed (unsigned : String) : (if isNegative x then "-" ++ unsigned else unsigned).toList =
      (if isNegative x then ['-'] else []) ++ unsigned.toList := by
    split
    · exact String.toList_append
    · rfl
  rw [write, isNaN_of_isFinite finite, if_neg Bool.false_ne_true]
  dsimp only
  rw [signed]
  have finite : x.toModel.unpack.isFinite = true := finite
  cases unpacked : x.toModel.unpack with
  | notANumber =>
    rw [unpacked] at finite
    cases finite
  | infinity sign =>
    rw [unpacked] at finite
    cases finite
  | zero sign =>
    have size : magnitude x = some (0, 0) := by rw [magnitude, unpacked]
    refine ⟨0, ['0'], standsFor_zero unpacked, congrArg _ ?_⟩
    rw [size, ending, Nat.toDigits_zero]
    exact String.toList_append
  | finite sign significand exponent positive =>
    have size : magnitude x = some (significand, exponent) := by rw [magnitude, unpacked]
    obtain ⟨small, _⟩ : IsCanonical (.finite sign significand exponent positive) :=
      unpacked ▸ isCanonical_unpack x.toModel
    obtain ⟨whole, places, stands, written⟩ :=
      Digits.standsFor unpacked (shortest_roundsTo positive small)
    refine ⟨whole, places, stands, congrArg _ ?_⟩
    obtain ⟨significand, rfl⟩ := Nat.exists_eq_succ_of_ne_zero positive.ne'
    rw [size, ← written, ← ending]
    exact congrArg String.toList (body_eq full _)

end CollectivePerception.Decimal
