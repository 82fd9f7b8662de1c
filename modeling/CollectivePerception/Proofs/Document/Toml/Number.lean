/-
This file proves that the numbers of a TOML document are read as they were written: every integer
of 64 bits, every finite double, and the two infinities. A number ends with its line. What follows
a run of digits decides what the run is, and neither a point nor the end of a line makes it a date
or a number with a base of its own.
-/

import CollectivePerception.Document.Toml.Reading
import CollectivePerception.Document.Toml.Writing
import CollectivePerception.Proofs.Decimal.Text

namespace CollectivePerception.Toml

open Binary64
open Decimal (StandsFor)

/-! ### Runs of digits -/

section

variable {digits rest : List Char} {c d : Char}

theorem isDigitIn_of_isDigit (digit : c.isDigit) : isDigitIn 10 c = true := by
  rw [isDigitIn, Decimal.digitValue?_of_isDigit digit]
  rfl

theorem isDigit_eq (c : Char) : Decimal.isDigit c = c.isDigit := by
  rw [Bool.eq_iff_iff, Decimal.isDigit, Char.isDigit, Bool.and_eq_true, Bool.and_eq_true,
    decide_eq_true_eq, decide_eq_true_eq, decide_eq_true_eq, decide_eq_true_eq]
  exact Iff.rfl

theorem ne_of_isDigit {other : Char} (digit : c.isDigit) (notDigit : other.isDigit = false) :
    c ≠ other := by
  rintro rfl
  exact Bool.false_ne_true (notDigit.symm.trans digit)

/-- A character after which no digit follows that belongs to the same number. -/
structure Ends (c : Char) : Prop where
  digit : isDigitIn 10 c = false
  separator : c ≠ '_'

theorem ends_newline : Ends '\n' := ⟨by decide, by decide⟩

theorem ends_point : Ends '.' := ⟨by decide, by decide⟩

/-- Digits are read up to a character that ends them. -/
theorem readMoreDigits_eq (each : ∀ d ∈ digits, d.isDigit) (ends : Ends c) :
    readMoreDigits 10 (digits ++ c :: rest) = some (digits, c :: rest) := by
  induction digits with
  | nil =>
    rw [List.nil_append, readMoreDigits, ends.digit, if_neg Bool.false_ne_true]
    · exact fun _ _ same _ => ends.separator same
    · exact fun same _ => ends.separator same
  | cons d digits inductionHypothesis =>
    have digit := each d List.mem_cons_self
    have separator : d ≠ '_' := ne_of_isDigit digit rfl
    rw [List.cons_append, readMoreDigits, isDigitIn_of_isDigit digit, if_pos rfl,
      inductionHypothesis fun d member => each d (List.mem_cons_of_mem _ member)]
    · rfl
    · exact fun _ _ same _ => separator same
    · exact fun same _ => separator same

theorem readDigits_eq (some : digits ≠ []) (each : ∀ d ∈ digits, d.isDigit) (ends : Ends c) :
    readDigits 10 (digits ++ c :: rest) = .some (digits, c :: rest) := by
  obtain _ | ⟨d, digits⟩ := digits
  · exact absurd rfl some
  · rw [List.cons_append, readDigits, isDigitIn_of_isDigit (each d List.mem_cons_self), if_pos rfl,
      readMoreDigits_eq (fun d member => each d (List.mem_cons_of_mem _ member)) ends]
    rfl

/-- The digits of a positive number do not start with a zero. -/
theorem toDigits_ne_zero_cons {n : Nat} (positive : 0 < n) : Nat.toDigits 10 n ≠ '0' :: rest := by
  induction n using Nat.strongRecOn generalizing rest with
  | ind n inductionHypothesis =>
    rw [Nat.toDigits_eq_if (by decide)]
    split
    · intro same
      have first := (List.cons.inj same).1
      interval_cases n <;> revert first <;> decide
    · rename_i large
      intro same
      cases digits : Nat.toDigits 10 (n / 10) with
      | nil => exact Nat.toDigits_ne_nil digits
      | cons d others =>
        rw [digits, List.cons_append, List.cons.injEq] at same
        exact inductionHypothesis (n / 10) (by omega) (by omega) (same.1 ▸ digits)

/-- The digits before the point are read as they are written: without zeros in front. -/
theorem readWhole_eq (n : Nat) (ends : Ends c) :
    readWhole (Nat.toDigits 10 n ++ c :: rest) = some (Nat.toDigits 10 n, c :: rest) := by
  obtain rfl | positive := Nat.eq_zero_or_pos n
  · rfl
  · rw [readWhole]
    · exact readDigits_eq Nat.toDigits_ne_nil (fun _ => Decimal.isDigit_of_mem_toDigits) ends
    · intro tail same
      cases digits : Nat.toDigits 10 n with
      | nil => exact Nat.toDigits_ne_nil digits
      | cons d others =>
        rw [digits, List.cons_append, List.cons.injEq] at same
        exact toDigits_ne_zero_cons positive (same.1 ▸ digits)

/-! ### Numbers that are no dates -/

theorem readPart_of_not_digit {count least greatest : Nat} (first : c.isDigit = false) :
    readPart (count + 1) least greatest (c :: rest) = none := by
  rw [readPart]
  refine if_neg fun ⟨_, each, _⟩ => ?_
  rw [List.take_succ_cons, List.all_cons, isDigit_eq, first] at each
  cases each

/-- A date and a time start with a digit. -/
theorem afterMoment?_of_not_digit (first : c.isDigit = false) :
    afterMoment? (c :: rest) = none := by
  rw [afterMoment?, afterDate?, afterTime?, afterHoursAndMinutes?, readPart_of_not_digit first,
    readPart_of_not_digit first]
  rfl

/-- A part of a date or a time takes only digits, so that a mark does not follow it. -/
theorem afterCharacter?_of_readPart {count least greatest value : Nat} {mark : Char}
    {after : List Char} (each : ∀ d ∈ digits, d.isDigit) (ends : c.isDigit = false)
    (different : c ≠ mark) (notDigit : mark.isDigit = false)
    (read : readPart count least greatest (digits ++ c :: rest) = some (value, after)) :
    afterCharacter? mark after = none := by
  rw [readPart] at read
  split at read
  · rename_i inside
    obtain ⟨_, rfl⟩ := Prod.mk.inj (Option.some.inj read)
    have short : count ≤ digits.length := by
      by_contra long
      obtain ⟨more, beyond⟩ : ∃ more, count - digits.length = more + 1 :=
        ⟨count - digits.length - 1, by omega⟩
      have all := inside.2.1
      rw [List.take_append, beyond, List.take_succ_cons, List.all_append, List.all_cons, isDigit_eq,
        ends, Bool.false_and, Bool.and_false] at all
      cases all
    rw [List.drop_append_of_le_length short]
    cases left : digits.drop count with
    | nil => exact if_neg fun same => different (eq_of_beq same)
    | cons d others =>
      have digit := each d (List.mem_of_mem_drop (left ▸ List.mem_cons_self))
      exact if_neg fun same => ne_of_isDigit digit notDigit (eq_of_beq same)
  · cases read

/-- Digits that end with neither a dash nor a colon are no date and no time. -/
theorem afterMoment?_of_digits (each : ∀ d ∈ digits, d.isDigit) (ends : c.isDigit = false)
    (dash : c ≠ '-') (colon : c ≠ ':') : afterMoment? (digits ++ c :: rest) = none := by
  have date : afterDate? (digits ++ c :: rest) = none := by
    rw [afterDate?]
    cases read : readPart 4 0 9999 (digits ++ c :: rest) with
    | none => rfl
    | some part =>
      show (afterCharacter? '-' part.2).bind _ = none
      rw [afterCharacter?_of_readPart each ends dash rfl read]
      rfl
  have time : afterTime? (digits ++ c :: rest) = none := by
    rw [afterTime?, afterHoursAndMinutes?]
    cases read : readPart 2 0 23 (digits ++ c :: rest) with
    | none => rfl
    | some part =>
      show ((afterCharacter? ':' part.2).bind _).bind _ = none
      rw [afterCharacter?_of_readPart each ends colon rfl read]
      rfl
  rw [afterMoment?, date, time]

end

/-! ### Numbers -/

/-- A minus in front of what is negative. -/
def signCharacters (negative : Bool) : List Char := if negative then ['-'] else []

section

variable {digits rest : List Char} {c : Char}

theorem readSign_eq (negative : Bool) (some : digits ≠ []) (each : ∀ d ∈ digits, d.isDigit) :
    readSign (signCharacters negative ++ (digits ++ rest)) = (negative, digits ++ rest) := by
  cases negative with
  | true => rfl
  | false =>
    obtain _ | ⟨d, digits⟩ := digits
    · exact absurd rfl some
    · have digit := each d List.mem_cons_self
      show readSign (d :: (digits ++ rest)) = _
      rw [readSign]
      · rfl
      · exact fun _ same => ne_of_isDigit digit rfl (List.cons.inj same).1
      · exact fun _ same => ne_of_isDigit digit rfl (List.cons.inj same).1

theorem signCharacters_append_ne (negative : Bool) (each : ∀ d ∈ digits, d.isDigit)
    (some : digits ≠ []) {mark : Char} {tail : List Char} (notDigit : mark.isDigit = false)
    (different : c ≠ mark) :
    signCharacters negative ++ (digits ++ c :: rest) ≠ '0' :: mark :: tail := by
  intro same
  cases negative with
  | true => exact absurd (List.cons.inj same).1 (by decide)
  | false =>
    obtain _ | ⟨d, _ | ⟨e, digits⟩⟩ := digits
    · exact some rfl
    · exact different (List.cons.inj (List.cons.inj same).2).1
    · have digit := each e (List.mem_cons_of_mem _ List.mem_cons_self)
      exact ne_of_isDigit digit notDigit (List.cons.inj (List.cons.inj same).2).1

/-- Digits that a point or the end of a line follows are a number with the base ten. -/
theorem readNumber_eq (negative : Bool) (some : digits ≠ []) (each : ∀ d ∈ digits, d.isDigit)
    (ends : c = '\n' ∨ c = '.') :
    readNumber (signCharacters negative ++ (digits ++ c :: rest)) =
      readDecimal (signCharacters negative ++ (digits ++ c :: rest)) := by
  have other {mark : Char} (newline : '\n' ≠ mark) (point : '.' ≠ mark) : c ≠ mark :=
    ends.elim (fun same => same ▸ newline) (fun same => same ▸ point)
  rw [readNumber]
  · rw [readSign_eq negative some each]
    obtain _ | ⟨d, digits⟩ := digits
    · exact absurd rfl some
    · have digit := each d List.mem_cons_self
      dsimp only [List.cons_append]
      split
      · rename_i same
        exact absurd (List.cons.inj same).1 (ne_of_isDigit digit rfl)
      · rename_i same
        exact absurd (List.cons.inj same).1 (ne_of_isDigit digit rfl)
      · rfl
  · exact fun _ => signCharacters_append_ne negative each some rfl (other (by decide) (by decide))
  · exact fun _ => signCharacters_append_ne negative each some rfl (other (by decide) (by decide))
  · exact fun _ => signCharacters_append_ne negative each some rfl (other (by decide) (by decide))

/-- A number in the base ten is neither a date nor a time. -/
theorem readMomentOrNumber_eq (negative : Bool) (some : digits ≠ [])
    (each : ∀ d ∈ digits, d.isDigit) (ends : c = '\n' ∨ c = '.') :
    readMomentOrNumber (signCharacters negative ++ (digits ++ c :: rest)) =
      readDecimal (signCharacters negative ++ (digits ++ c :: rest)) := by
  have none : afterMoment? (signCharacters negative ++ (digits ++ c :: rest)) = .none := by
    cases negative with
    | true => exact afterMoment?_of_not_digit rfl
    | false =>
      obtain rfl | rfl := ends
      · exact afterMoment?_of_digits each rfl (by decide) (by decide)
      · exact afterMoment?_of_digits each rfl (by decide) (by decide)
  rw [readMomentOrNumber, none]
  exact readNumber_eq negative some each ends

end

theorem readFraction_newline (rest : List Char) :
    readFraction ('\n' :: rest) = some (none, '\n' :: rest) := rfl

theorem readExponent_newline (rest : List Char) :
    readExponent ('\n' :: rest) = some (none, '\n' :: rest) := rfl

/-- The written form of an integer. -/
theorem toList_toString (value : Int) :
    (toString value).toList =
      signCharacters (decide (value < 0)) ++ Nat.toDigits 10 value.natAbs := by
  rw [Int.toString_eq_repr, Int.repr_eq_if]
  by_cases negative : value < 0
  · have size : (-value).toNat = value.natAbs := by omega
    rw [if_neg (not_le.mpr negative), decide_eq_true negative, String.toList_append,
      Nat.toList_repr, size]
    rfl
  · have size : value.toNat = value.natAbs := by omega
    rw [if_pos (not_lt.mp negative), decide_eq_false negative, Nat.toList_repr, size]
    rfl

/-- An integer of 64 bits is read as it is written. -/
theorem readMomentOrNumber_integer {value : Int} (least : leastInt64 ≤ value)
    (greatest : value ≤ greatestInt64) (rest : List Char) :
    readMomentOrNumber ((toString value).toList ++ '\n' :: rest) =
      some (.integer value, '\n' :: rest) := by
  have number : wholeNumber (decide (value < 0)) value.natAbs = some (.integer value) := by
    have signed : (if decide (value < 0) = true then -(value.natAbs : Int) else value.natAbs) =
        value := by
      by_cases negative : value < 0
      · rw [if_pos (decide_eq_true negative)]
        omega
      · rw [if_neg fun decided => negative (of_decide_eq_true decided)]
        omega
    simp only [wholeNumber, signed]
    rw [if_pos ⟨least, greatest⟩]
  have digits : ∀ d ∈ Nat.toDigits 10 value.natAbs, d.isDigit :=
    fun _ => Decimal.isDigit_of_mem_toDigits
  rw [toList_toString, List.append_assoc,
    readMomentOrNumber_eq _ Nat.toDigits_ne_nil digits (.inl rfl), readDecimal,
    readSign_eq _ Nat.toDigits_ne_nil digits]
  simp only [readWhole_eq _ ends_newline, readFraction_newline, readExponent_newline,
    Option.bind_eq_bind, Option.bind_some, Decimal.ofDigits_toDigits, number]
  rfl

theorem unpack_infinity : (1.0 / 0.0 : Float).toModel.unpack = .infinity .positive := rfl

theorem unpack_negInfinity : (-1.0 / 0.0 : Float).toModel.unpack = .infinity .negative := rfl

theorem not_beq_infinity {x : Float} (finite : x.isFinite = true) :
    (x == 1.0 / 0.0) = false := by
  show (x.toModel.unpack.compare (1.0 / 0.0 : Float).toModel.unpack == some .eq) = false
  have isFinite : x.toModel.unpack.isFinite = true := finite
  rw [unpack_infinity]
  generalize x.toModel.unpack = value at isFinite
  rcases value with _ | _ | _ | ⟨_ | _, _, _, _⟩
  · cases isFinite
  · cases isFinite
  · rfl
  · rfl
  · rfl

/-- A finite double is read as it is written. -/
theorem readMomentOrNumber_finite {x : Float} (finite : x.isFinite = true) (rest : List Char) :
    readMomentOrNumber ((style.write x).toList ++ '\n' :: rest) =
      some (.float x, '\n' :: rest) := by
  obtain ⟨whole, places, stands, written⟩ := style.write_eq rfl rfl finite
  have digits : ∀ d ∈ Nat.toDigits 10 whole, d.isDigit :=
    fun _ => Decimal.isDigit_of_mem_toDigits
  have fraction : readFraction ('.' :: (places ++ '\n' :: rest)) =
      some (some places, '\n' :: rest) := by
    rw [readFraction, readDigits_eq stands.some stands.digits ends_newline]
    rfl
  have value : Decimal.nearestDouble (isNegative x)
      (Decimal.ofDigits 10 (Nat.toDigits 10 whole ++ places)) (0 - places.length) = x := by
    rw [zero_sub, stands.value]
  show readMomentOrNumber ((style.write x).toList ++ '\n' :: rest) = _
  rw [written, ← signCharacters, List.append_assoc, List.append_assoc, List.cons_append,
    readMomentOrNumber_eq _ Nat.toDigits_ne_nil digits (.inr rfl), readDecimal,
    readSign_eq _ Nat.toDigits_ne_nil digits]
  simp only [readWhole_eq _ ends_point, fraction, readExponent_newline,
    Option.bind_eq_bind, Option.bind_some, Option.getD_some, Option.getD_none, value]
  rw [not_beq_infinity finite]
  rfl

section

variable {x : Float} {sign : Float.Model.UnpackedFloat.Sign}

/-- An infinity is written as a word after its sign. -/
theorem write_infinity (unpacked : x.toModel.unpack = .infinity sign) :
    (style.write x).toList = signCharacters (isNegative x) ++ ['i', 'n', 'f'] := by
  have number : x.isNaN = false := congrArg Float.Model.UnpackedFloat.isNaN unpacked
  have size : magnitude x = none := by rw [magnitude, unpacked]
  rw [Decimal.Style.write, number, size, signCharacters]
  cases isNegative x with
  | true => exact String.toList_append
  | false => rfl

theorem eq_of_infinity (unpacked : x.toModel.unpack = .infinity sign) :
    (if isNegative x then (-1.0 / 0.0 : Float) else 1.0 / 0.0) = x := by
  rw [isNegative, unpacked]
  cases sign with
  | positive =>
    calc (1.0 / 0.0 : Float) = ⟨.pack (.infinity .positive)⟩ := (eq_of_unpack unpack_infinity).symm
      _ = x := eq_of_unpack unpacked
  | negative =>
    calc (-1.0 / 0.0 : Float) = ⟨.pack (.infinity .negative)⟩ :=
          (eq_of_unpack unpack_negInfinity).symm
      _ = x := eq_of_unpack unpacked

/-- An infinity is read as it is written. -/
theorem readMomentOrNumber_infinity (unpacked : x.toModel.unpack = .infinity sign)
    (rest : List Char) :
    readMomentOrNumber ((style.write x).toList ++ '\n' :: rest) =
      some (.float x, '\n' :: rest) := by
  have read (negative : Bool) :
      readMomentOrNumber (signCharacters negative ++ ['i', 'n', 'f'] ++ '\n' :: rest) =
        some (.float (if negative then -1.0 / 0.0 else 1.0 / 0.0), '\n' :: rest) := by
    have none : afterMoment? (signCharacters negative ++ ['i', 'n', 'f'] ++ '\n' :: rest) =
        none := by
      cases negative <;> exact afterMoment?_of_not_digit rfl
    rw [readMomentOrNumber, none]
    cases negative <;> rfl
  rw [write_infinity unpacked, read, eq_of_infinity unpacked]

end

end CollectivePerception.Toml
