/-
This file proves that the values that stand on a line of their own are read as they were written:
truth values, integers of 64 bits, doubles that are defined, names, and the empty list
(`Inline.readValue_eq`). The text of a value ends with its line.
-/

import CollectivePerception.Proofs.Document.Toml.Key
import CollectivePerception.Proofs.Document.Toml.Number

namespace CollectivePerception.Toml

/-! ### Names in quotes -/

section

variable {c : Char} {characters rest : List Char}

/-- The characters of keys are printable. -/
theorem toNat_of_isKeyCharacter (inKey : isKeyCharacter c = true) :
    32 ≤ c.toNat ∧ c.toNat < 127 := by
  simp only [isKeyCharacter, Char.isAlphanum, Char.isAlpha, Char.isUpper, Char.isLower,
    Char.isDigit, Bool.or_eq_true, Bool.and_eq_true, decide_eq_true_eq, beq_iff_eq] at inKey
  obtain ((((⟨least, most⟩ | ⟨least, most⟩) | ⟨least, most⟩) | rfl) | rfl) := inKey
  · have lower : 65 ≤ c.toNat := least
    have upper : c.toNat ≤ 90 := most
    omega
  · have lower : 97 ≤ c.toNat := least
    have upper : c.toNat ≤ 122 := most
    omega
  · have lower : 48 ≤ c.toNat := least
    have upper : c.toNat ≤ 57 := most
    omega
  · decide
  · decide

theorem isPlain_of_isKeyCharacter (inKey : isKeyCharacter c = true) : isPlain c = true := by
  have printable : ' ' ≤ c := (toNat_of_isKeyCharacter inKey).1
  rw [isPlain, Bool.or_eq_true, Bool.and_eq_true, decide_eq_true_eq, bne_iff_ne]
  exact .inr ⟨printable, ne_of_isKeyCharacter inKey rfl⟩

theorem escape_of_isKeyCharacter (inKey : isKeyCharacter c = true) :
    Json.escape c = c.toString := by
  have printable := (toNat_of_isKeyCharacter inKey).1
  unfold Json.escape
  split
  case h_8 => exact if_neg (by omega)
  all_goals exact absurd inKey (by decide)

/-- A name stands in its quotes as it is. -/
theorem IsBare.toList_quote {name : String} (bare : IsBare name) :
    (Json.quote name).toList = '"' :: (name.toList ++ ['"']) := by
  have each := List.all_eq_true.mp bare.all_isKeyCharacter
  have escaped (before : String) (characters : List Char)
      (each : ∀ c ∈ characters, isKeyCharacter c = true) :
      (characters.foldl (fun quoted c => quoted ++ Json.escape c) before).toList =
        before.toList ++ characters := by
    induction characters generalizing before with
    | nil => exact (List.append_nil _).symm
    | cons c characters inductionHypothesis =>
      rw [List.foldl_cons, inductionHypothesis _ fun c member => each c (.tail _ member),
        escape_of_isKeyCharacter (each c (.head _)), String.toList_append]
      simp
  rw [Json.quote, String.foldl_eq_foldl_toList, String.toList_append, String.toList_append,
    escaped "" name.toList each]
  rfl

/-- A name is read up to the quote after it. -/
theorem readLine_eq {read : List Char} {fuel : Nat}
    (each : ∀ c ∈ characters, isKeyCharacter c = true) (enough : characters.length < fuel) :
    readLine read fuel (characters ++ '"' :: rest) =
      some (String.ofList (read.reverse ++ characters), rest) := by
  induction characters generalizing read fuel with
  | nil =>
    obtain ⟨fuel, rfl⟩ := Nat.exists_eq_succ_of_ne_zero (Nat.ne_of_gt enough)
    rw [List.append_nil]
    rfl
  | cons c characters inductionHypothesis =>
    obtain ⟨fuel, rfl⟩ := Nat.exists_eq_succ_of_ne_zero (Nat.ne_of_gt (Nat.zero_lt_of_lt enough))
    have inKey := each c (.head _)
    rw [List.cons_append, readLine, isPlain_of_isKeyCharacter inKey, if_pos rfl,
      inductionHypothesis (fun c member => each c (.tail _ member))
        (Nat.lt_of_succ_lt_succ enough), List.reverse_cons, List.append_assoc]
    · rfl
    · exact fun same => ne_of_isKeyCharacter inKey rfl same
    · exact fun same => ne_of_isKeyCharacter inKey rfl same

theorem readText_quote {name : String} (bare : IsBare name) :
    readText ((Json.quote name).toList ++ rest) = some (name, rest) := by
  have each := List.all_eq_true.mp bare.all_isKeyCharacter
  obtain ⟨first, others, characters, inKey⟩ := bare.exists_cons
  rw [bare.toList_quote, List.cons_append, List.append_assoc, List.singleton_append, readText]
  · rw [readLine_eq each (by simp)]
    simp
  · intro tail same
    rw [characters] at same
    exact ne_of_isKeyCharacter inKey rfl (List.cons.inj same).1

end

/-! ### Values -/

section

variable {fuel depth : Nat} {rest : List Char}

/-- What starts with a digit, a minus or the first letter of an infinity is read as a number. -/
theorem readValue_of_starts {c : Char} (starts : c.isDigit ∨ c = '-' ∨ c = 'i') :
    readValue (fuel + 1) depth (skipBlanks (' ' :: c :: rest)) =
      readMomentOrNumber (c :: rest) := by
  have other {mark : Char} (notDigit : mark.isDigit = false) (notMinus : mark ≠ '-')
      (notLetter : mark ≠ 'i') : c ≠ mark := by
    rintro rfl
    obtain digit | minus | letter := starts
    · exact Bool.false_ne_true (notDigit.symm.trans digit)
    · exact notMinus minus
    · exact notLetter letter
  have notBlank : isBlank c = false := by
    rw [isBlank, Bool.or_eq_false_iff, beq_eq_false_iff_ne, beq_eq_false_iff_ne]
    exact ⟨other rfl (by decide) (by decide), other rfl (by decide) (by decide)⟩
  have skipped : skipBlanks (' ' :: c :: rest) = c :: rest := skipBlanks_of_not_blank notBlank
  rw [skipped, readValue]
  case x_5 =>
    intro same
    cases same
  case x_7 | x_9 =>
    intro tail smaller same
    exact absurd (List.cons.inj same).1 (other rfl (by decide) (by decide))
  all_goals
    intro tail same
    exact absurd (List.cons.inj same).1 (other rfl (by decide) (by decide))

theorem readValue_signed (negative : Bool) {digits : List Char} (some : digits ≠ [])
    (each : ∀ d ∈ digits, d.isDigit) :
    readValue (fuel + 1) depth (skipBlanks (' ' :: (signCharacters negative ++ digits ++ rest))) =
      readMomentOrNumber (signCharacters negative ++ digits ++ rest) := by
  cases negative with
  | true => exact readValue_of_starts (.inr (.inl rfl))
  | false =>
    obtain _ | ⟨d, digits⟩ := digits
    · exact absurd rfl some
    · exact readValue_of_starts (.inl (each d List.mem_cons_self))

theorem readValue_integer {value : Int} (least : Binary64.leastInt64 ≤ value)
    (greatest : value ≤ Binary64.greatestInt64) :
    readValue (fuel + 1) depth (skipBlanks (' ' :: ((toString value).toList ++ '\n' :: rest))) =
      some (.integer value, '\n' :: rest) := by
  rw [← readMomentOrNumber_integer least greatest rest, toList_toString]
  exact readValue_signed _ Nat.toDigits_ne_nil fun _ => Decimal.isDigit_of_mem_toDigits

theorem readValue_float {value : Float} (number : value.isNaN = false) :
    readValue (fuel + 1) depth
        (skipBlanks (' ' :: ((style.write value).toList ++ '\n' :: rest))) =
      some (.float value, '\n' :: rest) := by
  have defined := Binary64.unpack_ne_notANumber number
  by_cases finite : value.isFinite = true
  · obtain ⟨whole, places, _, written⟩ := style.write_eq rfl rfl finite
    rw [← readMomentOrNumber_finite finite rest, written, ← signCharacters, ← List.append_assoc,
      List.append_assoc]
    exact readValue_signed _ Nat.toDigits_ne_nil fun _ => Decimal.isDigit_of_mem_toDigits
  · have infinite : value.toModel.unpack.isFinite = false := eq_false_of_ne_true finite
    cases unpacked : value.toModel.unpack with
    | notANumber => exact absurd unpacked defined
    | zero sign =>
      rw [unpacked] at infinite
      cases infinite
    | finite sign significand exponent positive =>
      rw [unpacked] at infinite
      cases infinite
    | infinity sign =>
      rw [← readMomentOrNumber_infinity unpacked rest, write_infinity unpacked]
      cases Binary64.isNegative value with
      | true => exact readValue_of_starts (.inr (.inl rfl))
      | false => exact readValue_of_starts (.inr (.inr rfl))

theorem readValue_quote {name : String} (bare : IsBare name) :
    readValue (fuel + 1) depth (skipBlanks (' ' :: ((Json.quote name).toList ++ '\n' :: rest))) =
      some (.text name, '\n' :: rest) := by
  have read : readText ((Json.quote name).toList ++ '\n' :: rest) = _ := readText_quote bare
  rw [bare.toList_quote] at read ⊢
  show (readText ('"' :: (name.toList ++ ['"'] ++ '\n' :: rest))).map _ = _
  rw [← List.cons_append, read]
  rfl

end

/-- A value on a line of its own is read as it is written. -/
theorem Inline.readValue_eq {value : Document} (inline : Inline value) :
    ∃ text, renderValue value = some text ∧ ∀ fuel depth rest,
      readValue (fuel + 2) (depth + 1) (skipBlanks (' ' :: (text.toList ++ '\n' :: rest))) =
        some (value, '\n' :: rest) := by
  cases inline with
  | boolean value =>
    cases value with
    | false => exact ⟨_, rfl, fun _ _ _ => rfl⟩
    | true => exact ⟨_, rfl, fun _ _ _ => rfl⟩
  | integer least greatest =>
    exact ⟨_, if_pos ⟨least, greatest⟩, fun _ _ _ => readValue_integer least greatest⟩
  | float number => exact ⟨_, rfl, fun _ _ _ => readValue_float number⟩
  | text bare => exact ⟨_, rfl, fun _ _ _ => readValue_quote bare⟩
  | empty =>
    have written : renderValue (.list []) = some "[]" := by
      rw [renderValue]
      rfl
    exact ⟨_, written, fun _ _ _ => rfl⟩

end CollectivePerception.Toml
