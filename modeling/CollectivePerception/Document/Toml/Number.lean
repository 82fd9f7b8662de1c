/-
This file reads the numbers of TOML documents. Digits may be separated by single
underscores. An integer must fit into 64 bits with a sign; a number with a fraction or an
exponent is the nearest double, which must not be infinite for a positive number.
-/

import CollectivePerception.Document
import CollectivePerception.Document.Toml.Text

namespace CollectivePerception.Toml

/-! ### Digits -/

/-- Whether a character is a digit in a base. -/
def isDigitIn (base : Nat) (c : Char) : Bool := (Decimal.digitValue? base c).isSome

/-- Digits that follow a digit. -/
def readMoreDigits (base : Nat) : List Char → Option (List Char × List Char)
  | '_' :: c :: rest =>
    if isDigitIn base c then
      (readMoreDigits base rest).map fun (digits, rest) => (c :: digits, rest)
    else
      none
  | ['_'] => none
  | c :: rest =>
    if isDigitIn base c then
      (readMoreDigits base rest).map fun (digits, rest) => (c :: digits, rest)
    else
      some ([], c :: rest)
  | [] => some ([], [])

/-- At least one digit. -/
def readDigits (base : Nat) : List Char → Option (List Char × List Char)
  | c :: rest =>
    if isDigitIn base c then
      (readMoreDigits base rest).map fun (digits, rest) => (c :: digits, rest)
    else
      none
  | [] => none

/-- The digits before the point: a zero stands alone. -/
def readWhole : List Char → Option (List Char × List Char)
  | '0' :: rest => some (['0'], rest)
  | input => readDigits 10 input

/-! ### Numbers -/

/-- The number with a size and a sign, if 64 bits hold it. -/
def wholeNumber (negative : Bool) (size : Nat) : Option Document :=
  let value : Int := if negative then -size else size
  if Binary64.leastInt64 ≤ value ∧ value ≤ Binary64.greatestInt64 then some (.integer value)
  else none

/-- The number with a base of its own, read after the mark of the base. -/
def readInBase (base : Nat) (input : List Char) : Option (Document × List Char) := do
  let (digits, rest) ← readDigits base input
  let number ← wholeNumber false (Decimal.ofDigits base digits)
  return (number, rest)

/-- Input without the sign in front, and whether it was a minus. -/
def readSign : List Char → Bool × List Char
  | '+' :: rest => (false, rest)
  | '-' :: rest => (true, rest)
  | input => (false, input)

/-- The fraction in front of the input, if there is one. -/
def readFraction : List Char → Option (Option (List Char) × List Char)
  | '.' :: rest => (readDigits 10 rest).map fun (digits, rest) => (some digits, rest)
  | input => some (none, input)

/-- The exponent in front of the input, if there is one. -/
def readExponent : List Char → Option (Option Int × List Char)
  | [] => some (none, [])
  | c :: rest =>
    if c == 'e' || c == 'E' then do
      let (negative, rest) := readSign rest
      let (digits, rest) ← readDigits 10 rest
      let size : Int := Decimal.ofDigits 10 digits
      return (some (if negative then -size else size), rest)
    else
      some (none, c :: rest)

/-- The number in front of the input, whose base is ten. -/
def readDecimal (input : List Char) : Option (Document × List Char) := do
  let (negative, rest) := readSign input
  let (whole, rest) ← readWhole rest
  let (fraction, rest) ← readFraction rest
  let (exponent, rest) ← readExponent rest
  match fraction, exponent with
  | none, none =>
    let number ← wholeNumber negative (Decimal.ofDigits 10 whole)
    return (number, rest)
  | _, _ =>
    let places := fraction.getD []
    let value := Decimal.nearestDouble negative (Decimal.ofDigits 10 (whole ++ places))
      (exponent.getD 0 - places.length)
    if value == 1.0 / 0.0 then none else return (.float value, rest)

/-- The number in front of the input. -/
def readNumber (input : List Char) : Option (Document × List Char) :=
  match input with
  | '0' :: 'x' :: rest => readInBase 16 rest
  | '0' :: 'o' :: rest => readInBase 8 rest
  | '0' :: 'b' :: rest => readInBase 2 rest
  | _ =>
    let (negative, rest) := readSign input
    match rest with
    | 'i' :: 'n' :: 'f' :: rest =>
      some (.float (if negative then -1.0 / 0.0 else 1.0 / 0.0), rest)
    | 'n' :: 'a' :: 'n' :: rest => some (.float (0.0 / 0.0), rest)
    | _ => readDecimal input

end CollectivePerception.Toml
