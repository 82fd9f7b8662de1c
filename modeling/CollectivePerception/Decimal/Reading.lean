/-
This file reads numbers: runs of digits in a base, and decimals with a fraction and an
exponent, which become the nearest double.
-/

import CollectivePerception.Decimal

namespace CollectivePerception.Decimal

/-- The value of a digit in a base of at most sixteen. -/
def digitValue? (base : Nat) (c : Char) : Option Nat :=
  let value :=
    if '0' ≤ c ∧ c ≤ '9' then some (c.toNat - 48)
    else if 'a' ≤ c ∧ c ≤ 'f' then some (c.toNat - 87)
    else if 'A' ≤ c ∧ c ≤ 'F' then some (c.toNat - 55)
    else none
  value.filter (· < base)

/-- Whether a character is a decimal digit. -/
def isDigit (c : Char) : Bool := '0' ≤ c && c ≤ '9'

/-- The number that a run of digits stands for. -/
def ofDigits (base : Nat) (digits : List Char) : Nat :=
  digits.foldl (fun value c => base * value + (digitValue? base c).getD 0) 0

/-- Every decimal whose leading digit has at least this power of ten is infinite as a
double, and every one below the negated power is zero. -/
def powerLimit : Int := 400

/-- The double nearest to `digits * 10 ^ power`, negated if asked for. -/
def nearestDouble (negative : Bool) (digits : Nat) (power : Int) : Float :=
  let leading := power + (digitCount digits - 1 : Nat)
  if digits = 0 ∨ leading < -powerLimit then
    Binary64.nearestQuotient negative 0 1
  else if powerLimit < leading then
    Binary64.nearestQuotient negative 1 0
  else
    let (numerator, denominator) := timesPowerOfTen (digits, 1) power
    Binary64.nearestQuotient negative numerator denominator

/-- A natural number written in decimal with nothing around it but an optional plus
sign. -/
def natural? (text : String) : Option Nat :=
  let digits := match text.toList with
    | '+' :: rest => rest
    | all => all
  if !digits.isEmpty && digits.all isDigit then some (ofDigits 10 digits) else none

end CollectivePerception.Decimal
