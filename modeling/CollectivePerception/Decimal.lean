/-
This file writes doubles as decimals. Every digit comes from exact integer
arithmetic on the value: the digits to a fixed number of places, the digits to a
fixed number of significant ones, and the fewest digits that name no other double.
-/

import CollectivePerception.Binary64

namespace CollectivePerception.Decimal

open Binary64

/-! ### Rounding a quotient -/

/-- The natural number nearest to `numerator / denominator`, an exact half going to
the even neighbour. -/
def roundHalfEven (numerator denominator : Nat) : Nat :=
  let quotient := numerator / denominator
  let doubled := 2 * (numerator % denominator)
  if doubled < denominator ∨ (doubled = denominator ∧ quotient % 2 = 0) then
    quotient
  else
    quotient + 1

/-- The value `significand * 2 ^ exponent` as a numerator and a denominator. -/
def fraction (significand : Nat) (exponent : Int) : Nat × Nat :=
  (significand * Nat.pow 2 exponent.toNat, Nat.pow 2 (-exponent).toNat)

/-- A fraction multiplied by a power of ten, of either sign. -/
def timesPowerOfTen (value : Nat × Nat) (power : Int) : Nat × Nat :=
  (value.1 * Nat.pow 10 power.toNat, value.2 * Nat.pow 10 (-power).toNat)

/-- How many decimal digits a natural number has; zero has one. -/
def digitCount (n : Nat) : Nat :=
  n.repr.length

/-- The power of ten of the leading digit of a positive fraction. -/
def leadingPower (value : Nat × Nat) : Int :=
  let guess := (digitCount value.1 : Int) - digitCount value.2
  let (numerator, denominator) := timesPowerOfTen value (-guess)
  if denominator ≤ numerator then guess else guess - 1

/-! ### Digits -/

/-- A decimal `digits * 10 ^ power`. -/
structure Digits where
  digits : Nat
  power : Int
deriving DecidableEq, Repr

/-- The decimal with exactly `count` significant digits that is nearest to a positive
fraction, a tie going to the even digit. -/
def significant (count : Nat) (value : Nat × Nat) : Digits :=
  let power := leadingPower value - (count - 1 : Nat)
  let (numerator, denominator) := timesPowerOfTen value (-power)
  let digits := roundHalfEven numerator denominator
  if Nat.pow 10 count ≤ digits then ⟨digits / 10, power + 1⟩ else ⟨digits, power⟩

/-- The doubles' neighbourhood of one value, in quarters of its last binary place:
the decimals strictly inside read back as the value, those on the border do if the
significand is even. The lower half is shorter where the binary places get finer. -/
structure Interval where
  low : Nat
  value : Nat
  high : Nat
  border : Bool
  quarter : Int
deriving Repr

/-- The neighbourhood of the positive double `significand * 2 ^ exponent`. -/
def Interval.around (significand : Nat) (exponent : Int) : Interval where
  low := if significand = 4503599627370496 ∧ -1074 < exponent then 4 * significand - 1
    else 4 * significand - 2
  value := 4 * significand
  high := 4 * significand + 2
  border := significand % 2 = 0
  quarter := exponent - 2

/-- Whether the decimal `digits * 10 ^ power` reads back as the value. -/
def Interval.holds (interval : Interval) (decimal : Digits) : Bool :=
  let (unit, unitDenominator) := fraction 1 interval.quarter
  let (numerator, denominator) := timesPowerOfTen (decimal.digits, 1) decimal.power
  let point := numerator * unitDenominator
  let low := interval.low * unit * denominator
  let high := interval.high * unit * denominator
  if interval.border then low ≤ point && point ≤ high else low < point && point < high

/-- The decimal with the last digit at `power` that reads back as the value: of the
two beside the value the nearer one if both do, the even one if they are equally
near. -/
def Interval.onGrid? (interval : Interval) (power : Int) : Option Digits :=
  let (numerator, denominator) :=
    timesPowerOfTen (fraction interval.value interval.quarter) (-power)
  let below : Digits := ⟨numerator / denominator, power⟩
  let above : Digits := ⟨numerator / denominator + 1, power⟩
  match interval.holds below, interval.holds above with
  | true, true => some ⟨roundHalfEven numerator denominator, power⟩
  | true, false => some below
  | false, true => some above
  | false, false => none

/-- The decimal without the zeros at its end, of which at most `limit` are removed. -/
def Digits.trimmed (decimal : Digits) : (limit : Nat) → Digits
  | 0 => decimal
  | limit + 1 =>
    if decimal.digits % 10 = 0 then trimmed ⟨decimal.digits / 10, decimal.power + 1⟩ limit
    else decimal

/-- The decimal with the fewest digits that reads back as the positive double
`significand * 2 ^ exponent`, and of those the nearest one. Seventeen digits always
suffice. -/
def shortest (significand : Nat) (exponent : Int) : Digits :=
  let interval := Interval.around significand exponent
  let value := fraction significand exponent
  let leading := leadingPower value
  let found := (List.range 17).findSome? fun (places : Nat) => interval.onGrid? (leading - places)
  (found.getD (significant 17 value)).trimmed 17

/-! ### Text -/

/-- A natural number written with at least `width` digits. -/
def padded (width n : Nat) : String :=
  "".pushn '0' (width - digitCount n) ++ n.repr

/-- `digits * 10 ^ (-places)` with all of its places written. -/
def withPlaces (digits places : Nat) : String :=
  if places = 0 then
    digits.repr
  else
    (digits / Nat.pow 10 places).repr ++ "." ++ padded places (digits % Nat.pow 10 places)

/-- A decimal written in full, without an exponent. -/
def Digits.positional (decimal : Digits) : String :=
  match decimal.power with
  | .ofNat zeros => (decimal.digits * Nat.pow 10 zeros).repr
  | .negSucc places => withPlaces decimal.digits (places + 1)

/-- A decimal written with one digit before the point and an exponent. -/
def Digits.withExponent (decimal : Digits) : String :=
  let count := digitCount decimal.digits
  let mantissa := withPlaces decimal.digits (count - 1)
  mantissa ++ "e" ++ toString (decimal.power + (count - 1 : Nat))

/-- The sign, the point at which a value turns to an exponent, and the words of the
values that have no digits: what distinguishes one way of writing numbers from
another. -/
structure Style where
  /-- What follows a value without a fractional part. -/
  wholeEnding : String
  /-- The least and the greatest power of the leading digit that is written without an
  exponent; without bounds no exponent is ever written. -/
  positionalPowers : Option (Int × Int)
  notANumber : String
  infinity : String

/-- How a style writes the digits of a positive value. -/
def Style.body (style : Style) (decimal : Digits) : String :=
  let leading := decimal.power + (digitCount decimal.digits - 1 : Nat)
  let plain :=
    if 0 ≤ decimal.power then decimal.positional ++ style.wholeEnding else decimal.positional
  match style.positionalPowers with
  | none => plain
  | some (least, greatest) =>
    if least ≤ leading ∧ leading ≤ greatest then plain else decimal.withExponent

/-- A double written with the fewest digits that read back as it. -/
def Style.write (style : Style) (x : Float) : String :=
  if x.isNaN then
    style.notANumber
  else
    let unsigned :=
      match magnitude x with
      | none => style.infinity
      | some (0, _) => "0" ++ style.wholeEnding
      | some (significand, exponent) => style.body (shortest significand exponent)
    if isNegative x then "-" ++ unsigned else unsigned

/-- A double as it appears inside a message: the fewest digits, never an exponent. -/
def plain : Style := ⟨"", none, "NaN", "inf"⟩

/-- A double rounded to `places` places, a tie going to the even digit. -/
def fixed (places : Nat) (x : Float) : String :=
  if x.isNaN then
    "NaN"
  else
    let unsigned :=
      match magnitude x with
      | none => "inf"
      | some (significand, exponent) =>
        let (numerator, denominator) :=
          timesPowerOfTen (fraction significand exponent) places
        withPlaces (roundHalfEven numerator denominator) places
    if isNegative x then "-" ++ unsigned else unsigned

/-- A double rounded to `count` significant digits and written with an exponent; a
zero has the single digit `0`. -/
def scientific (count : Nat) (x : Float) : String :=
  if x.isNaN then
    "NaN"
  else
    let unsigned :=
      match magnitude x with
      | none => "inf"
      | some (0, _) => "0"
      | some (significand, exponent) =>
        (significant count (fraction significand exponent)).withExponent
    if isNegative x then "-" ++ unsigned else unsigned

end CollectivePerception.Decimal
