/-
This file holds the double-precision operations that the engine needs beyond the
ones the core library gives a meaning to: the length of a vector, the remainder of
a division, and the conversion to a 64-bit integer. Each reads a value as an exact
integer multiple of a power of two, computes with integers, and rounds once at the
end, so its result is the double nearest to the exact one.
-/

namespace CollectivePerception.Binary64

open Float.Model (UnpackedFloat)
open Float.Model.UnpackedFloat (Sign)

/-! ### Values as integers times powers of two -/

/-- The size of a finite value as a significand and the power of two it counts;
`none` for an infinity or an undefined value. -/
def magnitude (x : Float) : Option (Nat × Int) :=
  match x.toModel.unpack with
  | .finite _ significand exponent _ => some (significand, exponent)
  | .zero _ => some (0, 0)
  | .infinity _ => none
  | .notANumber => none

/-- The sign bit, which a zero and an infinity carry as well. -/
def isNegative (x : Float) : Bool :=
  match x.toModel.unpack with
  | .finite .negative _ _ _ => true
  | .zero .negative => true
  | .infinity .negative => true
  | _ => false

/-- The significand of a value with exponent `exponent`, counted in units of
`2 ^ unit`; `unit` must not exceed `exponent`. -/
def scaled (significand : Nat) (exponent unit : Int) : Nat :=
  significand <<< (exponent - unit).toNat

/-- The double nearest to `significand * 2 ^ exponent`, a tie going to the even one. -/
def nearest (negative : Bool) (significand : Nat) (exponent : Int) : Float :=
  ⟨Float.Model.pack
    (UnpackedFloat.round .binary64 (if negative then .negative else .positive)
      significand exponent)⟩

/-- The double nearest to the square root of `square * 2 ^ exponent`. -/
def nearestRoot (square : Nat) (exponent : Int) : Float :=
  if positive : 0 < square then
    ⟨Float.Model.pack
      (UnpackedFloat.sqrt .binary64 (.finite .positive square exponent positive))⟩
  else
    0.0

/-- The double nearest to `numerator / denominator`, for a denominator above zero. -/
def nearestQuotient (negative : Bool) (numerator denominator : Nat) : Float :=
  let sign : Sign := if negative then .negative else .positive
  if above : 0 < numerator then
    if below : 0 < denominator then
      ⟨Float.Model.pack
        (UnpackedFloat.div .binary64 (.finite sign numerator 0 above)
          (.finite .positive denominator 0 below))⟩
    else
      ⟨Float.Model.pack (.infinity sign)⟩
  else
    ⟨Float.Model.pack (.zero sign)⟩

/-! ### Length, remainder and integer conversion -/

/-- The length of the vector `(x, y)`, which along an axis is the size of the other
component. The sum of the squares is exact, so neither overflow nor cancellation occurs
on the way. An infinite component makes the length infinite even when the other one is
undefined. -/
def hypot (x y : Float) : Float :=
  if x.isInf || y.isInf then
    1.0 / 0.0
  else if y == 0.0 then
    x.abs
  else if x == 0.0 then
    y.abs
  else
    match magnitude x, magnitude y with
    | some (first, firstExponent), some (second, secondExponent) =>
      let unit := min firstExponent secondExponent
      let width := scaled first firstExponent unit
      let height := scaled second secondExponent unit
      nearestRoot (width * width + height * height) (2 * unit)
    | _, _ => 0.0 / 0.0

/-- The remainder of `x` divided by `modulus`, with the sign of `x`. It is always a
double, so nothing is rounded. -/
def remainder (x modulus : Float) : Float :=
  if x.abs < modulus.abs then
    x
  else
    match magnitude x, magnitude modulus with
    | some (dividend, dividendExponent), some (divisor, divisorExponent) =>
      if divisor = 0 then
        0.0 / 0.0
      else
        let unit := min dividendExponent divisorExponent
        nearest (isNegative x)
          (scaled dividend dividendExponent unit % scaled divisor divisorExponent unit) unit
    | _, _ => 0.0 / 0.0

/-- The remainder folded into the non-negative range by one addition of the
modulus. A tiny negative remainder folds to the modulus itself. -/
def euclideanRemainder (x modulus : Float) : Float :=
  let rest := remainder x modulus
  if rest < 0.0 then rest + modulus.abs else rest

/-- The integer nearest to `significand * 2 ^ exponent`, an exact half going up. -/
def nearestInteger (significand : Nat) (exponent : Int) : Nat :=
  match exponent with
  | .ofNat shift => significand <<< shift
  | .negSucc shift => ((significand >>> shift) + 1) >>> 1

/-- The least integer of 64 bits. -/
def leastInt64 : Int := -9223372036854775808

/-- The greatest integer of 64 bits. -/
def greatestInt64 : Int := 9223372036854775807

/-- How many integers of 64 bits there are. -/
def wordRange : Nat := 18446744073709551616

/-- The integer moved to the nearest bound of the 64-bit range if it lies outside. -/
def clampInt64 (value : Int) : Int :=
  max leastInt64 (min greatestInt64 value)

/-- The 64-bit integer nearest to `x`. A half goes away from zero, a value beyond the
range to its bound, and an undefined value to zero. -/
def roundToInt64 (x : Float) : Int :=
  match x.toModel.unpack with
  | .finite .positive significand exponent _ => clampInt64 (nearestInteger significand exponent)
  | .finite .negative significand exponent _ =>
    clampInt64 (-(nearestInteger significand exponent : Int))
  | .infinity .positive => greatestInt64
  | .infinity .negative => leastInt64
  | .zero _ => 0
  | .notANumber => 0

end CollectivePerception.Binary64
