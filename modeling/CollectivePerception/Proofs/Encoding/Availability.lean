/-
This file proves what the fields of a message say about the quantities behind them
(`Encoding.fields_convey_quantities`). A field that has a value for "not available" carries the
integer nearest to its quantity if that integer lies in its range, and the value for "not
available" if it does not, which is the case for an infinite quantity as well.

An undefined quantity is the exception. Its conversion gives zero, which lies in the range of
every field, and so it is sent as if it had been measured (`undefinedState_sent_as_zero`). Only
the heading is looked at before it is converted, and is not available unless it is finite.
-/

import CollectivePerception.Proofs.Binary64.Rounding
import CollectivePerception.Proofs.Encoding.Domains

namespace CollectivePerception

open Binary64 (roundToInt64 value? roundAway clampInt64 leastInt64 greatestInt64)

namespace MessageField

/-! ### Quantities and their units -/

/-- A quantity is given in the unit of a field without becoming defined or finite by it. -/
structure Scales (quantity scaled : Float) : Prop where
  isNaN_eq : scaled.isNaN = quantity.isNaN
  isFinite : scaled.isFinite = true → quantity.isFinite = true

namespace Scales

variable {factor : Float} {significand : Nat} {exponent : Int} {positive : 0 < significand}
  (unpacked : factor.toModel.unpack = .finite .positive significand exponent positive)
include unpacked

theorem mul (quantity : Float) : Scales quantity (quantity * factor) :=
  ⟨Binary64.isNaN_mul unpacked, Binary64.isFinite_of_isFinite_mul unpacked⟩

theorem abs_mul (quantity : Float) : Scales quantity (quantity.abs * factor) where
  isNaN_eq := (Binary64.isNaN_mul unpacked).trans (Binary64.isNaN_abs quantity)
  isFinite finite := by
    rw [← Binary64.isFinite_abs]
    exact Binary64.isFinite_of_isFinite_mul unpacked finite

end Scales

/-- Whether a field can hold a quantity, which is finite then, and rounded to the unit of the
field it lies in the range. -/
def Holds (field : MessageField) (quantity scaled : Float) : Prop :=
  quantity.isFinite = true ∧ ∃ value ∈ value? scaled, field.domain.inRange (roundAway value) = true

/-- What a field says about a quantity for which it has been written. -/
structure Conveys (field : MessageField) (quantity scaled : Float) (written : Int) : Prop where
  unavailable_iff :
    written = field.unavailable ↔ quantity.isNaN = false ∧ ¬field.Holds quantity scaled
  rounded : ∀ value ∈ value? scaled, field.domain.inRange (roundAway value) = true →
    written = roundAway value
  zero : quantity.isNaN = true → written = 0

/-! ### Values outside the range -/

/-- Every range lies within the integers of 64 bits, and does not reach their bounds. -/
theorem domain_within_int64 (field : MessageField) :
    leastInt64 < field.domain.least ∧ field.domain.least ≤ 0 ∧ 0 ≤ field.domain.greatest ∧
      field.domain.greatest < greatestInt64 := by
  cases field <;> decide

theorem inRange_clampInt64 (field : MessageField) (value : Int) :
    field.domain.inRange (clampInt64 value) = field.domain.inRange value := by
  have within := field.domain_within_int64
  rw [Bool.eq_iff_iff, FieldDomain.inRange_iff, FieldDomain.inRange_iff, clampInt64]
  omega

theorem clampInt64_of_inRange {field : MessageField} {value : Int}
    (inside : field.domain.inRange value = true) : clampInt64 value = value := by
  have within := field.domain_within_int64
  rw [FieldDomain.inRange_iff] at inside
  rw [clampInt64]
  omega

theorem inRange_zero (field : MessageField) : field.domain.inRange 0 = true := by
  obtain ⟨_, least, greatest, _⟩ := field.domain_within_int64
  exact FieldDomain.inRange_iff.mpr ⟨least, greatest⟩

theorem inRange_of_infinite (field : MessageField) {x : Float} (number : x.isNaN = false)
    (infinite : x.isFinite = false) : field.domain.inRange (roundToInt64 x) = false := by
  have within := field.domain_within_int64
  rw [Bool.eq_false_iff, Ne, FieldDomain.inRange_iff]
  rcases Binary64.roundToInt64_of_not_isFinite number infinite with least | greatest
  · omega
  · omega

section

variable {field : MessageField} {quantity scaled : Float} (scales : Scales quantity scaled)
include scales

/-- The conversion of a quantity lies in the range of a field that can hold it, and so does that
of an undefined quantity. -/
theorem inRange_roundToInt64_iff : field.domain.inRange (roundToInt64 scaled) = true ↔
    quantity.isNaN = true ∨ field.Holds quantity scaled := by
  cases number : value? scaled with
  | some value =>
    have finite : scaled.isFinite = true := by
      rw [← Binary64.value?_isSome, number, Option.isSome_some]
    have defined : quantity.isNaN = false :=
      scales.isNaN_eq.symm.trans (Binary64.isNaN_of_isFinite finite)
    rw [Binary64.roundToInt64_eq number, inRange_clampInt64, defined]
    constructor
    · intro inside
      exact .inr ⟨scales.isFinite finite, value, number, inside⟩
    · rintro (undefined | ⟨_, other, same, inside⟩)
      · cases undefined
      · rw [number] at same
        cases same
        exact inside
  | none =>
    have notHeld : ¬field.Holds quantity scaled := by
      rintro ⟨_, value, same, _⟩
      rw [number] at same
      cases same
    rw [or_iff_left notHeld, ← scales.isNaN_eq]
    cases undefined : scaled.isNaN with
    | true =>
      rw [Binary64.roundToInt64_of_isNaN undefined]
      exact iff_of_true field.inRange_zero rfl
    | false =>
      have infinite : scaled.isFinite = false := by
        rw [← Binary64.value?_isSome, number, Option.isSome_none]
      rw [inRange_of_infinite field undefined infinite]

theorem conveys_orUnavailable (outside : field.domain.inRange field.unavailable = false) :
    field.Conveys quantity scaled (field.orUnavailable (roundToInt64 scaled)) where
  unavailable_iff := by
    have kept := (orUnavailable_ne_unavailable_iff outside).trans (inRange_roundToInt64_iff scales)
    rw [← not_iff_not, not_and_or, not_not, Bool.not_eq_false]
    exact kept
  rounded value number inside := by
    rw [Binary64.roundToInt64_eq number, clampInt64_of_inRange inside, orUnavailable,
      if_pos inside]
  zero undefined := by
    rw [Binary64.roundToInt64_of_isNaN (scales.isNaN_eq.trans undefined), orUnavailable,
      if_pos field.inRange_zero]

end

end MessageField

namespace Encoding

open MessageField (Conveys conveys_orUnavailable Scales)

theorem heading_eq_unavailable_iff (angle : Angle) :
    (heading angle : Int) = MessageField.heading.unavailable ↔ angle.radians.isFinite = false := by
  cases isFinite : angle.radians.isFinite with
  | true =>
    have less := heading_lt_of_isFinite isFinite
    have sentinel : MessageField.heading.unavailable = 3601 := rfl
    rw [sentinel]
    exact iff_of_false (by omega) Bool.noConfusion
  | false =>
    rw [heading, if_neg (Bool.eq_false_iff.mp isFinite)]
    exact iff_of_true rfl rfl

/-- A field carries its quantity, rounded, if it can hold it, and is not available for any other
quantity that is defined. An undefined quantity is sent as zero, unless it is the heading. -/
theorem fields_convey_quantities (own : OwnState) (segment : Option SegmentNumber)
    (object : SceneObject) (seen : Option (Instant × Instant)) :
    Conveys .latitude own.geo.latitude (own.geo.latitude * 1e7)
        (management own segment).reference.latitude ∧
      Conveys .longitude own.geo.longitude (own.geo.longitude * 1e7)
        (management own segment).reference.longitude ∧
      Conveys .speed own.speed (own.speed.abs * 100.0) (vehicleData own).speed ∧
      Conveys .longitudinalAcceleration own.acceleration (own.acceleration * 10.0)
        (vehicleData own).acceleration ∧
      Conveys .yawRate own.yawRate (own.yawRate * 100.0) (vehicleData own).yawRate ∧
      Conveys .xSpeed object.speed (object.speed * 100.0)
        (perceivedObject object seen own).xSpeed ∧
      Conveys .ySpeed object.speed (object.speed * 100.0)
        (perceivedObject object seen own).ySpeed ∧
      ((vehicleData own).heading = MessageField.heading.unavailable ↔
        own.heading.radians.isFinite = false) := by
  have tenMillion : (1e7 : Float).toModel.unpack =
      .finite .positive 5368709120000000 (-29) (by decide) := rfl
  have hundred : (100.0 : Float).toModel.unpack =
      .finite .positive 7036874417766400 (-46) (by decide) := rfl
  have ten : (10.0 : Float).toModel.unpack =
      .finite .positive 5629499534213120 (-49) (by decide) := rfl
  have speed : ((vehicleData own).speed : Int) =
      MessageField.speed.orUnavailable (roundToInt64 (own.speed.abs * 100.0)) :=
    Int.toNat_of_nonneg
      (MessageField.nonneg_of_admits (MessageField.admits_orUnavailable _ rfl) (by decide))
  refine ⟨conveys_orUnavailable (Scales.mul tenMillion _) rfl,
    conveys_orUnavailable (Scales.mul tenMillion _) rfl, ?_,
    conveys_orUnavailable (Scales.mul ten _) rfl,
    conveys_orUnavailable (Scales.mul hundred _) rfl,
    conveys_orUnavailable (Scales.mul hundred _) rfl,
    conveys_orUnavailable (Scales.mul hundred _) rfl, heading_eq_unavailable_iff own.heading⟩
  rw [speed]
  exact conveys_orUnavailable (Scales.abs_mul hundred _) rfl

/-- The state of a station none of whose quantities is defined. -/
def undefinedState : OwnState :=
  { OwnState.initial 1 .passengerCar with
    geo := ⟨0.0 / 0.0, 0.0 / 0.0⟩
    heading := ⟨0.0 / 0.0⟩
    speed := 0.0 / 0.0
    acceleration := 0.0 / 0.0
    yawRate := 0.0 / 0.0 }

/-- An object of undefined speed. -/
def undefinedObject : SceneObject :=
  { SceneObject.initial 2 .passengerCar with speed := 0.0 / 0.0 }

/-- A station that knows nothing of itself sends that it stands still at the origin, and only its
heading is not available. -/
theorem undefinedState_sent_as_zero :
    (undefinedState.geo.latitude.isFinite = false ∧
        (management undefinedState none).reference.latitude = 0 ∧
        MessageField.latitude.unavailable ≠ 0) ∧
      (undefinedState.geo.longitude.isFinite = false ∧
        (management undefinedState none).reference.longitude = 0 ∧
        MessageField.longitude.unavailable ≠ 0) ∧
      (undefinedState.speed.isFinite = false ∧ (vehicleData undefinedState).speed = 0 ∧
        MessageField.speed.unavailable ≠ 0) ∧
      (undefinedState.acceleration.isFinite = false ∧
        (vehicleData undefinedState).acceleration = 0 ∧
        MessageField.longitudinalAcceleration.unavailable ≠ 0) ∧
      (undefinedState.yawRate.isFinite = false ∧ (vehicleData undefinedState).yawRate = 0 ∧
        MessageField.yawRate.unavailable ≠ 0) ∧
      (undefinedObject.speed.isFinite = false ∧
        (perceivedObject undefinedObject none undefinedState).xSpeed = 0 ∧
        (perceivedObject undefinedObject none undefinedState).ySpeed = 0 ∧
        MessageField.xSpeed.unavailable ≠ 0 ∧ MessageField.ySpeed.unavailable ≠ 0) ∧
      (vehicleData undefinedState).heading = MessageField.heading.unavailable := by
  decide

end Encoding

end CollectivePerception
