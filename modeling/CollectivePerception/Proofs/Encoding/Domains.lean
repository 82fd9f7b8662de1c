/-
This file proves that what a station encodes is always acceptable. A value that is moved
into its range or given up outside it lies in the domain of its field, so no quantity of the
station or of an object can make a message faulty, however large or undefined it is. The
heading is the one field that is neither moved nor given up: it lies in its range because a
folded angle is not below zero (`admits_heading`).
-/

import CollectivePerception.Encoding
import CollectivePerception.Proofs.Binary64.Folding
import CollectivePerception.Proofs.Message.Acceptance

namespace CollectivePerception

open Binary64 (roundToInt64)

/-! ### Moving values into their domain -/

namespace FieldDomain

theorem inRange_iff {domain : FieldDomain} {value : Int} :
    domain.inRange value = true ↔ domain.least ≤ value ∧ value ≤ domain.greatest := by
  rw [inRange, Bool.and_eq_true, decide_eq_true_iff, decide_eq_true_iff]

theorem admits_of_inRange {domain : FieldDomain} {value : Int}
    (inside : domain.inRange value = true) : domain.admits value = true := by
  rw [admits, inside, Bool.or_true]

end FieldDomain

namespace MessageField

/-- A value that is moved into its range is admitted. -/
theorem admits_clamp (field : MessageField) (value : Int) :
    field.domain.admits (field.clamp value) = true := by
  have ordered : field.domain.least ≤ field.domain.greatest := by
    cases field <;> decide
  refine FieldDomain.admits_of_inRange (FieldDomain.inRange_iff.mpr ?_)
  unfold clamp
  split
  · exact ⟨Int.le_refl _, ordered⟩
  · split
    · exact ⟨ordered, Int.le_refl _⟩
    · omega

/-- A value that is given up outside its range is admitted, if the field has a value that
says so. -/
theorem admits_orUnavailable {field : MessageField} (value : Int)
    (optional : field.domain.unavailable.isSome = true) :
    field.domain.admits (field.orUnavailable value) = true := by
  unfold orUnavailable
  split
  · rename_i inside
    exact FieldDomain.admits_of_inRange inside
  · obtain ⟨sentinel, same⟩ := Option.isSome_iff_exists.mp optional
    rw [FieldDomain.admits, unavailable, same, Option.getD_some, beq_self_eq_true, Bool.true_or]

/-- A value is kept exactly if it lies in the range, as long as the value that says otherwise
does not. -/
theorem orUnavailable_ne_unavailable_iff {field : MessageField} {value : Int}
    (outside : field.domain.inRange field.unavailable = false) :
    field.orUnavailable value ≠ field.unavailable ↔ field.domain.inRange value = true := by
  unfold orUnavailable
  split
  · rename_i inside
    refine iff_of_true (fun same => ?_) inside
    rw [← same, inside] at outside
    cases outside
  · rename_i notInside
    exact iff_of_false (fun kept => kept rfl) notInside

section

variable {field : MessageField} {value : Int} (admitted : field.domain.admits value = true)
  (unsigned : 0 ≤ field.domain.least ∧ ∀ sentinel ∈ field.domain.unavailable, 0 ≤ sentinel)
include admitted unsigned

theorem nonneg_of_admits : 0 ≤ value := by
  rw [FieldDomain.admits, Bool.or_eq_true, beq_iff_eq, FieldDomain.inRange_iff] at admitted
  rcases admitted with sentinel | ⟨least, _⟩
  · exact unsigned.2 value sentinel
  · exact Int.le_trans unsigned.1 least

/-- Giving up the sign changes no value of a field that has no negative ones. -/
theorem admits_toNat : field.domain.admits (value.toNat : Int) = true := by
  rw [Int.toNat_of_nonneg (nonneg_of_admits admitted unsigned)]
  exact admitted

end

end MessageField

namespace Encoding

/-! ### The sender -/

/-- The tenths of a degree of a finite angle are not below zero. -/
theorem tenths_nonneg {angle : Angle} (isFinite : angle.radians.isFinite = true) :
    0 ≤ roundToInt64 (angle.normalized.degrees * 10.0) := by
  have turn : wholeTurn.toModel.unpack =
      .finite .positive 7074237752028440 (-50) (by decide) := rfl
  have degreesPerRadian : (57.29577951308232 : Float).toModel.unpack =
      .finite .positive 8063664102031864 (-47) (by decide) := rfl
  have ten : (10.0 : Float).toModel.unpack =
      .finite .positive 5629499534213120 (-49) (by decide) := rfl
  have folded := Binary64.not_belowZero_euclideanRemainder isFinite turn
  have degrees := Binary64.not_belowZero_mul folded degreesPerRadian
  exact Binary64.roundToInt64_nonneg (Binary64.not_belowZero_mul degrees ten)

/-- The heading of a finite angle is less than a whole turn. -/
theorem heading_lt_of_isFinite {angle : Angle} (isFinite : angle.radians.isFinite = true) :
    heading angle < 3600 := by
  have nonneg := tenths_nonneg isFinite
  rw [heading, if_pos isFinite]
  generalize roundToInt64 (angle.normalized.degrees * 10.0) = tenths at nonneg
  have least := Int.tmod_nonneg 3600 nonneg
  have greatest := Int.tmod_lt_of_pos tenths (by decide : (0 : Int) < 3600)
  omega

/-- A heading is less than a whole turn, or not available. -/
theorem admits_heading (angle : Angle) :
    MessageField.heading.domain.admits (heading angle) = true := by
  cases isFinite : angle.radians.isFinite with
  | true =>
    have less := heading_lt_of_isFinite isFinite
    refine FieldDomain.admits_of_inRange (FieldDomain.inRange_iff.mpr ?_)
    show (0 : Int) ≤ _ ∧ _ ≤ (3599 : Int)
    omega
  | false =>
    rw [heading, if_neg (Bool.eq_false_iff.mp isFinite)]
    rfl

theorem vehicleFault?_vehicleData (own : OwnState) :
    FixedLayout.vehicleFault? (some (vehicleData own)) = none := by
  rw [FixedLayout.vehicleFault?_eq_none_iff]
  intro data same
  cases same
  exact ⟨admits_heading own.heading,
    MessageField.admits_toNat (MessageField.admits_orUnavailable _ rfl) (by decide),
    MessageField.admits_orUnavailable _ rfl, MessageField.admits_orUnavailable _ rfl⟩

/-- Whether a station's position can be given in a message. -/
def IsLocated (own : OwnState) : Prop :=
  MessageField.latitude.domain.inRange (roundToInt64 (own.geo.latitude * 1e7)) = true ∧
    MessageField.longitude.domain.inRange (roundToInt64 (own.geo.longitude * 1e7)) = true

instance (own : OwnState) : Decidable (IsLocated own) :=
  inferInstanceAs (Decidable (_ ∧ _))

theorem referenceFault?_management (own : OwnState) (segment : Option SegmentNumber) :
    FixedLayout.referenceFault? (management own segment).reference = none :=
  FixedLayout.referenceFault?_eq_none_iff.mpr
    ⟨MessageField.admits_orUnavailable _ rfl, MessageField.admits_orUnavailable _ rfl⟩

/-! ### Perceived objects -/

theorem recordFault?_perceivedObject (object : SceneObject) (seen : Option (Instant × Instant))
    (own : OwnState) : FixedLayout.recordFault? (perceivedObject object seen own) = none := by
  rw [FixedLayout.recordFault?_eq_none_iff]
  exact ⟨List.cons_ne_nil _ _, MessageField.admits_clamp _ _,
    MessageField.admits_toNat (MessageField.admits_clamp _ _) (by decide), rfl,
    MessageField.admits_clamp _ _, MessageField.admits_clamp _ _,
    MessageField.admits_orUnavailable _ rfl, MessageField.admits_orUnavailable _ rfl⟩

theorem recordSize_perceivedObject (object : SceneObject) (seen : Option (Instant × Instant))
    (own : OwnState) : FixedLayout.recordSize (perceivedObject object seen own) = 33 := rfl

end Encoding

end CollectivePerception
