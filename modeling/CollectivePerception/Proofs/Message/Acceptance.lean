/-
This file says which messages the fixed layout accepts: a message without a fault is one
without a fault in any of its parts, and a field has no fault exactly if its domain admits
the value.
-/

import CollectivePerception.Message.Codec

namespace CollectivePerception.FixedLayout

theorem fieldFault?_eq_none_iff {field : MessageField} {value : Int} :
    fieldFault? field value = none ↔ field.domain.admits value = true := by
  unfold fieldFault?
  split
  · rename_i admitted
    exact iff_of_true rfl admitted
  · rename_i refused
    exact iff_of_false nofun refused

theorem headerFault?_perception (station : StationId) :
    headerFault? (.perception station) = none :=
  if_pos ⟨rfl, rfl⟩

theorem segmentFault?_eq_none_iff {segment : Option SegmentNumber} :
    segmentFault? segment = none ↔ ∀ number ∈ segment,
      1 ≤ number.this ∧ number.this ≤ number.total ∧ number.total ≤ Message.segmentLimit := by
  cases segment with
  | none => exact iff_of_true rfl fun _ absent => nomatch absent
  | some number => simp [segmentFault?]

theorem referenceFault?_eq_none_iff {reference : ReferencePosition} :
    referenceFault? reference = none ↔
      MessageField.latitude.domain.admits reference.latitude = true ∧
        MessageField.longitude.domain.admits reference.longitude = true := by
  rw [referenceFault?, Option.or_eq_none_iff, fieldFault?_eq_none_iff, fieldFault?_eq_none_iff]

theorem vehicleFault?_eq_none_iff {vehicle : Option VehicleData} :
    vehicleFault? vehicle = none ↔ ∀ data ∈ vehicle,
      MessageField.heading.domain.admits data.heading = true ∧
        MessageField.speed.domain.admits data.speed = true ∧
        MessageField.longitudinalAcceleration.domain.admits data.acceleration = true ∧
        MessageField.yawRate.domain.admits data.yawRate = true := by
  cases vehicle with
  | none => exact iff_of_true rfl fun _ absent => nomatch absent
  | some data =>
    simp only [vehicleFault?, Option.or_eq_none_iff, fieldFault?_eq_none_iff, Option.mem_some_iff,
      forall_eq']

theorem sensorsFault?_eq_none_iff {sensors : Option (List SensorInformation)} :
    sensorsFault? sensors = none ↔ ∀ description ∈ sensors,
      1 ≤ description.length ∧ description.length ≤ Message.sensorLimit := by
  cases sensors with
  | none => exact iff_of_true rfl fun _ absent => nomatch absent
  | some description => simp [sensorsFault?]

theorem recordFault?_eq_none_iff {record : PerceivedObject} :
    recordFault? record = none ↔ record.sensors ≠ [] ∧
      MessageField.timeOfMeasurement.domain.admits record.timeOfMeasurement = true ∧
      MessageField.objectAge.domain.admits record.age = true ∧
      MessageField.confidence.domain.admits record.confidence = true ∧
      MessageField.xDistance.domain.admits record.xDistance = true ∧
      MessageField.yDistance.domain.admits record.yDistance = true ∧
      MessageField.xSpeed.domain.admits record.xSpeed = true ∧
      MessageField.ySpeed.domain.admits record.ySpeed = true := by
  unfold recordFault?
  split
  · rename_i empty
    exact iff_of_false nofun fun accepted => accepted.1 (List.isEmpty_iff.mp empty)
  · rename_i nonempty
    simp only [Option.or_eq_none_iff, fieldFault?_eq_none_iff]
    exact ⟨fun admitted => ⟨fun empty => nonempty (List.isEmpty_iff.mpr empty), admitted⟩,
      And.right⟩

theorem objectsFault?_eq_none_iff {objects : List PerceivedObject} :
    objectsFault? objects = none ↔ objects.length ≤ Message.objectLimit ∧
      ∀ record ∈ objects, recordFault? record = none := by
  unfold objectsFault?
  split
  · rename_i few
    rw [List.findSome?_eq_none_iff]
    exact ⟨fun faultless => ⟨few, faultless⟩, And.right⟩
  · rename_i many
    exact iff_of_false nofun fun accepted => many accepted.1

/-- A message has no fault exactly if none of its parts has one. -/
theorem fault?_eq_none_iff {message : Message} :
    fault? message = none ↔ headerFault? message.header = none ∧
      segmentFault? message.management.segment = none ∧
      referenceFault? message.management.reference = none ∧
      vehicleFault? message.vehicle = none ∧ sensorsFault? message.sensors = none ∧
      objectsFault? message.objects = none := by
  simp only [fault?, Option.or_eq_none_iff]

end CollectivePerception.FixedLayout
