/-
This file proves that the fixed layout accepts exactly the messages that meet the requirements
of the format, and that of a message that does not it names the first requirement that is
violated, with the values that violate it (`FixedLayout.fault?_names_first_violation`). The
requirements are those of the parts of a message, in their order, with the ranges and the values
for "not available" as the format has them. Some of these values lie apart from their range, so
that a heading of 3600 is refused, though 3599 and 3601 are accepted.
-/

import CollectivePerception.Message.Codec
import CollectivePerception.Proofs.Requirement
import Mathlib.Data.List.Forall2

namespace CollectivePerception

/-! ### The requirements of the format -/

namespace MessageField

/-- A field lies in a range. -/
def inRange (field : MessageField) (least greatest value : Int) : Requirement MessageFault :=
  ⟨least ≤ value ∧ value ≤ greatest, .outOfRange field value⟩

/-- A field lies in a range or has the value that says that its quantity is not available. -/
def inRangeOr (field : MessageField) (least greatest unavailable value : Int) :
    Requirement MessageFault :=
  ⟨least ≤ value ∧ value ≤ greatest ∨ value = unavailable, .outOfRange field value⟩

end MessageField

def Header.requirement (header : Header) : Requirement MessageFault :=
  ⟨header.protocolVersion = 1 ∧ header.messageId = 14,
    .header header.protocolVersion header.messageId⟩

def SegmentNumber.requirement (segment : SegmentNumber) : Requirement MessageFault :=
  ⟨1 ≤ segment.this ∧ segment.this ≤ segment.total ∧ segment.total ≤ 127,
    .segment segment.this segment.total⟩

def ReferencePosition.requirements (reference : ReferencePosition) :
    List (Requirement MessageFault) := [
  MessageField.latitude.inRangeOr (-900000000) 900000000 900000001 reference.latitude,
  MessageField.longitude.inRangeOr (-1800000000) 1800000000 1800000001 reference.longitude]

def VehicleData.requirements (vehicle : VehicleData) : List (Requirement MessageFault) := [
  MessageField.heading.inRangeOr 0 3599 3601 vehicle.heading,
  MessageField.speed.inRangeOr 0 16382 16383 vehicle.speed,
  MessageField.longitudinalAcceleration.inRangeOr (-160) 160 161 vehicle.acceleration,
  MessageField.yawRate.inRangeOr (-32766) 32766 32767 vehicle.yawRate]

/-- A description of sensors has one to 128 entries. -/
def sensorsRequirement (sensors : List SensorInformation) : Requirement MessageFault :=
  ⟨1 ≤ sensors.length ∧ sensors.length ≤ 128, .sensorCount sensors.length⟩

def PerceivedObject.requirements (record : PerceivedObject) : List (Requirement MessageFault) := [
  ⟨record.sensors ≠ [], .noSensor record.object⟩,
  MessageField.timeOfMeasurement.inRange (-1500) 1500 record.timeOfMeasurement,
  MessageField.objectAge.inRange 0 1500 record.age,
  MessageField.confidence.inRange 0 101 record.confidence,
  MessageField.xDistance.inRange (-132768) 132767 record.xDistance,
  MessageField.yDistance.inRange (-132768) 132767 record.yDistance,
  MessageField.xSpeed.inRangeOr (-16383) 16382 16383 record.xSpeed,
  MessageField.ySpeed.inRangeOr (-16383) 16382 16383 record.ySpeed]

/-- There are at most 128 objects, and the record of each meets its requirements. -/
def objectsRequirements (objects : List PerceivedObject) : List (Requirement MessageFault) :=
  ⟨objects.length ≤ 128, .tooManyObjects objects.length⟩ ::
    objects.flatMap PerceivedObject.requirements

/-- The requirements on all parts of a message, in the order in which they are checked. -/
def Message.requirements (message : Message) : List (Requirement MessageFault) :=
  [message.header.requirement] ++
    (message.management.segment.toList.map SegmentNumber.requirement ++
      (message.management.reference.requirements ++
        (message.vehicle.toList.flatMap VehicleData.requirements ++
          (message.sensors.toList.map sensorsRequirement ++
            objectsRequirements message.objects))))

/-! ### Fields without requirements -/

/-- The records of two objects differ at most in fields without requirements and in the number
of the object. -/
structure PerceivedObject.Alike (record other : PerceivedObject) : Prop where
  sensors_iff : other.sensors ≠ [] ↔ record.sensors ≠ []
  timeOfMeasurement_eq : other.timeOfMeasurement = record.timeOfMeasurement
  age_eq : other.age = record.age
  confidence_eq : other.confidence = record.confidence
  xDistance_eq : other.xDistance = record.xDistance
  yDistance_eq : other.yDistance = record.yDistance
  xSpeed_eq : other.xSpeed = record.xSpeed
  ySpeed_eq : other.ySpeed = record.ySpeed

/-- Two messages differ at most in fields without requirements and in the numbers of their
objects. -/
structure Message.Alike (message other : Message) : Prop where
  protocolVersion_eq : other.header.protocolVersion = message.header.protocolVersion
  messageId_eq : other.header.messageId = message.header.messageId
  segment_eq : other.management.segment = message.management.segment
  reference_eq : other.management.reference = message.management.reference
  vehicle_eq : other.vehicle.map (fun data =>
      (data.heading, data.speed, data.acceleration, data.yawRate)) =
    message.vehicle.map fun data =>
      (data.heading, data.speed, data.acceleration, data.yawRate)
  sensors_eq : other.sensors.map List.length = message.sensors.map List.length
  objects_alike : List.Forall₂ PerceivedObject.Alike message.objects other.objects

namespace FixedLayout

/-! ### The checks of the parts -/

theorem verdict_inRange {field : MessageField} {least greatest : Int}
    (range : field.domain = ⟨least, greatest, none⟩) (value : Int) :
    Verdict [field.inRange least greatest value] (fieldFault? field value) := by
  have admitted : field.domain.admits value = true ↔ least ≤ value ∧ value ≤ greatest := by
    simp [range, FieldDomain.admits, FieldDomain.inRange]
  simp only [fieldFault?, admitted]
  exact .singleton _

theorem verdict_inRangeOr {field : MessageField} {least greatest unavailable : Int}
    (range : field.domain = ⟨least, greatest, some unavailable⟩) (value : Int) :
    Verdict [field.inRangeOr least greatest unavailable value] (fieldFault? field value) := by
  have admitted : field.domain.admits value = true ↔
      least ≤ value ∧ value ≤ greatest ∨ value = unavailable := by
    simp [range, FieldDomain.admits, FieldDomain.inRange, or_comm, eq_comm (a := unavailable)]
  simp only [fieldFault?, admitted]
  exact .singleton _

example : fieldFault? .heading 3600 = some (.outOfRange .heading 3600) := rfl
example : fieldFault? .heading 3601 = none := rfl

theorem verdict_header (header : Header) :
    Verdict [header.requirement] (headerFault? header) :=
  .singleton _

theorem verdict_segment (segment : Option SegmentNumber) :
    Verdict (segment.toList.map SegmentNumber.requirement) (segmentFault? segment) := by
  cases segment with
  | none => exact .nil
  | some number => exact .singleton _

theorem verdict_reference (reference : ReferencePosition) :
    Verdict reference.requirements (referenceFault? reference) :=
  (verdict_inRangeOr rfl reference.latitude).append (verdict_inRangeOr rfl reference.longitude)

theorem verdict_vehicle (vehicle : Option VehicleData) :
    Verdict (vehicle.toList.flatMap VehicleData.requirements) (vehicleFault? vehicle) := by
  cases vehicle with
  | none => exact .nil
  | some data =>
    rw [Option.toList_some, List.flatMap_singleton]
    exact (verdict_inRangeOr rfl data.heading).append <|
      (verdict_inRangeOr rfl data.speed).append <|
      (verdict_inRangeOr rfl data.acceleration).append (verdict_inRangeOr rfl data.yawRate)

theorem verdict_sensors (sensors : Option (List SensorInformation)) :
    Verdict (sensors.toList.map sensorsRequirement) (sensorsFault? sensors) := by
  cases sensors with
  | none => exact .nil
  | some description => exact .singleton _

theorem verdict_record (record : PerceivedObject) :
    Verdict record.requirements (recordFault? record) := by
  rw [recordFault?]
  by_cases unnamed : record.sensors = []
  · rw [if_pos (List.isEmpty_iff.mpr unnamed)]
    exact .violated fun named => named unnamed
  · rw [if_neg fun empty => unnamed (List.isEmpty_iff.mp empty)]
    exact .met unnamed <|
      (verdict_inRange rfl record.timeOfMeasurement).append <|
      (verdict_inRange rfl record.age).append <|
      (verdict_inRange rfl record.confidence).append <|
      (verdict_inRange rfl record.xDistance).append <|
      (verdict_inRange rfl record.yDistance).append <|
      (verdict_inRangeOr rfl record.xSpeed).append (verdict_inRangeOr rfl record.ySpeed)

theorem verdict_objects (objects : List PerceivedObject) :
    Verdict (objectsRequirements objects) (objectsFault? objects) := by
  rw [objectsFault?]
  split
  · rename_i few
    exact .met few (.flatMap verdict_record objects)
  · rename_i many
    exact .violated many

/-- The fault of a message comes of checking its requirements one after the other. -/
theorem verdict_message (message : Message) :
    Verdict message.requirements (fault? message) :=
  (verdict_header message.header).append <|
    (verdict_segment message.management.segment).append <|
    (verdict_reference message.management.reference).append <|
    (verdict_vehicle message.vehicle).append <|
    (verdict_sensors message.sensors).append (verdict_objects message.objects)

/-! ### Messages that are alike -/

theorem objectRequirements_of_alike {record other : PerceivedObject} (alike : record.Alike other) :
    other.requirements.map (·.holds) = record.requirements.map (·.holds) ∧
      (other.object = record.object → other.requirements = record.requirements) := by
  simp only [PerceivedObject.requirements, alike.timeOfMeasurement_eq, alike.age_eq,
    alike.confidence_eq, alike.xDistance_eq, alike.yDistance_eq, alike.xSpeed_eq, alike.ySpeed_eq,
    List.map_cons, alike.sensors_iff, true_and]
  intro same
  rw [same]

theorem objectsRequirements_of_alike {objects others : List PerceivedObject}
    (alike : List.Forall₂ PerceivedObject.Alike objects others) :
    (objectsRequirements others).map (·.holds) = (objectsRequirements objects).map (·.holds) ∧
      (others.map (·.object) = objects.map (·.object) →
        objectsRequirements others = objectsRequirements objects) := by
  have records : (others.flatMap PerceivedObject.requirements).map (·.holds) =
        (objects.flatMap PerceivedObject.requirements).map (·.holds) ∧
      (others.map (·.object) = objects.map (·.object) →
        others.flatMap PerceivedObject.requirements =
          objects.flatMap PerceivedObject.requirements) := by
    induction alike with
    | nil => exact ⟨rfl, fun _ => rfl⟩
    | cons first _ inductionHypothesis =>
      obtain ⟨holds, same⟩ := objectRequirements_of_alike first
      simp only [List.flatMap_cons, List.map_append, List.map_cons, List.cons.injEq]
      refine ⟨by rw [holds, inductionHypothesis.1], fun ⟨number, numbers⟩ => ?_⟩
      rw [same number, inductionHypothesis.2 numbers]
  rw [objectsRequirements, objectsRequirements, alike.length_eq, List.map_cons, List.map_cons,
    records.1]
  refine ⟨rfl, fun numbers => ?_⟩
  rw [records.2 numbers]

/-- What depends on an optional part only through a view of it is the same for parts with the same
view. -/
theorem map_toList_of_map_eq {Part View Image : Type} {view : Part → View} {image : Part → Image}
    (agree : ∀ own other, view other = view own → image other = image own)
    {own other : Option Part} (same : other.map view = own.map view) :
    other.toList.map image = own.toList.map image := by
  cases own with
  | none =>
    rw [Option.map_eq_none_iff.mp same]
  | some part =>
    obtain ⟨counterpart, found, views⟩ := Option.map_eq_some_iff.mp same
    rw [found, Option.toList_some, Option.toList_some, List.map_singleton, List.map_singleton,
      agree part counterpart views]

/-- Alike messages have the same requirements before those of their objects. -/
theorem requirements_of_alike {message other : Message} (alike : message.Alike other) :
    ∃ front, message.requirements = front ++ objectsRequirements message.objects ∧
      other.requirements = front ++ objectsRequirements other.objects := by
  have header : other.header.requirement = message.header.requirement := by
    rw [Header.requirement, alike.protocolVersion_eq, alike.messageId_eq]
    rfl
  have vehicle : other.vehicle.toList.flatMap VehicleData.requirements =
      message.vehicle.toList.flatMap VehicleData.requirements := by
    rw [List.flatMap_def, List.flatMap_def]
    refine congrArg List.flatten (map_toList_of_map_eq (fun own theirs fields => ?_)
      alike.vehicle_eq)
    simp only [Prod.mk.injEq] at fields
    obtain ⟨heading, speed, acceleration, yawRate⟩ := fields
    rw [VehicleData.requirements, VehicleData.requirements, heading, speed, acceleration, yawRate]
  have sensors : other.sensors.toList.map sensorsRequirement =
      message.sensors.toList.map sensorsRequirement := by
    refine map_toList_of_map_eq (fun own theirs length => ?_) alike.sensors_eq
    rw [sensorsRequirement, sensorsRequirement, length]
  refine ⟨[message.header.requirement] ++
    (message.management.segment.toList.map SegmentNumber.requirement ++
      (message.management.reference.requirements ++
        (message.vehicle.toList.flatMap VehicleData.requirements ++
          message.sensors.toList.map sensorsRequirement))), ?_, ?_⟩
  · simp only [Message.requirements, List.append_assoc]
  · simp only [Message.requirements, List.append_assoc, header, alike.segment_eq,
      alike.reference_eq, vehicle, sensors]

/-- Alike messages are both without a fault, or none of them is, and if their objects have the
same numbers as well, then they have the same fault. -/
theorem fault?_of_alike {message other : Message} (alike : message.Alike other) :
    (fault? other = none ↔ fault? message = none) ∧
      (other.objects.map (·.object) = message.objects.map (·.object) →
        fault? other = fault? message) := by
  obtain ⟨front, own, others⟩ := requirements_of_alike alike
  obtain ⟨holds, same⟩ := objectsRequirements_of_alike alike.objects_alike
  have conditions : other.requirements.map (·.holds) = message.requirements.map (·.holds) := by
    rw [own, others, List.map_append, List.map_append, holds]
  refine ⟨?_, fun numbers => Option.ext fun fault => ?_⟩
  · have met : ∀ requirements : List (Requirement MessageFault),
        (∀ requirement ∈ requirements, requirement.holds) ↔
          ∀ condition ∈ requirements.map (·.holds), condition := fun _ => by
      rw [List.forall_mem_map]
    rw [(verdict_message other).eq_none_iff, (verdict_message message).eq_none_iff, met, met,
      conditions]
  · rw [(verdict_message other).eq_some_iff, (verdict_message message).eq_some_iff, own, others,
      same numbers]

/-! ### The domain of the format -/

/-- A message has no fault exactly if it meets all requirements of the format, and otherwise its
fault is that of the first requirement, in the order of the parts, that it does not meet. Fields
without requirements make no difference to this, and the numbers of the objects only to what the
fault of an object without a sensor says. -/
theorem fault?_names_first_violation (message : Message) :
    (Codec.fixedLayout.fault? message = none ↔
        ∀ requirement ∈ message.requirements, requirement.holds) ∧
      (∀ fault, Codec.fixedLayout.fault? message = some fault ↔
        FirstViolated message.requirements fault) ∧
      ∀ other, message.Alike other →
        (Codec.fixedLayout.fault? other = none ↔ Codec.fixedLayout.fault? message = none) ∧
          (other.objects.map (·.object) = message.objects.map (·.object) →
            Codec.fixedLayout.fault? other = Codec.fixedLayout.fault? message) :=
  ⟨(verdict_message message).eq_none_iff, fun _ => (verdict_message message).eq_some_iff,
    fun _ => fault?_of_alike⟩

end FixedLayout

end CollectivePerception
