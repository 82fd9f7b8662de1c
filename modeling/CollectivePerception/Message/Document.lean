/-
This file writes messages as documents and reads them from documents. Every part of a
message is a table; a part that a message does not have is written as null and may be
left out. Reading holds each number to the bits that its field has in the message, which
are more than its domain allows: whether a message is acceptable is for the encoding to
say. A list that stands for a record has no items but its fields.
-/

import CollectivePerception.Document
import CollectivePerception.Message

namespace CollectivePerception

open Document (Reader natural)

/-! ### Header and management -/

def Header.toDocument (header : Header) : Document :=
  .table [
    ("protocol_version", natural header.protocolVersion),
    ("message_id", natural header.messageId),
    ("station_id", natural header.station)]

def Header.ofDocument : Reader Header := fun document => do
  let fields ← Reader.fields document
  let protocolVersion ← fields.required 0 "protocol_version" (.natural 8)
  let messageId ← fields.required 1 "message_id" (.natural 8)
  let station ← fields.required 2 "station_id" (.natural 32)
  fields.refuseMore 3
  return ⟨protocolVersion, messageId, station⟩

def SegmentNumber.toDocument (segment : SegmentNumber) : Document :=
  .table [
    ("total_msg_segments", natural segment.total),
    ("this_segment_num", natural segment.this)]

def SegmentNumber.ofDocument : Reader SegmentNumber := fun document => do
  let fields ← Reader.fields document
  let total ← fields.required 0 "total_msg_segments" (.natural 8)
  let this ← fields.required 1 "this_segment_num" (.natural 8)
  fields.refuseMore 2
  return ⟨total, this⟩

def ReferencePosition.toDocument (reference : ReferencePosition) : Document :=
  .table [
    ("latitude", .integer reference.latitude),
    ("longitude", .integer reference.longitude)]

def ReferencePosition.ofDocument : Reader ReferencePosition := fun document => do
  let fields ← Reader.fields document
  let latitude ← fields.required 0 "latitude" (.signed 32)
  let longitude ← fields.required 1 "longitude" (.signed 32)
  fields.refuseMore 2
  return ⟨latitude, longitude⟩

def Management.toDocument (management : Management) : Document :=
  .table [
    ("station_type", .named management.stationType),
    ("reference_position", management.reference.toDocument),
    ("segment_info", .optional SegmentNumber.toDocument management.segment)]

def Management.ofDocument : Reader Management := fun document => do
  let fields ← Reader.fields document
  let stationType ← fields.required 0 "station_type" (.named Document.isNull)
  let reference ← fields.required 1 "reference_position" ReferencePosition.ofDocument
  let segment ← fields.optional 2 "segment_info" SegmentNumber.ofDocument
  fields.refuseMore 3
  return ⟨stationType, reference, segment⟩

/-! ### The sender's motion and sensors -/

def VehicleData.toDocument (vehicle : VehicleData) : Document :=
  .table [
    ("heading", natural vehicle.heading),
    ("speed", natural vehicle.speed),
    ("drive_direction", .named vehicle.direction),
    ("longitudinal_acceleration", .integer vehicle.acceleration),
    ("yaw_rate", .integer vehicle.yawRate)]

def VehicleData.ofDocument : Reader VehicleData := fun document => do
  let fields ← Reader.fields document
  let heading ← fields.required 0 "heading" (.natural 16)
  let speed ← fields.required 1 "speed" (.natural 16)
  let direction ← fields.required 2 "drive_direction" (.named Document.isNull)
  let acceleration ← fields.required 3 "longitudinal_acceleration" (.signed 16)
  let yawRate ← fields.required 4 "yaw_rate" (.signed 16)
  fields.refuseMore 5
  return ⟨heading, speed, direction, acceleration, yawRate⟩

def SensorInformation.toDocument (information : SensorInformation) : Document :=
  .table [
    ("sensor_id", natural information.sensor),
    ("sensor_type", .named information.type),
    ("x_offset", .integer information.xOffset),
    ("y_offset", .integer information.yOffset),
    ("range", natural information.range),
    ("opening_angle_start", natural information.openingStart),
    ("opening_angle_end", natural information.openingEnd)]

def SensorInformation.ofDocument : Reader SensorInformation := fun document => do
  let fields ← Reader.fields document
  let sensor ← fields.required 0 "sensor_id" (.natural 8)
  let type ← fields.required 1 "sensor_type" (.named Document.isNull)
  let xOffset ← fields.required 2 "x_offset" (.signed 16)
  let yOffset ← fields.required 3 "y_offset" (.signed 16)
  let range ← fields.required 4 "range" (.natural 16)
  let openingStart ← fields.required 5 "opening_angle_start" (.natural 16)
  let openingEnd ← fields.required 6 "opening_angle_end" (.natural 16)
  fields.refuseMore 7
  return ⟨sensor, type, xOffset, yOffset, range, openingStart, openingEnd⟩

/-! ### Perceived objects -/

def ObjectClass.toDocument : ObjectClass → Document
  | .vehicle subclass => .table [("class", .text "vehicle"), ("subclass", .named subclass)]
  | .person subclass => .table [("class", .text "person"), ("subclass", .named subclass)]
  | .other subclass => .table [("class", .text "other"), ("subclass", .named subclass)]

/-- The reader of the subclass of a class. -/
def ObjectClass.subclassReader? : String → Option (Reader ObjectClass)
  | "vehicle" => some fun document => (Reader.named Document.isNull document).map .vehicle
  | "person" => some fun document => (Reader.named Document.isNull document).map .person
  | "other" => some fun document => (Reader.named Document.isNull document).map .other
  | _ => none

def ObjectClass.ofDocument : Reader ObjectClass := fun document => do
  let fields ← Reader.fields document
  let reader ← fields.required 0 "class" (.chosen subclassReader?)
  let type ← fields.required 1 "subclass" reader
  fields.refuseMore 2
  return type

def PerceivedObject.toDocument (record : PerceivedObject) : Document :=
  .table [
    ("object_id", natural record.object),
    ("sensor_ids", .list (record.sensors.map natural)),
    ("time_of_measurement", .integer record.timeOfMeasurement),
    ("object_age", natural record.age),
    ("confidence", natural record.confidence),
    ("x_distance", .integer record.xDistance),
    ("y_distance", .integer record.yDistance),
    ("x_speed", .integer record.xSpeed),
    ("y_speed", .integer record.ySpeed),
    ("dynamic_status", .named record.status),
    ("classification", .optional ObjectClass.toDocument record.classification),
    ("dimension_1", natural record.firstDimension),
    ("dimension_2", natural record.secondDimension)]

def PerceivedObject.ofDocument : Reader PerceivedObject := fun document => do
  let fields ← Reader.fields document
  let object ← fields.required 0 "object_id" (.natural 32)
  let sensors ← fields.required 1 "sensor_ids" (.list (.natural 8))
  let timeOfMeasurement ← fields.required 2 "time_of_measurement" (.signed 16)
  let age ← fields.required 3 "object_age" (.natural 16)
  let confidence ← fields.required 4 "confidence" (.natural 8)
  let xDistance ← fields.required 5 "x_distance" (.signed 32)
  let yDistance ← fields.required 6 "y_distance" (.signed 32)
  let xSpeed ← fields.required 7 "x_speed" (.signed 16)
  let ySpeed ← fields.required 8 "y_speed" (.signed 16)
  let status ← fields.required 9 "dynamic_status" (.named Document.isNull)
  let classification ← fields.optional 10 "classification" ObjectClass.ofDocument
  let firstDimension ← fields.required 11 "dimension_1" (.natural 16)
  let secondDimension ← fields.required 12 "dimension_2" (.natural 16)
  fields.refuseMore 13
  return ⟨object, sensors, timeOfMeasurement, age, confidence, xDistance, yDistance, xSpeed,
    ySpeed, status, classification, firstDimension, secondDimension⟩

/-! ### Messages -/

def Message.toDocument (message : Message) : Document :=
  .table [
    ("header", message.header.toDocument),
    ("generation_delta_time", natural message.generationTime),
    ("management", message.management.toDocument),
    ("station_data", .optional VehicleData.toDocument message.vehicle),
    ("sensor_information",
      .optional (fun sensors => .list (sensors.map SensorInformation.toDocument))
        message.sensors),
    ("perceived_objects", .list (message.objects.map PerceivedObject.toDocument)),
    ("number_of_perceived_objects", natural message.objectCount)]

def Message.ofDocument : Reader Message := fun document => do
  let fields ← Reader.fields document
  let header ← fields.required 0 "header" Header.ofDocument
  let generationTime ← fields.required 1 "generation_delta_time" (.natural 16)
  let management ← fields.required 2 "management" Management.ofDocument
  let vehicle ← fields.optional 3 "station_data" VehicleData.ofDocument
  let sensors ← fields.optional 4 "sensor_information" (.list SensorInformation.ofDocument)
  let objects ← fields.required 5 "perceived_objects" (.list PerceivedObject.ofDocument)
  let objectCount ← fields.required 6 "number_of_perceived_objects" (.natural 8)
  fields.refuseMore 7
  return ⟨header, generationTime, management, vehicle, sensors, objects, objectCount⟩

end CollectivePerception
