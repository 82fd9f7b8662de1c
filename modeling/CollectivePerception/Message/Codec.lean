/-
This file defines what the engine needs to know of the encoding of messages: how many
bytes a message takes, and why a message is not acceptable, if it is not. The fixed
layout gives every part of a message a constant size and accepts exactly the messages
whose fields lie in their domains; of several faults it names the first in the order
of the message's parts.
-/

import CollectivePerception.Message
import CollectivePerception.Total

namespace CollectivePerception

/-! ### Faults -/

/-- Why a message is not acceptable. -/
inductive MessageFault
  | header (protocolVersion messageId : Nat)
  | segment (this total : Nat)
  | tooManyObjects (count : Nat)
  | sensorCount (count : Nat)
  | noSensor (object : StationId)
  | outOfRange (field : MessageField) (value : Int)
deriving DecidableEq, Repr

def MessageFault.message : MessageFault → String
  | header version id => s!"unexpected header: protocol version {version}, message id {id}"
  | segment this total => s!"segment {this} of {total} is not a valid segment number"
  | tooManyObjects count => s!"{count} perceived objects exceed the container limit"
  | sensorCount count => s!"sensor information container holds {count} entries"
  | noSensor object => s!"perceived object {object} has no sensor id"
  | outOfRange field value => field.name ++ s!" out of range: {value}"

/-- The size and the acceptance of messages under one encoding. -/
structure Codec where
  encodedSize : Message → Nat
  /-- The fault of a message that is not acceptable. -/
  fault? : Message → Option MessageFault

namespace FixedLayout

/-! ### Sizes -/

/-- The bytes of one object record: thirty, one for each sensor that saw it, and two
for a classification. -/
def recordSize (record : PerceivedObject) : Nat :=
  30 + record.sensors.length + if record.classification.isSome then 2 else 0

/-- The bytes of header, generation time and management without segment number. -/
def baseSize : Nat := 6 + 2 + 11

def segmentSize (segment : Option SegmentNumber) : Nat :=
  if segment.isSome then 2 else 0

def vehicleSize (vehicle : Option VehicleData) : Nat :=
  if vehicle.isSome then 9 else 0

/-- A description of sensors has a count and twelve bytes for each of them. -/
def sensorsSize : Option (List SensorInformation) → Nat
  | none => 0
  | some sensors => 1 + 12 * sensors.length

/-- The objects have a count unless there are none. -/
def objectsSize (objects : List PerceivedObject) : Nat :=
  if objects.isEmpty then 0 else 1 + totalOf (objects.map recordSize)

/-- The bytes that a message takes. -/
def encodedSize (message : Message) : Nat :=
  baseSize + segmentSize message.management.segment + vehicleSize message.vehicle +
    sensorsSize message.sensors + objectsSize message.objects

/-! ### Acceptance -/

/-- The fault of a field whose value lies outside its domain. -/
def fieldFault? (field : MessageField) (value : Int) : Option MessageFault :=
  if field.domain.admits value then none else some (.outOfRange field value)

def headerFault? (header : Header) : Option MessageFault :=
  if header.protocolVersion = protocolVersion ∧ header.messageId = perceptionMessageId then
    none
  else
    some (.header header.protocolVersion header.messageId)

def segmentFault? : Option SegmentNumber → Option MessageFault
  | none => none
  | some segment =>
    if 1 ≤ segment.this ∧ segment.this ≤ segment.total ∧ segment.total ≤ Message.segmentLimit then
      none
    else
      some (.segment segment.this segment.total)

def referenceFault? (reference : ReferencePosition) : Option MessageFault :=
  (fieldFault? .latitude reference.latitude).or (fieldFault? .longitude reference.longitude)

def vehicleFault? : Option VehicleData → Option MessageFault
  | none => none
  | some vehicle =>
    (fieldFault? .heading vehicle.heading).or <|
    (fieldFault? .speed vehicle.speed).or <|
    (fieldFault? .longitudinalAcceleration vehicle.acceleration).or <|
    fieldFault? .yawRate vehicle.yawRate

def sensorsFault? : Option (List SensorInformation) → Option MessageFault
  | none => none
  | some sensors =>
    if 1 ≤ sensors.length ∧ sensors.length ≤ Message.sensorLimit then none
    else some (.sensorCount sensors.length)

def recordFault? (record : PerceivedObject) : Option MessageFault :=
  if record.sensors.isEmpty then
    some (.noSensor record.object)
  else
    (fieldFault? .timeOfMeasurement record.timeOfMeasurement).or <|
    (fieldFault? .objectAge record.age).or <|
    (fieldFault? .confidence record.confidence).or <|
    (fieldFault? .xDistance record.xDistance).or <|
    (fieldFault? .yDistance record.yDistance).or <|
    (fieldFault? .xSpeed record.xSpeed).or <|
    fieldFault? .ySpeed record.ySpeed

def objectsFault? (objects : List PerceivedObject) : Option MessageFault :=
  if objects.length ≤ Message.objectLimit then objects.findSome? recordFault?
  else some (.tooManyObjects objects.length)

/-- The first fault of a message. -/
def fault? (message : Message) : Option MessageFault :=
  (headerFault? message.header).or <|
  (segmentFault? message.management.segment).or <|
  (referenceFault? message.management.reference).or <|
  (vehicleFault? message.vehicle).or <|
  (sensorsFault? message.sensors).or <|
  objectsFault? message.objects

end FixedLayout

/-- The encoding in which every part has a constant size. -/
def Codec.fixedLayout : Codec := ⟨FixedLayout.encodedSize, FixedLayout.fault?⟩

end CollectivePerception
