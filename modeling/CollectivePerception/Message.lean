/-
This file defines the collective perception message: a header, the sender's reference
position, and up to three optional parts, namely the sender's own motion, the
description of its sensors, and the records of the objects that it perceives. Numbers
are in the units of the message format, and each field has a domain: a range and, for
some, one further value that says that the quantity is not available.
-/

import CollectivePerception.Station

namespace CollectivePerception

/-! ### Fields and their domains -/

/-- The values that a numeric field may take: a range and at most one value that
stands for an unavailable quantity. -/
structure FieldDomain where
  least : Int
  greatest : Int
  unavailable : Option Int
deriving DecidableEq, Repr

namespace FieldDomain

/-- Whether a value lies in the range proper. -/
def inRange (domain : FieldDomain) (value : Int) : Bool :=
  domain.least ≤ value && value ≤ domain.greatest

/-- Whether a message may carry the value. -/
def admits (domain : FieldDomain) (value : Int) : Bool :=
  domain.unavailable == some value || domain.inRange value

end FieldDomain

/-- The numeric fields whose values are restricted. -/
inductive MessageField
  | latitude
  | longitude
  | heading
  | speed
  | longitudinalAcceleration
  | yawRate
  | timeOfMeasurement
  | objectAge
  | confidence
  | xDistance
  | yDistance
  | xSpeed
  | ySpeed
deriving DecidableEq, Repr

namespace MessageField

def name : MessageField → String
  | latitude => "latitude"
  | longitude => "longitude"
  | heading => "heading"
  | speed => "speed"
  | longitudinalAcceleration => "longitudinal_acceleration"
  | yawRate => "yaw_rate"
  | timeOfMeasurement => "time_of_measurement"
  | objectAge => "object_age"
  | confidence => "confidence"
  | xDistance => "x_distance"
  | yDistance => "y_distance"
  | xSpeed => "x_speed"
  | ySpeed => "y_speed"

/-- The speed of an object along one axis, in centimetres per second. -/
def objectSpeed : FieldDomain := ⟨-16383, 16382, some 16383⟩

/-- The distance of an object along one axis, in centimetres. -/
def objectDistance : FieldDomain := ⟨-132768, 132767, none⟩

/-- The domain of each field in the unit of the message format. -/
def domain : MessageField → FieldDomain
  | latitude => ⟨-900000000, 900000000, some 900000001⟩
  | longitude => ⟨-1800000000, 1800000000, some 1800000001⟩
  | heading => ⟨0, 3599, some 3601⟩
  | speed => ⟨0, 16382, some 16383⟩
  | longitudinalAcceleration => ⟨-160, 160, some 161⟩
  | yawRate => ⟨-32766, 32766, some 32767⟩
  | timeOfMeasurement => ⟨-1500, 1500, none⟩
  | objectAge => ⟨0, 1500, none⟩
  | confidence => ⟨0, 101, none⟩
  | xDistance => objectDistance
  | yDistance => objectDistance
  | xSpeed => objectSpeed
  | ySpeed => objectSpeed

/-- What a field carries when its quantity is not available. -/
def unavailable (field : MessageField) : Int :=
  field.domain.unavailable.getD 0

end MessageField

/-- The confidence, in percent, that means that it is not known. -/
def confidenceUnknown : Nat := 0

/-- The confidence from which on it is not available. -/
def confidenceUnavailable : Nat := 101

/-! ### Parts of a message -/

/-- The version of the message format. -/
def protocolVersion : Nat := 1

/-- The number that marks a message as a collective perception message. -/
def perceptionMessageId : Nat := 14

structure Header where
  protocolVersion : Nat
  messageId : Nat
  station : StationId
deriving DecidableEq, Repr, Inhabited

/-- The header of a collective perception message of a station. -/
def Header.perception (station : StationId) : Header :=
  ⟨CollectivePerception.protocolVersion, perceptionMessageId, station⟩

/-- The place of one message among those that a cycle was split into, counted from
one. -/
structure SegmentNumber where
  total : Nat
  this : Nat
deriving DecidableEq, Repr, Inhabited

/-- The sender's position in tenths of a microdegree. -/
structure ReferencePosition where
  latitude : Int
  longitude : Int
deriving DecidableEq, Repr, Inhabited

structure Management where
  stationType : StationType
  reference : ReferencePosition
  segment : Option SegmentNumber
deriving DecidableEq, Repr, Inhabited

/-- The sender's own motion: heading in tenths of a degree, speed in centimetres per
second without sign, acceleration in decimetres per second squared, yaw rate in
hundredths of a degree per second. -/
structure VehicleData where
  heading : Nat
  speed : Nat
  direction : DriveDirection
  acceleration : Int
  yawRate : Int
deriving DecidableEq, Repr, Inhabited

inductive SensorType
  | undefined
  | radar
  | lidar
  | monoVideo
  | stereoVision
  | fusion
deriving DecidableEq, Repr, Inhabited

instance : Named SensorType where
  name
    | .undefined => "undefined"
    | .radar => "radar"
    | .lidar => "lidar"
    | .monoVideo => "mono_video"
    | .stereoVision => "stereo_vision"
    | .fusion => "fusion"
  all := [.undefined, .radar, .lidar, .monoVideo, .stereoVision, .fusion]

/-- One sensor on board: its mounting offset in centimetres, its range in decimetres
and the angles that bound its view in tenths of a degree. -/
structure SensorInformation where
  sensor : Nat
  type : SensorType
  xOffset : Int
  yOffset : Int
  range : Nat
  openingStart : Nat
  openingEnd : Nat
deriving DecidableEq, Repr, Inhabited

/-! ### Perceived objects -/

inductive VehicleClass
  | moped
  | motorcycle
  | passengerCar
  | bus
  | lightTruck
  | heavyTruck
  | trailer
  | specialVehicles
  | tram
deriving DecidableEq, Repr, Inhabited

instance : Named VehicleClass where
  name
    | .moped => "moped"
    | .motorcycle => "motorcycle"
    | .passengerCar => "passenger_car"
    | .bus => "bus"
    | .lightTruck => "light_truck"
    | .heavyTruck => "heavy_truck"
    | .trailer => "trailer"
    | .specialVehicles => "special_vehicles"
    | .tram => "tram"
  all := [.moped, .motorcycle, .passengerCar, .bus, .lightTruck, .heavyTruck, .trailer,
    .specialVehicles, .tram]

inductive PersonClass
  | pedestrian
  | cyclist
deriving DecidableEq, Repr, Inhabited

instance : Named PersonClass where
  name
    | .pedestrian => "pedestrian"
    | .cyclist => "cyclist"
  all := [.pedestrian, .cyclist]

inductive OtherClass
  | unknown
  | roadSideUnit
deriving DecidableEq, Repr, Inhabited

instance : Named OtherClass where
  name
    | .unknown => "unknown"
    | .roadSideUnit => "road_side_unit"
  all := [.unknown, .roadSideUnit]

/-- What an object is, as far as the sender knows. -/
inductive ObjectClass
  | vehicle (subclass : VehicleClass)
  | person (subclass : PersonClass)
  | other (subclass : OtherClass)
deriving DecidableEq, Repr, Inhabited

inductive DynamicStatus
  | dynamic
  | hasBeenDynamic
  | static
deriving DecidableEq, Repr, Inhabited

instance : Named DynamicStatus where
  name
    | .dynamic => "dynamic"
    | .hasBeenDynamic => "has_been_dynamic"
    | .static => "static"
  all := [.dynamic, .hasBeenDynamic, .static]

/-- One perceived object. Its time of measurement and age are in milliseconds, its
distances from the sender in centimetres, its speeds in centimetres per second and
its dimensions in decimetres. -/
structure PerceivedObject where
  object : StationId
  sensors : List Nat
  timeOfMeasurement : Int
  age : Nat
  confidence : Nat
  xDistance : Int
  yDistance : Int
  xSpeed : Int
  ySpeed : Int
  status : DynamicStatus
  classification : Option ObjectClass
  firstDimension : Nat
  secondDimension : Nat
deriving DecidableEq, Repr, Inhabited

/-- How urgent it is to send a record: the forward speed weighted by the confidence,
or the plain speed if the confidence says nothing. -/
def PerceivedObject.priority (record : PerceivedObject) : Int :=
  if record.confidence = confidenceUnknown ∨ confidenceUnavailable ≤ record.confidence then
    record.xSpeed
  else
    record.confidence * record.xSpeed

/-! ### Messages -/

/-- A collective perception message, or one segment of it. The object count is that
of all objects that the sender tracks and not of those in this message. -/
structure Message where
  header : Header
  generationTime : Nat
  management : Management
  vehicle : Option VehicleData
  sensors : Option (List SensorInformation)
  objects : List PerceivedObject
  objectCount : Nat
deriving DecidableEq, Repr, Inhabited

namespace Message

def sender (message : Message) : StationId := message.header.station

def isSegmented (message : Message) : Bool := message.management.segment.isSome

/-- The message with its segment number set. -/
def numbered (message : Message) (segment : SegmentNumber) : Message :=
  { message with management := { message.management with segment := some segment } }

/-- No message carries more objects than this. -/
def objectLimit : Nat := 128

/-- No cycle is split into more messages than this. -/
def segmentLimit : Nat := 127

/-- No cycle reports more objects than this. -/
def cycleLimit : Nat := 255

/-- No message describes more sensors than this. -/
def sensorLimit : Nat := 128

end Message

end CollectivePerception
