/-
This file fills the parts of a message from what a station knows. Every quantity is
converted to the unit of its field and rounded. A value outside the field's domain is
moved to the nearest bound, or replaced by the value that says "not available" where
the field has one.
-/

import CollectivePerception.Message
import CollectivePerception.Scene

namespace CollectivePerception

open Binary64 (roundToInt64)

namespace MessageField

/-- The value of a field that is moved into its range. -/
def clamp (field : MessageField) (value : Int) : Int :=
  if value < field.domain.least then field.domain.least
  else if field.domain.greatest < value then field.domain.greatest
  else value

/-- The value of a field that is given up outside its range. -/
def orUnavailable (field : MessageField) (value : Int) : Int :=
  if field.domain.inRange value then value else field.unavailable

end MessageField

namespace Encoding

/-! ### The sender -/

/-- The management part of a station's message. -/
def management (own : OwnState) (segment : Option SegmentNumber) : Management where
  stationType := own.type
  reference :=
    { latitude := MessageField.latitude.orUnavailable (roundToInt64 (own.geo.latitude * 1e7))
      longitude := MessageField.longitude.orUnavailable (roundToInt64 (own.geo.longitude * 1e7)) }
  segment := segment

/-- A heading in tenths of a degree; the last half of a tenth before north is north. -/
def heading (angle : Angle) : Nat :=
  if angle.radians.isFinite then
    ((roundToInt64 (angle.normalized.degrees * 10.0)).tmod 3600 % 65536).toNat
  else
    MessageField.heading.unavailable.toNat

/-- A station's own motion. -/
def vehicleData (own : OwnState) : VehicleData where
  heading := heading own.heading
  speed := (MessageField.speed.orUnavailable (roundToInt64 (own.speed.abs * 100.0))).toNat
  direction := own.direction
  acceleration :=
    MessageField.longitudinalAcceleration.orUnavailable (roundToInt64 (own.acceleration * 10.0))
  yawRate := MessageField.yawRate.orUnavailable (roundToInt64 (own.yawRate * 100.0))

/-- The number of the front radar, to which every perceived object is attributed. -/
def radarId : Nat := 1

/-- The one sensor that every station has. -/
def frontRadar : SensorInformation where
  sensor := radarId
  type := .radar
  xOffset := -1
  yOffset := 1
  range := 10
  openingStart := 10
  openingEnd := 10

/-- The description of a station's sensors. -/
def sensorInformation : List SensorInformation := [frontRadar]

/-! ### Perceived objects -/

/-- What an object of a station type is. -/
def objectClass : StationType → ObjectClass
  | .moped => .vehicle .moped
  | .motorcycle => .vehicle .motorcycle
  | .passengerCar => .vehicle .passengerCar
  | .bus => .vehicle .bus
  | .lightTruck => .vehicle .lightTruck
  | .heavyTruck => .vehicle .heavyTruck
  | .trailer => .vehicle .trailer
  | .specialVehicle => .vehicle .specialVehicles
  | .tram => .vehicle .tram
  | .pedestrian => .person .pedestrian
  | .cyclist => .person .cyclist
  | .roadSideUnit => .other .roadSideUnit
  | .unknown => .other .unknown

/-- A distance along one axis in centimetres. -/
def centimetres (field : MessageField) (metres : Float) : Int :=
  field.clamp (roundToInt64 (metres * 100.0))

/-- The confidence of every record: the least that is known. -/
def recordConfidence : Nat := 1

/-- One metre in decimetres, the size given to every object. -/
def recordDimension : Nat := 10

/-- The record of an object that was seen from the first to the last of two instants;
without them it counts as seen just now. The object's speed goes into both axes. -/
def perceivedObject (object : SceneObject) (seen : Option (Instant × Instant))
    (own : OwnState) : PerceivedObject :=
  let (firstSeen, lastSeen) := seen.getD (own.updated, own.updated)
  let speed := MessageField.xSpeed.orUnavailable (roundToInt64 (object.speed * 100.0))
  { object := object.station
    sensors := [radarId]
    timeOfMeasurement :=
      MessageField.timeOfMeasurement.clamp (own.updated.millisSince lastSeen)
    age := (MessageField.objectAge.clamp (lastSeen.millisSince firstSeen)).toNat
    confidence := recordConfidence
    xDistance := centimetres .xDistance (object.position.x - own.position.x)
    yDistance := centimetres .yDistance (object.position.y - own.position.y)
    xSpeed := speed
    ySpeed := speed
    status := .dynamic
    classification := some (objectClass object.type)
    firstDimension := recordDimension
    secondDimension := recordDimension }

end Encoding

end CollectivePerception
