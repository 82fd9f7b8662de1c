/-
This file defines what the stations of the road are: their numbers and types, the
kinds of sensors that detect them, the state of motion of one of them at an instant,
and the state that a station knows of itself.
-/

import CollectivePerception.Named
import CollectivePerception.Time
import CollectivePerception.Geometry

namespace CollectivePerception

/-! ### Kinds of stations and sensors -/

/-- The number that identifies a station, a vehicle or a roadside unit. -/
abbrev StationId := Nat

/-- What kind of road user a station is. -/
inductive StationType
  | unknown
  | pedestrian
  | cyclist
  | moped
  | motorcycle
  | passengerCar
  | bus
  | lightTruck
  | heavyTruck
  | trailer
  | specialVehicle
  | tram
  | roadSideUnit
deriving DecidableEq, Repr, Inhabited

namespace StationType

/-- The number of a station type in the message format. -/
def code : StationType → Nat
  | unknown => 0
  | pedestrian => 1
  | cyclist => 2
  | moped => 3
  | motorcycle => 4
  | passengerCar => 5
  | bus => 6
  | lightTruck => 7
  | heavyTruck => 8
  | trailer => 9
  | specialVehicle => 10
  | tram => 11
  | roadSideUnit => 15

instance : Named StationType where
  name
    | unknown => "unknown"
    | pedestrian => "pedestrian"
    | cyclist => "cyclist"
    | moped => "moped"
    | motorcycle => "motorcycle"
    | passengerCar => "passenger_car"
    | bus => "bus"
    | lightTruck => "light_truck"
    | heavyTruck => "heavy_truck"
    | trailer => "trailer"
    | specialVehicle => "special_vehicle"
    | tram => "tram"
    | roadSideUnit => "road_side_unit"
  all := [unknown, pedestrian, cyclist, moped, motorcycle, passengerCar, bus, lightTruck,
    heavyTruck, trailer, specialVehicle, tram, roadSideUnit]

end StationType

/-- What kind of sensor detected an object. The last two are fed by received messages
and not by a device on board. -/
inductive SensorCategory
  | radar
  | lidar
  | camera
  | awareness
  | perception
deriving DecidableEq, Repr, Inhabited

namespace SensorCategory

instance : Named SensorCategory where
  name
    | radar => "radar"
    | lidar => "lidar"
    | camera => "camera"
    | awareness => "awareness"
    | perception => "perception"
  all := [radar, lidar, camera, awareness, perception]

/-- Whether the sensor is a device of the station itself. -/
def isOnBoard : SensorCategory → Bool
  | radar | lidar | camera => true
  | awareness | perception => false

end SensorCategory

/-- Which way a station moves along its heading. -/
inductive DriveDirection
  | forward
  | backward
deriving DecidableEq, Repr, Inhabited

instance : Named DriveDirection where
  name
    | .forward => "forward"
    | .backward => "backward"
  all := [.forward, .backward]

/-! ### Motion -/

/-- The state of motion of one object at one instant. The speed is in metres per
second and negative when the object moves backwards. -/
structure Motion where
  time : Instant
  position : Point
  speed : Float
  heading : Angle
deriving Inhabited

namespace Motion

/-- The state of an object at rest in the origin. -/
def zero : Motion := ⟨Instant.zero, Point.origin, 0.0, Angle.zero⟩

/-- The state a while later, with the position moved at constant speed and the speed
changed by a constant acceleration. -/
def predict (motion : Motion) (interval : Duration) (acceleration : Float) : Motion where
  time := motion.time.after interval
  position := motion.position.advance motion.heading (motion.speed * interval.seconds)
  speed := motion.speed + acceleration * interval.seconds
  heading := motion.heading

end Motion

/-- What a station knows of itself. The acceleration points along the heading, and
the yaw rate is in degrees per second. -/
structure OwnState where
  station : StationId
  type : StationType
  position : Point
  geo : GeoPoint
  heading : Angle
  speed : Float
  acceleration : Float
  yawRate : Float
  updated : Instant
deriving Inhabited

namespace OwnState

/-- The state of a station of which nothing but its number and type is known. -/
def initial (station : StationId) (type : StationType) : OwnState where
  station := station
  type := type
  position := Point.origin
  geo := GeoPoint.origin
  heading := Angle.zero
  speed := 0.0
  acceleration := 0.0
  yawRate := 0.0
  updated := Instant.zero

/-- A station that stands still counts as moving forward; an undefined speed counts
as backward. -/
def direction (own : OwnState) : DriveDirection :=
  if 0.0 ≤ own.speed then .forward else .backward

end OwnState

end CollectivePerception
