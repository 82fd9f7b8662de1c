/-
This file defines the plane that the stations move in: points, directions, and the
projection between the plane and geodetic coordinates. The plane's `y` axis points
south and directions are measured clockwise from north, so a station that heads north
moves towards smaller `y`.
-/

import CollectivePerception.Binary64

namespace CollectivePerception

/-! ### Angles -/

/-- Half a turn in radians, as the nearest double. -/
def halfTurn : Float := 3.141592653589793

/-- A whole turn in radians, as the nearest double. -/
def wholeTurn : Float := 6.283185307179586

/-- Degrees in radians. -/
def radiansOfDegrees (degrees : Float) : Float := degrees * (halfTurn / 180.0)

/-- Radians in degrees. -/
def degreesOfRadians (radians : Float) : Float := radians * 57.29577951308232

/-- A direction or a difference of directions, in radians. -/
structure Angle where
  radians : Float
deriving Inhabited

namespace Angle

def zero : Angle := ⟨0.0⟩

def ofDegrees (degrees : Float) : Angle := ⟨radiansOfDegrees degrees⟩

def degrees (angle : Angle) : Float := degreesOfRadians angle.radians

/-- The same direction folded into one turn. -/
def normalized (angle : Angle) : Angle :=
  ⟨Binary64.euclideanRemainder angle.radians wholeTurn⟩

end Angle

/-! ### Comparison of directions -/

/-- What the comparison of directions needs of its numbers. -/
structure Arithmetic (Number : Type) where
  /-- Half a turn. -/
  half : Number
  /-- A whole turn. -/
  whole : Number
  subtract : Number → Number → Number
  absolute : Number → Number
  /-- The number folded into one turn. -/
  fold : Number → Number
  less : Number → Number → Bool
  atMost : Number → Number → Bool

/-- Whether two directions differ by at most the size of `limit`, going the shorter
way around. -/
def Arithmetic.similar {Number : Type} (arithmetic : Arithmetic Number)
    (first second limit : Number) : Bool :=
  let difference :=
    arithmetic.absolute (arithmetic.subtract (arithmetic.fold first) (arithmetic.fold second))
  let shorter :=
    if arithmetic.less arithmetic.half difference then
      arithmetic.subtract arithmetic.whole difference
    else
      difference
  arithmetic.atMost shorter (arithmetic.absolute limit)

/-- Directions as doubles in radians. -/
def radianArithmetic : Arithmetic Float where
  half := halfTurn
  whole := wholeTurn
  subtract first second := first - second
  absolute x := x.abs
  fold x := Binary64.euclideanRemainder x wholeTurn
  less first second := decide (first < second)
  atMost first second := decide (first ≤ second)

/-- Whether two headings differ by at most a limit, whose sign does not matter. -/
def Angle.similar (first second limit : Angle) : Bool :=
  radianArithmetic.similar first.radians second.radians limit.radians

/-! ### Points -/

/-- A point of the plane, in metres. -/
structure Point where
  x : Float
  y : Float
deriving Inhabited

namespace Point

def origin : Point := ⟨0.0, 0.0⟩

def add (first second : Point) : Point := ⟨first.x + second.x, first.y + second.y⟩

def subtract (first second : Point) : Point := ⟨first.x - second.x, first.y - second.y⟩

/-- The distance of two points in metres. -/
def distance (first second : Point) : Float :=
  Binary64.hypot (first.x - second.x) (first.y - second.y)

/-- Where a straight way of the given length in the given direction ends. -/
def advance (start : Point) (heading : Angle) (length : Float) : Point :=
  let bearing := halfTurn / 2.0 - heading.radians
  ⟨start.x + bearing.cos * length, start.y - bearing.sin * length⟩

end Point

/-! ### Geodetic coordinates -/

/-- A geodetic position in degrees. -/
structure GeoPoint where
  latitude : Float
  longitude : Float
deriving Inhabited, BEq

def GeoPoint.origin : GeoPoint := ⟨0.0, 0.0⟩

/-- A way to go from geodetic coordinates to the plane and back. -/
structure Projection where
  toPlane : GeoPoint → Point
  toGeo : Point → GeoPoint

/-- The radius of the earth in metres. -/
def earthRadius : Float := 6371000.0

/-- The length of one degree of latitude in metres. -/
def metresPerDegree : Float := radiansOfDegrees earthRadius

/-- The length of one degree of longitude at a latitude, in metres. -/
def metresPerDegreeAt (latitude : Float) : Float :=
  metresPerDegree * (radiansOfDegrees latitude).cos

/-- The projection that treats the earth as flat around one position, which becomes
the plane's origin. -/
def Projection.flat (center : GeoPoint) : Projection where
  toPlane position :=
    ⟨(position.longitude - center.longitude) * metresPerDegreeAt center.latitude,
      -(position.latitude - center.latitude) * metresPerDegree⟩
  toGeo point :=
    ⟨center.latitude - point.y / metresPerDegree,
      center.longitude + point.x / metresPerDegreeAt center.latitude⟩

end CollectivePerception
