/-
This file defines a station's picture of its surroundings: for every object that its
sensors currently see, which sensors see it and since when. A sighting that is not
refreshed within a lifetime is forgotten, and an object without sightings with it.
-/

import CollectivePerception.Scene

namespace CollectivePerception

/-- The first and the last detection of an object by one sensor. -/
structure Sighting where
  category : SensorCategory
  firstSeen : Instant
  lastSeen : Instant
deriving DecidableEq, Repr, Inhabited

/-! ### The sightings of one object -/

/-- The sightings of one object, by the number of the sensor. -/
abbrev Sightings := OrderedMap Nat Sighting

namespace Sightings

/-- The sightings after one more detection. A sensor that sees the object already
keeps its category and first detection. -/
def record (sightings : Sightings) (sensor : Nat) (category : SensorCategory) (now : Instant) :
    Sightings :=
  match sightings.get? sensor with
  | some sighting => sightings.insert sensor { sighting with lastSeen := now }
  | none => sightings.insert sensor ⟨category, now, now⟩

/-- Whether a sensor of the category sees the object. -/
def seenBy (sightings : Sightings) (category : SensorCategory) : Bool :=
  sightings.values.any fun sighting => sighting.category == category

/-- From when to when an object was seen: the earlier start and the later end of two
periods. -/
def hull (first second : Instant × Instant) : Instant × Instant :=
  (first.1.earlier second.1, first.2.later second.2)

/-- The first and the last detection by all sensors of a category together. -/
def trackingTime (sightings : Sightings) (category : SensorCategory) :
    Option (Instant × Instant) :=
  (sightings.values.filter fun sighting => sighting.category == category).foldl
    (fun period sighting =>
      let seen := (sighting.firstSeen, sighting.lastSeen)
      some ((period.map (hull · seen)).getD seen))
    none

/-- The sightings that are younger than a lifetime. -/
def fresh (sightings : Sightings) (now : Instant) (lifetime : Duration) : Sightings :=
  sightings.filter fun _ sighting => now < sighting.lastSeen.after lifetime

end Sightings

/-! ### All objects -/

/-- The sightings of all objects that a station's sensors see. -/
structure Environment where
  objects : OrderedMap Handle Sightings

namespace Environment

def empty : Environment := ⟨OrderedMap.empty⟩

instance : Inhabited Environment := ⟨empty⟩

/-- The sightings of one object, none if no sensor sees it. -/
def get? (environment : Environment) (handle : Handle) : Option Sightings :=
  environment.objects.get? handle

/-- The picture after one more detection. -/
def record (environment : Environment) (handle : Handle) (sensor : Nat)
    (category : SensorCategory) (now : Instant) : Environment :=
  let sightings := (environment.get? handle).getD OrderedMap.empty
  ⟨environment.objects.insert handle (sightings.record sensor category now)⟩

/-- Forgets the sightings that were not refreshed within a lifetime, and returns how
many objects are no longer seen at all. -/
def expire (environment : Environment) (now : Instant) (lifetime : Duration) :
    Environment × Nat :=
  let left := environment.objects.filterMap fun _ sightings =>
    let fresh := sightings.fresh now lifetime
    if fresh.isEmpty then none else some fresh
  (⟨left⟩, environment.objects.size - left.size)

/-- Forgets one object and returns its sightings. -/
def remove (environment : Environment) (handle : Handle) : Environment × Option Sightings :=
  (⟨environment.objects.erase handle⟩, environment.get? handle)

/-- The objects that a sensor of the category sees, in ascending order. -/
def handlesSeenBy (environment : Environment) (category : SensorCategory) : List Handle :=
  (environment.objects.filter fun _ sightings => sightings.seenBy category).keys

end Environment

end CollectivePerception
