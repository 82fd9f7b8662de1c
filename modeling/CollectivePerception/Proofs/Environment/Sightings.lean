/-
This file says what the operations of an environment do to each single sighting. A detection
changes the sighting of one object by one sensor (`sighting?_record`), and an expiry drops the
sightings that have become too old (`sighting?_expire`).
-/

import CollectivePerception.Proofs.LocalTracking.Synchronization

namespace CollectivePerception

/-- Only the sensor that has detected the object has a new sighting of it. -/
theorem Sightings.get?_record (sightings : Sightings) (sensor : Nat) (category : SensorCategory)
    (now : Instant) (device : Nat) :
    (sightings.record sensor category now).get? device =
      if device = sensor then
        some (((sightings.get? sensor).map fun sighting => { sighting with lastSeen := now }).getD
          ⟨category, now, now⟩)
      else sightings.get? device := by
  unfold record
  cases sightings.get? sensor with
  | none => exact OrderedMap.get?_insert sightings sensor device _
  | some sighting => exact OrderedMap.get?_insert sightings sensor device _

namespace Environment

/-- The sighting of an object by a sensor. -/
def sighting? (environment : Environment) (handle : Handle) (sensor : Nat) : Option Sighting :=
  (environment.get? handle).bind (·.get? sensor)

theorem sees_iff {environment : Environment} {category : SensorCategory} {handle : Handle} :
    environment.Sees category handle ↔
      ∃ sensor sighting, environment.sighting? handle sensor = some sighting ∧
        sighting.category = category := by
  constructor
  · rintro ⟨sightings, found, sighting, member, same⟩
    obtain ⟨sensor, looked⟩ := OrderedMap.mem_values_iff.mp member
    exact ⟨sensor, sighting, Option.bind_eq_some_iff.mpr ⟨sightings, found, looked⟩, same⟩
  · rintro ⟨sensor, sighting, found, same⟩
    obtain ⟨sightings, known, looked⟩ := Option.bind_eq_some_iff.mp found
    exact ⟨sightings, known, sighting, OrderedMap.mem_values_iff.mpr ⟨sensor, looked⟩, same⟩

theorem sighting?_record (environment : Environment) (handle : Handle) (sensor : Nat)
    (category : SensorCategory) (now : Instant) (other : Handle) (device : Nat) :
    (environment.record handle sensor category now).sighting? other device =
      if other = handle ∧ device = sensor then
        some (((environment.sighting? handle sensor).map fun sighting =>
          { sighting with lastSeen := now }).getD ⟨category, now, now⟩)
      else environment.sighting? other device := by
  rw [sighting?, get?, record, OrderedMap.get?_insert]
  by_cases same : other = handle
  · rw [if_pos same, Option.bind_some, Sightings.get?_record, same, sighting?, sighting?]
    cases environment.get? handle with
    | none => simp
    | some sightings => simp
  · rw [if_neg same, if_neg fun both => same both.1]
    rfl

theorem sighting?_expire (environment : Environment) (now : Instant) (lifetime : Duration)
    (handle : Handle) (sensor : Nat) :
    (environment.expire now lifetime).1.sighting? handle sensor =
      (environment.sighting? handle sensor).filter fun sighting =>
        now < sighting.lastSeen.after lifetime := by
  rw [sighting?, get?, expire, OrderedMap.get?_filterMap, sighting?, get?]
  cases environment.objects.get? handle with
  | none => rfl
  | some sightings =>
    have fresh := OrderedMap.get?_filter
      (fun _ sighting => decide (now < sighting.lastSeen.after lifetime)) sightings sensor
    rw [Option.bind_some, Option.bind_some, ← fresh]
    dsimp only
    split
    · rename_i nothing
      exact (OrderedMap.isEmpty_iff.mp nothing sensor).symm
    · rfl

end Environment

end CollectivePerception
