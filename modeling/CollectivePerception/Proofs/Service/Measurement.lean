/-
This file proves what becomes of the time at which an object was measured. A sender writes
how long before its own last update it saw the object, as a positive number, and a receiver
adds that number to the time of the update, which it reconstructs exactly. So the receiver
mirrors the sighting at the update: an object that was seen some time before it counts as
measured the same time after it. The two agree only for objects seen at the update itself.
-/

import CollectivePerception.Proofs.Service.Segments
import CollectivePerception.Proofs.Time.Reconstruction

namespace CollectivePerception

variable {Channel : Type}

theorem MessageField.clamp_eq_self {field : MessageField} {value : Int}
    (least : field.domain.least ≤ value) (greatest : value ≤ field.domain.greatest) :
    field.clamp value = value := by
  rw [clamp, if_neg (Int.not_lt.mpr least), if_neg (Int.not_lt.mpr greatest)]

/-! ### What is written -/

namespace Service

/-- When the sensors of the tracked category last saw an object; an object that they did not
see counts as seen when the station was last updated. -/
def lastSighting (service : Service) (surroundings : Surroundings) (handle : Handle) : Instant :=
  (((surroundings.environment.get? handle).bind
    (·.trackingTime service.settings.trackedCategory)).getD
      (surroundings.own.updated, surroundings.own.updated)).2

section

variable {service : Service} {surroundings : Surroundings}

/-- The record of an object says how long before the update it was seen, within the limits of
the field. -/
theorem timeOfMeasurement_of_record? {handle : Handle} {record : PerceivedObject}
    (recorded : service.record? surroundings handle = some (handle, record)) :
    record.timeOfMeasurement = MessageField.timeOfMeasurement.clamp
      (surroundings.own.updated.millisSince (service.lastSighting surroundings handle)) := by
  obtain ⟨object, _, same⟩ := Option.map_eq_some_iff.mp recorded
  rw [← (Prod.mk.inj same).2]
  rfl

/-- An update and a sighting at most a second and a half apart are within these limits. -/
theorem timeOfMeasurement_of_lastSighting {handle : Handle} {record : PerceivedObject}
    (recorded : service.record? surroundings handle = some (handle, record))
    {sighted updated : Int}
    (lastSeen : service.lastSighting surroundings handle = .ofMillis sighted)
    (lastUpdate : surroundings.own.updated = .ofMillis updated)
    (notLong : sighted ≤ updated + 1500) (notSoon : updated ≤ sighted + 1500) :
    record.timeOfMeasurement = updated - sighted := by
  rw [timeOfMeasurement_of_record? recorded, lastSeen, lastUpdate, Instant.millisSince_ofMillis]
  refine MessageField.clamp_eq_self ?_ ?_
  · show -1500 ≤ updated - sighted
    omega
  · show updated - sighted ≤ 1500
    omega

variable {transport : Transport Channel} {channel : Channel} {conditions : ChannelConditions}
  {generated : Instant} {message : Message}

/-- A message of a cycle is dated to the station's last update, and its records are those of
the cycle's candidates. -/
theorem origin_of_mem_sent
    (sent : message ∈
      (service.trigger transport channel conditions surroundings generated).sent) :
    message.generationTime = service.clock.generationTime surroundings.own.updated ∧
      ∀ record ∈ message.objects,
        ∃ handle ∈ (service.synchronized surroundings generated).candidates conditions
            surroundings generated,
          service.record? surroundings handle = some (handle, record) := by
  have carries := carries_of_mem_sent sent
  refine ⟨?_, fun record listed => ?_⟩
  · rw [carries.copied]
    rfl
  · obtain ⟨entry, member, rfl⟩ := carries.loaded record listed
    obtain ⟨candidate, recorded⟩ := mem_cycleRecords member
    exact ⟨entry.1, candidate, recorded⟩

end

end Service

/-! ### What is read -/

namespace ReceptionContext

variable {context : ReceptionContext}

theorem receivedAge_mem_objectStatistics_iff {object : StationId} {previous : Option Remote.Report}
    {report : Remote.Report} {known : Remote.Knowledge} {result : Remote.InsertResult}
    {age : Int} :
    Statistic.receivedAge age ∈ context.objectStatistics object previous report known result ↔
      age = context.now.millisSince report.motion.time := by
  unfold objectStatistics updateStatistics
  cases previous <;> cases result <;> simp

/-- The age that is recorded for an object is the time since its measurement. -/
theorem receivedAge_mem_iff {remote : Remote.Tracking} {record : PerceivedObject}
    {object : StationId} {statistics : List Statistic}
    (recorded : (context.receiveObject remote record).2 = .recorded object statistics) {age : Int} :
    Statistic.receivedAge age ∈ statistics ↔
      age = context.now.millisSince (record.measured context.generated) := by
  rcases context.receiveObject_cases remote record with
    ⟨_, passed⟩ | ⟨_, ⟨_, dropped⟩ | ⟨_, stored⟩⟩
  · rw [passed] at recorded
    cases recorded
  · rw [dropped] at recorded
    cases recorded
  · rw [stored] at recorded
    cases recorded
    exact receivedAge_mem_objectStatistics_iff

end ReceptionContext

/-! ### From the one to the other -/

namespace Service

/-- An object that was sighted some time before the sender's last update counts at the
receiver as measured the same time after it, and its age is the time since then. That is the
time of the sighting only if the object was sighted at the update. -/
theorem measurement_mirrors_sighting {sender : Service} {transport : Transport Channel}
    {channel : Channel} {conditions : ChannelConditions} {surroundings : Surroundings}
    {generated : Instant} {message : Message}
    (sent : message ∈
      (sender.trigger transport channel conditions surroundings generated).sent)
    {record : PerceivedObject} (listed : record ∈ message.objects) :
    ∃ handle ∈ (sender.synchronized surroundings generated).candidates conditions surroundings
        generated,
      sender.record? surroundings handle = some (handle, record) ∧
        ∀ sighted updated now : Int,
          sender.lastSighting surroundings handle = .ofMillis sighted →
          surroundings.own.updated = .ofMillis updated →
          sighted ≤ updated + 1500 → updated ≤ sighted + 1500 →
          now ≤ updated + 32767 → updated ≤ now + 32767 →
          ∀ (receiver : Service) (others : Surroundings) (parts : SenderParts),
            receiver.clock = sender.clock →
            let context := receiver.receptionContext others (.ofMillis now) message parts
            let measured := record.measured context.generated
            measured = .ofMillis (2 * updated - sighted) ∧
              (measured = .ofMillis sighted ↔ sighted = updated) ∧
              ∀ remote object statistics,
                (context.receiveObject remote record).2 = .recorded object statistics →
                  ∀ age, Statistic.receivedAge age ∈ statistics ↔
                    age = now - (2 * updated - sighted) := by
  obtain ⟨dated, origin⟩ := origin_of_mem_sent sent
  obtain ⟨handle, candidate, recorded⟩ := origin record listed
  refine ⟨handle, candidate, recorded, ?_⟩
  intro sighted updated now lastSeen lastUpdate notLong notSoon late early receiver others parts
    sameClock context measured
  have written : record.timeOfMeasurement = updated - sighted :=
    timeOfMeasurement_of_lastSighting recorded lastSeen lastUpdate notLong notSoon
  have reconstructed : context.generated = .ofMillis updated := by
    show receiver.clock.reconstruct message.generationTime (.ofMillis now) = _
    rw [dated, sameClock, lastUpdate]
    exact sender.clock.reconstruct_generationTime_ofMillis late early
  have mirrored : measured = .ofMillis (2 * updated - sighted) := by
    show record.measured context.generated = _
    rw [reconstructed, PerceivedObject.measured, written, Instant.ofMillis, Instant.ofMillis,
      Instant.mk.injEq]
    dsimp only
    omega
  refine ⟨mirrored, ?_, fun remote object statistics stored age => ?_⟩
  · rw [mirrored, Instant.ofMillis, Instant.ofMillis, Instant.mk.injEq]
    omega
  · have measuredAt : record.measured context.generated = .ofMillis (2 * updated - sighted) :=
      mirrored
    rw [ReceptionContext.receivedAge_mem_iff stored, measuredAt]
    exact iff_of_eq (congrArg (age = ·) (Instant.millisSince_ofMillis _ _))

/-! ### An object that was sighted before the update -/

/-- The object was seen for the last time 50 milliseconds before the station's update. -/
def pastSighting : Surroundings :=
  { parkedObject with
    environment := Environment.empty.record ⟨0, 0⟩ 1 .radar (.ofMillis 200)
    own := { parkedObject.own with updated := .ofMillis 250 } }

/-- The cycle of the update. -/
def pastSightingCycle : Cycle (Option Nat) :=
  throttledService.trigger (.limited .unavailable) none ⟨fun _ => .ofMillis 250, 0.5⟩ pastSighting
    (.ofMillis 250)

/-- The ages that are recorded in a reception. -/
def receivedAges (statistics : List Statistic) : List Int :=
  statistics.filterMap fun
    | .receivedAge age => some age
    | _ => none

/-- The record of the object says that it was measured 50 milliseconds after the update. -/
theorem pastSightingCycle_mirrors :
    ∃ message ∈ pastSightingCycle.sent, ∃ record ∈ message.objects, ∀ parts,
      record.measured
          (throttledService.receptionContext distantRoad (.ofMillis 255) message parts).generated =
        .ofMillis 300 := by
  have listed : ∃ message ∈ pastSightingCycle.sent, message.objects ≠ [] := by
    decide +kernel
  obtain ⟨message, sent, something⟩ := listed
  obtain ⟨record, listed⟩ := List.exists_mem_of_ne_nil _ something
  obtain ⟨handle, candidate, _, mirrors⟩ := measurement_mirrors_sighting sent listed
  have candidates : (throttledService.synchronized pastSighting (.ofMillis 250)).candidates
      ⟨fun _ => .ofMillis 250, 0.5⟩ pastSighting (.ofMillis 250) = [⟨0, 0⟩] := by
    decide +kernel
  rw [candidates, List.mem_singleton] at candidate
  refine ⟨message, sent, record, listed, fun parts => ?_⟩
  refine (mirrors 200 250 255 ?_ rfl (by decide) (by decide) (by decide) (by decide)
    throttledService distantRoad parts rfl).1
  rw [candidate]
  decide +kernel

/-- At the reception the object is 55 milliseconds old, but it counts as measured after the
reception, with an age below zero. -/
theorem pastSightingCycle_dated_ahead :
    throttledService.lastSighting pastSighting ⟨0, 0⟩ = .ofMillis 200 ∧
      pastSighting.own.updated = .ofMillis 250 ∧
      pastSightingCycle.outcome = .ok ⟨true, 1, 1, 1, 1, true⟩ ∧
      pastSightingCycle.sent.flatMap (fun message => message.objects.map fun record =>
          (record.object, record.measured
            (throttledService.clock.reconstruct message.generationTime (.ofMillis 255)))) =
        [(7, .ofMillis 300)] ∧
      pastSightingCycle.sent.flatMap (fun message => receivedAges
          (throttledService.indicate distantRoad (.ofMillis 255) message).statistics) =
        [5, -45] := by
  refine ⟨by decide +kernel, rfl, by decide +kernel, by decide +kernel, by decide +kernel⟩

end Service

end CollectivePerception
