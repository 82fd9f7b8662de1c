/-
This file proves that a cycle that fails changes nothing but the picture of the
surroundings. Whatever made it fail, the tracked objects, the other stations and the times
of the last message and the last description of the sensors are those that the first step
of the cycle leaves, so no object counts as reported. The channel has accepted nothing, or
exactly the messages before the one that it refused.
-/

import CollectivePerception.Proofs.Segmentation.Numbering
import CollectivePerception.Proofs.Service.Cycle

namespace CollectivePerception.Service

/-! ### The courses that fail -/

/-- What the channel has accepted when a cycle fails: nothing if the messages could not be
assembled, and otherwise exactly those before the message that it refused. -/
def FailedHandOver {Channel : Type} (current : Service) (transport : Transport Channel)
    (channel : Channel) (conditions : ChannelConditions) (surroundings : Surroundings)
    (now : Instant) (cycle : Cycle Channel) : ServiceError → Prop
  | .transport cause =>
    ∃ segmentation accepted refused later before,
      current.assembled conditions surroundings now = .ok segmentation ∧
        segmentation.messages = accepted ++ refused :: later ∧
        transport.Accepts channel accepted before ∧
        transport.send before refused = (.error cause, cycle.channel) ∧
        cycle.sent = accepted
  | failure =>
    current.assembled conditions surroundings now = .error failure ∧
      cycle.channel = channel ∧ cycle.sent = []

theorem assembled_ne_transport {current : Service} {conditions : ChannelConditions}
    {surroundings : Surroundings} {now : Instant} {cause : TransportError} :
    current.assembled conditions surroundings now ≠ .error (.transport cause) := by
  intro equal
  rw [assembled] at equal
  rcases current.assemble_cases surroundings
    (current.cycleRecords conditions surroundings now) (current.describesSensors now) with
    ⟨_, _, result⟩ | ⟨_, _, _, _, result⟩ | ⟨_, _, _, result⟩
  all_goals
    rw [result] at equal
    cases equal

theorem Course.failedHandOver {Channel : Type} {current : Service}
    {transport : Transport Channel} {channel : Channel} {conditions : ChannelConditions}
    {surroundings : Surroundings} {now : Instant} {cycle : Cycle Channel}
    (course : Course current transport channel conditions surroundings now cycle)
    {failure : ServiceError} (failed : cycle.outcome = .error failure) :
    FailedHandOver current transport channel conditions surroundings now cycle failure := by
  cases course with
  | early _ => cases failed
  | silent _ _ => cases failed
  | unassembled _ _ reason =>
    cases failed
    cases failure with
    | transport cause => exact absurd reason assembled_ne_transport
    | oversize cause => exact ⟨reason, rfl, rfl⟩
    | invalidMessage cause => exact ⟨reason, rfl, rfl⟩
  | refused _ _ succeeded apart accepts refusal =>
    cases failed
    exact ⟨_, _, _, _, _, succeeded, apart, accepts, refusal, rfl⟩
  | sent _ _ _ _ => cases failed

/-- A cycle whose interval has not passed leaves the service as its first step does. -/
theorem trigger_service_of_early {Channel : Type} (service : Service)
    (transport : Transport Channel) (channel : Channel) (conditions : ChannelConditions)
    (surroundings : Surroundings) (now : Instant)
    (soon : now.elapsedSince service.lastSent < service.interval conditions) :
    (service.trigger transport channel conditions surroundings now).service =
      service.synchronized surroundings now := by
  unfold trigger
  exact congrArg Cycle.service (if_pos soon)

/-! ### A cycle whose second message is refused -/

/-- A service that tracks one object, with room in a message for the object or for the
description of the sensors. -/
def tightService : Service where
  settings := { ServiceSettings.standard with sizeLimit := 2 }
  facilities := { Facilities.standard with codec := Segmentation.counting }
  rule := .static
  chain := []
  clock := ⟨0⟩
  tracking := .empty
  remote := .empty
  lastSent := .zero
  lastDescribed := .ofMillis (-1000)

def oneObject : Surroundings where
  scene := fun handle => if handle = ⟨0, 0⟩ then some (.initial 7 .passengerCar) else none
  environment := Environment.empty.record ⟨0, 0⟩ 1 .radar .zero
  awareness := .empty
  own := .initial 1 .passengerCar

def quiet : ChannelConditions := ⟨fun _ => .zero, 0.0⟩

/-- The service after the first step of a cycle. -/
def preparedService : Service := tightService.synchronized oneObject (.ofMillis 200)

/-- A cycle of the service in which the channel accepts one message and no other. -/
def interruptedCycle : Cycle (Option Nat) :=
  tightService.trigger (.limited .unavailable) (some 1) quiet oneObject (.ofMillis 200)

theorem oneObject_walk :
    LocalTracking.walk oneObject.scene none [⟨0, 0⟩] [] = ⟨[(⟨0, 0⟩, none)], 1, 0⟩ := by
  rw [LocalTracking.walk]
  simp only [Option.any_none, Bool.false_eq_true, if_false]
  rw [LocalTracking.walk]
  rfl

theorem preparedService_tracking :
    preparedService.tracking = ⟨OrderedMap.ofList [(⟨0, 0⟩, none)]⟩ := by
  show LocalTracking.mk (OrderedMap.ofList
    (LocalTracking.walk oneObject.scene none [⟨0, 0⟩] []).kept) = _
  rw [oneObject_walk]

theorem preparedService_records :
    ∃ record, preparedService.cycleRecords quiet oneObject (.ofMillis 200) =
      [(⟨0, 0⟩, record)] := by
  refine ⟨Encoding.perceivedObject (.initial 7 .passengerCar) (some (.zero, .zero))
    (.initial 1 .passengerCar), ?_⟩
  rw [cycleRecords, candidates, selection, preparedService_tracking]
  rfl

theorem preparedService_assembled :
    ∃ first second, preparedService.assembled quiet oneObject (.ofMillis 200) =
      .ok ⟨[first, second], [⟨0, 0⟩], some 2, 0⟩ := by
  obtain ⟨record, records⟩ := preparedService_records
  have packed : preparedService.packed oneObject [(⟨0, 0⟩, record)] true = .ok _ :=
    Segmentation.segment_object_apart (preparedService.template oneObject) rfl rfl
      (Handle.mk 0 0, record) Encoding.sensorInformation
  have describes : preparedService.describesSensors (.ofMillis 200) = true := by
    decide
  exact ⟨_, _, assembled_of_packed records describes packed rfl⟩

theorem interruptedCycle_outcome :
    interruptedCycle.outcome = .error (.transport .unavailable) := by
  have due : ¬(Instant.ofMillis 200).elapsedSince preparedService.lastSent <
      preparedService.interval quiet := by
    decide
  have something : preparedService.isSilent quiet oneObject (.ofMillis 200) = false := by
    show (_ && !true && _) = false
    rw [Bool.not_true, Bool.and_false, Bool.false_and]
  obtain ⟨first, second, assembled⟩ := preparedService_assembled
  rw [preparedService] at due something assembled
  unfold interruptedCycle trigger
  rw [if_neg due, generate_eq, something, if_neg Bool.false_ne_true, send_eq, assembled]
  rfl

/-! ### Failed cycles -/

/-- A cycle that fails leaves the service with nothing changed but the two pictures of its
surroundings, as a cycle of the same service does whose interval has not passed since some
other last message. If the messages could not be assembled, the channel is as before; if
it refused a message, it has accepted those before that one and no other. -/
theorem trigger_failed_only_synchronizes {Channel : Type} (service : Service)
    (transport : Transport Channel) (channel : Channel) (conditions : ChannelConditions)
    (surroundings : Surroundings) (now : Instant) (failure : ServiceError)
    (failed : (service.trigger transport channel conditions surroundings now).outcome =
      .error failure) :
    (service.trigger transport channel conditions surroundings now).service =
        { service with
          tracking := (service.tracking.synchronize
            (surroundings.environment.handlesSeenBy service.settings.trackedCategory)
            surroundings.scene).1
          remote := (service.remote.synchronize surroundings.awareness now).1 } ∧
      (∀ (recent : Instant) (calm : ChannelConditions) (other : Transport Channel)
          (start : Channel), now.elapsedSince recent < service.interval calm →
        ({ service with lastSent := recent }.trigger other start calm surroundings now).service =
          { (service.trigger transport channel conditions surroundings now).service with
            lastSent := recent }) ∧
      FailedHandOver (service.synchronized surroundings now) transport channel conditions
        surroundings now (service.trigger transport channel conditions surroundings now)
        failure := by
  have course := service.trigger_course transport channel conditions surroundings now
  have left := course.service_eq_of_error failed
  refine ⟨left, fun recent calm other start soon => ?_, course.failedHandOver failed⟩
  rw [left]
  exact trigger_service_of_early { service with lastSent := recent } other start calm
    surroundings now soon

/-- The object of an interrupted cycle is not reported, although its message was sent, and
the next cycle is due as if there had been none. -/
theorem interruptedCycle_only_synchronizes :
    interruptedCycle.service.tracking.lastReported ⟨0, 0⟩ = none ∧
      interruptedCycle.service.lastSent = .zero ∧
      ({ tightService with lastSent := .ofMillis 150 }.trigger (.limited .unavailable) none quiet
          oneObject (.ofMillis 200)).service =
        { interruptedCycle.service with lastSent := .ofMillis 150 } ∧
      FailedHandOver preparedService (.limited .unavailable) (some 1) quiet oneObject
        (.ofMillis 200) interruptedCycle (.transport .unavailable) := by
  obtain ⟨left, asEarly, accepted⟩ := trigger_failed_only_synchronizes tightService
    (.limited .unavailable) (some 1) quiet oneObject (.ofMillis 200) (.transport .unavailable)
    interruptedCycle_outcome
  refine ⟨?_, ?_, asEarly (.ofMillis 150) quiet (.limited .unavailable) none (by decide),
    accepted⟩
  · rw [interruptedCycle, left]
    show preparedService.tracking.lastReported ⟨0, 0⟩ = none
    rw [preparedService_tracking]
    rfl
  · rw [interruptedCycle, left]
    rfl

end CollectivePerception.Service
