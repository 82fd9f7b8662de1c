/-
This file proves when a station describes its sensors. The time that the period of the
description is counted from is that of the last cycle that ended well and sent a description
(`run_lastDescribed`). A cycle sends at most one; it sends none before the period has passed;
and if the period has passed, it sends one with whatever else it sends, unless it needs more
segments than there may be (`descriptions_keep_schedule`). A cycle in which the channel refuses
a message may have sent the description all the same, but it does not count, so the next cycle
describes the sensors again (`refusedDescription_repeats`).
-/

import CollectivePerception.Proofs.Segmentation.Description
import CollectivePerception.Proofs.Service.Segments
import CollectivePerception.Proofs.Service.Spacing

namespace CollectivePerception

/-- An interval has passed since an earlier instant exactly if the later instant lies that much
behind it, as long as 64 bits hold the interval. -/
theorem Instant.le_elapsedSince_iff {now last : Instant} {interval : Duration}
    (positive : 0 < interval.micros) (short : (interval.micros : Int) ≤ Binary64.greatestInt64) :
    interval ≤ now.elapsedSince last ↔ last.micros + interval.micros ≤ now.micros := by
  refine ⟨add_le_of_le_elapsedSince positive, fun passed => ?_⟩
  rw [Duration.le_def, elapsedSince]
  dsimp only
  omega

variable {Channel : Type}

/-! ### The last description of a history -/

/-- How many of the messages that a cycle sent describe the sensors. -/
def Cycle.descriptions (cycle : Cycle Channel) : Nat := cycle.sent.countP (·.describes)

/-- When a call described the sensors, if it is a cycle that ended well and did. -/
def Event.describedAt (event : Event Channel) : Option Instant :=
  match event.call with
  | .indicate _ _ _ => none
  | .trigger transport channel conditions surroundings now =>
    let cycle := event.service.trigger transport channel conditions surroundings now
    match cycle.outcome with
    | .error _ => none
    | .ok _ => if 0 < cycle.descriptions then some now else none

/-- When the sensors were last described, if they ever were. -/
def lastDescription (events : List (Event Channel)) : Option Instant :=
  (events.filterMap Event.describedAt).getLast?

/-- The period of the description has passed since the last one, if there was one. -/
def DescriptionDue (period : Duration) (last : Option Instant) (now : Instant) : Prop :=
  ∀ previous ∈ last, previous.micros + (period.micros : Int) ≤ now.micros

theorem lastDescription_concat (events : List (Event Channel)) (event : Event Channel) :
    lastDescription (events ++ [event]) = event.describedAt.or (lastDescription events) := by
  rw [lastDescription, List.filterMap_append, List.getLast?_append]
  cases described : event.describedAt with
  | none =>
    rw [List.filterMap_cons_none described]
    rfl
  | some now =>
    rw [List.filterMap_cons_some described]
    rfl

namespace Service

/-! ### The description in a cycle -/

/-- How many segments a cycle needs for what it has to say, whether or not there may be that
many. -/
def segmentsNeeded (service : Service) (conditions : ChannelConditions)
    (surroundings : Surroundings) (now : Instant) : Nat :=
  Segmentation.needed service.facilities.codec service.settings.sizeLimit
    (service.template surroundings) (service.cycleRecords conditions surroundings now)
    (if service.describesSensors now then some Encoding.sensorInformation else none)

section

variable {current : Service} {conditions : ChannelConditions} {surroundings : Surroundings}
  {now : Instant} {segmentation : Segmentation Handle}
  (succeeded : current.assembled conditions surroundings now = .ok segmentation)

include succeeded

theorem countP_describes_of_assembled :
    segmentation.messages.countP (·.describes) =
      if segmentation.sensorSegment.isSome then 1 else 0 :=
  Segmentation.segment_describes rfl (packed_of_assembled succeeded).1

/-- A description is sent only if it is time for it. -/
theorem describesSensors_of_assembled (placed : segmentation.sensorSegment.isSome = true) :
    current.describesSensors now = true := by
  have packed := (packed_of_assembled succeeded).1
  cases due : current.describesSensors now with
  | true => rfl
  | false =>
    rw [due, Service.packed, if_neg Bool.false_ne_true] at packed
    rw [Segmentation.sensorSegment_eq_none packed] at placed
    exact placed

theorem describes_of_assembled (due : current.describesSensors now = true) :
    segmentation.sensorSegment.isSome = true ∨
      Message.segmentLimit < current.segmentsNeeded conditions surroundings now := by
  have packed := (packed_of_assembled succeeded).1
  rw [segmentsNeeded]
  rw [Service.packed] at packed
  rw [due, if_pos rfl] at packed ⊢
  refine or_iff_not_imp_right.mpr fun enough => ?_
  exact Segmentation.isSome_sensorSegment_of_needed_le packed (Nat.not_lt.mp enough)

end

/-- A cycle sends at most one description, and none before it is time for it. -/
theorem Course.descriptions_le {current : Service} {transport : Transport Channel}
    {channel : Channel} {conditions : ChannelConditions} {surroundings : Surroundings}
    {now : Instant} {cycle : Cycle Channel}
    (course : Course current transport channel conditions surroundings now cycle) :
    cycle.descriptions ≤ if current.describesSensors now then 1 else 0 := by
  have bounded {segmentation : Segmentation Handle}
      (succeeded : current.assembled conditions surroundings now = .ok segmentation) :
      segmentation.messages.countP (·.describes) ≤
        if current.describesSensors now then 1 else 0 := by
    rw [countP_describes_of_assembled succeeded]
    split
    · rename_i placed
      rw [describesSensors_of_assembled succeeded placed, if_pos rfl]
    · exact Nat.zero_le _
  cases course with
  | early _ => exact Nat.zero_le _
  | silent _ _ => exact Nat.zero_le _
  | unassembled _ _ _ => exact Nat.zero_le _
  | refused _ _ succeeded apart _ _ =>
    refine Nat.le_trans ?_ (bounded succeeded)
    rw [apart, List.countP_append]
    exact Nat.le_add_right _ _
  | sent _ _ succeeded _ => exact bounded succeeded

section

variable {service : Service} {transport : Transport Channel} {channel : Channel}
  {conditions : ChannelConditions} {surroundings : Surroundings} {now : Instant}

/-- A cycle that ends well moves the time of the last description exactly if it sends one, and
to its own time. -/
theorem lastDescribed_of_ok {report : CycleReport}
    (ended : (service.trigger transport channel conditions surroundings now).outcome =
      .ok report) :
    (service.trigger transport channel conditions surroundings now).service.lastDescribed =
      if 0 < (service.trigger transport channel conditions surroundings now).descriptions then now
      else service.lastDescribed := by
  have course := service.trigger_course transport channel conditions surroundings now
  rcases course.ok_cases ended with
    ⟨_, _, nothing, left⟩ | ⟨_, _, segmentation, succeeded, _, sent, left⟩
  · rw [left, Cycle.descriptions, nothing]
    rfl
  · rw [left, Cycle.descriptions, sent, countP_describes_of_assembled succeeded, committed]
    dsimp only
    cases segmentation.sensorSegment.isSome <;> rfl

theorem lastDescribed_of_error {failure : ServiceError}
    (failed : (service.trigger transport channel conditions surroundings now).outcome =
      .error failure) :
    (service.trigger transport channel conditions surroundings now).service.lastDescribed =
      service.lastDescribed := by
  have course := service.trigger_course transport channel conditions surroundings now
  rw [course.service_eq_of_error failed]
  rfl

theorem trigger_lastDescribed :
    (service.trigger transport channel conditions surroundings now).service.lastDescribed =
      (Event.mk service (.trigger transport channel conditions surroundings now)).describedAt.getD
        service.lastDescribed := by
  rw [Event.describedAt]
  dsimp only
  cases ended : (service.trigger transport channel conditions surroundings now).outcome with
  | error failure => exact lastDescribed_of_error ended
  | ok report =>
    rw [lastDescribed_of_ok ended]
    dsimp only
    split <;> rfl

/-- A cycle that ends well and sends when it is time describes the sensors. -/
theorem descriptions_of_due {report : CycleReport}
    (ended : (service.trigger transport channel conditions surroundings now).outcome =
      .ok report)
    (sends : (service.trigger transport channel conditions surroundings now).sent ≠ [])
    (due : service.describesSensors now = true) :
    (service.trigger transport channel conditions surroundings now).descriptions = 1 ∨
      Message.segmentLimit <
        (service.synchronized surroundings now).segmentsNeeded conditions surroundings now := by
  have course := service.trigger_course transport channel conditions surroundings now
  rcases course.ok_cases ended with
    ⟨_, _, nothing, _⟩ | ⟨_, _, segmentation, succeeded, _, sent, _⟩
  · exact absurd nothing sends
  · rw [Cycle.descriptions, sent, countP_describes_of_assembled succeeded]
    exact (describes_of_assembled succeeded due).imp_left fun placed => if_pos placed

end

/-! ### Whole runs -/

/-- The time that the period is counted from is that of the last description of the run. -/
theorem run_lastDescribed (service : Service) (calls : List (Call Channel)) :
    (service.run calls).lastDescribed =
      (lastDescription (service.history calls)).getD service.lastDescribed := by
  induction calls using List.reverseRecOn with
  | nil => rfl
  | append_singleton before call inductionHypothesis =>
    rw [run_concat, history_concat, lastDescription_concat, Option.getD_or, ← inductionHypothesis]
    cases call with
    | trigger transport channel conditions surroundings now => exact trigger_lastDescribed
    | indicate surroundings now message =>
      obtain ⟨remote, left⟩ := (service.run before).indicate_eq surroundings now message
      show ((service.run before).indicate surroundings now message).service.lastDescribed = _
      rw [left]
      rfl

theorem sensorInterval_pos {settings : ServiceSettings} (valid : settings.validate = .ok ()) :
    0 < settings.sensorInterval.micros :=
  Nat.mul_pos (Nat.pos_of_ne_zero (ServiceSettings.validate_eq_ok_iff.mp valid).2.2.1)
    (by decide)

section

variable {settings : ServiceSettings} {facilities : Facilities} {start : Instant}
  {service : Service} (created : create settings facilities start = .ok service)
  (short : (settings.sensorInterval.micros : Int) ≤ Binary64.greatestInt64)
  (calls : List (Call Channel))

include created short

theorem describesSensors_run_iff (now : Instant) :
    (service.run calls).describesSensors now = true ↔
      ((lastDescription (service.history calls)).getD
          (start.before settings.sensorInterval)).micros + settings.sensorInterval.micros ≤
        now.micros := by
  obtain ⟨valid, _⟩ := create_eq_ok_iff.mp created
  obtain ⟨sameSettings, _, _, _, _, back⟩ := state_of_create created
  rw [describesSensors, decide_eq_true_iff, run_lastDescribed, back,
    (service.run_revises calls).settings_eq, sameSettings]
  exact Instant.le_elapsedSince_iff (sensorInterval_pos valid) short

/-- When it is time for a description, the period has passed since the last one. -/
theorem descriptionDue_of_describesSensors {now : Instant}
    (time : (service.run calls).describesSensors now = true) :
    DescriptionDue settings.sensorInterval (lastDescription (service.history calls)) now := by
  intro previous last
  rw [describesSensors_run_iff created short, Option.mem_def.mp last] at time
  exact time

/-- When the period has passed since the last description, it is time for one in a cycle that
sends; and it is from the first one on. -/
theorem describesSensors_of_descriptionDue
    (representable : Binary64.leastInt64 ≤ start.micros - settings.sensorInterval.micros)
    {now : Instant} (later : (service.run calls).lastSent < now)
    (due : DescriptionDue settings.sensorInterval (lastDescription (service.history calls)) now) :
    (service.run calls).describesSensors now = true := by
  obtain ⟨valid, _⟩ := create_eq_ok_iff.mp created
  obtain ⟨sameSettings, _, _, _, sameStart, _⟩ := state_of_create created
  rw [describesSensors_run_iff created short]
  cases last : lastDescription (service.history calls) with
  | some previous => exact due previous last
  | none =>
    have valid : service.settings.validate = .ok () := sameSettings ▸ valid
    have begun : start.micros ≤ (service.run calls).lastSent.micros :=
      sameStart ▸ lastSent_le_run valid calls
    rw [Instant.lt_def] at later
    show max Binary64.leastInt64
      (start.micros - min (settings.sensorInterval.micros : Int) Binary64.greatestInt64) +
        settings.sensorInterval.micros ≤ now.micros
    omega

end

/-- In every run of a service that was created, as long as 64 bits hold the period and the
instant a period before the creation, the time that the period is counted from is that of the
last description. A cycle sends at most one description, however it ends, and it sends one only
if the period has passed since the last one. A cycle that ends well and sends then does send
one, and so does the first of all, unless it needs more segments than there may be; and such a
cycle is all that moves the time. -/
theorem descriptions_keep_schedule {settings : ServiceSettings} {facilities : Facilities}
    {start : Instant} {service : Service}
    (created : create settings facilities start = .ok service)
    (representable : Binary64.leastInt64 ≤ start.micros - settings.sensorInterval.micros)
    (short : (settings.sensorInterval.micros : Int) ≤ Binary64.greatestInt64)
    (calls : List (Call Channel)) :
    let met := service.run calls
    let last := lastDescription (service.history calls)
    met.lastDescribed = last.getD (start.before settings.sensorInterval) ∧
      (∀ surroundings now message,
        (met.indicate surroundings now message).service.lastDescribed = met.lastDescribed) ∧
      ∀ (transport : Transport Channel) channel conditions surroundings now,
        let cycle := met.trigger transport channel conditions surroundings now
        cycle.descriptions ≤ 1 ∧
          (0 < cycle.descriptions → DescriptionDue settings.sensorInterval last now) ∧
          (∀ report, cycle.outcome = .ok report →
            (cycle.sent ≠ [] → DescriptionDue settings.sensorInterval last now →
              cycle.descriptions = 1 ∨
                Message.segmentLimit <
                  (met.synchronized surroundings now).segmentsNeeded conditions surroundings
                    now) ∧
            cycle.service.lastDescribed =
              if 0 < cycle.descriptions then now else met.lastDescribed) ∧
          ∀ failure, cycle.outcome = .error failure →
            cycle.service.lastDescribed = met.lastDescribed := by
  obtain ⟨valid, _⟩ := create_eq_ok_iff.mp created
  obtain ⟨sameSettings, _, _, _, _, back⟩ := state_of_create created
  intro met last
  have validMet : met.settings.validate = .ok () := by
    rw [(service.run_revises calls).settings_eq, sameSettings]
    exact valid
  refine ⟨?_, fun surroundings now message => ?_,
    fun transport channel conditions surroundings now => ?_⟩
  · rw [← back]
    exact run_lastDescribed service calls
  · obtain ⟨remote, left⟩ := met.indicate_eq surroundings now message
    rw [left]
  · intro cycle
    have atMost : cycle.descriptions ≤ if met.describesSensors now then 1 else 0 :=
      (met.trigger_course transport channel conditions surroundings now).descriptions_le
    refine ⟨?_, fun described => ?_, fun report ended => ⟨fun sends due => ?_, ?_⟩,
      fun failure failed => ?_⟩
    · refine Nat.le_trans atMost ?_
      split <;> decide
    · cases time : met.describesSensors now with
      | true => exact descriptionDue_of_describesSensors created short calls time
      | false =>
        rw [time, if_neg Bool.false_ne_true] at atMost
        exact absurd described (Nat.not_lt.mpr atMost)
    · refine descriptions_of_due ended sends ?_
      exact describesSensors_of_descriptionDue created short calls representable
        (lastSent_lt_of_sends validMet ended sends) due
    · exact lastDescribed_of_ok ended
    · exact lastDescribed_of_error failed

/-- The cycle at 250 milliseconds describes the sensors. The next one to do so is not the one at
1249 milliseconds, but the one at 1250. -/
theorem throttledService_keeps_schedule :
    lastDescription (throttledService.history
        [throttledCycle emptyRoad 250, throttledCycle emptyRoad 500]) = some (.ofMillis 250) ∧
      ((throttledService.run [throttledCycle emptyRoad 250, throttledCycle emptyRoad 500]).trigger
        (.limited .unavailable) none ⟨fun _ => .ofMillis 250, 0.5⟩ emptyRoad
          (.ofMillis 1249)).descriptions = 0 ∧
      ((throttledService.run [throttledCycle emptyRoad 250, throttledCycle emptyRoad 500]).trigger
        (.limited .unavailable) none ⟨fun _ => .ofMillis 250, 0.5⟩ emptyRoad
          (.ofMillis 1250)).descriptions = 1 := by
  have last : lastDescription (throttledService.history
      [throttledCycle emptyRoad 250, throttledCycle emptyRoad 500]) = some (.ofMillis 250) := by
    decide +kernel
  have ended : ((throttledService.run
      [throttledCycle emptyRoad 250, throttledCycle emptyRoad 500]).trigger
        (.limited .unavailable) none ⟨fun _ => .ofMillis 250, 0.5⟩ emptyRoad
          (.ofMillis 1250)).outcome = .ok ⟨true, 0, 0, 1, 0, true⟩ := by
    decide +kernel
  obtain ⟨_, _, schedule⟩ := descriptions_keep_schedule create_throttledService (by decide)
    (by decide) [throttledCycle emptyRoad 250, throttledCycle emptyRoad 500]
  rw [last] at schedule
  refine ⟨last, ?_, ?_⟩
  · obtain ⟨_, early, _⟩ := schedule (.limited .unavailable) none ⟨fun _ => .ofMillis 250, 0.5⟩
      emptyRoad (.ofMillis 1249)
    refine Nat.eq_zero_of_not_pos fun described => ?_
    exact absurd (early described (.ofMillis 250) rfl) (by decide)
  · obtain ⟨_, _, late, _⟩ := schedule (.limited .unavailable) none
      ⟨fun _ => .ofMillis 250, 0.5⟩ emptyRoad (.ofMillis 1250)
    refine ((late _ ended).1 (by decide +kernel) ?_).resolve_right (by decide +kernel)
    intro previous same
    cases same
    decide

/-! ### A description that is sent twice -/

/-- Settings under which a message has room for one object and the description. -/
def narrowSettings : ServiceSettings := { throttledSettings with sizeLimit := 80 }

def narrowService : Service := { throttledService with settings := narrowSettings }

theorem create_narrowService :
    create narrowSettings throttledFacilities .zero = .ok narrowService := rfl

/-- The second object and the description travel in the first message, and the first object in
the second one. -/
def narrowSegments : Segmentation Handle :=
  let template := narrowService.template crowdedRoad
  let message (number : Nat) : Message :=
    { template with objectCount := 2 }.numbered ⟨2, number⟩
  { messages :=
      [{ message 1 with
          objects := [crowdedRecord (.initial 8 .bus)]
          sensors := some Encoding.sensorInformation },
        { message 2 with objects := [crowdedRecord (.initial 7 .passengerCar)] }]
    included := [⟨1, 0⟩, ⟨0, 0⟩]
    sensorSegment := some 1
    dropped := 0 }

theorem narrowSegments_assembled {current : Service} {now : Instant}
    (settings : current.settings = narrowSettings)
    (facilities : current.facilities = throttledFacilities)
    (template : current.template crowdedRoad =
      { narrowService.template crowdedRoad with objectCount := 2 })
    (records : current.cycleRecords ⟨fun _ => .ofMillis 250, 0.5⟩ crowdedRoad now =
      crowdedRecords)
    (describes : current.describesSensors now = true) :
    current.assembled ⟨fun _ => .ofMillis 250, 0.5⟩ crowdedRoad now = .ok narrowSegments := by
  have packed : current.packed crowdedRoad crowdedRecords true = .ok narrowSegments := by
    rw [Service.packed, settings, facilities, template, Segmentation.segment,
      if_neg (by decide +kernel), Segmentation.segments, byPriority_crowdedRecords]
    decide +kernel
  refine assembled_of_packed records describes packed ?_
  rw [facilities]
  decide +kernel

/-- A cycle in which the channel accepts the first message and no other. -/
def refusedCycle : Cycle (Option Nat) :=
  narrowService.trigger (.limited .unavailable) (some 1) ⟨fun _ => .ofMillis 250, 0.5⟩ crowdedRoad
    (.ofMillis 250)

/-- The cycle after it, in which the channel accepts all messages. -/
def repeatedCycle : Cycle (Option Nat) :=
  refusedCycle.service.trigger (.limited .unavailable) none ⟨fun _ => .ofMillis 250, 0.5⟩
    crowdedRoad (.ofMillis 251)

/-- Two cycles in a row, a millisecond apart, send a description, because the first of them
fails when the channel refuses its second message. -/
theorem refusedDescription_repeats :
    create narrowSettings throttledFacilities .zero = .ok narrowService ∧
      refusedCycle.outcome = .error (.transport .unavailable) ∧
      refusedCycle.descriptions = 1 ∧
      repeatedCycle.outcome = .ok ⟨true, 2, 2, 2, 2, true⟩ ∧
      repeatedCycle.descriptions = 1 ∧
      ¬(Instant.ofMillis 250).micros + (narrowSettings.sensorInterval.micros : Int) ≤
        (Instant.ofMillis 251).micros := by
  have refused : refusedCycle.outcome = .error (.transport .unavailable) ∧
      refusedCycle.descriptions = 1 := by
    rw [refusedCycle, trigger_of_assembled (by decide) (isSilent_eq_false_iff.mpr (.inr (.inl rfl)))
      (narrowSegments_assembled rfl rfl (by decide +kernel) (by decide +kernel) (by decide))]
    decide +kernel
  have left : refusedCycle.service = narrowService.synchronized crowdedRoad (.ofMillis 250) :=
    (narrowService.trigger_course _ _ _ _ _).service_eq_of_error refused.1
  have repeated : repeatedCycle.outcome = .ok ⟨true, 2, 2, 2, 2, true⟩ ∧
      repeatedCycle.descriptions = 1 := by
    rw [repeatedCycle, left, trigger_of_assembled (by decide)
      (isSilent_eq_false_iff.mpr (.inr (.inl rfl)))
      (narrowSegments_assembled rfl rfl (by decide +kernel) (by decide +kernel) (by decide))]
    decide +kernel
  exact ⟨create_narrowService, refused.1, refused.2, repeated.1, repeated.2, by decide⟩

end Service

end CollectivePerception
