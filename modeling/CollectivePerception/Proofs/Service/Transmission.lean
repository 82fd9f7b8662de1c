/-
This file proves what a cycle transmits. The objects in its messages are the records of its
first candidates, but for those that were dropped with segments beyond the limit; each of
them belongs to a tracked object that is alive, and no object is in the messages twice. The
count in every message is that of the tracked objects, which are never fewer than the
objects sent. A cycle that is due and does not fail sends exactly if it has a candidate, if
its rule asks for a message anyway, or if a description of the sensors is due.
-/

import CollectivePerception.Proofs.Segmentation.Messages
import CollectivePerception.Proofs.Service.Reporting
import Mathlib.Data.List.Perm.Subperm

namespace CollectivePerception.Service

/-! ### The records that are sent -/

/-- The records of a cycle that lie in segments beyond the limit. -/
def droppedRecords (service : Service) (conditions : ChannelConditions)
    (surroundings : Surroundings) (now : Instant) : List (Handle × PerceivedObject) :=
  Segmentation.discarded service.facilities.codec service.settings.sizeLimit
    (service.template surroundings) (service.cycleRecords conditions surroundings now)
    (if service.describesSensors now then some Encoding.sensorInformation else none)

theorem isSilent_eq_false_iff {service : Service} {conditions : ChannelConditions}
    {surroundings : Surroundings} {now : Instant} :
    service.isSilent conditions surroundings now = false ↔
      service.candidates conditions surroundings now ≠ [] ∨
        (service.selection conditions surroundings now).force = true ∨
        service.describesSensors now = true := by
  rw [isSilent, Bool.and_eq_false_iff, Bool.and_eq_false_iff, Bool.not_eq_false',
    Bool.not_eq_false', List.isEmpty_eq_false_iff, or_assoc]

section

variable {current : Service} {conditions : ChannelConditions} {surroundings : Surroundings}
  {now : Instant} {segmentation : Segmentation Handle}

theorem reported_append_dropped_perm
    (assembled : current.assembled conditions surroundings now = .ok segmentation) :
    (segmentation.reported ++ current.droppedRecords conditions surroundings now).Perm
      (current.cycleRecords conditions surroundings now) :=
  Segmentation.reported_append_discarded_perm rfl (packed_of_assembled assembled).1

/-- If a cycle has fewer candidates than there may be segments, then its messages name the object
of each of them. -/
theorem exists_listed_of_candidate
    (assembled : current.assembled conditions surroundings now = .ok segmentation)
    (few : (current.candidates conditions surroundings now).length < Message.segmentLimit)
    {handle : Handle} (candidate : handle ∈ current.candidates conditions surroundings now)
    {object : SceneObject} (present : surroundings.scene handle = some object) :
    ∃ message ∈ segmentation.messages, ∃ record ∈ message.objects,
      record.object = object.station := by
  have within : Message.segmentLimit ≤ Message.cycleLimit := by decide
  obtain ⟨record, recorded, named⟩ : ∃ record,
      current.record? surroundings handle = some (handle, record) ∧
        record.object = object.station := by
    rw [record?, present]
    exact ⟨_, rfl, rfl⟩
  have member : (handle, record) ∈ current.cycleRecords conditions surroundings now := by
    refine List.mem_filterMap.mpr ⟨handle, ?_, recorded⟩
    rwa [List.take_of_length_le (by omega)]
  have fewRecords : (current.cycleRecords conditions surroundings now).length <
      Message.segmentLimit :=
    Nat.lt_of_le_of_lt
      (Nat.le_trans (List.length_filterMap_le _ _) (List.length_take_le' _ _)) few
  have whole := reported_append_dropped_perm assembled
  rw [droppedRecords, Segmentation.discarded_eq_nil _ _ _ fewRecords, List.append_nil] at whole
  have listed : record ∈ segmentation.messages.flatMap (·.objects) := by
    rw [(Segmentation.segment_reported rfl (packed_of_assembled assembled).1).2]
    exact List.mem_map.mpr ⟨_, whole.mem_iff.mpr member, rfl⟩
  obtain ⟨message, handed, inside⟩ := List.mem_flatMap.mp listed
  exact ⟨message, handed, record, inside, named⟩

/-- No object is in the messages of a cycle twice. -/
theorem reported_nodup
    (assembled : current.assembled conditions surroundings now = .ok segmentation) :
    (segmentation.reported.map (·.1)).Nodup := by
  have keys := (reported_append_dropped_perm assembled).map (·.1)
  have apart := keys.nodup_iff.mpr (current.cycleRecords_nodup conditions surroundings now)
  rw [List.map_append] at apart
  exact (List.nodup_append.mp apart).1

/-- A cycle sends neither more objects than are tracked nor more than the format allows. -/
theorem reported_length_le
    (assembled : current.assembled conditions surroundings now = .ok segmentation) :
    segmentation.reported.length ≤ min current.tracking.size Message.cycleLimit := by
  have tracked : segmentation.reported.map (·.1) ⊆ current.tracking.handles := by
    intro handle member
    obtain ⟨entry, inside, rfl⟩ := List.mem_map.mp member
    exact (tracked_of_reported assembled inside).2.1
  have fewTracked := (List.subperm_of_subset (reported_nodup assembled) tracked).length_le
  have count := (reported_append_dropped_perm assembled).length_eq
  have fewRecords : (current.cycleRecords conditions surroundings now).length ≤
      Message.cycleLimit :=
    Nat.le_trans (List.length_filterMap_le _ _) (List.length_take_le _ _)
  rw [List.length_map, LocalTracking.handles, OrderedMap.length_keys] at fewTracked
  rw [List.length_append] at count
  exact Nat.le_min.mpr ⟨fewTracked, by omega⟩

theorem objectCount_of_assembled
    (assembled : current.assembled conditions surroundings now = .ok segmentation) :
    ∀ message ∈ segmentation.messages,
      message.objectCount = min current.tracking.size Message.cycleLimit := by
  intro message member
  have carries := Segmentation.segment_carries rfl rfl rfl (packed_of_assembled assembled).1
    message member
  rw [carries.copied]
  rfl

end

/-- However a cycle ends, what it has sent are the first messages that it has assembled. -/
theorem Course.sent_eq_nil_or {Channel : Type} {current : Service} {transport : Transport Channel}
    {channel : Channel} {conditions : ChannelConditions} {surroundings : Surroundings}
    {now : Instant} {cycle : Cycle Channel}
    (course : Course current transport channel conditions surroundings now cycle) :
    cycle.sent = [] ∨
      ∃ segmentation, current.assembled conditions surroundings now = .ok segmentation ∧
        cycle.sent <+: segmentation.messages := by
  cases course with
  | early _ => exact .inl rfl
  | silent _ _ => exact .inl rfl
  | unassembled _ _ _ => exact .inl rfl
  | refused _ _ succeeded apart _ _ => exact .inr ⟨_, succeeded, _, apart.symm⟩
  | sent _ _ succeeded _ => exact .inr ⟨_, succeeded, List.prefix_rfl⟩

/-- However a cycle ends, the objects that it has sent are those of different handles. Each is
named by the number of the object behind the handle, which a sensor of the tracked category
sees. -/
theorem exists_listed {Channel : Type} (service : Service) (transport : Transport Channel)
    (channel : Channel) (conditions : ChannelConditions) (surroundings : Surroundings)
    (now : Instant) :
    ∃ listed : List (Handle × PerceivedObject),
      (service.trigger transport channel conditions surroundings now).sent.flatMap (·.objects) =
          listed.map (·.2) ∧
        (listed.map (·.1)).Nodup ∧
        ∀ entry ∈ listed, ∃ object, surroundings.scene entry.1 = some object ∧
          entry.2.object = object.station ∧
          surroundings.environment.Sees service.settings.trackedCategory entry.1 := by
  have course := service.trigger_course transport channel conditions surroundings now
  rcases course.sent_eq_nil_or with nothing | ⟨segmentation, assembled, ⟨unsent, whole⟩⟩
  · rw [nothing]
    exact ⟨[], rfl, List.nodup_nil, List.forall_mem_nil _⟩
  · generalize (service.trigger transport channel conditions surroundings now).sent = sent
      at whole ⊢
    have objects := (Segmentation.segment_reported rfl (packed_of_assembled assembled).1).2
    rw [← whole, List.flatMap_append] at objects
    obtain ⟨listed, rest, apart, same, _⟩ := List.append_eq_map_iff.mp objects
    have distinct := reported_nodup assembled
    rw [apart, List.map_append] at distinct
    refine ⟨listed, same.symm, (List.nodup_append.mp distinct).1, fun entry member => ?_⟩
    have inside : entry ∈ segmentation.reported := by
      rw [apart]
      exact List.mem_append_left rest member
    obtain ⟨recorded, tracked, _⟩ := tracked_of_reported assembled inside
    obtain ⟨object, present, named⟩ := Option.map_eq_some_iff.mp recorded
    rw [handles_synchronized, List.mem_filter, Environment.mem_handlesSeenBy_iff] at tracked
    exact ⟨object, present, congrArg (·.2.object) named.symm, tracked.1⟩

/-! ### The messages of a cycle -/

/-- A cycle that is due and ends well sends exactly if it has something to say. The objects
that it sends, with those dropped beyond the limit of segments, are the records of its first
candidates; they are tracked, alive and no object is among them twice, and every message
counts the tracked objects, of which there are at least as many as were sent. -/
theorem transmits_candidate_records {Channel : Type} (service : Service)
    (transport : Transport Channel) (channel : Channel) (conditions : ChannelConditions)
    (surroundings : Surroundings) (now : Instant) (report : CycleReport)
    (ended : (service.trigger transport channel conditions surroundings now).outcome =
      .ok report) :
    let current := service.synchronized surroundings now
    let cycle := service.trigger transport channel conditions surroundings now
    let candidates := current.candidates conditions surroundings now
    report.segments = cycle.sent.length ∧
      (¬now.elapsedSince current.lastSent < current.interval conditions →
        (cycle.sent ≠ [] ↔
          candidates ≠ [] ∨ (current.selection conditions surroundings now).force = true ∨
            current.describesSensors now = true)) ∧
      (cycle.sent ≠ [] →
        ∃ sent : List (Handle × PerceivedObject),
          cycle.sent.flatMap (·.objects) = sent.map (·.2) ∧
            ((sent ++ current.droppedRecords conditions surroundings now).map some).Perm
              ((candidates.take Message.cycleLimit).map (current.record? surroundings)) ∧
            (sent.map (·.1)).Nodup ∧
            (∀ entry ∈ sent, entry.1 ∈ cycle.service.tracking.handles ∧
              surroundings.scene.isAlive entry.1 = true) ∧
            ∀ message ∈ cycle.sent,
              message.objectCount = min cycle.service.tracking.size Message.cycleLimit ∧
                (cycle.sent.flatMap (·.objects)).length ≤ message.objectCount) := by
  intro current cycle candidates
  have course := service.trigger_course transport channel conditions surroundings now
  have tracked : cycle.service.tracking.handles = current.tracking.handles := course.handles_eq
  have size : cycle.service.tracking.size = current.tracking.size := by
    rw [LocalTracking.size, ← OrderedMap.length_keys]
    exact (congrArg List.length tracked).trans (OrderedMap.length_keys _)
  rcases course.ok_cases ended with
    ⟨idle, none, nothing, _⟩ | ⟨due, something, segmentation, assembled, rfl, handed, _⟩
  · have unsent : cycle.sent = [] := nothing
    refine ⟨by rw [none, unsent, List.length_nil], fun due => ?_, fun sends => absurd unsent sends⟩
    rw [← isSilent_eq_false_iff, idle.resolve_left due]
    exact ⟨fun sends => absurd unsent sends, nofun⟩
  · have sends : cycle.sent = segmentation.messages := handed
    refine ⟨by rw [sends], fun _ => ?_, fun _ => ⟨segmentation.reported, ?_, ?_, ?_, ?_, ?_⟩⟩
    · rw [← isSilent_eq_false_iff, sends]
      exact ⟨fun _ => something, fun _ => messages_ne_nil_of_assembled assembled⟩
    · rw [sends]
      exact (Segmentation.segment_reported rfl (packed_of_assembled assembled).1).2
    · rw [← map_some_cycleRecords]
      exact (reported_append_dropped_perm assembled).map some
    · exact reported_nodup assembled
    · intro entry inside
      rw [tracked]
      exact (tracked_of_reported assembled inside).2
    · intro message member
      rw [sends] at member ⊢
      rw [size, objectCount_of_assembled assembled message member,
        (Segmentation.segment_reported rfl (packed_of_assembled assembled).1).2,
        List.length_map]
      exact ⟨rfl, reported_length_le assembled⟩

/-- The first cycle of a service sends its one object. -/
theorem throttledService_transmits :
    let cycle := throttledService.trigger (.limited .unavailable) none
      ⟨fun _ => .ofMillis 250, 0.5⟩ parkedObject (.ofMillis 250)
    cycle.outcome = .ok ⟨true, 1, 1, 1, 1, true⟩ ∧ cycle.sent.length = 1 ∧
      (cycle.sent.flatMap (·.objects)).length = 1 ∧
      ∀ message ∈ cycle.sent, message.objectCount = 1 := by
  intro cycle
  have ended : cycle.outcome = .ok ⟨true, 1, 1, 1, 1, true⟩ := by
    decide +kernel
  obtain ⟨count, sends_iff, transmits⟩ := transmits_candidate_records throttledService
    (.limited .unavailable) none ⟨fun _ => .ofMillis 250, 0.5⟩ parkedObject (.ofMillis 250) _
    ended
  have due : ¬(Instant.ofMillis 250).elapsedSince
      (throttledService.synchronized parkedObject (.ofMillis 250)).lastSent <
        (throttledService.synchronized parkedObject (.ofMillis 250)).interval
          ⟨fun _ => .ofMillis 250, 0.5⟩ := by
    decide
  have sends : cycle.sent ≠ [] := (sends_iff due).mpr (.inr (.inl rfl))
  obtain ⟨_, _, _, _, _, counts⟩ := transmits sends
  have tracked : cycle.service.tracking.size = 1 := by
    decide +kernel
  have counted (message : Message) (member : message ∈ cycle.sent) : message.objectCount = 1 := by
    rw [(counts message member).1]
    exact congrArg (min · Message.cycleLimit) tracked
  refine ⟨ended, count.symm, ?_, counted⟩
  decide +kernel

end CollectivePerception.Service
