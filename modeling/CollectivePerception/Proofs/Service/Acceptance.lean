/-
This file proves that stations with the fixed layout accept each other's messages. No
message that a cycle assembles has a fault, so with room for one object in a message only
the channel can make a cycle fail, and a receiver refuses a message for one reason alone:
the sender's position lies outside the domain of the format.

The encoder and the checker meet at `Segmentation.Carries`: what a message carries comes
from the template and the records of its cycle, and those are acceptable field by field.
-/

import CollectivePerception.Proofs.Encoding.Domains
import CollectivePerception.Proofs.Segmentation.Capacity
import CollectivePerception.Proofs.Service.Reception
import CollectivePerception.Proofs.Service.Transmission

namespace CollectivePerception

/-! ### What is handed over -/

/-- A way to hand over messages that also notes every message that it is given, whether the
channel accepts it or not. -/
def Transport.noting {Channel : Type} (transport : Transport Channel) :
    Transport (Channel × List Message) where
  send state message :=
    let (reply, after) := transport.send state.1 message
    (reply, (after, state.2 ++ [message]))

theorem Transport.Accepts.noted {Channel : Type} {transport : Transport Channel}
    {before after : Channel × List Message} {messages : List Message}
    (accepts : transport.noting.Accepts before messages after) :
    after.2 = before.2 ++ messages := by
  induction accepts with
  | nil => exact (List.append_nil _).symm
  | @cons channel next after message later accepted _ inductionHypothesis =>
    have noted : next.2 = channel.2 ++ [message] :=
      congrArg (fun result => result.2.2) accepted.symm
    rw [inductionHypothesis, noted, List.append_assoc, List.singleton_append]

/-- What the channel accepts was noted before. -/
theorem Transport.accepted_prefix_noted {Channel : Type} (transport : Transport Channel)
    (channel : Channel) (noted messages : List Message) :
    noted ++ (transport.handOver channel messages).accepted <+:
      (transport.noting.handOver (channel, noted) messages).channel.2 := by
  induction messages generalizing channel noted with
  | nil => exact ⟨[], by rw [handOver, handOver, List.append_nil, List.append_nil]⟩
  | cons message later inductionHypothesis =>
    have given : transport.noting.send (channel, noted) message =
        ((transport.send channel message).1,
          ((transport.send channel message).2, noted ++ [message])) := rfl
    rw [handOver, handOver, given]
    rcases transport.send channel message with ⟨_ | _, after⟩
    · exact ⟨[message], by rw [List.append_nil]⟩
    · have earlier := inductionHypothesis after (noted ++ [message])
      rw [List.append_assoc, List.singleton_append] at earlier
      exact earlier

namespace Service

variable {Channel : Type}

/-- The messages that a cycle hands to the channel, in their order. -/
def handedOver (service : Service) (transport : Transport Channel) (channel : Channel)
    (conditions : ChannelConditions) (surroundings : Surroundings) (now : Instant) :
    List Message :=
  (service.trigger transport.noting (channel, []) conditions surroundings now).channel.2

/-- What is handed over was assembled. -/
theorem assembled_of_mem_handedOver {service : Service} {transport : Transport Channel}
    {channel : Channel} {conditions : ChannelConditions} {surroundings : Surroundings}
    {now : Instant} {message : Message}
    (member : message ∈ service.handedOver transport channel conditions surroundings now) :
    ∃ segmentation, (service.synchronized surroundings now).assembled conditions surroundings now =
      .ok segmentation ∧ message ∈ segmentation.messages := by
  have course := service.trigger_course transport.noting (channel, []) conditions surroundings now
  unfold handedOver at member
  generalize service.trigger transport.noting (channel, []) conditions surroundings now = cycle
    at course member
  cases course with
  | early _ => cases member
  | silent _ _ => cases member
  | unassembled _ _ _ => cases member
  | @refused segmentation accepted later refused before after _ _ _ succeeded apart accepts
      refusal =>
    have noted : after.2 = before.2 ++ [refused] :=
      congrArg (fun result => result.2.2) refusal.symm
    refine ⟨segmentation, succeeded, ?_⟩
    rw [noted, accepts.noted, List.nil_append, List.mem_append, List.mem_singleton] at member
    rw [apart, List.mem_append, List.mem_cons]
    exact member.imp_right .inl
  | @sent segmentation after _ _ succeeded accepts =>
    rw [accepts.noted, List.nil_append] at member
    exact ⟨segmentation, succeeded, member⟩

/-- What a cycle has sent was handed over. -/
theorem sent_prefix_handedOver (service : Service) (transport : Transport Channel)
    (channel : Channel) (conditions : ChannelConditions) (surroundings : Surroundings)
    (now : Instant) :
    (service.trigger transport channel conditions surroundings now).sent <+:
      service.handedOver transport channel conditions surroundings now := by
  unfold handedOver trigger
  dsimp only
  split
  · exact List.nil_prefix
  · rw [generate_eq, generate_eq]
    split
    · exact List.nil_prefix
    · rw [send_eq, send_eq]
      cases (service.synchronized surroundings now).assembled conditions surroundings now with
      | error failure => exact List.nil_prefix
      | ok segmentation =>
        have noted := transport.accepted_prefix_noted channel [] segmentation.messages
        rw [List.nil_append] at noted
        dsimp only
        generalize transport.handOver channel segmentation.messages = plain at noted ⊢
        generalize transport.noting.handOver (channel, []) segmentation.messages = full at noted ⊢
        rcases plain with ⟨_ | _, _, _⟩ <;> rcases full with ⟨_ | _, _, _⟩ <;> exact noted

/-! ### Acceptable messages -/

section

variable {service : Service} {conditions : ChannelConditions} {surroundings : Surroundings}
  {now : Instant}

theorem eq_perceivedObject_of_record? {handle : Handle} {entry : Handle × PerceivedObject}
    (recorded : service.record? surroundings handle = some entry) :
    ∃ object seen, entry.2 = Encoding.perceivedObject object seen surroundings.own := by
  obtain ⟨object, _, rfl⟩ := Option.map_eq_some_iff.mp recorded
  exact ⟨object, _, rfl⟩

/-- The sender's position can be read from its message exactly if it could be given there. -/
theorem toGeo?_management_isSome_iff (own : OwnState) (segment : Option SegmentNumber) :
    (Encoding.management own segment).reference.toGeo?.isSome = true ↔
      Encoding.IsLocated own := by
  rw [Encoding.IsLocated, ← MessageField.orUnavailable_ne_unavailable_iff (rfl :
      MessageField.latitude.domain.inRange MessageField.latitude.unavailable = false),
    ← MessageField.orUnavailable_ne_unavailable_iff (rfl :
      MessageField.longitude.domain.inRange MessageField.longitude.unavailable = false)]
  exact ReferencePosition.toGeo?_isSome_iff

section

variable {describe : Bool} {message : Message}
  (carries : Segmentation.Carries (service.template surroundings)
    (service.cycleRecords conditions surroundings now)
    (if describe then some Encoding.sensorInformation else none) message)

include carries

theorem reference_of_carries :
    message.management.reference = (Encoding.management surroundings.own none).reference := by
  rw [carries.copied]
  rfl

theorem vehicle_of_carries :
    message.vehicle = some (Encoding.vehicleData surroundings.own) := by
  rw [carries.copied]
  rfl

/-- A message that carries what its cycle has is acceptable in each of its parts. -/
theorem fault?_of_carries : FixedLayout.fault? message = none := by
  have header : message.header = .perception surroundings.own.station := by
    rw [carries.copied]
    rfl
  rw [FixedLayout.fault?_eq_none_iff, header, reference_of_carries carries,
    vehicle_of_carries carries]
  refine ⟨FixedLayout.headerFault?_perception _,
    FixedLayout.segmentFault?_eq_none_iff.mpr carries.counted,
    Encoding.referenceFault?_management _ _, Encoding.vehicleFault?_vehicleData _,
    FixedLayout.sensorsFault?_eq_none_iff.mpr fun description present => ?_,
    FixedLayout.objectsFault?_eq_none_iff.mpr ⟨carries.few, fun object member => ?_⟩⟩
  · have given := carries.described description present
    split at given
    · cases given
      decide
    · cases given
  · obtain ⟨entry, inside, rfl⟩ := carries.loaded object member
    obtain ⟨seenObject, seen, same⟩ := eq_perceivedObject_of_record? (mem_cycleRecords inside).2
    rw [same]
    exact Encoding.recordFault?_perceivedObject _ _ _

/-- Such a message has the parts that a receiver needs exactly if the sender's position can
be given. -/
theorem senderParts_isOk_iff :
    (∃ parts, message.senderParts .fixedLayout = .ok parts) ↔
      Encoding.IsLocated surroundings.own := by
  have faultless : Codec.fixedLayout.fault? message = none := fault?_of_carries carries
  rw [← toGeo?_management_isSome_iff _ none, Message.senderParts_isOk_iff,
    reference_of_carries carries, vehicle_of_carries carries]
  simp [faultless]

end

theorem carries_of_packed {describe : Bool} {segmentation : Segmentation Handle}
    (packed : service.packed surroundings (service.cycleRecords conditions surroundings now)
      describe = .ok segmentation) :
    ∀ message ∈ segmentation.messages,
      Segmentation.Carries (service.template surroundings)
        (service.cycleRecords conditions surroundings now)
        (if describe then some Encoding.sensorInformation else none) message :=
  Segmentation.segment_carries rfl rfl rfl packed

/-! ### Cycles that fail -/

variable (conditions) (now) in
/-- With room for one object the messages of a cycle can be packed. -/
theorem exists_packed (standard : service.facilities.codec = .fixedLayout)
    (room : 64 ≤ service.settings.sizeLimit) (describe : Bool) :
    ∃ segmentation, service.packed surroundings
      (service.cycleRecords conditions surroundings now) describe = .ok segmentation := by
  unfold packed
  rw [standard]
  refine Segmentation.exists_segment (fun entry member => Nat.le_trans ?_ room)
    (fun description present => Nat.le_trans ?_ room) (Nat.le_trans (by decide : 28 ≤ 64) room)
  · obtain ⟨object, seen, same⟩ := eq_perceivedObject_of_record? (mem_cycleRecords member).2
    show 19 + 2 + 9 + 0 + (1 + (FixedLayout.recordSize entry.2 + 0)) ≤ 64
    rw [same, Encoding.recordSize_perceivedObject]
  · split at present
    · cases present
      exact (by decide : 43 ≤ 64)
    · cases present

/-- The messages of a cycle that cannot be assembled have too little room. -/
theorem sizeLimit_lt_of_assembled_error (standard : service.facilities.codec = .fixedLayout)
    {failure : ServiceError}
    (failed : service.assembled conditions surroundings now = .error failure) :
    (∃ cause, failure = .oversize cause) ∧ service.settings.sizeLimit < 64 := by
  rw [assembled] at failed
  rcases service.assemble_cases surroundings (service.cycleRecords conditions surroundings now)
    (service.describesSensors now) with
    ⟨cause, unpacked, result⟩ | ⟨segmentation, fault, packed, faulty, _⟩ | ⟨_, _, _, result⟩
  · rw [result] at failed
    cases failed
    refine ⟨⟨cause, rfl⟩, Nat.lt_of_not_le fun room => ?_⟩
    obtain ⟨segmentation, packed⟩ :=
      exists_packed conditions now standard room (service.describesSensors now)
    cases unpacked.symm.trans packed
  · obtain ⟨message, member, found⟩ := List.exists_of_findSome?_eq_some faulty
    rw [standard] at found
    cases (fault?_of_carries (carries_of_packed packed message member)).symm.trans found
  · rw [result] at failed
    cases failed

end

/-! ### Receivers -/

/-- A reception succeeds exactly if the message has the parts that a receiver needs. -/
theorem indicate_isOk_iff {receiver : Service} {surroundings : Surroundings} {now : Instant}
    {message : Message} :
    (∃ report, (receiver.indicate surroundings now message).outcome = .ok report) ↔
      ∃ parts, message.senderParts receiver.facilities.codec = .ok parts := by
  unfold indicate
  split
  · rename_i cause missing
    rw [missing]
    exact iff_of_false (fun ⟨_, accepted⟩ => nomatch accepted) fun ⟨_, found⟩ => nomatch found
  · rename_i parts found
    exact iff_of_true (recordMessage_isOk _ _ _ _) ⟨parts, found⟩

/-! ### Stations with the same format -/

/-- A cycle fails only because of the channel, or because a message has no room for one
object. Whatever it hands over, a receiver accepts exactly if the sender's position lies in
the domain of the format. -/
theorem messages_accepted_by_peers {service : Service}
    (standard : service.facilities.codec = .fixedLayout) (transport : Transport Channel)
    (channel : Channel) (conditions : ChannelConditions) (surroundings : Surroundings)
    (now : Instant) :
    let cycle := service.trigger transport channel conditions surroundings now
    let handed := service.handedOver transport channel conditions surroundings now
    (∀ failure, cycle.outcome = .error failure →
        (∃ cause, failure = .transport cause) ∨
          (∃ cause, failure = .oversize cause) ∧ service.settings.sizeLimit < 64) ∧
      cycle.sent <+: handed ∧
      ∀ message ∈ handed, ∀ receiver : Service, receiver.facilities.codec = .fixedLayout →
        ∀ others later,
          (∃ report, (receiver.indicate others later message).outcome = .ok report) ↔
            Encoding.IsLocated surroundings.own := by
  intro cycle handed
  refine ⟨fun failure failed => ?_,
    sent_prefix_handedOver service transport channel conditions surroundings now,
    fun message member receiver same others later => ?_⟩
  · have revises := service.synchronized_revises surroundings now
    rw [← revises.facilities_eq] at standard
    rw [← revises.settings_eq]
    have failedHandOver := (service.trigger_course transport channel conditions surroundings
      now).failedHandOver failed
    cases failure with
    | transport cause => exact .inl ⟨cause, rfl⟩
    | oversize _ => exact .inr (sizeLimit_lt_of_assembled_error standard failedHandOver.1)
    | invalidMessage _ =>
      obtain ⟨⟨_, large⟩, _⟩ := sizeLimit_lt_of_assembled_error standard failedHandOver.1
      cases large
  · obtain ⟨segmentation, assembled, inside⟩ := assembled_of_mem_handedOver member
    have carries := carries_of_packed (packed_of_assembled assembled).1 message inside
    rw [indicate_isOk_iff, same]
    exact senderParts_isOk_iff carries

/-- The channel refuses the only message of a cycle, which another station accepts if it gets
it on another way. -/
theorem throttledService_accepted_by_peers :
    let handed := throttledService.handedOver (.limited .unavailable) (some 0)
      ⟨fun _ => .ofMillis 250, 0.5⟩ parkedObject (.ofMillis 250)
    (throttledService.trigger (.limited .unavailable) (some 0) ⟨fun _ => .ofMillis 250, 0.5⟩
        parkedObject (.ofMillis 250)).outcome = .error (.transport .unavailable) ∧
      handed.length = 1 ∧
      ∀ message ∈ handed,
        ∃ report, (throttledService.indicate emptyRoad (.ofMillis 300) message).outcome =
          .ok report := by
  obtain ⟨_, _, accepted⟩ := messages_accepted_by_peers
    (rfl : throttledService.facilities.codec = .fixedLayout) (.limited .unavailable) (some 0)
    ⟨fun _ => .ofMillis 250, 0.5⟩ parkedObject (.ofMillis 250)
  have located : Encoding.IsLocated parkedObject.own := by
    decide +kernel
  refine ⟨by decide +kernel, by decide +kernel, fun message member => ?_⟩
  exact (accepted message member throttledService rfl emptyRoad (.ofMillis 300)).mpr located

end Service

end CollectivePerception
