/-
This file says what a reception does to the picture of the other stations. Each object of
a message but the receiver itself is one report by the sender, and so is the sender itself
(`remote_receiveObject`, `remote_recordMessage`). Whatever holds of an up-to-date picture and
survives a report that arrives now holds after the reception (`recordMessage_induction`).
-/

import CollectivePerception.Proofs.Remote.Tracking
import CollectivePerception.Service.Reception

namespace CollectivePerception

open Remote (Knowledge Report Tracking)

/-! ### What a receiver needs -/

theorem ReferencePosition.toGeo?_isSome_iff {reference : ReferencePosition} :
    reference.toGeo?.isSome = true ↔
      reference.latitude ≠ MessageField.latitude.unavailable ∧
        reference.longitude ≠ MessageField.longitude.unavailable := by
  rw [← not_or, toGeo?]
  split
  · rename_i unavailable
    exact iff_of_false nofun fun available => available unavailable
  · rename_i available
    exact iff_of_true rfl available

/-- A message has the parts that a receiver needs exactly if the encoding accepts it, its
reference position can be read, and it describes the vehicle. -/
theorem Message.senderParts_isOk_iff {codec : Codec} {message : Message} :
    (∃ parts, message.senderParts codec = .ok parts) ↔
      codec.fault? message = none ∧ message.management.reference.toGeo?.isSome = true ∧
        message.vehicle.isSome = true := by
  unfold senderParts
  cases codec.fault? message <;> cases message.management.reference.toGeo? <;>
    cases message.vehicle <;> simp

/-! ### The objects of a message -/

namespace ReceptionContext

variable (context : ReceptionContext)

/-- An object is passed over if it is the receiver. Otherwise its report is left out if it is a
duplicate that is dropped, and stored and measured if not. -/
theorem receiveObject_cases (remote : Tracking) (record : PerceivedObject) :
    let known := remote.knowledge record.object
    let added := known.add context.sender (context.report record) context.policy
    record.object = context.own.station ∧ context.receiveObject remote record = (remote, .own) ∨
      record.object ≠ context.own.station ∧
        (known.Drops context.sender context.now context.policy ∧
            context.receiveObject remote record = (remote, .dropped record.object) ∨
          ¬known.Drops context.sender context.now context.policy ∧
            context.receiveObject remote record =
              (remote.set record.object added.1,
                .recorded record.object
                  (context.objectStatistics record.object known.newestReport
                    (context.report record) added.1 added.2))) := by
  unfold receiveObject
  dsimp only
  split
  · rename_i own
    exact .inl ⟨own, rfl⟩
  · rename_i other
    refine .inr ⟨other, ?_⟩
    rcases (remote.knowledge record.object).add_cases context.sender (context.report record)
      context.policy with ⟨drops, dropped⟩ | ⟨adds, kept, result, _, notDropped, added⟩
    · rw [dropped]
      exact .inl ⟨drops, rfl⟩
    · rw [added]
      refine .inr ⟨adds, ?_⟩
      cases result with
      | duplicateDrop => exact absurd rfl notDropped
      | _ => rfl

/-- The picture after one object of a message. -/
def afterObject (remote : Tracking) (record : PerceivedObject) : Tracking :=
  if record.object = context.own.station then
    remote
  else
    remote.noted record.object context.sender (context.report record) context.policy

theorem remote_receiveObject (remote : Tracking) (record : PerceivedObject) :
    (context.receiveObject remote record).1 = context.afterObject remote record := by
  rw [afterObject, Tracking.noted_eq]
  rcases context.receiveObject_cases remote record with
    ⟨own, passed⟩ | ⟨other, ⟨drops, dropped⟩ | ⟨adds, stored⟩⟩
  · rw [passed, if_pos own]
  · rw [dropped, if_neg other]
    exact (if_pos drops).symm
  · rw [stored, if_neg other]
    exact (if_neg adds).symm

theorem remote_receiveObjects (remote : Tracking) (records : List PerceivedObject) :
    (context.receiveObjects remote records).1 = records.foldl context.afterObject remote := by
  induction records generalizing remote with
  | nil => rfl
  | cons record later inductionHypothesis =>
    rw [List.foldl_cons, ← inductionHypothesis, ← remote_receiveObject]
    rfl

end ReceptionContext

/-! ### The whole message -/

namespace Service

/-- A message whose sender is a duplicate is left out. Otherwise the sender is noted, and then
each of its objects. -/
theorem recordMessage_cases (service : Service) (context : ReceptionContext)
    (vehicle : VehicleData) (message : Message) :
    let known := service.remote.knowledge context.sender
    let report := senderReport context vehicle
    let added := known.add context.sender report context.policy
    let received := context.receiveObjects
      (service.remote.noted context.sender context.sender report context.policy) message.objects
    known.Drops context.sender context.now context.policy ∧
        service.recordMessage context vehicle message =
          ⟨.ok ⟨context.sender, .duplicateDrop, 0, 0, false⟩, service,
            [.senderDuplicateDrop context.sender]⟩ ∨
      ¬known.Drops context.sender context.now context.policy ∧ added.2 ≠ .duplicateDrop ∧
        service.recordMessage context vehicle message =
          { outcome := .ok
              { sender := context.sender
                senderResult := added.2
                recorded := received.2.countP (·.isRecorded)
                dropped := received.2.countP (·.isDropped)
                ownSkipped := received.2.any (·.isOwn) }
            service := { service with remote := received.1 }
            statistics :=
              context.senderStatistics known.newestReport report added.1 added.2 ++
                [.receivedObjectsPerSegment message.objects.length] ++
                received.2.flatMap (·.statistics) } := by
  unfold recordMessage
  dsimp only
  rcases (service.remote.knowledge context.sender).add_cases context.sender
    (senderReport context vehicle) context.policy with
    ⟨drops, dropped⟩ | ⟨adds, kept, result, _, notDropped, added⟩
  · rw [dropped]
    exact .inl ⟨drops, rfl⟩
  · rw [Tracking.noted, added]
    refine .inr ⟨adds, notDropped, ?_⟩
    cases result with
    | duplicateDrop => exact absurd rfl notDropped
    | _ => rfl

/-- The picture after a message. -/
theorem remote_recordMessage (service : Service) (context : ReceptionContext)
    (vehicle : VehicleData) (message : Message) :
    (service.recordMessage context vehicle message).service.remote =
      if (service.remote.knowledge context.sender).Drops context.sender context.now
          context.policy then
        service.remote
      else
        message.objects.foldl context.afterObject
          (service.remote.noted context.sender context.sender (senderReport context vehicle)
            context.policy) := by
  rcases service.recordMessage_cases context vehicle message with
    ⟨drops, left⟩ | ⟨adds, _, recorded⟩
  · rw [left, if_pos drops]
  · rw [recorded, if_neg adds, context.remote_receiveObjects]

theorem recordMessage_isOk (service : Service) (context : ReceptionContext)
    (vehicle : VehicleData) (message : Message) :
    ∃ report, (service.recordMessage context vehicle message).outcome = .ok report := by
  rcases service.recordMessage_cases context vehicle message with ⟨_, left⟩ | ⟨_, _, recorded⟩
  · rw [left]
    exact ⟨_, rfl⟩
  · rw [recorded]
    exact ⟨_, rfl⟩

/-- What holds of the picture when it is up to date, and still holds after one more report
that arrives now, holds of the picture after the message. -/
theorem recordMessage_induction {motive : Tracking → Prop} {service : Service}
    {context : ReceptionContext} (start : motive service.remote)
    (step : ∀ remote station report, report.received = context.now → motive remote →
      motive (remote.noted station context.sender report context.policy))
    (vehicle : VehicleData) (message : Message) :
    motive (service.recordMessage context vehicle message).service.remote := by
  rw [remote_recordMessage]
  split
  · exact start
  · have sender := step service.remote context.sender (senderReport context vehicle) rfl start
    generalize service.remote.noted context.sender context.sender (senderReport context vehicle)
      context.policy = remote at sender
    induction message.objects generalizing remote with
    | nil => exact sender
    | cons record later inductionHypothesis =>
      refine inductionHypothesis (context.afterObject remote record) ?_
      unfold ReceptionContext.afterObject
      split
      · exact sender
      · exact step remote record.object (context.report record) rfl sender

/-- A message without the parts that a receiver needs changes nothing. -/
theorem indicate_of_error {receiver : Service} {surroundings : Surroundings} {now : Instant}
    {message : Message} {cause : InvalidMessage}
    (unusable : message.senderParts receiver.facilities.codec = .error cause) :
    receiver.indicate surroundings now message =
      ⟨.error (.invalidMessage cause), receiver, []⟩ := by
  rw [indicate, unusable]

/-- A reception that ends well is that of a message with the parts that a receiver needs. -/
theorem indicate_of_ok {receiver : Service} {surroundings : Surroundings} {now : Instant}
    {message : Message} {report : ReceptionReport}
    (ended : (receiver.indicate surroundings now message).outcome = .ok report) :
    ∃ parts, message.senderParts receiver.facilities.codec = .ok parts ∧
      receiver.indicate surroundings now message =
        (receiver.remoteSynchronized surroundings now).recordMessage
          (receiver.receptionContext surroundings now message parts) parts.vehicle message := by
  cases found : message.senderParts receiver.facilities.codec with
  | error cause =>
    rw [indicate_of_error found] at ended
    cases ended
  | ok parts =>
    refine ⟨parts, rfl, ?_⟩
    rw [indicate, found]

/-- A reception that fails changes nothing and measures nothing. -/
theorem indicate_of_failed {receiver : Service} {surroundings : Surroundings} {now : Instant}
    {message : Message} {failure : ServiceError}
    (failed : (receiver.indicate surroundings now message).outcome = .error failure) :
    (receiver.indicate surroundings now message).service = receiver ∧
      (receiver.indicate surroundings now message).statistics = [] := by
  cases found : message.senderParts receiver.facilities.codec with
  | error cause =>
    rw [indicate_of_error found]
    exact ⟨rfl, rfl⟩
  | ok parts =>
    rw [indicate, found] at failed
    obtain ⟨report, ended⟩ := recordMessage_isOk (receiver.remoteSynchronized surroundings now)
      (receiver.receptionContext surroundings now message parts) parts.vehicle message
    cases ended.symm.trans failed

end Service

end CollectivePerception
