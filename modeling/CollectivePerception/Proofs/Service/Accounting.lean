/-
This file proves that a reception accounts for every object of its message. A message that a
receiver cannot use leaves no trace, neither in the service nor in what it measures. Any other
message changes at most what is known of the stations that it mentions. If the sender's report
is a duplicate that is dropped, it does not change even that; otherwise each of its objects is
stored, dropped or passed over, and each that is stored is measured once
(`indicate_accounts_for_objects`).
-/

import CollectivePerception.Proofs.Service.Picture
import CollectivePerception.Proofs.Service.Segments

namespace CollectivePerception

open Remote (Knowledge Report Tracking)

/-- A measurement that tells that an object of a message was stored. -/
def Statistic.isReceivedObject : Statistic → Bool
  | receivedObject _ => true
  | _ => false

/-- A report accounts for the objects of a message: each was stored, dropped, or is the receiver
itself, and as many as were stored were measured. -/
structure ReceptionReport.AccountsFor (report : ReceptionReport) (own : StationId)
    (objects : List PerceivedObject) (statistics : List Statistic) : Prop where
  total : report.recorded + report.dropped + objects.countP (fun record => record.object = own) =
    objects.length
  ownSkipped_iff : report.ownSkipped = true ↔ ∃ record ∈ objects, record.object = own
  recorded_eq : report.recorded = statistics.countP (·.isReceivedObject)

/-! ### The objects of a message -/

/-- An object is stored, dropped or passed over, and never two of these. -/
theorem ObjectOutcome.countP_add_countP (outcomes : List ObjectOutcome) :
    outcomes.countP (·.isRecorded) + outcomes.countP (·.isDropped) + outcomes.countP (·.isOwn) =
      outcomes.length := by
  induction outcomes with
  | nil => rfl
  | cons outcome later inductionHypothesis =>
    cases outcome <;>
      simp [isRecorded, isDropped, isOwn, ← inductionHypothesis] <;> omega

theorem countP_isReceivedObject_updateStatistics (known : Knowledge) (previous : Option Report)
    (report : Report) :
    (updateStatistics known previous report).countP (·.isReceivedObject) = 0 := by
  cases previous <;> rfl

namespace ReceptionContext

variable (context : ReceptionContext) (remote : Tracking)

/-- An object is passed over exactly if it is the receiver. -/
theorem isOwn_receiveObject (record : PerceivedObject) :
    (context.receiveObject remote record).2.isOwn =
      decide (record.object = context.own.station) := by
  rcases context.receiveObject_cases remote record with
    ⟨own, passed⟩ | ⟨other, ⟨_, dropped⟩ | ⟨_, stored⟩⟩
  · rw [passed, decide_eq_true own]
    rfl
  · rw [dropped, decide_eq_false other]
    rfl
  · rw [stored, decide_eq_false other]
    rfl

theorem map_isOwn_receiveObjects (records : List PerceivedObject) :
    (context.receiveObjects remote records).2.map (·.isOwn) =
      records.map fun record => decide (record.object = context.own.station) := by
  induction records generalizing remote with
  | nil => rfl
  | cons record later inductionHypothesis =>
    rw [List.map_cons, ← inductionHypothesis (context.receiveObject remote record).1,
      ← context.isOwn_receiveObject remote record]
    rfl

theorem length_receiveObjects (records : List PerceivedObject) :
    (context.receiveObjects remote records).2.length = records.length := by
  have same := congrArg List.length (context.map_isOwn_receiveObjects remote records)
  rwa [List.length_map, List.length_map] at same

theorem countP_isOwn_receiveObjects (records : List PerceivedObject) :
    (context.receiveObjects remote records).2.countP (·.isOwn) =
      records.countP fun record => record.object = context.own.station := by
  have same := congrArg (List.countP id) (context.map_isOwn_receiveObjects remote records)
  rwa [List.countP_map, List.countP_map] at same

theorem any_isOwn_receiveObjects_iff (records : List PerceivedObject) :
    (context.receiveObjects remote records).2.any (·.isOwn) = true ↔
      ∃ record ∈ records, record.object = context.own.station := by
  have same := congrArg (List.any · id) (context.map_isOwn_receiveObjects remote records)
  simp only [List.any_map, Function.id_comp] at same
  simp [same]

theorem countP_isReceivedObject_objectStatistics (object : StationId) (previous : Option Report)
    (report : Report) (known : Knowledge) (result : Remote.InsertResult) :
    (context.objectStatistics object previous report known result).countP (·.isReceivedObject) =
      1 := by
  rw [objectStatistics]
  simp only [List.countP_append, countP_isReceivedObject_updateStatistics]
  cases result <;> rfl

/-- The measurements of an object tell that it was stored exactly if it was. -/
theorem countP_isReceivedObject_receiveObject (record : PerceivedObject) :
    (context.receiveObject remote record).2.statistics.countP (·.isReceivedObject) =
      if (context.receiveObject remote record).2.isRecorded then 1 else 0 := by
  rcases context.receiveObject_cases remote record with
    ⟨_, passed⟩ | ⟨_, ⟨_, dropped⟩ | ⟨_, stored⟩⟩
  · rw [passed]
    rfl
  · rw [dropped]
    rfl
  · rw [stored]
    exact context.countP_isReceivedObject_objectStatistics _ _ _ _ _

theorem countP_isReceivedObject_receiveObjects (records : List PerceivedObject) :
    ((context.receiveObjects remote records).2.flatMap (·.statistics)).countP
        (·.isReceivedObject) =
      (context.receiveObjects remote records).2.countP (·.isRecorded) := by
  induction records generalizing remote with
  | nil => rfl
  | cons record later inductionHypothesis =>
    rw [receiveObjects]
    dsimp only
    rw [List.flatMap_cons, List.countP_append, List.countP_cons, inductionHypothesis,
      countP_isReceivedObject_receiveObject, Nat.add_comm]

theorem countP_isReceivedObject_senderStatistics (previous : Option Report) (report : Report)
    (known : Knowledge) (result : Remote.InsertResult) :
    (context.senderStatistics previous report known result).countP (·.isReceivedObject) = 0 := by
  rw [senderStatistics]
  simp only [List.countP_append, countP_isReceivedObject_updateStatistics]
  cases result <;> rfl

variable {context remote}

/-- An object changes nothing but what is known of it, and nothing at all if it is the
receiver. -/
theorem get?_foldl_afterObject {records : List PerceivedObject} {station : StationId}
    (unlisted : ¬(station ≠ context.own.station ∧ ∃ record ∈ records, record.object = station)) :
    (records.foldl context.afterObject remote).get? station = remote.get? station := by
  induction records generalizing remote with
  | nil => rfl
  | cons record later inductionHypothesis =>
    rw [List.foldl_cons, inductionHypothesis fun listed => unlisted ⟨listed.1,
      listed.2.imp fun _ member => ⟨List.mem_cons_of_mem _ member.1, member.2⟩⟩, afterObject]
    split
    · rfl
    · rename_i other
      refine Tracking.get?_noted_of_ne fun same => unlisted ⟨?_, record, List.mem_cons_self,
        same.symm⟩
      rw [same]
      exact other

end ReceptionContext

/-! ### The message -/

namespace Service

section

variable {service : Service} {context : ReceptionContext} {vehicle : VehicleData}
  {message : Message} {report : ReceptionReport}
  (ended : (service.recordMessage context vehicle message).outcome = .ok report)

include ended

theorem senderResult_eq_duplicateDrop_iff :
    report.senderResult = .duplicateDrop ↔
      (service.remote.knowledge context.sender).Drops context.sender context.now
        context.policy := by
  rcases service.recordMessage_cases context vehicle message with
    ⟨drops, left⟩ | ⟨adds, stored, recorded⟩
  · rw [left] at ended
    cases ended
    exact iff_of_true rfl drops
  · rw [recorded] at ended
    cases ended
    exact iff_of_false stored adds

/-- If the sender's report is dropped, the message changes nothing. -/
theorem recordMessage_of_duplicateDrop (duplicate : report.senderResult = .duplicateDrop) :
    (service.recordMessage context vehicle message).service = service ∧
      report.recorded = 0 ∧ report.dropped = 0 := by
  rcases service.recordMessage_cases context vehicle message with
    ⟨_, left⟩ | ⟨_, stored, recorded⟩
  · rw [left] at ended ⊢
    cases ended
    exact ⟨rfl, rfl, rfl⟩
  · rw [recorded] at ended
    cases ended
    exact absurd duplicate stored

/-- If it is not dropped, each object of the message is accounted for. -/
theorem accountsFor_recordMessage (stored : report.senderResult ≠ .duplicateDrop) :
    report.AccountsFor context.own.station message.objects
      (service.recordMessage context vehicle message).statistics := by
  rcases service.recordMessage_cases context vehicle message with
    ⟨_, left⟩ | ⟨_, _, recorded⟩
  · rw [left] at ended
    cases ended
    exact absurd rfl stored
  · rw [recorded] at ended ⊢
    cases ended
    refine ⟨?_, context.any_isOwn_receiveObjects_iff _ _, ?_⟩
    · rw [← context.countP_isOwn_receiveObjects, ObjectOutcome.countP_add_countP,
        context.length_receiveObjects]
    · rw [List.countP_append, List.countP_append,
        context.countP_isReceivedObject_senderStatistics,
        context.countP_isReceivedObject_receiveObjects]
      exact (Nat.zero_add _).symm

end

/-- A message changes nothing of a service but its picture of the others. -/
theorem service_recordMessage (service : Service) (context : ReceptionContext)
    (vehicle : VehicleData) (message : Message) :
    (service.recordMessage context vehicle message).service =
      { service with
        remote := (service.recordMessage context vehicle message).service.remote } := by
  rcases service.recordMessage_cases context vehicle message with ⟨_, left⟩ | ⟨_, _, recorded⟩
  · rw [left]
  · rw [recorded]

/-- A message changes nothing of the picture but what is known of the stations that it
mentions. -/
theorem get?_recordMessage {service : Service} {context : ReceptionContext}
    {vehicle : VehicleData} {message : Message} (sent : context.sender = message.sender)
    {station : StationId} (unmentioned : ¬message.Mentions context.own.station station) :
    (service.recordMessage context vehicle message).service.remote.get? station =
      service.remote.get? station := by
  obtain ⟨notSender, unlisted⟩ := not_or.mp unmentioned
  rw [remote_recordMessage]
  split
  · rfl
  · rw [ReceptionContext.get?_foldl_afterObject unlisted, sent,
      Tracking.get?_noted_of_ne notSender]

/-! ### The reception -/

theorem indicate_isError_iff {receiver : Service} {surroundings : Surroundings} {now : Instant}
    {message : Message} :
    (∃ failure, (receiver.indicate surroundings now message).outcome = .error failure) ↔
      receiver.facilities.codec.fault? message ≠ none ∨
        message.management.reference.latitude = MessageField.latitude.unavailable ∨
        message.management.reference.longitude = MessageField.longitude.unavailable ∨
        message.vehicle = none := by
  have fails : (∃ failure, (receiver.indicate surroundings now message).outcome = .error failure) ↔
      ¬∃ report, (receiver.indicate surroundings now message).outcome = .ok report := by
    cases (receiver.indicate surroundings now message).outcome <;> simp
  rw [fails, indicate_isOk_iff, Message.senderParts_isOk_iff,
    ReferencePosition.toGeo?_isSome_iff]
  simp only [not_and_or, not_not, or_assoc, ne_eq, Bool.not_eq_true, Option.isSome_eq_false_iff,
    Option.isNone_iff_eq_none]

/-- A reception fails exactly if the encoding refuses the message, a coordinate of its sender is
not available, or the vehicle is not described; then it changes and measures nothing. If it ends
well, it has changed at most the picture of the others, and compared with a synchronisation
alone at most what is known of the stations that the message mentions. If the sender's report
was dropped, it is a synchronisation alone; otherwise each object is accounted for. -/
theorem indicate_accounts_for_objects (receiver : Service) (surroundings : Surroundings)
    (now : Instant) (message : Message) :
    let own := surroundings.own.station
    let current := (receiver.remote.synchronize surroundings.awareness now).1
    let reception := receiver.indicate surroundings now message
    ((∃ failure, reception.outcome = .error failure) ↔
        receiver.facilities.codec.fault? message ≠ none ∨
          message.management.reference.latitude = MessageField.latitude.unavailable ∨
          message.management.reference.longitude = MessageField.longitude.unavailable ∨
          message.vehicle = none) ∧
      (∀ failure, reception.outcome = .error failure →
        reception.service = receiver ∧ reception.statistics = []) ∧
      ∀ report, reception.outcome = .ok report →
        reception.service = { receiver with remote := reception.service.remote } ∧
          (∀ station, ¬message.Mentions own station →
            reception.service.remote.get? station = current.get? station) ∧
          (report.senderResult = .duplicateDrop ↔
            current.Heard message.sender now ∧
              receiver.settings.duplicatePolicy = .dropOnDuplicate) ∧
          (report.senderResult = .duplicateDrop →
            reception.service.remote = current ∧ report.recorded = 0 ∧ report.dropped = 0) ∧
          (report.senderResult ≠ .duplicateDrop →
            report.AccountsFor own message.objects reception.statistics) := by
  intro own current reception
  refine ⟨indicate_isError_iff, fun failure failed => indicate_of_failed failed,
    fun report ended => ?_⟩
  obtain ⟨parts, _, same⟩ := indicate_of_ok ended
  have service : reception.service = _ := congrArg Reception.service same
  have statistics : reception.statistics = _ := congrArg Reception.statistics same
  rw [show reception = _ from same] at ended
  rw [service, statistics]
  refine ⟨?_, fun station unmentioned => get?_recordMessage rfl unmentioned,
    senderResult_eq_duplicateDrop_iff ended, fun duplicate => ?_,
    accountsFor_recordMessage ended⟩
  · rw [service_recordMessage]
    rfl
  · obtain ⟨unchanged, counts⟩ := recordMessage_of_duplicateDrop ended duplicate
    rw [unchanged]
    exact ⟨rfl, counts⟩

/-- A message that lists station 2, object 7 twice, and object 9. -/
def repetitiveMessage : Message :=
  { heardMessage with
    objects := [7, 2, 7, 9].map fun station =>
      Encoding.perceivedObject (.initial station .passengerCar) none parkedObject.own }

/-- Station 2 after this message. -/
def repetitiveReception : Reception :=
  crowdedService.indicate distantRoad (.ofMillis 300) repetitiveMessage

/-- Station 2 drops duplicates. It stores object 7 once and object 9, and passes over itself. The
same message again is left out as a whole. -/
theorem repetitiveMessage_accounted_for :
    let again :=
      repetitiveReception.service.indicate distantRoad (.ofMillis 300) repetitiveMessage
    repetitiveReception.outcome = .ok ⟨1, .ok, 2, 1, true⟩ ∧
      repetitiveReception.service.remote.stations = [1, 7, 9] ∧
      repetitiveReception.service.remote.get? 2 =
        (crowdedService.remote.synchronize distantRoad.awareness (.ofMillis 300)).1.get? 2 ∧
      ReceptionReport.AccountsFor ⟨1, .ok, 2, 1, true⟩ 2 repetitiveMessage.objects
        repetitiveReception.statistics ∧
      again.outcome = .ok ⟨1, .duplicateDrop, 0, 0, false⟩ ∧
      again.service.remote = (repetitiveReception.service.remote.synchronize
        distantRoad.awareness (.ofMillis 300)).1 := by
  have ended : repetitiveReception.outcome = .ok ⟨1, .ok, 2, 1, true⟩ := by
    decide +kernel
  have stored : repetitiveReception.service.remote.stations = [1, 7, 9] := by
    decide +kernel
  have left : (repetitiveReception.service.indicate distantRoad (.ofMillis 300)
      repetitiveMessage).outcome = .ok ⟨1, .duplicateDrop, 0, 0, false⟩ := by
    decide +kernel
  obtain ⟨_, _, first⟩ := indicate_accounts_for_objects crowdedService distantRoad
    (.ofMillis 300) repetitiveMessage
  rw [← repetitiveReception] at first
  obtain ⟨_, unmentioned, _, _, accounts⟩ := first _ ended
  obtain ⟨_, _, second⟩ := indicate_accounts_for_objects repetitiveReception.service distantRoad
    (.ofMillis 300) repetitiveMessage
  obtain ⟨_, _, _, unchanged, _⟩ := second _ left
  exact ⟨ended, stored, unmentioned 2 (by decide +kernel), accounts (by decide), left,
    (unchanged rfl).1⟩

end Service

end CollectivePerception
