/-
This file proves what a receiver gets of the messages of one cycle when all of them arrive at
the same instant. Unless duplicates are dropped, every object of every message is stored as
reported by the sender at that instant. If they are dropped, the first message alone counts:
the sender is part of each message, so from the second one on it has been reported at this
very instant already, and such a message is left out with all its objects.
-/

import CollectivePerception.Proofs.Service.Acceptance
import CollectivePerception.Proofs.Service.Reception

namespace CollectivePerception

/-! ### What was reported at an instant -/

namespace Remote.Tracking

/-- There is a report by the one station about the other that arrived at an instant. -/
def Reports (tracking : Tracking) (reporter station : StationId) (received : Instant) : Prop :=
  ∃ entry ∈ (tracking.knowledge station).historyOf reporter, entry.received = received

instance (tracking : Tracking) (reporter station : StationId) (received : Instant) :
    Decidable (tracking.Reports reporter station received) :=
  inferInstanceAs (Decidable (∃ entry ∈ _, _))

/-- The last report of a station about itself arrived at an instant. -/
def Heard (tracking : Tracking) (reporter : StationId) (received : Instant) : Prop :=
  Knowledge.endsAt ((tracking.knowledge reporter).historyOf reporter) received = true

instance (tracking : Tracking) (reporter : StationId) (received : Instant) :
    Decidable (tracking.Heard reporter received) :=
  inferInstanceAs (Decidable (_ = true))

section

variable {tracking : Tracking} {reporter station object : StationId} {report : Report}
  {policy : DuplicatePolicy} {awareness : AwarenessStore} {now : Instant}

/-- A synchronisation forgets nothing that has just arrived, before time comes to its end. -/
theorem reports_synchronize_iff (early : now.micros < Binary64.greatestInt64) :
    (tracking.synchronize awareness now).1.Reports reporter station now ↔
      tracking.Reports reporter station now := by
  rw [Reports, knowledge_synchronize, Knowledge.historyOf_renewed]
  constructor
  · rintro ⟨entry, left, arrived⟩
    exact ⟨entry, (List.dropWhile_sublist _).subset left, arrived⟩
  · rintro ⟨entry, member, arrived⟩
    refine ⟨entry, mem_dropWhile_of_not_isExpired member ?_, arrived⟩
    exact entry.not_isExpired early (Int.le_of_eq (congrArg Instant.micros arrived.symm))

theorem heard_synchronize (early : now.micros < Binary64.greatestInt64)
    (heard : tracking.Heard reporter now) :
    (tracking.synchronize awareness now).1.Heard reporter now := by
  rw [Heard, knowledge_synchronize, Knowledge.historyOf_renewed]
  exact Knowledge.endsAt_dropWhile early heard

theorem reports_of_heard (heard : tracking.Heard reporter now) :
    tracking.Reports reporter reporter now :=
  Knowledge.exists_mem_of_endsAt heard

/-- What has arrived about a station is in its reports, even if it was dropped. -/
theorem reports_noted_iff (arrives : report.received = now) :
    (tracking.noted station reporter report policy).Reports reporter object now ↔
      tracking.Reports reporter object now ∨ object = station := by
  rw [Reports, knowledge_noted]
  split
  · rename_i same
    rw [← arrives]
    exact iff_of_true (Knowledge.exists_mem_of_endsAt Knowledge.endsAt_historyOf_add) (.inr same)
  · rename_i apart
    exact (or_iff_left apart).symm

theorem heard_noted_self (arrives : report.received = now) :
    (tracking.noted reporter reporter report policy).Heard reporter now := by
  rw [Heard, knowledge_noted, if_pos rfl, ← arrives]
  exact Knowledge.endsAt_historyOf_add

theorem heard_noted (heard : tracking.Heard reporter now) (arrives : report.received = now) :
    (tracking.noted station reporter report policy).Heard reporter now := by
  by_cases same : reporter = station
  · rw [← same]
    exact heard_noted_self arrives
  · rw [Heard, knowledge_noted, if_neg same]
    exact heard

end

end Remote.Tracking

/-! ### One message -/

/-- What a message reports to a receiver: the sender itself, and each object that it lists but
the receiver. -/
def Message.Mentions (message : Message) (receiver object : StationId) : Prop :=
  object = message.sender ∨
    object ≠ receiver ∧ ∃ record ∈ message.objects, record.object = object

instance (message : Message) (receiver object : StationId) :
    Decidable (message.Mentions receiver object) :=
  inferInstanceAs (Decidable (_ ∨ _))

namespace ReceptionContext

variable {context : ReceptionContext} {remote : Remote.Tracking} {object : StationId}

theorem reports_afterObject_iff {record : PerceivedObject} :
    (context.afterObject remote record).Reports context.sender object context.now ↔
      remote.Reports context.sender object context.now ∨
        object ≠ context.own.station ∧ record.object = object := by
  rw [afterObject]
  split
  · rename_i own
    exact (or_iff_left fun listed => listed.1 (listed.2 ▸ own)).symm
  · rename_i other
    have arrives : (context.report record).received = context.now := rfl
    rw [Remote.Tracking.reports_noted_iff arrives]
    exact or_congr_right ⟨fun same => ⟨same ▸ other, same.symm⟩, fun listed => listed.2.symm⟩

theorem reports_foldl_iff {records : List PerceivedObject} :
    (records.foldl context.afterObject remote).Reports context.sender object context.now ↔
      remote.Reports context.sender object context.now ∨
        object ≠ context.own.station ∧ ∃ record ∈ records, record.object = object := by
  induction records generalizing remote with
  | nil => simp
  | cons record later inductionHypothesis =>
    rw [List.foldl_cons, inductionHypothesis, reports_afterObject_iff, or_assoc, ← and_or_left]
    simp only [List.mem_cons, exists_eq_or_imp]

theorem heard_foldl (heard : remote.Heard context.sender context.now)
    (records : List PerceivedObject) :
    (records.foldl context.afterObject remote).Heard context.sender context.now := by
  induction records generalizing remote with
  | nil => exact heard
  | cons record later inductionHypothesis =>
    refine inductionHypothesis ?_
    rw [afterObject]
    split
    · exact heard
    · exact Remote.Tracking.heard_noted heard rfl

end ReceptionContext

namespace Service

section

variable {receiver : Service} {others : Surroundings} {now : Instant} {message : Message}
  {parts : SenderParts} {object : StationId}

/-- An acceptable message is left out if duplicates are dropped and its sender has been heard
at this instant. Otherwise the sender is noted, and then each of its objects. -/
theorem remote_indicate
    (acceptable : message.senderParts receiver.facilities.codec = .ok parts) :
    (receiver.indicate others now message).service.remote =
      let current := (receiver.remote.synchronize others.awareness now).1
      let context := receiver.receptionContext others now message parts
      if current.Heard message.sender now ∧
          receiver.settings.duplicatePolicy = .dropOnDuplicate then
        current
      else
        message.objects.foldl context.afterObject
          (current.noted message.sender message.sender (senderReport context parts.vehicle)
            receiver.settings.duplicatePolicy) := by
  rw [indicate, acceptable]
  exact remote_recordMessage _ _ _ _

/-- After a message its sender has been heard. -/
theorem heard_indicate (acceptable : message.senderParts receiver.facilities.codec = .ok parts) :
    (receiver.indicate others now message).service.remote.Heard message.sender now := by
  rw [remote_indicate acceptable]
  dsimp only
  split
  · rename_i duplicate
    exact duplicate.1
  · exact ReceptionContext.heard_foldl (Remote.Tracking.heard_noted_self rfl) message.objects

/-- Unless duplicates are dropped, or if the sender was not reported at this instant before, a
message adds what it mentions. -/
theorem reports_indicate_iff (early : now.micros < Binary64.greatestInt64)
    (acceptable : message.senderParts receiver.facilities.codec = .ok parts)
    (counts : receiver.settings.duplicatePolicy = .dropOnDuplicate →
      ¬receiver.remote.Reports message.sender message.sender now) :
    (receiver.indicate others now message).service.remote.Reports message.sender object now ↔
      receiver.remote.Reports message.sender object now ∨
        message.Mentions others.own.station object := by
  have counted : ¬((receiver.remote.synchronize others.awareness now).1.Heard message.sender now ∧
      receiver.settings.duplicatePolicy = .dropOnDuplicate) := fun duplicate =>
    counts duplicate.2 ((Remote.Tracking.reports_synchronize_iff early).mp
      (Remote.Tracking.reports_of_heard duplicate.1))
  rw [remote_indicate acceptable]
  dsimp only
  rw [if_neg counted]
  have self : ((receiver.remote.synchronize others.awareness now).1.noted message.sender
      message.sender (senderReport (receiver.receptionContext others now message parts)
        parts.vehicle) receiver.settings.duplicatePolicy).Reports message.sender object now ↔
      receiver.remote.Reports message.sender object now ∨ object = message.sender :=
    (Remote.Tracking.reports_noted_iff rfl).trans
      (or_congr_left (Remote.Tracking.reports_synchronize_iff early))
  exact ReceptionContext.reports_foldl_iff.trans ((or_congr_left self).trans or_assoc)

/-- If duplicates are dropped and the sender has been heard at this instant, a message adds
nothing. -/
theorem reports_indicate_iff_of_heard (early : now.micros < Binary64.greatestInt64)
    (acceptable : message.senderParts receiver.facilities.codec = .ok parts)
    (drops : receiver.settings.duplicatePolicy = .dropOnDuplicate)
    (heard : receiver.remote.Heard message.sender now) :
    (receiver.indicate others now message).service.remote.Reports message.sender object now ↔
      receiver.remote.Reports message.sender object now := by
  rw [remote_indicate acceptable]
  dsimp only
  rw [if_pos ⟨Remote.Tracking.heard_synchronize early heard, drops⟩]
  exact Remote.Tracking.reports_synchronize_iff early

end

/-! ### Messages that arrive together -/

variable {Channel : Type}

/-- The calls by which messages are received at the same instant, each in its surroundings. -/
def deliveries (now : Instant) (arrivals : List (Surroundings × Message)) :
    List (Call Channel) :=
  arrivals.map fun arrival => .indicate arrival.1 now arrival.2

/-- A message of the sender arrives that the receiver accepts, under its own number. -/
structure Accepts (receiver : Service) (sender own : StationId)
    (arrival : Surroundings × Message) : Prop where
  sender_eq : arrival.2.sender = sender
  own_eq : arrival.1.own.station = own
  isOk : ∃ parts, arrival.2.senderParts receiver.facilities.codec = .ok parts

section

variable {receiver : Service} {now : Instant} {sender own object : StationId}
  {arrivals : List (Surroundings × Message)}

theorem Accepts.after {arrival : Surroundings × Message}
    (accepts : receiver.Accepts sender own arrival) (call : Call Channel) :
    (receiver.after call).Accepts sender own arrival :=
  ⟨accepts.sender_eq, accepts.own_eq, by
    rw [(after_revises receiver call).facilities_eq]
    exact accepts.isOk⟩

/-- If duplicates are not dropped, every message counts. -/
theorem reports_deliveries_iff (early : now.micros < Binary64.greatestInt64)
    (keeps : receiver.settings.duplicatePolicy ≠ .dropOnDuplicate)
    (accepts : ∀ arrival ∈ arrivals, receiver.Accepts sender own arrival) :
    (receiver.run (deliveries now arrivals : List (Call Channel))).remote.Reports sender object
        now ↔
      receiver.remote.Reports sender object now ∨
        ∃ arrival ∈ arrivals, arrival.2.Mentions own object := by
  induction arrivals generalizing receiver with
  | nil => simp [deliveries, run]
  | cons arrival later inductionHypothesis =>
    obtain ⟨first, others⟩ := List.forall_mem_cons.mp accepts
    let call : Call Channel := .indicate arrival.1 now arrival.2
    have rest := @inductionHypothesis (receiver.after call)
      (by rwa [(after_revises receiver call).settings_eq])
      (fun other member => (others other member).after call)
    obtain ⟨rfl, rfl, parts, acceptable⟩ := first
    refine rest.trans ?_
    rw [List.exists_mem_cons_iff, ← or_assoc]
    exact or_congr_left (reports_indicate_iff early acceptable fun drops => absurd drops keeps)

/-- If duplicates are dropped, nothing counts after a first message. -/
theorem reports_deliveries_iff_of_heard (early : now.micros < Binary64.greatestInt64)
    (drops : receiver.settings.duplicatePolicy = .dropOnDuplicate)
    (accepts : ∀ arrival ∈ arrivals, receiver.Accepts sender own arrival)
    (heard : receiver.remote.Heard sender now) :
    (receiver.run (deliveries now arrivals : List (Call Channel))).remote.Reports sender object
        now ↔
      receiver.remote.Reports sender object now := by
  induction arrivals generalizing receiver with
  | nil => rfl
  | cons arrival later inductionHypothesis =>
    obtain ⟨first, others⟩ := List.forall_mem_cons.mp accepts
    let call : Call Channel := .indicate arrival.1 now arrival.2
    obtain ⟨rfl, rfl, parts, acceptable⟩ := first
    have rest := @inductionHypothesis (receiver.after call)
      (by rwa [(after_revises receiver call).settings_eq])
      (fun other member => (others other member).after call) (heard_indicate acceptable)
    exact rest.trans (reports_indicate_iff_of_heard early acceptable drops heard)

/-- If duplicates are dropped, the first message counts alone. -/
theorem reports_deliveries_cons_iff (early : now.micros < Binary64.greatestInt64)
    (drops : receiver.settings.duplicatePolicy = .dropOnDuplicate)
    {arrival : Surroundings × Message}
    (accepts : ∀ other ∈ arrival :: arrivals, receiver.Accepts sender own other)
    (unheard : ¬receiver.remote.Reports sender sender now) :
    (receiver.run (deliveries now (arrival :: arrivals) : List (Call Channel))).remote.Reports
        sender object now ↔
      receiver.remote.Reports sender object now ∨ arrival.2.Mentions own object := by
  obtain ⟨first, others⟩ := List.forall_mem_cons.mp accepts
  let call : Call Channel := .indicate arrival.1 now arrival.2
  have unchanged : (receiver.after call).settings.duplicatePolicy = .dropOnDuplicate := by
    rwa [(after_revises receiver call).settings_eq]
  obtain ⟨rfl, rfl, parts, acceptable⟩ := first
  refine Iff.trans ?_ (reports_indicate_iff early acceptable fun _ => unheard)
  exact reports_deliveries_iff_of_heard early unchanged
    (fun other member => (others other member).after call) (heard_indicate acceptable)

end

/-! ### The segments of a cycle -/

/-- What a cycle has sent carries what the cycle has. -/
theorem carries_of_mem_sent {sender : Service} {transport : Transport Channel}
    {channel : Channel} {conditions : ChannelConditions} {surroundings : Surroundings}
    {generated : Instant} {message : Message}
    (sent : message ∈
      (sender.trigger transport channel conditions surroundings generated).sent) :
    let current := sender.synchronized surroundings generated
    Segmentation.Carries (current.template surroundings)
      (current.cycleRecords conditions surroundings generated)
      (if current.describesSensors generated then some Encoding.sensorInformation else none)
      message := by
  obtain ⟨segmentation, assembled, inside⟩ := assembled_of_mem_handedOver
    ((sent_prefix_handedOver sender transport channel conditions surroundings generated).subset
      sent)
  exact carries_of_packed (packed_of_assembled assembled).1 message inside

/-- A receiver accepts what a sender has sent from a position within the format's domain. -/
theorem accepts_of_mem_sent {sender : Service} {transport : Transport Channel}
    {channel : Channel} {conditions : ChannelConditions} {surroundings : Surroundings}
    {generated : Instant} (located : Encoding.IsLocated surroundings.own) {receiver : Service}
    (standard : receiver.facilities.codec = .fixedLayout) {arrival : Surroundings × Message}
    (sent : arrival.2 ∈
      (sender.trigger transport channel conditions surroundings generated).sent) :
    receiver.Accepts surroundings.own.station arrival.1.own.station arrival := by
  have carries := carries_of_mem_sent sent
  refine ⟨?_, rfl, ?_⟩
  · rw [Message.sender, carries.copied]
    rfl
  · rw [standard]
    exact (senderParts_isOk_iff carries).mpr located

/-- When the messages of a cycle arrive at the same instant, later than everything that the
receiver has of their sender, then the sender's reports of that instant are those of all
messages; if duplicates are dropped, they are those of the first message. -/
theorem segments_reports_iff {sender : Service} {transport : Transport Channel}
    {channel : Channel} {conditions : ChannelConditions} {surroundings : Surroundings}
    {generated : Instant} (located : Encoding.IsLocated surroundings.own) {receiver : Service}
    (standard : receiver.facilities.codec = .fixedLayout) {now : Instant}
    (early : now.micros < Binary64.greatestInt64)
    (older : ∀ station, ∀ entry ∈
      (receiver.remote.knowledge station).historyOf surroundings.own.station, entry.received < now)
    (own : StationId) (arrivals : List (Surroundings × Message))
    (received : ∀ arrival ∈ arrivals, arrival.1.own.station = own)
    (complete : arrivals.map (·.2) =
      (sender.trigger transport channel conditions surroundings generated).sent)
    (object : StationId) :
    let segments := (sender.trigger transport channel conditions surroundings generated).sent
    (receiver.run (deliveries now arrivals : List (Call Channel))).remote.Reports
        surroundings.own.station object now ↔
      ∃ segment ∈
          if receiver.settings.duplicatePolicy = .dropOnDuplicate then segments.take 1
          else segments,
        segment.Mentions own object := by
  intro segments
  have accepts : ∀ arrival ∈ arrivals,
      receiver.Accepts surroundings.own.station own arrival := by
    intro arrival member
    rw [← received arrival member]
    exact accepts_of_mem_sent located standard (complete ▸ List.mem_map_of_mem member)
  have unreported (station : StationId) :
      ¬receiver.remote.Reports surroundings.own.station station now := by
    rintro ⟨entry, member, rfl⟩
    exact Int.lt_irrefl _ (older station entry member)
  have origin : segments = arrivals.map (·.2) := complete.symm
  rw [origin]
  split
  · rename_i drops
    cases arrivals with
    | nil => simp [deliveries, run, unreported]
    | cons arrival later =>
      rw [reports_deliveries_cons_iff early drops accepts (unreported _),
        or_iff_right (unreported object)]
      simp
  · rename_i keeps
    rw [reports_deliveries_iff early keeps accepts, or_iff_right (unreported object)]
    simp only [List.mem_map, exists_exists_and_eq_and]

/-! ### Two objects that do not fit into one message -/

/-- Settings under which a message has room for one object, and duplicates are dropped. -/
def crowdedSettings : ServiceSettings :=
  { throttledSettings with sizeLimit := 64, duplicatePolicy := .dropOnDuplicate }

def crowdedService : Service := { throttledService with settings := crowdedSettings }

theorem create_crowdedService :
    create crowdedSettings throttledFacilities .zero = .ok crowdedService := rfl

def crowdedRoad : Surroundings where
  scene := ((Arena.empty.insert (.initial 7 .passengerCar)).1.insert (.initial 8 .bus)).1.resolve
  environment := (Environment.empty.record ⟨0, 0⟩ 1 .radar .zero).record ⟨1, 0⟩ 1 .radar .zero
  awareness := .empty
  own := .initial 1 .passengerCar

/-- The first cycle of the service on this road. -/
def crowdedCycle : Cycle (Option Nat) :=
  crowdedService.trigger (.limited .unavailable) none ⟨fun _ => .ofMillis 250, 0.5⟩ crowdedRoad
    (.ofMillis 250)

def crowdedRecord (object : SceneObject) : PerceivedObject :=
  Encoding.perceivedObject object (some (.zero, .zero)) crowdedRoad.own

/-- The second object travels in the first message and the first object in the second one,
and the sensors are described in a third one. -/
def crowdedSegments : Segmentation Handle :=
  let template := crowdedService.template crowdedRoad
  let message (number : Nat) : Message :=
    { template with objectCount := 2 }.numbered ⟨3, number⟩
  { messages :=
      [{ message 1 with objects := [crowdedRecord (.initial 8 .bus)] },
        { message 2 with objects := [crowdedRecord (.initial 7 .passengerCar)] },
        { message 3 with sensors := some Encoding.sensorInformation }]
    included := [⟨1, 0⟩, ⟨0, 0⟩]
    sensorSegment := some 3
    dropped := 0 }

deriving instance DecidableEq for Segmentation

/-- The records of the two objects. -/
def crowdedRecords : List (Handle × PerceivedObject) :=
  [(⟨0, 0⟩, crowdedRecord (.initial 7 .passengerCar)), (⟨1, 0⟩, crowdedRecord (.initial 8 .bus))]

theorem byPriority_crowdedRecords :
    Segmentation.byPriority crowdedRecords =
      [(⟨1, 0⟩, crowdedRecord (.initial 8 .bus)),
        (⟨0, 0⟩, crowdedRecord (.initial 7 .passengerCar))] := by
  rw [Segmentation.byPriority, List.mergeSort_of_pairwise (by with_unfolding_all decide)]
  rfl

theorem crowdedCycle_sent :
    crowdedCycle.outcome = .ok ⟨true, 2, 2, 3, 2, true⟩ ∧
      crowdedCycle.sent = crowdedSegments.messages := by
  have records : (crowdedService.synchronized crowdedRoad (.ofMillis 250)).cycleRecords
      ⟨fun _ => .ofMillis 250, 0.5⟩ crowdedRoad (.ofMillis 250) = crowdedRecords := by
    decide +kernel
  have packed : (crowdedService.synchronized crowdedRoad (.ofMillis 250)).packed crowdedRoad
      crowdedRecords true = .ok crowdedSegments := by
    rw [Service.packed, Segmentation.segment, if_neg (by decide +kernel), Segmentation.segments,
      byPriority_crowdedRecords]
    decide +kernel
  have faultless : crowdedSegments.messages.findSome?
      (crowdedService.synchronized crowdedRoad (.ofMillis 250)).facilities.codec.fault? =
        none := by
    decide +kernel
  have something : (crowdedService.synchronized crowdedRoad (.ofMillis 250)).isSilent
      ⟨fun _ => .ofMillis 250, 0.5⟩ crowdedRoad (.ofMillis 250) = false :=
    isSilent_eq_false_iff.mpr (.inr (.inl rfl))
  rw [crowdedCycle, trigger_of_assembled (by decide) something
    (assembled_of_packed records (by decide) packed faultless)]
  decide +kernel

/-- What the other station sees: nothing, and that it has another number. -/
def distantRoad : Surroundings := { emptyRoad with own := .initial 2 .passengerCar }

/-- The messages of the cycle as they arrive at another station. -/
def crowdedArrivals : List (Surroundings × Message) :=
  crowdedSegments.messages.map (distantRoad, ·)

theorem map_snd_crowdedArrivals : crowdedArrivals.map (·.2) = crowdedSegments.messages := by
  rw [crowdedArrivals, List.map_map]
  exact List.map_id _

/-- The object in the first message is reported to the other station. -/
theorem crowdedArrivals_report_first :
    (crowdedService.run (deliveries (.ofMillis 300) crowdedArrivals :
      List (Call (Option Nat)))).remote.Reports 1 8 (.ofMillis 300) := by
  have located : Encoding.IsLocated crowdedRoad.own := by
    decide +kernel
  have sent : (crowdedService.trigger (.limited .unavailable) none
      ⟨fun _ => .ofMillis 250, 0.5⟩ crowdedRoad (.ofMillis 250)).sent = crowdedSegments.messages :=
    crowdedCycle_sent.2
  refine (segments_reports_iff located (rfl : crowdedService.facilities.codec = .fixedLayout)
    (by decide) (fun _ _ absent => absurd absent List.not_mem_nil) 2 crowdedArrivals
    (List.forall_mem_map.mpr fun _ _ => rfl) (map_snd_crowdedArrivals.trans sent.symm) 8).mpr ?_
  rw [sent]
  decide +kernel

/-- The object in the second message is not, although the message was sent and accepted. -/
theorem crowdedArrivals_lose_second :
    create crowdedSettings throttledFacilities .zero = .ok crowdedService ∧
      crowdedCycle.outcome = .ok ⟨true, 2, 2, 3, 2, true⟩ ∧
      crowdedCycle.sent = crowdedArrivals.map (·.2) ∧
      Encoding.IsLocated crowdedRoad.own ∧
      crowdedService.facilities.codec = .fixedLayout ∧
      (∀ station, (crowdedService.remote.knowledge station).historyOf 1 = []) ∧
      (∃ message ∈ crowdedCycle.sent, ∃ record ∈ message.objects,
        record.object = 7 ∧ record.object ≠ distantRoad.own.station) ∧
      ¬(crowdedService.run (deliveries (.ofMillis 300) crowdedArrivals :
        List (Call (Option Nat)))).remote.Reports 1 7 (.ofMillis 300) := by
  obtain ⟨ended, sent⟩ := crowdedCycle_sent
  rw [sent, map_snd_crowdedArrivals]
  exact ⟨create_crowdedService, ended, rfl, by decide +kernel, rfl, fun _ => rfl,
    by decide +kernel, by decide +kernel⟩

end Service

end CollectivePerception
