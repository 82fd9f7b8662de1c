/-
This file proves that regular traffic never fills the lists of reports. In regular traffic
the messages of one sender are a tenth of a second apart, and a message lists no object twice
and not its own sender. Then each report of a reception finds room in its list, whatever the
duplicates policy, so that it is added and no report that has not expired is given up for it
(`regularTraffic_fits`).

A message makes one report about each station that it lists and one about its sender, so it
lengthens the sender's lists by one at most (`Grown`). The reports in a list are therefore as
far apart as the messages of their reporter, after any run (`heard_run`), and once a reception
has forgotten the expired ones there is room for one more (`Heard.fits`).
-/

import CollectivePerception.Proofs.Remote.Room
import CollectivePerception.Proofs.Service.Picture

namespace CollectivePerception

open Remote (HasRoom HistoryEntry Knowledge Report Spaced Tracking)

/-! ### The reports of one message -/

/-- How a report relates to the one before it is no overflow. -/
theorem not_mem_updateStatistics (known : Knowledge) (previous : Option Report) (report : Report)
    (station : StationId) :
    .objectHistoryOverflow station ∉ updateStatistics known previous report ∧
      .senderHistoryOverflow station ∉ updateStatistics known previous report := by
  cases previous <;> simp [updateStatistics]

namespace ReceptionContext

variable (context : ReceptionContext)

/-- What is stored of each report of the message. -/
def entry : HistoryEntry := ⟨context.now, context.senderPosition⟩

/-- The sender's lists about some stations may have become longer by a report of the message,
and all other lists are as they were. -/
def Grown (stations : List StationId) (before after : Tracking) : Prop :=
  ∀ station source,
    (after.knowledge station).historyOf source = (before.knowledge station).historyOf source ∨
      source = context.sender ∧ station ∈ stations ∧
        (after.knowledge station).historyOf source =
          (before.knowledge station).historyOf source ++ [context.entry]

/-- There is room for a report of the message about a station. -/
def Fits (remote : Tracking) (station : StationId) : Prop :=
  HasRoom ((remote.knowledge station).historyOf context.sender) context.now

variable {context}

theorem grown_refl (stations : List StationId) (remote : Tracking) :
    context.Grown stations remote remote :=
  fun _ _ => .inl rfl

theorem Grown.fits {stations : List StationId} {before after : Tracking}
    (grown : context.Grown stations before after) {station : StationId}
    (absent : station ∉ stations) (fits : context.Fits before station) :
    context.Fits after station := by
  rcases grown station context.sender with same | ⟨_, among, _⟩
  · rw [Fits, same]
    exact fits
  · exact absurd among absent

theorem Grown.trans {early late : List StationId} {first second third : Tracking}
    (grown : context.Grown early first second) (later : context.Grown late second third)
    (apart : early.Disjoint late) : context.Grown (early ++ late) first third := by
  intro station source
  rcases later station source with same | ⟨sent, among, longer⟩
  · rw [same]
    exact (grown station source).imp_right fun ⟨sent, among, longer⟩ =>
      ⟨sent, List.mem_append_left late among, longer⟩
  · rcases grown station source with same | ⟨_, amongEarly, _⟩
    · rw [same] at longer
      exact .inr ⟨sent, List.mem_append_right early among, longer⟩
    · exact absurd among (apart amongEarly)

theorem Fits.snd_add {remote : Tracking} {station : StationId} (fits : context.Fits remote station)
    (report : Report) (arrives : report.received = context.now) :
    ((remote.knowledge station).add context.sender report context.policy).2 = .ok := by
  rw [Fits, ← arrives] at fits
  exact HasRoom.snd_add fits context.policy

theorem Fits.grown_noted {remote : Tracking} {station : StationId}
    (fits : context.Fits remote station) (report : Report) (stored : report.entry = context.entry)
    (policy : Remote.DuplicatePolicy) :
    context.Grown [station] remote (remote.noted station context.sender report policy) := by
  intro other source
  have arrives : report.received = context.now := congrArg HistoryEntry.received stored
  rw [Fits, ← arrives] at fits
  rw [HasRoom.historyOf_noted fits policy]
  split
  · rename_i same
    rw [stored]
    exact .inr ⟨same.2, List.mem_singleton.mpr same.1, rfl⟩
  · exact .inl rfl

theorem Fits.grown_afterObject {remote : Tracking} {record : PerceivedObject}
    (fits : context.Fits remote record.object) :
    context.Grown [record.object] remote (context.afterObject remote record) := by
  unfold afterObject
  split
  · exact grown_refl _ remote
  · exact fits.grown_noted (context.report record) rfl context.policy

/-- The objects of a message lengthen the sender's lists about them. -/
theorem grown_receiveObjects {remote : Tracking} {records : List PerceivedObject}
    (distinct : (records.map (·.object)).Nodup)
    (fits : ∀ record ∈ records, context.Fits remote record.object) :
    context.Grown (records.map (·.object)) remote (context.receiveObjects remote records).1 := by
  rw [remote_receiveObjects]
  induction records generalizing remote with
  | nil => exact grown_refl [] remote
  | cons record later inductionHypothesis =>
    obtain ⟨absent, rest⟩ := List.nodup_cons.mp distinct
    obtain ⟨first, others⟩ := List.forall_mem_cons.mp fits
    have grown := first.grown_afterObject
    refine grown.trans (inductionHypothesis rest fun other member => ?_)
      (List.singleton_disjoint.mpr absent)
    exact grown.fits (fun same => absent (List.mem_map.mpr ⟨other, member,
      List.mem_singleton.mp same⟩)) (others other member)

/-- What becomes of an object is decided by the picture that the objects before it leave. -/
theorem exists_of_mem_outcomes {remote : Tracking} {records : List PerceivedObject}
    {outcome : ObjectOutcome} (member : outcome ∈ (context.receiveObjects remote records).2) :
    ∃ before record later, records = before ++ record :: later ∧
      outcome = (context.receiveObject (context.receiveObjects remote before).1 record).2 := by
  induction records generalizing remote with
  | nil => cases member
  | cons record later inductionHypothesis =>
    rcases List.mem_cons.mp member with rfl | inside
    · exact ⟨[], record, later, rfl, rfl⟩
    · obtain ⟨before, other, after, rfl, same⟩ := inductionHypothesis inside
      exact ⟨record :: before, other, after, rfl, same⟩

/-- Each object of a message finds room after those before it. -/
theorem fits_receiveObjects {remote : Tracking} {before later : List PerceivedObject}
    {record : PerceivedObject}
    (distinct : ((before ++ record :: later).map (·.object)).Nodup)
    (fits : ∀ other ∈ before ++ record :: later, context.Fits remote other.object) :
    context.Fits (context.receiveObjects remote before).1 record.object := by
  rw [List.map_append, List.map_cons] at distinct
  obtain ⟨early, _, apart⟩ := List.nodup_append.mp distinct
  obtain ⟨fitsBefore, fitsLater⟩ := List.forall_mem_append.mp fits
  refine (grown_receiveObjects early fitsBefore).fits (fun among => ?_)
    (List.forall_mem_cons.mp fitsLater).1
  exact apart _ among _ List.mem_cons_self rfl

/-- An object that finds room is no overflow. -/
theorem Fits.not_mem_statistics {remote : Tracking} {record : PerceivedObject}
    (fits : context.Fits remote record.object) (station : StationId) :
    .objectHistoryOverflow station ∉ (context.receiveObject remote record).2.statistics := by
  rcases context.receiveObject_cases remote record with
    ⟨_, passed⟩ | ⟨_, ⟨_, dropped⟩ | ⟨_, stored⟩⟩
  · rw [passed]
    exact List.not_mem_nil
  · rw [dropped]
    simp [ObjectOutcome.statistics]
  · rw [stored, fits.snd_add (context.report record) rfl]
    simp [ObjectOutcome.statistics, objectStatistics, (not_mem_updateStatistics _ _ _ station).1]

theorem senderHistoryOverflow_not_mem_receiveObject (remote : Tracking) (record : PerceivedObject)
    (station : StationId) :
    .senderHistoryOverflow station ∉ (context.receiveObject remote record).2.statistics := by
  rcases context.receiveObject_cases remote record with
    ⟨_, passed⟩ | ⟨_, ⟨_, dropped⟩ | ⟨_, stored⟩⟩
  · rw [passed]
    exact List.not_mem_nil
  · rw [dropped]
    simp [ObjectOutcome.statistics]
  · rw [stored]
    simp only [ObjectOutcome.statistics, objectStatistics, List.mem_append, not_or]
    refine ⟨⟨⟨?_, by simp⟩, ?_⟩, (not_mem_updateStatistics _ _ _ station).2⟩ <;> split <;> simp

end ReceptionContext

/-! ### The reception -/

namespace Service

section

variable {current : Service} {context : ReceptionContext} {vehicle : VehicleData}
  {message : Message} (fits : ∀ station, context.Fits current.remote station)
  (distinct : (context.sender :: message.objects.map (·.object)).Nodup)

include fits

/-- The picture with the sender's report in it. -/
theorem set_eq_noted :
    current.remote.set context.sender
        ((current.remote.knowledge context.sender).add context.sender
          (senderReport context vehicle) context.policy).1 =
      current.remote.noted context.sender context.sender (senderReport context vehicle)
        context.policy := by
  rw [Tracking.noted_eq, if_neg fun drops => (fits context.sender).apart drops.1]

include distinct

/-- With the sender's report there is still room for one about each object. -/
theorem fits_noted (vehicle : VehicleData) :
    ∀ record ∈ message.objects,
      context.Fits (current.remote.noted context.sender context.sender
        (senderReport context vehicle) context.policy) record.object := by
  intro record member
  have grown := (fits context.sender).grown_noted (senderReport context vehicle) rfl
    context.policy
  refine grown.fits (fun same => ?_) (fits record.object)
  refine (List.nodup_cons.mp distinct).1 ?_
  rw [← List.mem_singleton.mp same]
  exact List.mem_map_of_mem member

/-- A message lengthens its sender's lists by at most one report each. -/
theorem grown_recordMessage :
    context.Grown (context.sender :: message.objects.map (·.object)) current.remote
      (current.recordMessage context vehicle message).service.remote := by
  rw [remote_recordMessage, if_neg fun drops => (fits context.sender).apart drops.1,
    ← context.remote_receiveObjects]
  obtain ⟨absent, rest⟩ := List.nodup_cons.mp distinct
  exact ((fits context.sender).grown_noted (senderReport context vehicle) rfl
    context.policy).trans
      (ReceptionContext.grown_receiveObjects rest (fits_noted fits distinct vehicle))
      (List.singleton_disjoint.mpr absent)

/-- Each object of a message finds room in the picture that the objects before it leave. -/
theorem fits_each {before later : List PerceivedObject} {record : PerceivedObject}
    (apart : message.objects = before ++ record :: later) :
    context.Fits (context.receiveObjects (current.remote.noted context.sender context.sender
      (senderReport context vehicle) context.policy) before).1 record.object := by
  have room := fits_noted fits distinct vehicle
  have objects := (List.nodup_cons.mp distinct).2
  rw [apart] at room objects
  exact ReceptionContext.fits_receiveObjects objects room

/-- A reception in which every report finds room counts no overflow. -/
theorem not_mem_statistics_recordMessage (station : StationId) :
    .senderHistoryOverflow station ∉
        (current.recordMessage context vehicle message).statistics ∧
      .objectHistoryOverflow station ∉
        (current.recordMessage context vehicle message).statistics := by
  have fitsSender := fits context.sender
  rcases current.recordMessage_cases context vehicle message with
    ⟨drops, _⟩ | ⟨_, _, recorded⟩
  · exact absurd drops.1 fitsSender.apart
  · rw [recorded, fitsSender.snd_add (senderReport context vehicle) rfl]
    simp only [List.mem_append, List.mem_flatMap, not_or, not_exists, not_and]
    refine ⟨⟨⟨?_, ?_⟩, fun outcome member => ?_⟩, ⟨⟨?_, ?_⟩, fun outcome member => ?_⟩⟩
    · simp [ReceptionContext.senderStatistics, (not_mem_updateStatistics _ _ _ station).2]
    · simp
    · obtain ⟨before, record, later, _, rfl⟩ :=
        ReceptionContext.exists_of_mem_outcomes member
      exact ReceptionContext.senderHistoryOverflow_not_mem_receiveObject _ record station
    · simp [ReceptionContext.senderStatistics, (not_mem_updateStatistics _ _ _ station).1]
    · simp
    · obtain ⟨before, record, later, apart, rfl⟩ :=
        ReceptionContext.exists_of_mem_outcomes member
      exact (fits_each fits distinct apart).not_mem_statistics station

end

end Service

/-! ### Regular traffic -/

/-- The message that a call receives. -/
def Call.message? {Channel : Type} : Call Channel → Option Message
  | .trigger _ _ _ _ _ => none
  | .indicate _ _ message => some message

/-- The messages of one sender are apart, and no message lists an object twice or its own
sender. -/
structure RegularTraffic {Channel : Type} (calls : List (Call Channel)) : Prop where
  apart : calls.Pairwise fun earlier later =>
    ∀ first ∈ earlier.message?, ∀ second ∈ later.message?, first.sender = second.sender →
      Remote.Apart earlier.now later.now
  distinct : ∀ call ∈ calls, ∀ message ∈ call.message?,
    (message.sender :: message.objects.map (·.object)).Nodup

theorem RegularTraffic.early {Channel : Type} {before later : List (Call Channel)}
    (regular : RegularTraffic (before ++ later)) : RegularTraffic before :=
  ⟨(List.pairwise_append.mp regular.apart).1, fun call member =>
    regular.distinct call (List.mem_append_left later member)⟩

namespace Service

variable {Channel : Type}

/-- Each report in the picture came with a message of its reporter, and those in a list are
apart. -/
structure Heard (calls : List (Call Channel)) (remote : Tracking) : Prop where
  spaced : ∀ station reporter, Spaced ((remote.knowledge station).historyOf reporter)
  heard : ∀ station reporter, ∀ entry ∈ (remote.knowledge station).historyOf reporter,
    ∃ call ∈ calls, call.now = entry.received ∧
      ∃ message ∈ call.message?, message.sender = reporter

theorem heard_empty : Heard ([] : List (Call Channel)) .empty where
  spaced _ _ := List.Pairwise.nil
  heard _ _ _ absent := absurd absent List.not_mem_nil

section

variable {calls : List (Call Channel)} {remote : Tracking} {call : Call Channel}

theorem Heard.concat (heard : Heard calls remote) : Heard (calls ++ [call]) remote where
  spaced := heard.spaced
  heard station reporter entry member := by
    obtain ⟨earlier, among, origin⟩ := heard.heard station reporter entry member
    exact ⟨earlier, List.mem_append_left [call] among, origin⟩

theorem Heard.synchronize (heard : Heard calls remote) (awareness : AwarenessStore)
    (now : Instant) : Heard calls (remote.synchronize awareness now).1 where
  spaced station reporter := by
    rw [Tracking.knowledge_synchronize, Knowledge.historyOf_renewed]
    exact (heard.spaced station reporter).sublist (List.dropWhile_sublist _)
  heard station reporter entry member := by
    rw [Tracking.knowledge_synchronize, Knowledge.historyOf_renewed] at member
    exact heard.heard station reporter entry ((List.dropWhile_sublist _).subset member)

/-- The reports of a sender are apart from its next message. -/
theorem Heard.apart (heard : Heard calls remote) (regular : RegularTraffic (calls ++ [call]))
    {message : Message} (receives : message ∈ call.message?) (station : StationId) :
    ∀ entry ∈ (remote.knowledge station).historyOf message.sender,
      Remote.Apart entry.received call.now := by
  intro entry member
  obtain ⟨earlier, among, arrived, other, sends, same⟩ :=
    heard.heard station message.sender entry member
  rw [← arrived]
  exact (List.pairwise_append.mp regular.apart).2.2 earlier among call List.mem_cons_self other
    sends message receives same

end

section

variable {calls : List (Call Channel)} {met : Service} {surroundings : Surroundings}
  {now : Instant} {message : Message} (heard : Heard calls met.remote)
  (regular : RegularTraffic (calls ++ [.indicate surroundings now message]))

include heard regular

/-- Once the expired reports are forgotten, there is room for those of a message. -/
theorem Heard.fits (parts : SenderParts) (station : StationId) :
    (met.receptionContext surroundings now message parts).Fits
      (met.remoteSynchronized surroundings now).remote station := by
  show HasRoom (((met.remote.synchronize surroundings.awareness now).1.knowledge
    station).historyOf message.sender) now
  rw [Tracking.knowledge_synchronize, Knowledge.historyOf_renewed]
  exact (heard.spaced station message.sender).hasRoom_dropWhile
    (heard.apart regular rfl station)

/-- A reception lengthens the sender's lists, and forgets what has expired. -/
theorem Heard.grown_indicate {parts : SenderParts}
    (found : message.senderParts met.facilities.codec = .ok parts) :
    (met.receptionContext surroundings now message parts).Grown
      (message.sender :: message.objects.map (·.object))
      (met.remote.synchronize surroundings.awareness now).1
      (met.indicate surroundings now message).service.remote := by
  unfold indicate
  rw [found]
  exact grown_recordMessage (heard.fits regular parts)
    (regular.distinct _ (List.mem_append_right calls List.mem_cons_self) message rfl)

theorem Heard.indicate :
    Heard (calls ++ [.indicate surroundings now message])
      (met.indicate surroundings now message).service.remote := by
  cases found : message.senderParts met.facilities.codec with
  | error cause =>
    rw [indicate_of_error found]
    exact heard.concat
  | ok parts =>
    have synchronized := heard.synchronize surroundings.awareness now
    have grown := heard.grown_indicate regular found
    constructor
    · intro station source
      rcases grown station source with same | ⟨sent, _, longer⟩
      · rw [same]
        exact synchronized.spaced station source
      · rw [longer]
        refine (synchronized.spaced station source).concat fun entry member => ?_
        rw [sent] at member
        exact synchronized.apart regular rfl station entry member
    · intro station source entry member
      rcases grown station source with same | ⟨sent, _, longer⟩
      · rw [same] at member
        exact synchronized.concat.heard station source entry member
      · rw [longer] at member
        rcases List.mem_append.mp member with before | last
        · exact synchronized.concat.heard station source entry before
        · rw [List.mem_singleton.mp last]
          exact ⟨_, List.mem_append_right calls List.mem_cons_self, rfl, message, rfl, sent.symm⟩

end

theorem Heard.after {calls : List (Call Channel)} {met : Service} {call : Call Channel}
    (heard : Heard calls met.remote) (regular : RegularTraffic (calls ++ [call])) :
    Heard (calls ++ [call]) (met.after call).remote := by
  cases call with
  | trigger transport channel conditions surroundings now =>
    rw [Service.after, remote_trigger]
    exact (heard.synchronize surroundings.awareness now).concat
  | indicate surroundings now message => exact heard.indicate regular

/-- After regular traffic, the reports of a reporter are as far apart as its messages. -/
theorem heard_run {service : Service} (unknown : service.remote = .empty)
    {calls : List (Call Channel)} (regular : RegularTraffic calls) :
    Heard calls (service.run calls).remote := by
  induction calls using List.reverseRecOn with
  | nil =>
    rw [run, List.foldl_nil, unknown]
    exact heard_empty
  | append_singleton before last inductionHypothesis =>
    rw [run_concat]
    exact (inductionHypothesis regular.early).after regular

/-- What a call of regular traffic meets. -/
theorem heard_of_mem_history {service : Service} (unknown : service.remote = .empty)
    {calls : List (Call Channel)} (regular : RegularTraffic calls) {event : Event Channel}
    (member : event ∈ service.history calls) :
    ∃ before, Heard before event.service.remote ∧ RegularTraffic (before ++ [event.call]) := by
  obtain ⟨before, later, rfl, meets⟩ := exists_of_mem_history member
  rw [List.append_cons] at regular
  refine ⟨before, ?_, regular.early⟩
  rw [meets]
  exact heard_run unknown regular.early.early

/-- A report that has not expired is kept by every call. -/
theorem Heard.mem_after {calls : List (Call Channel)} {met : Service} {call : Call Channel}
    (heard : Heard calls met.remote) (regular : RegularTraffic (calls ++ [call]))
    {station reporter : StationId} {entry : HistoryEntry}
    (member : entry ∈ (met.remote.knowledge station).historyOf reporter)
    (fresh : call.now < entry.received.after Remote.lifetime) :
    entry ∈ ((met.after call).remote.knowledge station).historyOf reporter := by
  have young : ¬entry.isExpired call.now = true := fun expired =>
    Int.not_le.mpr fresh (decide_eq_true_iff.mp expired)
  have left (awareness : AwarenessStore) :
      entry ∈ ((met.remote.synchronize awareness call.now).1.knowledge station).historyOf
        reporter := by
    rw [Tracking.knowledge_synchronize, Knowledge.historyOf_renewed]
    exact Remote.mem_dropWhile_of_not_isExpired member young
  cases call with
  | trigger transport channel conditions surroundings now =>
    rw [Service.after, remote_trigger]
    exact left surroundings.awareness
  | indicate surroundings now message =>
    cases found : message.senderParts met.facilities.codec with
    | error cause =>
      rw [Service.after, indicate_of_error found]
      exact member
    | ok parts =>
      rcases heard.grown_indicate regular found station reporter with same | ⟨_, _, longer⟩
      · rw [Service.after, same]
        exact left surroundings.awareness
      · rw [Service.after, longer]
        exact List.mem_append_left _ (left surroundings.awareness)

/-! ### No overflow -/

/-- In a run in which the messages of one sender are a tenth of a second apart and no message
lists an object twice or its own sender, each report that a reception makes, about the sender
and about any object but the receiver, is added under every policy, and none is given up for it.
So no overflow is counted, and a report is in its list until it expires. -/
theorem regularTraffic_fits {settings : ServiceSettings} {facilities : Facilities}
    {start : Instant} {service : Service}
    (created : create settings facilities start = .ok service) {calls : List (Call Channel)}
    (regular : RegularTraffic calls) :
    (∀ met surroundings now message parts,
        ⟨met, .indicate surroundings now message⟩ ∈ service.history calls →
          message.senderParts met.facilities.codec = .ok parts →
            let current := met.remoteSynchronized surroundings now
            let context := met.receptionContext surroundings now message parts
            let added := (current.remote.knowledge context.sender).add context.sender
              (senderReport context parts.vehicle) context.policy
            let noted := current.remote.set context.sender added.1
            added.2 = .ok ∧
              (∀ before record later, message.objects = before ++ record :: later →
                record.object ≠ surroundings.own.station →
                  (((context.receiveObjects noted before).1.knowledge record.object).add
                    context.sender (context.report record) context.policy).2 = .ok) ∧
              ∀ station,
                .senderHistoryOverflow station ∉
                    (met.indicate surroundings now message).statistics ∧
                  .objectHistoryOverflow station ∉
                    (met.indicate surroundings now message).statistics) ∧
      ∀ event ∈ service.history calls, ∀ station reporter,
        ∀ entry ∈ (event.service.remote.knowledge station).historyOf reporter,
          event.call.now < entry.received.after Remote.lifetime →
            entry ∈ ((event.service.after event.call).remote.knowledge station).historyOf
              reporter := by
  obtain ⟨_, _, _, unknown, _, _⟩ := state_of_create created
  refine ⟨fun met surroundings now message parts member found => ?_,
    fun event member station reporter entry inside fresh => ?_⟩
  · obtain ⟨before, heard, early⟩ := heard_of_mem_history unknown regular member
    have fits := heard.fits early parts
    have distinct := early.distinct _ (List.mem_append_right before List.mem_cons_self) message rfl
    refine ⟨(fits message.sender).snd_add _ rfl, fun earlier record later apart _ => ?_,
      fun station => ?_⟩
    · rw [set_eq_noted fits]
      exact (fits_each fits distinct apart).snd_add _ rfl
    · rw [indicate, found]
      exact not_mem_statistics_recordMessage fits distinct station
  · obtain ⟨before, heard, early⟩ := heard_of_mem_history unknown regular member
    exact heard.mem_after early inside fresh

/-- The same message every tenth of a second. -/
def steadyTraffic (count : Nat) : List (Call (Option Nat)) :=
  (List.range count).map fun number =>
    .indicate emptyRoad (.ofMillis (300 + 100 * number)) heardMessage

/-- After fourteen messages the list of the object that they report has eleven reports. The last
message is no overflow, and all reports before it that have not expired are kept. -/
theorem steadyTraffic_fits :
    ((throttledService.run (steadyTraffic 14)).remote.knowledge 7).storedCount = 11 ∧
      (∀ station, .objectHistoryOverflow station ∉
        ((throttledService.run (steadyTraffic 13)).indicate emptyRoad (.ofMillis 1600)
          heardMessage).statistics) ∧
      ∀ entry ∈ ((throttledService.run (steadyTraffic 13)).remote.knowledge 7).historyOf 1,
        Instant.ofMillis 1600 < entry.received.after Remote.lifetime →
          entry ∈ ((throttledService.run (steadyTraffic 14)).remote.knowledge 7).historyOf 1 := by
  have regular : RegularTraffic (steadyTraffic 14) := ⟨by decide +kernel, by decide +kernel⟩
  have last : steadyTraffic 14 =
      steadyTraffic 13 ++ [.indicate emptyRoad (.ofMillis 1600) heardMessage] := rfl
  have member : ⟨throttledService.run (steadyTraffic 13),
      .indicate emptyRoad (.ofMillis 1600) heardMessage⟩ ∈
        throttledService.history (steadyTraffic 14) := by
    rw [last, history_concat]
    exact List.mem_append_right _ List.mem_cons_self
  have ended : ((throttledService.run (steadyTraffic 13)).indicate emptyRoad (.ofMillis 1600)
      heardMessage).outcome = .ok ⟨1, .ok, 1, 0, false⟩ := by
    decide +kernel
  obtain ⟨parts, found, _⟩ := indicate_of_ok ended
  obtain ⟨receptions, kept⟩ := regularTraffic_fits create_throttledService regular
  obtain ⟨_, _, counted⟩ := receptions _ emptyRoad (.ofMillis 1600) heardMessage parts member found
  refine ⟨by decide +kernel, fun station => (counted station).2, fun entry inside fresh => ?_⟩
  have stays := kept _ member 7 1 entry
  dsimp only at stays
  rw [last, run_concat]
  exact stays inside fresh

end Service

end CollectivePerception
