/-
This file proves that what a service holds as reported is what it has reported. After a
cycle the tracked objects are exactly the sensed ones that are alive, and a tracked object
has the state in which it was last handed to the channel, at the time of that cycle,
provided that no cycle since has missed it. Cycles that end early, say nothing or fail leave
no trace, and neither do objects whose segment was dropped. An object that a cycle misses
starts anew, and so does an object that takes the place of another one.

What one call does is `after_lastReported_iff`; a run follows by induction on its calls,
because `Since` takes one step with every call.
-/

import CollectivePerception.Proofs.Scene.Reuse
import CollectivePerception.Proofs.Segmentation.Conservation
import CollectivePerception.Proofs.Selection.Candidates
import CollectivePerception.Proofs.Service.Creation
import CollectivePerception.Proofs.Service.Failure
import CollectivePerception.Proofs.Service.Run
import CollectivePerception.Proofs.Service.Spacing

namespace CollectivePerception

variable {Channel : Type}

/-! ### Reports in a history -/

/-- The event is a cycle that ended well and handed the object's own record to the channel,
and the motion is the object's motion in that cycle. -/
inductive Event.Reports (handle : Handle) : Event Channel → Motion → Prop
  | cycle {service : Service} {transport : Transport Channel} {channel : Channel}
      {conditions : ChannelConditions} {surroundings : Surroundings} {now : Instant}
      {report : CycleReport} {segmentation : Segmentation Handle} {record : PerceivedObject}
      {object : SceneObject}
      (ended : (service.trigger transport channel conditions surroundings now).outcome =
        .ok report)
      (assembled : (service.synchronized surroundings now).assembled conditions surroundings now =
        .ok segmentation)
      (handed : (service.trigger transport channel conditions surroundings now).sent =
        segmentation.messages)
      (inside : (handle, record) ∈ segmentation.reported)
      (own : (service.synchronized surroundings now).record? surroundings handle =
        some (handle, record))
      (present : surroundings.scene handle = some object) :
      Reports handle ⟨service, .trigger transport channel conditions surroundings now⟩
        (object.motion now)

/-- The event does not miss the object: if it is a cycle, then the object is alive in it and
a sensor of the tracked category sees it. -/
def Event.Keeps (handle : Handle) (event : Event Channel) : Prop :=
  match event.call with
  | .indicate _ _ _ => True
  | .trigger _ _ _ surroundings _ =>
    surroundings.scene.isAlive handle = true ∧
      surroundings.environment.Sees event.service.settings.trackedCategory handle

namespace Service

/-! ### The tracked objects of a cycle -/

theorem handles_synchronized (service : Service) (surroundings : Surroundings) (now : Instant) :
    (service.synchronized surroundings now).tracking.handles =
      (surroundings.environment.handlesSeenBy service.settings.trackedCategory).filter
        surroundings.scene.isAlive := by
  show (service.tracking.synchronize _ surroundings.scene).1.handles = _
  rw [LocalTracking.handles_synchronize, Environment.ascents_handlesSeenBy]

section

variable {service : Service} {transport : Transport Channel} {channel : Channel}
  {conditions : ChannelConditions} {surroundings : Surroundings} {now : Instant}
  {handle : Handle}

theorem mem_handles_synchronized_iff :
    handle ∈ (service.synchronized surroundings now).tracking.handles ↔
      Event.Keeps handle
        ⟨service, .trigger transport channel conditions surroundings now⟩ := by
  rw [handles_synchronized, List.mem_filter, Environment.mem_handlesSeenBy_iff]
  exact And.comm

/-- The first step of a cycle forgets the states of the objects that the cycle misses. -/
theorem lastReported_synchronized_iff {motion : Motion} :
    (service.synchronized surroundings now).tracking.lastReported handle = some motion ↔
      Event.Keeps handle ⟨service, .trigger transport channel conditions surroundings now⟩ ∧
        service.tracking.lastReported handle = some motion := by
  rw [← mem_handles_synchronized_iff]
  show (service.tracking.synchronize _ surroundings.scene).1.lastReported handle = _ ↔ _
  rw [LocalTracking.lastReported_synchronize]
  split
  · rename_i tracked
    exact ⟨fun same => ⟨tracked, same⟩, And.right⟩
  · rename_i missed
    exact ⟨nofun, fun kept => absurd kept.1 missed⟩

end

/-! ### Noting what was sent -/

theorem handles_noteReported (surroundings : Surroundings) (now : Instant)
    (tracking : LocalTracking) (handle : Handle) :
    (noteReported surroundings now tracking handle).handles = tracking.handles := by
  unfold noteReported
  split
  · exact LocalTracking.handles_report _ _ _
  · rfl

theorem handles_foldl_noteReported (surroundings : Surroundings) (now : Instant)
    (tracking : LocalTracking) (included : List Handle) :
    (included.foldl (noteReported surroundings now) tracking).handles = tracking.handles := by
  induction included generalizing tracking with
  | nil => rfl
  | cons handle later inductionHypothesis =>
    rw [List.foldl_cons, inductionHypothesis, handles_noteReported]

/-- Each of the noted objects has its present state, and the others what they had. -/
theorem lastReported_foldl_noteReported {surroundings : Surroundings} (now : Instant)
    {tracking : LocalTracking} {included : List Handle}
    (tracked : ∀ handle ∈ included,
      handle ∈ tracking.handles ∧ surroundings.scene.isAlive handle = true)
    (handle : Handle) :
    (included.foldl (noteReported surroundings now) tracking).lastReported handle =
      if handle ∈ included then (surroundings.scene handle).map (·.motion now)
      else tracking.lastReported handle := by
  induction included generalizing tracking with
  | nil => rfl
  | cons first later inductionHypothesis =>
    obtain ⟨⟨member, alive⟩, others⟩ := List.forall_mem_cons.mp tracked
    obtain ⟨object, present⟩ := Option.isSome_iff_exists.mp alive
    rw [List.foldl_cons, inductionHypothesis]
    · by_cases inside : handle ∈ later
      · rw [if_pos inside, if_pos (List.mem_cons_of_mem first inside)]
      · rw [if_neg inside, noteReported, present]
        dsimp only
        rw [LocalTracking.lastReported_report member]
        by_cases same : handle = first
        · rw [if_pos same, if_pos (List.mem_cons.mpr (.inl same)), same, present]
          rfl
        · rw [if_neg same, if_neg fun within => (List.mem_cons.mp within).elim same inside]
    · intro other within
      rw [handles_noteReported]
      exact others other within

section

variable {current : Service} {conditions : ChannelConditions} {surroundings : Surroundings}
  {now : Instant} {segmentation : Segmentation Handle}

/-- Each record of a cycle's messages is that of a tracked object which is alive. -/
theorem tracked_of_reported
    (assembled : current.assembled conditions surroundings now = .ok segmentation)
    {entry : Handle × PerceivedObject} (inside : entry ∈ segmentation.reported) :
    current.record? surroundings entry.1 = some entry ∧
      entry.1 ∈ current.tracking.handles ∧ surroundings.scene.isAlive entry.1 = true := by
  have accounted :=
    Segmentation.reported_append_discarded_perm rfl (packed_of_assembled assembled).1
  obtain ⟨candidate, own⟩ := mem_cycleRecords (accounted.subset (List.mem_append_left _ inside))
  exact ⟨own, mem_handles_of_candidates candidate⟩

theorem mem_included_iff
    (assembled : current.assembled conditions surroundings now = .ok segmentation)
    {handle : Handle} :
    handle ∈ segmentation.included ↔ ∃ record, (handle, record) ∈ segmentation.reported := by
  rw [(Segmentation.segment_reported rfl (packed_of_assembled assembled).1).1, List.mem_map]
  constructor
  · rintro ⟨entry, inside, rfl⟩
    exact ⟨entry.2, inside⟩
  · rintro ⟨record, inside⟩
    exact ⟨(handle, record), inside, rfl⟩

theorem lastReported_committed
    (assembled : current.assembled conditions surroundings now = .ok segmentation)
    (handle : Handle) :
    (current.committed surroundings now segmentation).tracking.lastReported handle =
      if handle ∈ segmentation.included then (surroundings.scene handle).map (·.motion now)
      else current.tracking.lastReported handle := by
  refine lastReported_foldl_noteReported now (fun other member => ?_) handle
  obtain ⟨record, inside⟩ := (mem_included_iff assembled).mp member
  exact (tracked_of_reported assembled inside).2

end

/-! ### One call -/

section

variable {service : Service} {transport : Transport Channel} {channel : Channel}
  {conditions : ChannelConditions} {surroundings : Surroundings} {now : Instant}

/-- A cycle that sends reports what its messages include, in its present state. -/
theorem reports_iff_of_sent {report : CycleReport} {segmentation : Segmentation Handle}
    (ended : (service.trigger transport channel conditions surroundings now).outcome = .ok report)
    (assembled : (service.synchronized surroundings now).assembled conditions surroundings now =
      .ok segmentation)
    (handed : (service.trigger transport channel conditions surroundings now).sent =
      segmentation.messages)
    (handle : Handle) (motion : Motion) :
    Event.Reports handle ⟨service, .trigger transport channel conditions surroundings now⟩
        motion ↔
      handle ∈ segmentation.included ∧
        (surroundings.scene handle).map (·.motion now) = some motion := by
  constructor
  · intro reports
    cases reports with
    | cycle _ again _ inside own present =>
      cases assembled.symm.trans again
      refine ⟨(mem_included_iff assembled).mpr ⟨_, inside⟩, ?_⟩
      rw [present, Option.map_some]
  · rintro ⟨member, same⟩
    obtain ⟨object, present, rfl⟩ := Option.map_eq_some_iff.mp same
    obtain ⟨record, inside⟩ := (mem_included_iff assembled).mp member
    exact .cycle ended assembled handed inside (tracked_of_reported assembled inside).1 present

/-- A cycle that hands over nothing reports nothing. -/
theorem not_reports_of_sent_eq_nil {handle : Handle} {motion : Motion}
    (nothing : (service.trigger transport channel conditions surroundings now).sent = []) :
    ¬Event.Reports handle ⟨service, .trigger transport channel conditions surroundings now⟩
      motion := by
  intro reports
  cases reports with
  | cycle _ assembled handed _ _ _ =>
    exact messages_ne_nil_of_assembled assembled (handed.symm.trans nothing)

theorem not_reports_of_error {failure : ServiceError} {handle : Handle} {motion : Motion}
    (failed : (service.trigger transport channel conditions surroundings now).outcome =
      .error failure) :
    ¬Event.Reports handle ⟨service, .trigger transport channel conditions surroundings now⟩
      motion := by
  intro reports
  cases reports with
  | cycle ended _ _ _ _ _ => cases failed.symm.trans ended

end

/-- What is reported is not missed. -/
theorem keeps_of_reports {event : Event Channel} {handle : Handle} {motion : Motion}
    (reports : event.Reports handle motion) : event.Keeps handle := by
  cases reports with
  | cycle _ assembled _ inside _ _ =>
    exact mem_handles_synchronized_iff.mp (tracked_of_reported assembled inside).2.1

/-- After a call an object counts as reported in a state exactly if the call has reported it
in that state, or has neither reported nor missed it and it counted as reported in that
state before. -/
theorem after_lastReported_iff (event : Event Channel) (handle : Handle) (motion : Motion) :
    (event.service.after event.call).tracking.lastReported handle = some motion ↔
      event.Reports handle motion ∨
        (event.Keeps handle ∧ ∀ other, ¬event.Reports handle other) ∧
          event.service.tracking.lastReported handle = some motion := by
  have unreported (silent : ∀ other, ¬event.Reports handle other)
      (kept : (event.service.after event.call).tracking.lastReported handle = some motion ↔
        event.Keeps handle ∧ event.service.tracking.lastReported handle = some motion) :
      (event.service.after event.call).tracking.lastReported handle = some motion ↔
        event.Reports handle motion ∨
          (event.Keeps handle ∧ ∀ other, ¬event.Reports handle other) ∧
            event.service.tracking.lastReported handle = some motion := by
    rw [kept]
    constructor
    · exact fun ⟨keeps, same⟩ => .inr ⟨⟨keeps, silent⟩, same⟩
    · rintro (reports | ⟨⟨keeps, _⟩, same⟩)
      · exact absurd reports (silent motion)
      · exact ⟨keeps, same⟩
  obtain ⟨service, call⟩ := event
  cases call with
  | indicate surroundings now message =>
    obtain ⟨remote, left⟩ := service.indicate_eq surroundings now message
    refine unreported (fun _ reports => nomatch reports) ?_
    show (service.indicate surroundings now message).service.tracking.lastReported handle = _ ↔ _
    rw [left]
    exact ⟨fun same => ⟨trivial, same⟩, And.right⟩
  | trigger transport channel conditions surroundings now =>
    have course := service.trigger_course transport channel conditions surroundings now
    dsimp only [after] at unreported ⊢
    cases ended : (service.trigger transport channel conditions surroundings now).outcome with
    | error failure =>
      refine unreported (fun _ => not_reports_of_error ended) ?_
      rw [course.service_eq_of_error ended]
      exact lastReported_synchronized_iff
    | ok report =>
      rcases course.ok_cases ended with
        ⟨_, _, nothing, left⟩ | ⟨_, _, segmentation, assembled, rfl, handed, left⟩
      · refine unreported (fun _ => not_reports_of_sent_eq_nil nothing) ?_
        rw [left]
        exact lastReported_synchronized_iff
      · have reports_iff := reports_iff_of_sent ended assembled handed handle
        have noted := lastReported_committed assembled handle
        by_cases member : handle ∈ segmentation.included
        · obtain ⟨record, inside⟩ := (mem_included_iff assembled).mp member
          obtain ⟨object, present⟩ :=
            Option.isSome_iff_exists.mp (tracked_of_reported assembled inside).2.2
          have reported : (surroundings.scene handle).map (·.motion now) =
              some (object.motion now) := by
            rw [present, Option.map_some]
          rw [left, noted, if_pos member, reports_iff]
          constructor
          · exact fun same => .inl ⟨member, same⟩
          · rintro (⟨_, same⟩ | ⟨⟨_, silent⟩, _⟩)
            · exact same
            · exact absurd ((reports_iff _).mpr ⟨member, reported⟩) (silent _)
        · refine unreported (fun other reports => member ((reports_iff other).mp reports).1) ?_
          rw [left, noted, if_neg member]
          exact lastReported_synchronized_iff

/-- A cycle on a service that is up to date changes which objects are tracked no further. -/
theorem Course.handles_eq {current : Service} {transport : Transport Channel} {channel : Channel}
    {conditions : ChannelConditions} {surroundings : Surroundings} {now : Instant}
    {cycle : Cycle Channel}
    (course : Course current transport channel conditions surroundings now cycle) :
    cycle.service.tracking.handles = current.tracking.handles := by
  cases course with
  | sent _ _ _ _ => exact handles_foldl_noteReported surroundings now _ _
  | _ => rfl

/-! ### Whole runs -/

/-- An object counts as reported in the state of its last report, if no cycle since then has
missed it. -/
theorem run_lastReported_iff {service : Service} {handle : Handle}
    (unreported : service.tracking.lastReported handle = none) (calls : List (Call Channel))
    (motion : Motion) :
    (service.run calls).tracking.lastReported handle = some motion ↔
      Since (fun event => event.Reports handle motion)
        (fun event => event.Keeps handle ∧ ∀ other, ¬event.Reports handle other)
        (service.history calls) := by
  induction calls using List.reverseRecOn with
  | nil =>
    show service.tracking.lastReported handle = some motion ↔ _
    rw [unreported]
    exact ⟨nofun, fun since => absurd since not_since_nil⟩
  | append_singleton before call inductionHypothesis =>
    rw [run_concat, history_concat, since_concat, ← inductionHypothesis]
    exact after_lastReported_iff ⟨service.run before, call⟩ handle motion

/-- An object counts as reported if it has been reported and no cycle since has missed it. -/
theorem run_isSome_lastReported_iff {service : Service} {handle : Handle}
    (unreported : service.tracking.lastReported handle = none) (calls : List (Call Channel)) :
    ((service.run calls).tracking.lastReported handle).isSome = true ↔
      Since (fun event => ∃ motion, event.Reports handle motion)
        (fun event => event.Keeps handle) (service.history calls) := by
  induction calls using List.reverseRecOn with
  | nil =>
    show (service.tracking.lastReported handle).isSome = true ↔ _
    rw [unreported]
    exact ⟨nofun, fun since => absurd since not_since_nil⟩
  | append_singleton before call inductionHypothesis =>
    rw [run_concat, history_concat, since_concat, ← inductionHypothesis,
      Option.isSome_iff_exists, Option.isSome_iff_exists]
    have step := after_lastReported_iff ⟨service.run before, call⟩ handle
    constructor
    · rintro ⟨motion, same⟩
      rcases (step motion).mp same with reports | ⟨⟨kept, _⟩, earlier⟩
      · exact .inl ⟨motion, reports⟩
      · exact .inr ⟨kept, motion, earlier⟩
    · rintro (⟨motion, reports⟩ | ⟨kept, motion, earlier⟩)
      · exact ⟨motion, (step motion).mpr (.inl reports)⟩
      · -- A kept object has its new state if it was reported again, and else its old one.
        by_cases again : ∃ other, Event.Reports handle ⟨service.run before, call⟩ other
        · obtain ⟨other, reports⟩ := again
          exact ⟨other, (step other).mpr (.inl reports)⟩
        · exact ⟨motion, (step motion).mpr
            (.inr ⟨⟨kept, fun other reports => again ⟨other, reports⟩⟩, earlier⟩)⟩

/-- After a cycle of a run, the tracked objects are the sensed ones that are alive. -/
theorem handles_run_trigger {service : Service} {category : SensorCategory}
    (tracked : service.settings.trackedCategory = category) (calls : List (Call Channel))
    (transport : Transport Channel) (channel : Channel) (conditions : ChannelConditions)
    (surroundings : Surroundings) (now : Instant) :
    (service.run (calls ++
        [.trigger transport channel conditions surroundings now])).tracking.handles =
      (surroundings.environment.handlesSeenBy category).filter surroundings.scene.isAlive := by
  rw [run_concat, after, (trigger_course _ _ _ _ _ _).handles_eq, handles_synchronized,
    (service.run_revises calls).settings_eq, tracked]

/-- An object that a cycle has missed starts anew. -/
theorem run_lastReported_of_missed {service : Service} {handle : Handle}
    (unreported : service.tracking.lastReported handle = none) {calls : List (Call Channel)}
    {earlier later : List (Event Channel)} {gap : Event Channel}
    (apart : service.history calls = earlier ++ gap :: later) (missed : ¬gap.Keeps handle)
    (silent : ∀ event ∈ later, ∀ motion, ¬event.Reports handle motion) :
    (service.run calls).tracking.lastReported handle = none := by
  rw [← Option.not_isSome_iff_eq_none, run_isSome_lastReported_iff unreported, apart]
  exact not_since_of_gap (fun ⟨_, reports⟩ => missed (keeps_of_reports reports)) missed
    fun event member ⟨motion, reports⟩ => silent event member motion reports

/-- A cycle before an object was inserted misses it, unless its slot was used too often since. -/
theorem not_keeps_of_insert {service : Service} {transport : Transport Channel}
    {channel : Channel} {conditions : ChannelConditions} {surroundings : Surroundings}
    {now : Instant} {arena : Arena} (same : surroundings.scene = arena.resolve)
    {edits : List Arena.Edit} (few : edits.countP Arena.Edit.isInsertion + 1 < 4294967296)
    (object : SceneObject) :
    ¬Event.Keeps ((arena.editedBy edits).insert object).2
      ⟨service, .trigger transport channel conditions surroundings now⟩ := by
  intro kept
  have alive := kept.1
  rw [Scene.isAlive, same, arena.resolve_insert_eq_none edits object few] at alive
  cases alive

/-- In every run of a service that was created, the tracked objects after a cycle are the
sensed ones that are alive. An object counts as reported if it was reported and no cycle
since then has missed it, and then in the state of its last report. An object that a cycle
has missed starts anew, and so does an object that takes the slot of another one, unless the
slot was used `2 ^ 32` times since the last cycle before it. -/
theorem reports_mirror_history {settings : ServiceSettings} {facilities : Facilities}
    {start : Instant} {service : Service}
    (created : create settings facilities start = .ok service) (calls : List (Call Channel)) :
    (∀ transport channel conditions surroundings now,
      (service.run (calls ++
            [.trigger transport channel conditions surroundings now])).tracking.handles =
          (surroundings.environment.handlesSeenBy settings.trackedCategory).filter
            surroundings.scene.isAlive ∧
        ∀ handle,
          handle ∈ (service.run (calls ++
              [.trigger transport channel conditions surroundings now])).tracking.handles ↔
            surroundings.scene.isAlive handle = true ∧
              surroundings.environment.Sees settings.trackedCategory handle) ∧
      (∀ handle motion,
        (service.run calls).tracking.lastReported handle = some motion ↔
          Since (fun event => event.Reports handle motion)
            (fun event => event.Keeps handle ∧ ∀ other, ¬event.Reports handle other)
            (service.history calls)) ∧
      (∀ handle,
        ((service.run calls).tracking.lastReported handle).isSome = true ↔
          Since (fun event => ∃ motion, event.Reports handle motion)
            (fun event => event.Keeps handle) (service.history calls)) ∧
      (∀ handle earlier gap later,
        service.history calls = earlier ++ gap :: later →
          ¬gap.Keeps handle →
          (∀ event ∈ later, ∀ motion, ¬event.Reports handle motion) →
          (service.run calls).tracking.lastReported handle = none) ∧
      ∀ (arena : Arena) edits object earlier before transport channel conditions surroundings now
          later,
        service.history calls =
            earlier ++ ⟨before, .trigger transport channel conditions surroundings now⟩ :: later →
          surroundings.scene = arena.resolve →
          edits.countP Arena.Edit.isInsertion + 1 < 4294967296 →
          (∀ event ∈ later, ∀ motion,
            ¬event.Reports ((arena.editedBy edits).insert object).2 motion) →
          (service.run calls).tracking.lastReported ((arena.editedBy edits).insert object).2 =
            none := by
  obtain ⟨sameSettings, _, untracked, _⟩ := state_of_create created
  have unreported (handle : Handle) : service.tracking.lastReported handle = none := by
    rw [untracked]
    rfl
  refine ⟨fun transport channel conditions surroundings now => ?_,
    fun handle => run_lastReported_iff (unreported handle) calls,
    fun handle => run_isSome_lastReported_iff (unreported handle) calls,
    fun handle _ _ _ apart missed silent =>
      run_lastReported_of_missed (unreported handle) apart missed silent,
    fun arena edits object _ _ _ _ _ _ _ _ apart same few silent =>
      run_lastReported_of_missed (unreported _) apart (not_keeps_of_insert same few object) silent⟩
  have left := handles_run_trigger (congrArg ServiceSettings.trackedCategory sameSettings) calls
    transport channel conditions surroundings now
  refine ⟨left, fun handle => ?_⟩
  rw [left, List.mem_filter, Environment.mem_handlesSeenBy_iff]
  exact And.comm

/-- The surroundings with the object in a slot of a store. -/
def parkedObject : Surroundings :=
  { oneObject with scene := (Arena.empty.insert (.initial 7 .passengerCar)).1.resolve }

/-- The object of the first cycle still counts as reported after a second one that comes too
early. It starts anew after a cycle on the empty road, and an object that takes its slot was
never reported. -/
theorem throttledService_mirrors_history :
    (throttledService.run
          [throttledCycle parkedObject 250, throttledCycle parkedObject 400]).tracking.handles =
        [⟨0, 0⟩] ∧
      Since (fun event => ∃ motion, event.Reports ⟨0, 0⟩ motion)
        (fun event => event.Keeps ⟨0, 0⟩)
        (throttledService.history
          [throttledCycle parkedObject 250, throttledCycle parkedObject 400]) ∧
      (throttledService.run [throttledCycle parkedObject 250, throttledCycle emptyRoad 400,
          throttledCycle parkedObject 450]).tracking.lastReported ⟨0, 0⟩ = none ∧
      (throttledService.run [throttledCycle parkedObject 250]).tracking.lastReported
          (((Arena.empty.insert (.initial 7 .passengerCar)).1.editedBy
            [.remove ⟨0, 0⟩]).insert (.initial 8 .bus)).2 = none := by
  have reported : ((throttledService.run [throttledCycle parkedObject 250,
      throttledCycle parkedObject 400]).tracking.lastReported ⟨0, 0⟩).isSome = true := by
    decide +kernel
  have early : (((throttledService.run [throttledCycle parkedObject 250,
      throttledCycle emptyRoad 400]).trigger (.limited .unavailable) none
        ⟨fun _ => .ofMillis 250, 0.5⟩ parkedObject (.ofMillis 450)).sent) = [] := by
    decide +kernel
  obtain ⟨tracked, _, _, _⟩ := reports_mirror_history create_throttledService
    [throttledCycle parkedObject 250]
  obtain ⟨_, _, isSome_iff, _⟩ := reports_mirror_history create_throttledService
    [throttledCycle parkedObject 250, throttledCycle parkedObject 400]
  obtain ⟨_, _, _, restarts, _⟩ := reports_mirror_history create_throttledService
    [throttledCycle parkedObject 250, throttledCycle emptyRoad 400,
      throttledCycle parkedObject 450]
  obtain ⟨_, _, _, _, replaced⟩ := reports_mirror_history create_throttledService
    [throttledCycle parkedObject 250]
  have sensed : (parkedObject.environment.handlesSeenBy throttledSettings.trackedCategory).filter
      parkedObject.scene.isAlive = [⟨0, 0⟩] := by
    decide +kernel
  refine ⟨?_, (isSome_iff _).mp reported, ?_, ?_⟩
  · rw [← sensed]
    exact (tracked (.limited .unavailable) none ⟨fun _ => .ofMillis 250, 0.5⟩ parkedObject
      (.ofMillis 400)).1
  · refine restarts ⟨0, 0⟩ [_] _ [_] rfl (fun kept => nomatch kept.1) ?_
    rw [List.forall_mem_singleton]
    exact fun motion => not_reports_of_sent_eq_nil early
  · exact replaced (Arena.empty.insert (.initial 7 .passengerCar)).1 [.remove ⟨0, 0⟩]
      (.initial 8 .bus) [] throttledService (.limited .unavailable) none
      ⟨fun _ => .ofMillis 250, 0.5⟩ parkedObject (.ofMillis 250) [] rfl rfl (by decide)
      fun _ absent => absurd absent List.not_mem_nil

end Service

end CollectivePerception
