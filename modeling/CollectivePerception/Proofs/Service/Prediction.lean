/-
This file proves what causes the messages of a service with the dynamic rule when no
description of the sensors is due. The rule selects predicted objects only behind an object
that is due, so a message is sent only if such an object is selected. The redundant objects
are taken out afterwards, and the predicted ones stay behind if it is the due ones that are
redundant. So an object that is due is among those sent if one of them is not redundant and
no segment is lost, but not otherwise.
-/

import CollectivePerception.Proofs.Selection.Drift
import CollectivePerception.Proofs.Service.Failure
import CollectivePerception.Proofs.Service.Transmission

namespace CollectivePerception

variable {Channel : Type}

namespace Service

/-! ### Objects that are left -/

theorem mitigated_append (service : Service) (conditions : ChannelConditions)
    (surroundings : Surroundings) (now : Instant) (first second : List Handle) :
    service.mitigated conditions surroundings now (first ++ second) =
      service.mitigated conditions surroundings now first ++
        service.mitigated conditions surroundings now second := by
  unfold mitigated
  split
  · exact service.chain.filter_append _ _ _
  · rfl

/-- The redundancy rules of a service, if they apply, leave an object. -/
def Spares (service : Service) (conditions : ChannelConditions) (surroundings : Surroundings)
    (now : Instant) (handle : Handle) : Prop :=
  service.mitigates conditions = true →
    ∀ rule ∈ service.chain,
      rule.keeps (service.redundancyContext surroundings now) handle = true

instance (service : Service) (conditions : ChannelConditions) (surroundings : Surroundings)
    (now : Instant) (handle : Handle) :
    Decidable (service.Spares conditions surroundings now handle) :=
  inferInstanceAs (Decidable (_ → ∀ rule ∈ service.chain, _))

theorem mem_mitigated_iff {service : Service} {conditions : ChannelConditions}
    {surroundings : Surroundings} {now : Instant} {candidates : List Handle} {handle : Handle} :
    handle ∈ service.mitigated conditions surroundings now candidates ↔
      handle ∈ candidates ∧ service.Spares conditions surroundings now handle := by
  rw [mitigated, Spares]
  split
  · rename_i mitigates
    rw [RedundancyChain.mem_filter_iff]
    exact and_congr_right' ⟨fun kept _ => kept, fun spared => spared mitigates⟩
  · rename_i idle
    exact (and_iff_left fun mitigates => absurd mitigates idle).symm

/-! ### Objects that are due or predicted -/

/-- An object is due: it is tracked and alive, and either it was never reported, or its state
has drifted from the reported one. -/
def IsDue (service : Service) (thresholds : DriftThresholds) (surroundings : Surroundings)
    (now : Instant) (handle : Handle) : Prop :=
  handle ∈ service.tracking.handles ∧
    ∃ object ∈ surroundings.scene handle, ∀ reported ∈ service.tracking.lastReported handle,
      thresholds.exceeded (object.motion now) reported = true

instance (service : Service) (thresholds : DriftThresholds) (surroundings : Surroundings)
    (now : Instant) (handle : Handle) :
    Decidable (service.IsDue thresholds surroundings now handle) :=
  inferInstanceAs (Decidable (_ ∧ ∃ object ∈ _, ∀ reported ∈ _, _))

/-- An object is predicted: its state has not drifted from the reported one, but it will have
by the end of the prediction. -/
def IsPredicted (service : Service) (thresholds : DriftThresholds) (surroundings : Surroundings)
    (now : Instant) (horizon : Duration) (handle : Handle) : Prop :=
  horizon ≠ Duration.zero ∧
    ∃ object ∈ surroundings.scene handle, ∃ reported ∈ service.tracking.lastReported handle,
      thresholds.exceeded (object.motion now) reported = false ∧
        thresholds.exceeded ((object.motion now).predict horizon object.acceleration) reported =
          true

section

variable {service : Service} {thresholds : DriftThresholds} {surroundings : Surroundings}
  {now : Instant} {nextCycle : Duration} {handle : Handle}

theorem not_isDue_of_isPredicted {horizon : Duration}
    (predicted : service.IsPredicted thresholds surroundings now horizon handle) :
    ¬service.IsDue thresholds surroundings now handle := by
  rintro ⟨_, object, present, drifts⟩
  obtain ⟨_, _, found, reported, last, unchanged, _⟩ := predicted
  cases Option.mem_unique present found
  cases (drifts reported last).symm.trans unchanged

/-- An object is due when a service that has tracked nothing sees it. -/
theorem isDue_of_empty {object : SceneObject} (empty : service.tracking = .empty)
    (present : surroundings.scene handle = some object)
    (sees : surroundings.environment.Sees service.settings.trackedCategory handle) :
    (service.synchronized surroundings now).IsDue thresholds surroundings now handle := by
  have alive : surroundings.scene.isAlive handle = true := by
    rw [Scene.isAlive, present]
    rfl
  have unreported : (service.synchronized surroundings now).tracking.lastReported handle =
      none := by
    show (service.tracking.synchronize _ surroundings.scene).1.lastReported handle = none
    rw [LocalTracking.lastReported_synchronize, empty]
    exact ite_self none
  refine ⟨?_, object, present, fun reported last => ?_⟩
  · rw [handles_synchronized, List.mem_filter, Environment.mem_handlesSeenBy_iff]
    exact ⟨sees, alive⟩
  · cases unreported.symm.trans last

theorem mem_selectedFor_now_iff :
    handle ∈ (thresholds.judge nextCycle).selectedFor .now service.tracking surroundings.scene
        now ↔
      service.IsDue thresholds surroundings now handle :=
  Selection.Judge.mem_selectedFor_iff_justifies

theorem mem_selectedFor_predicted_iff :
    handle ∈ (thresholds.judge nextCycle).selectedFor .predicted service.tracking
        surroundings.scene now ↔
      service.IsPredicted thresholds surroundings now (thresholds.horizon nextCycle) handle := by
  rw [Selection.Judge.mem_selectedFor_iff, IsPredicted, LocalTracking.lastReported]
  cases tracked : service.tracking.objects.get? handle with
  | none => simp
  | some reported =>
    simp only [Option.some.injEq, exists_eq_left', Option.join_some]
    rw [Selection.Judge.reason?_eq_some_iff]
    constructor
    · rintro ⟨object, present, expected, given, drifts⟩
      obtain ⟨ahead, rfl⟩ := DriftThresholds.mem_expected_iff.mp given
      exact ⟨ahead, object, present, drifts⟩
    · rintro ⟨ahead, object, present, drifts⟩
      exact ⟨object, present, _, DriftThresholds.mem_expected_iff.mpr ⟨ahead, rfl⟩, drifts⟩

end

/-! ### The candidates of a cycle -/

section

variable {service : Service} {thresholds : DriftThresholds}
  (rule : service.rule = .dynamic thresholds) (conditions : ChannelConditions)
  (surroundings : Surroundings) (now : Instant)

include rule

theorem selection_of_dynamic :
    service.selection conditions surroundings now =
      (thresholds.judge (service.interval conditions)).select service.tracking
        surroundings.scene now := by
  rw [selection, rule]
  rfl

theorem force_of_dynamic : (service.selection conditions surroundings now).force = false := by
  obtain ⟨_, selected, _⟩ := (thresholds.judge (service.interval conditions)).exists_select_eq
    service.tracking surroundings.scene now
  rw [selection_of_dynamic rule, selected]

theorem mem_selection_iff {handle : Handle} :
    handle ∈ (service.selection conditions surroundings now).candidates ↔
      service.IsDue thresholds surroundings now handle ∨
        service.IsPredicted thresholds surroundings now
            (thresholds.horizon (service.interval conditions)) handle ∧
          ∃ other, service.IsDue thresholds surroundings now other := by
  rw [selection_of_dynamic rule]
  rcases Selection.Judge.select_cases (thresholds.judge (service.interval conditions))
    service.tracking surroundings.scene now with ⟨nothing, selected⟩ | ⟨something, selected⟩
  · have none (other : Handle) : ¬service.IsDue thresholds surroundings now other := by
      rw [← mem_selectedFor_now_iff, nothing]
      exact List.not_mem_nil
    rw [selected]
    exact iff_of_false List.not_mem_nil
      (not_or_intro (none handle) fun behind => none _ behind.2.choose_spec)
  · obtain ⟨first, member⟩ := List.exists_mem_of_ne_nil _ something
    rw [selected, List.mem_append, mem_selectedFor_now_iff, mem_selectedFor_predicted_iff]
    exact or_congr_right (and_iff_left ⟨first, mem_selectedFor_now_iff.mp member⟩).symm

/-- The candidates are the objects that are due and not redundant and, provided that any object
is due, the predicted ones that are not redundant. -/
theorem mem_candidates_iff {handle : Handle} :
    handle ∈ service.candidates conditions surroundings now ↔
      (service.IsDue thresholds surroundings now handle ∨
          service.IsPredicted thresholds surroundings now
              (thresholds.horizon (service.interval conditions)) handle ∧
            ∃ other, service.IsDue thresholds surroundings now other) ∧
        service.Spares conditions surroundings now handle := by
  rw [candidates, mem_mitigated_iff, mem_selection_iff rule]

/-- A service that has tracked nothing and has no redundancy rules has each object that it sees
as a candidate. -/
theorem mem_candidates_of_empty (unfiltered : service.chain = [])
    (empty : service.tracking = .empty) {handle : Handle} {object : SceneObject}
    (present : surroundings.scene handle = some object)
    (sees : surroundings.environment.Sees service.settings.trackedCategory handle) :
    handle ∈ (service.synchronized surroundings now).candidates conditions surroundings now := by
  have same : (service.synchronized surroundings now).rule = .dynamic thresholds := rule
  have chain : (service.synchronized surroundings now).chain = [] := unfiltered
  refine (mem_candidates_iff same conditions surroundings now).mpr
    ⟨.inl (isDue_of_empty empty present sees), fun _ => ?_⟩
  rw [chain]
  exact List.forall_mem_nil _

/-- The first candidate is due if an object that is due is not redundant. -/
theorem candidates_eq_cons {handle : Handle}
    (isDue : service.IsDue thresholds surroundings now handle)
    (spared : service.Spares conditions surroundings now handle) :
    ∃ first others, service.candidates conditions surroundings now = first :: others ∧
      service.IsDue thresholds surroundings now first := by
  let dueNow := (thresholds.judge (service.interval conditions)).selectedFor .now
    service.tracking surroundings.scene now
  have member : handle ∈ dueNow := mem_selectedFor_now_iff.mpr isDue
  rw [candidates, selection_of_dynamic rule]
  rcases Selection.Judge.select_cases (thresholds.judge (service.interval conditions))
    service.tracking surroundings.scene now with ⟨nothing, _⟩ | ⟨_, selected⟩
  · have none : dueNow = [] := nothing
    rw [none] at member
    cases member
  · have left := mem_mitigated_iff.mpr ⟨member, spared⟩
    rw [selected, mitigated_append]
    cases due : service.mitigated conditions surroundings now dueNow with
    | nil =>
      rw [due] at left
      cases left
    | cons first others =>
      have front : first ∈ first :: others := List.mem_cons_self
      rw [← due, mem_mitigated_iff] at front
      exact ⟨first, _, rfl, mem_selectedFor_now_iff.mp front.1⟩

/-- One of the records of a cycle is that of an object that is due exactly if one of these
objects is not redundant. -/
theorem exists_due_cycleRecord_iff :
    (∃ entry ∈ service.cycleRecords conditions surroundings now,
        service.IsDue thresholds surroundings now entry.1) ↔
      ∃ handle, service.IsDue thresholds surroundings now handle ∧
        service.Spares conditions surroundings now handle := by
  constructor
  · rintro ⟨entry, member, isDue⟩
    have candidate := (mem_cycleRecords member).1
    exact ⟨entry.1, isDue, ((mem_candidates_iff rule conditions surroundings now).mp candidate).2⟩
  · rintro ⟨handle, isDue, spared⟩
    -- The objects that are due stand in front, so the limit of the format leaves the first.
    obtain ⟨first, others, candidates, firstDue⟩ :=
      candidates_eq_cons rule conditions surroundings now isDue spared
    obtain ⟨entry, recorded⟩ : ∃ entry, service.record? surroundings first = some entry := by
      rw [← Option.isSome_iff_exists, record?_isSome]
      exact (mem_handles_of_candidates (candidates ▸ List.mem_cons_self)).2
    refine ⟨entry, List.mem_filterMap.mpr ⟨first, ?_, recorded⟩, ?_⟩
    · rw [candidates]
      exact List.mem_cons_self
    · rw [fst_of_record? recorded]
      exact firstDue

end

/-! ### What causes the messages -/

/-- The objects that a cycle sends are those of its first reported records, and of all of them
if the cycle ends well. -/
theorem Course.exists_sent_records {current : Service} {transport : Transport Channel}
    {channel : Channel} {conditions : ChannelConditions} {surroundings : Surroundings}
    {now : Instant} {cycle : Cycle Channel}
    (course : Course current transport channel conditions surroundings now cycle)
    (sends : cycle.sent ≠ []) :
    current.isSilent conditions surroundings now = false ∧
      ∃ segmentation sent later,
        current.assembled conditions surroundings now = .ok segmentation ∧
          segmentation.reported = sent ++ later ∧
          cycle.sent.flatMap (·.objects) = sent.map (·.2) ∧
          (cycle.outcome.isOk = true → later = []) := by
  cases course with
  | early _ => exact absurd rfl sends
  | silent _ _ => exact absurd rfl sends
  | unassembled _ _ _ => exact absurd rfl sends
  | refused _ something assembled apart _ _ =>
    have objects := (Segmentation.segment_reported rfl (packed_of_assembled assembled).1).2
    rw [apart, List.flatMap_append] at objects
    obtain ⟨sent, later, split, front, _⟩ := List.append_eq_map_iff.mp objects
    exact ⟨something, _, sent, later, assembled, split, front.symm, nofun⟩
  | sent _ something assembled _ =>
    exact ⟨something, _, _, [], assembled, (List.append_nil _).symm,
      (Segmentation.segment_reported rfl (packed_of_assembled assembled).1).2, fun _ => rfl⟩

/-- A cycle with the dynamic rule that sends without a description of the sensors to give has
an object that is due, and all objects that it sends are due or predicted. If it sends all
its records, an object that is due is among them exactly if one of these objects is not
redundant. -/
theorem sending_needs_due_object {service : Service} {thresholds : DriftThresholds}
    (rule : service.rule = .dynamic thresholds) (transport : Transport Channel)
    (channel : Channel) (conditions : ChannelConditions) (surroundings : Surroundings)
    (now : Instant)
    (described : (service.synchronized surroundings now).describesSensors now = false)
    (sends : (service.trigger transport channel conditions surroundings now).sent ≠ []) :
    let current := service.synchronized surroundings now
    let cycle := service.trigger transport channel conditions surroundings now
    (∃ handle, current.IsDue thresholds surroundings now handle) ∧
      ∃ sent : List (Handle × PerceivedObject),
        cycle.sent.flatMap (·.objects) = sent.map (·.2) ∧
          (∀ entry ∈ sent, current.record? surroundings entry.1 = some entry ∧
            (current.IsDue thresholds surroundings now entry.1 ∨
              current.IsPredicted thresholds surroundings now
                (thresholds.horizon (current.interval conditions)) entry.1)) ∧
          (cycle.outcome.isOk = true →
            current.droppedRecords conditions surroundings now = [] →
            ((∃ entry ∈ sent, current.IsDue thresholds surroundings now entry.1) ↔
              ∃ handle, current.IsDue thresholds surroundings now handle ∧
                current.Spares conditions surroundings now handle)) := by
  intro current cycle
  have dynamic : current.rule = .dynamic thresholds := rule
  have course := service.trigger_course transport channel conditions surroundings now
  obtain ⟨something, segmentation, sent, later, assembled, apart, objects, complete⟩ :=
    course.exists_sent_records sends
  have accounted := reported_append_dropped_perm assembled
  refine ⟨?_, sent, objects, fun entry member => ?_, fun ended lossless => ?_⟩
  · have force : (current.selection conditions surroundings now).force = false :=
      force_of_dynamic dynamic conditions surroundings now
    rcases isSilent_eq_false_iff.mp something with candidates | forced | describes
    · obtain ⟨handle, candidate⟩ := List.exists_mem_of_ne_nil _ candidates
      exact ((mem_candidates_iff dynamic conditions surroundings now).mp candidate).1.elim
        (fun isDue => ⟨handle, isDue⟩) And.right
    · cases force.symm.trans forced
    · cases described.symm.trans describes
  · obtain ⟨candidate, recorded⟩ := mem_cycleRecords (accounted.subset
      (List.mem_append_left _ (apart ▸ List.mem_append_left _ member)))
    have selected := ((mem_candidates_iff dynamic conditions surroundings now).mp candidate).1
    exact ⟨recorded, selected.imp_right And.left⟩
  · rw [← exists_due_cycleRecord_iff dynamic conditions surroundings now]
    rw [apart, complete ended, lossless, List.append_nil, List.append_nil] at accounted
    exact exists_congr fun entry => and_congr_left' accounted.mem_iff

/-- Settings under which an object is predicted to be due if its report will be older than a
second in a second, and objects that announce themselves are redundant. -/
def predictiveSettings : ServiceSettings :=
  { ServiceSettings.standard with
    selection := .dynamic { DriftSettings.standard with predictionIntervalMillis := 1000 }
    redundancy := [.selfAnnouncement] }

def predictiveThresholds : DriftThresholds :=
  { DriftThresholds.standard with predictionInterval := .ofMillis 1000 }

/-- The service with these settings, created at the origin of time. -/
def predictiveService : Service where
  settings := predictiveSettings
  facilities := .standard
  rule := .dynamic predictiveThresholds
  chain := [.selfAnnouncement]
  clock := ⟨0⟩
  tracking := .empty
  remote := .empty
  lastSent := .zero
  lastDescribed := .ofMillis (-1000)

theorem create_predictiveService :
    create predictiveSettings .standard .zero = .ok predictiveService := rfl

def carAndBus (car bus : Point) (awareness : AwarenessStore) : Surroundings where
  scene :=
    ((Arena.empty.insert { SceneObject.initial 7 .passengerCar with position := car }).1.insert
      { SceneObject.initial 8 .bus with position := bus }).1.resolve
  environment := (Environment.empty.record ⟨0, 0⟩ 1 .radar .zero).record ⟨1, 0⟩ 1 .radar .zero
  awareness := awareness
  own := .initial 1 .passengerCar

/-- The service after a first cycle, in which it has reported both. -/
def afterFirstCycle : Service :=
  predictiveService.run
    [(.trigger (.limited .unavailable) none quiet (carAndBus .origin .origin .empty)
      (.ofMillis 100) : Call (Option Nat))]

theorem afterFirstCycle_rule : afterFirstCycle.rule = .dynamic predictiveThresholds :=
  (predictiveService.run_revises _).rule_eq

/-- Both have moved since. -/
def drivenRoad : Surroundings := carAndBus ⟨10.0, 0.0⟩ ⟨0.0, 10.0⟩ .empty

/-- When both have moved and none has announced itself, the second cycle sends objects, and one
that is due is among them. -/
theorem afterFirstCycle_sends_due :
    let current := afterFirstCycle.synchronized drivenRoad (.ofMillis 200)
    let cycle := afterFirstCycle.trigger (.limited .unavailable) none quiet drivenRoad
      (.ofMillis 200)
    current.describesSensors (.ofMillis 200) = false ∧
      ∃ sent : List (Handle × PerceivedObject),
        cycle.sent.flatMap (·.objects) = sent.map (·.2) ∧
          ∃ entry ∈ sent,
            current.IsDue predictiveThresholds drivenRoad (.ofMillis 200) entry.1 := by
  intro current cycle
  have described : current.describesSensors (.ofMillis 200) = false := by
    decide +kernel
  have sends : cycle.sent ≠ [] := by
    decide +kernel
  have ended : cycle.outcome.isOk = true := by
    decide +kernel
  have lossless : current.droppedRecords quiet drivenRoad (.ofMillis 200) = [] := by
    decide +kernel
  obtain ⟨_, sent, objects, _, due_iff⟩ := sending_needs_due_object
    afterFirstCycle_rule (.limited .unavailable) none quiet drivenRoad (.ofMillis 200) described
    sends
  refine ⟨described, sent, objects, (due_iff ended lossless).mpr ⟨⟨0, 0⟩, ?_, ?_⟩⟩
  · decide +kernel
  · decide +kernel

/-! ### A prediction alone -/

/-- The car has moved and has announced itself, and the bus has not moved. -/
def announcedRoad : Surroundings :=
  carAndBus ⟨10.0, 0.0⟩ .origin
    (AwarenessStore.empty.update ⟨7, .ofMillis 150, ⟨10.0, 0.0⟩, 0.0⟩)

theorem announcedRoad_bus_predicted :
    let current := afterFirstCycle.synchronized announcedRoad (.ofMillis 200)
    current.IsPredicted predictiveThresholds announcedRoad (.ofMillis 200)
      (predictiveThresholds.horizon (current.interval quiet)) ⟨1, 0⟩ := by
  intro current
  have last : ∃ reported ∈ current.tracking.lastReported ⟨1, 0⟩,
      reported.time = .ofMillis 100 ∧
        predictiveThresholds.exceeded ((SceneObject.initial 8 .bus).motion (.ofMillis 200))
          reported = false := by
    decide +kernel
  obtain ⟨reported, last, earlier, unchanged⟩ := last
  refine ⟨by decide, .initial 8 .bus, rfl, reported, last, unchanged, ?_⟩
  refine DriftThresholds.exceeded_of_elapsed ?_
  rw [earlier]
  decide

/-- The car is due and redundant, and the bus, which is predicted, is the only candidate. -/
theorem announcedRoad_candidates :
    (afterFirstCycle.synchronized announcedRoad (.ofMillis 200)).candidates quiet announcedRoad
      (.ofMillis 200) = [⟨1, 0⟩] := by
  let current := afterFirstCycle.synchronized announcedRoad (.ofMillis 200)
  have dynamic : current.rule = .dynamic predictiveThresholds := afterFirstCycle_rule
  have tracked : current.tracking.handles = [⟨0, 0⟩, ⟨1, 0⟩] := by
    decide +kernel
  have due : current.IsDue predictiveThresholds announcedRoad (.ofMillis 200) ⟨0, 0⟩ := by
    decide +kernel
  have redundant : ¬current.Spares quiet announcedRoad (.ofMillis 200) ⟨0, 0⟩ := by
    decide +kernel
  have spared : current.Spares quiet announcedRoad (.ofMillis 200) ⟨1, 0⟩ := by
    decide +kernel
  refine List.perm_singleton.mp ((List.perm_ext_iff_of_nodup (candidates_nodup _ _ _ _)
    (List.nodup_singleton _)).mpr fun handle => ?_)
  rw [List.mem_singleton]
  constructor
  · intro candidate
    have known : handle ∈ current.tracking.handles := (mem_handles_of_candidates candidate).1
    rw [tracked, List.mem_pair] at known
    refine known.resolve_left ?_
    rintro rfl
    exact redundant ((mem_candidates_iff dynamic _ _ _).mp candidate).2
  · rintro rfl
    exact (mem_candidates_iff dynamic _ _ _).mpr
      ⟨.inr ⟨announcedRoad_bus_predicted, _, due⟩, spared⟩

/-- The second cycle sends the bus alone, which is not due. -/
theorem announcedRoad_sends_predicted :
    let current := afterFirstCycle.synchronized announcedRoad (.ofMillis 200)
    let cycle := afterFirstCycle.trigger (.limited .unavailable) none quiet announcedRoad
      (.ofMillis 200)
    create predictiveSettings .standard .zero = .ok predictiveService ∧
      current.describesSensors (.ofMillis 200) = false ∧
      cycle.outcome.isOk = true ∧
      (cycle.sent.flatMap (·.objects)).map (·.object) = [8] ∧
      current.candidates quiet announcedRoad (.ofMillis 200) = [⟨1, 0⟩] ∧
      (announcedRoad.scene ⟨1, 0⟩).map (·.station) = some 8 ∧
      ¬current.IsDue predictiveThresholds announcedRoad (.ofMillis 200) ⟨1, 0⟩ := by
  intro current cycle
  have candidates : current.candidates quiet announcedRoad (.ofMillis 200) = [⟨1, 0⟩] :=
    announcedRoad_candidates
  have due : ¬(Instant.ofMillis 200).elapsedSince current.lastSent < current.interval quiet := by
    decide +kernel
  have something : current.isSilent quiet announcedRoad (.ofMillis 200) = false := by
    rw [isSilent_eq_false_iff, candidates]
    exact .inl (List.cons_ne_nil _ _)
  have course : cycle = current.send (.limited .unavailable) none quiet announcedRoad
      (.ofMillis 200) [⟨1, 0⟩] (current.selectionReport quiet announcedRoad (.ofMillis 200))
      (current.selectionStatistics quiet announcedRoad (.ofMillis 200)) := by
    unfold cycle trigger
    rw [if_neg due, generate_eq, something, if_neg Bool.false_ne_true, candidates]
  rw [course]
  refine ⟨create_predictiveService, by decide +kernel, by decide +kernel, by decide +kernel,
    candidates, by decide +kernel, not_isDue_of_isPredicted announcedRoad_bus_predicted⟩

end Service

end CollectivePerception
