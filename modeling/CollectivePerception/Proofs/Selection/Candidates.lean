/-
This file says what a service may report in a cycle. Whatever the rule, the objects that it
selects are tracked and alive, and none of them is selected twice: an object is selected
either now or because of a prediction, never for both reasons. Taking out redundant objects
adds none, so the same holds of the candidates of a cycle and of their records
(`Service.candidates_nodup`, `Service.mem_cycleRecords`).
-/

import CollectivePerception.Proofs.LocalTracking.Synchronization
import CollectivePerception.Proofs.Redundancy.Chain
import CollectivePerception.Proofs.Service.Cycle
import Mathlib.Data.List.Nodup

namespace CollectivePerception

namespace Selection

variable {tracking : LocalTracking} {scene : Scene} {now : Instant}

/-! ### The static rule -/

theorem mem_all_iff {handle : Handle} :
    handle ∈ (all tracking scene).candidates ↔
      handle ∈ tracking.handles ∧ scene.isAlive handle = true :=
  List.mem_filter

theorem all_nodup (tracking : LocalTracking) (scene : Scene) :
    (all tracking scene).candidates.Nodup :=
  (OrderedMap.keys_nodup tracking.objects).filter _

/-! ### The dynamic rule -/

theorem Judge.mem_selectedFor_iff {judge : Judge} {reason : Reason} {handle : Handle} :
    handle ∈ judge.selectedFor reason tracking scene now ↔
      ∃ reported, tracking.objects.get? handle = some reported ∧
        judge.reason? scene now (handle, reported) = some reason := by
  rw [selectedFor, List.mem_map]
  constructor
  · rintro ⟨entry, member, rfl⟩
    rw [List.mem_filter, beq_iff_eq] at member
    exact ⟨entry.2, OrderedMap.get?_eq_some_iff.mpr member.1, member.2⟩
  · rintro ⟨reported, found, reason⟩
    refine ⟨(handle, reported), List.mem_filter.mpr ⟨?_, beq_iff_eq.mpr reason⟩, rfl⟩
    exact OrderedMap.get?_eq_some_iff.mp found

theorem Judge.isAlive_of_reason? {judge : Judge} {tracked : Handle × Option Motion}
    {reason : Reason} (given : judge.reason? scene now tracked = some reason) :
    scene.isAlive tracked.1 = true := by
  rw [Scene.isAlive]
  cases found : scene tracked.1 with
  | none =>
    rw [reason?, found] at given
    cases given
  | some object => rfl

theorem Judge.selectedFor_nodup (judge : Judge) (reason : Reason) (tracking : LocalTracking)
    (scene : Scene) (now : Instant) : (judge.selectedFor reason tracking scene now).Nodup :=
  (OrderedMap.keys_nodup tracking.objects).sublist (List.filter_sublist.map _)

/-- No object is selected both now and because of a prediction. -/
theorem Judge.selectedFor_disjoint (judge : Judge) :
    (judge.selectedFor .now tracking scene now).Disjoint
      (judge.selectedFor .predicted tracking scene now) := by
  intro handle present predicted
  obtain ⟨_, found, drifted⟩ := mem_selectedFor_iff.mp present
  obtain ⟨_, again, expected⟩ := mem_selectedFor_iff.mp predicted
  cases found.symm.trans again
  cases drifted.symm.trans expected

theorem Judge.mem_handles_of_selectedFor {judge : Judge} {reason : Reason} {handle : Handle}
    (member : handle ∈ judge.selectedFor reason tracking scene now) :
    handle ∈ tracking.handles ∧ scene.isAlive handle = true := by
  obtain ⟨reported, found, given⟩ := mem_selectedFor_iff.mp member
  exact ⟨OrderedMap.mem_keys_iff.mpr ⟨reported, found⟩, isAlive_of_reason? given⟩

/-- What is selected is what is selected now, and possibly what is predicted. -/
theorem Judge.select_sublist (judge : Judge) (tracking : LocalTracking) (scene : Scene)
    (now : Instant) :
    (judge.select tracking scene now).candidates.Sublist
      (judge.selectedFor .now tracking scene now ++
        judge.selectedFor .predicted tracking scene now) := by
  unfold select
  split
  · exact List.nil_sublist _
  · rename_i selected
    rw [selected]

theorem Judge.select_nodup (judge : Judge) (tracking : LocalTracking) (scene : Scene)
    (now : Instant) : (judge.select tracking scene now).candidates.Nodup := by
  refine List.Nodup.sublist (judge.select_sublist tracking scene now) ?_
  exact (judge.selectedFor_nodup _ _ _ _).append (judge.selectedFor_nodup _ _ _ _)
    judge.selectedFor_disjoint

theorem Judge.mem_handles_of_select {judge : Judge} {handle : Handle}
    (member : handle ∈ (judge.select tracking scene now).candidates) :
    handle ∈ tracking.handles ∧ scene.isAlive handle = true := by
  rcases List.mem_append.mp ((judge.select_sublist tracking scene now).subset member) with
    present | predicted
  · exact mem_handles_of_selectedFor present
  · exact mem_handles_of_selectedFor predicted

end Selection

/-! ### All rules -/

namespace SelectionRule

theorem select_nodup (rule : SelectionRule) (tracking : LocalTracking) (scene : Scene)
    (now : Instant) (nextCycle : Duration) :
    (rule.select tracking scene now nextCycle).candidates.Nodup := by
  cases rule with
  | static => exact Selection.all_nodup tracking scene
  | dynamic thresholds => exact (thresholds.judge nextCycle).select_nodup tracking scene now

theorem mem_handles_of_select {rule : SelectionRule} {tracking : LocalTracking} {scene : Scene}
    {now : Instant} {nextCycle : Duration} {handle : Handle}
    (member : handle ∈ (rule.select tracking scene now nextCycle).candidates) :
    handle ∈ tracking.handles ∧ scene.isAlive handle = true := by
  cases rule with
  | static => exact Selection.mem_all_iff.mp member
  | dynamic thresholds => exact Selection.Judge.mem_handles_of_select member

end SelectionRule

/-! ### The candidates of a cycle -/

namespace Service

variable {service : Service} {conditions : ChannelConditions} {surroundings : Surroundings}
  {now : Instant}

theorem candidates_sublist (service : Service) (conditions : ChannelConditions)
    (surroundings : Surroundings) (now : Instant) :
    (service.candidates conditions surroundings now).Sublist
      (service.selection conditions surroundings now).candidates := by
  rw [candidates, mitigated]
  split
  · exact service.chain.filter_sublist _ _
  · exact List.Sublist.refl _

theorem candidates_nodup (service : Service) (conditions : ChannelConditions)
    (surroundings : Surroundings) (now : Instant) :
    (service.candidates conditions surroundings now).Nodup :=
  (service.rule.select_nodup _ _ _ _).sublist
    (service.candidates_sublist conditions surroundings now)

theorem mem_handles_of_candidates {handle : Handle}
    (member : handle ∈ service.candidates conditions surroundings now) :
    handle ∈ service.tracking.handles ∧ surroundings.scene.isAlive handle = true :=
  SelectionRule.mem_handles_of_select
    ((service.candidates_sublist conditions surroundings now).subset member)

/-- An object has a record exactly if it is alive. -/
theorem record?_isSome (service : Service) (surroundings : Surroundings) (handle : Handle) :
    (service.record? surroundings handle).isSome = surroundings.scene.isAlive handle :=
  Option.isSome_map

theorem fst_of_record? {handle : Handle} {entry : Handle × PerceivedObject}
    (recorded : service.record? surroundings handle = some entry) : entry.1 = handle := by
  obtain ⟨object, _, rfl⟩ := Option.map_eq_some_iff.mp recorded
  rfl

/-- Each record of a cycle is that of a candidate. -/
theorem mem_cycleRecords {entry : Handle × PerceivedObject}
    (member : entry ∈ service.cycleRecords conditions surroundings now) :
    entry.1 ∈ service.candidates conditions surroundings now ∧
      service.record? surroundings entry.1 = some entry := by
  obtain ⟨handle, candidate, recorded⟩ := List.mem_filterMap.mp member
  rw [fst_of_record? recorded]
  exact ⟨List.mem_of_mem_take candidate, recorded⟩

/-- The candidates are alive, so each of them has a record, up to the limit of the format. -/
theorem map_some_cycleRecords (service : Service) (conditions : ChannelConditions)
    (surroundings : Surroundings) (now : Instant) :
    (service.cycleRecords conditions surroundings now).map some =
      ((service.candidates conditions surroundings now).take Message.cycleLimit).map
        (service.record? surroundings) := by
  rw [cycleRecords, records]
  have alive : ∀ handle ∈
      (service.candidates conditions surroundings now).take Message.cycleLimit,
      (service.record? surroundings handle).isSome = true := by
    intro handle member
    rw [record?_isSome]
    exact (mem_handles_of_candidates (List.mem_of_mem_take member)).2
  generalize (service.candidates conditions surroundings now).take Message.cycleLimit =
    reportable at alive
  induction reportable with
  | nil => rfl
  | cons handle later inductionHypothesis =>
    obtain ⟨first, others⟩ := List.forall_mem_cons.mp alive
    obtain ⟨entry, recorded⟩ := Option.isSome_iff_exists.mp first
    rw [List.filterMap_cons_some recorded, List.map_cons, List.map_cons,
      inductionHypothesis others, recorded]

/-- No two records of a cycle have the same key. -/
theorem cycleRecords_nodup (service : Service) (conditions : ChannelConditions)
    (surroundings : Surroundings) (now : Instant) :
    ((service.cycleRecords conditions surroundings now).map (·.1)).Nodup := by
  have keys (handle : Handle) : (service.record? surroundings handle).map (·.1) =
      if surroundings.scene.isAlive handle = true then some handle else none := by
    rw [record?, Scene.isAlive]
    cases surroundings.scene handle <;> rfl
  rw [cycleRecords, records, List.map_filterMap]
  simp only [keys]
  rw [← Option.guard_def, List.filterMap_eq_filter]
  exact ((service.candidates_nodup conditions surroundings now).sublist
    (List.take_sublist _ _)).filter _

end Service

end CollectivePerception
