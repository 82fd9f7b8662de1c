/-
This file proves that a segmentation accounts for every record. The keys are as many as
the objects in the messages and lie at the same positions, the records read off them are
records of the cycle, each taken at most once, and the records that are missing are as
many as the segmentation says. None is missing unless the cycle has as many segments as
the format allows.
-/

import CollectivePerception.Proofs.Segmentation.Numbering
import CollectivePerception.Proofs.Segmentation.Priority

namespace CollectivePerception.Segmentation

variable {Key : Type}

/-- The keys and the objects of a segmentation are those of the records that it reports. -/
theorem segment_reported {codec : Codec} {limit : Nat} {template : Message}
    {records : List (Keyed Key)} {sensors : Option (List SensorInformation)}
    {segmentation : Segmentation Key} (noObjects : template.objects = [])
    (success : segment codec limit template records sensors = .ok segmentation) :
    segmentation.included = segmentation.reported.map (·.1) ∧
      segmentation.messages.flatMap (·.objects) = segmentation.reported.map (·.2) := by
  rcases segment_cases success with ⟨_, rfl⟩ | ⟨_, placed, position, layout, rfl⟩
  · rw [unsegmented_reported]
    exact ⟨rfl, List.append_nil _⟩
  · rw [number_reported layout.isPacked noObjects]
    exact ⟨number_included layout.isPacked noObjects position,
      number_objects_eq layout.isPacked noObjects position⟩

/-- The records in the segments beyond the limit, which are not sent. -/
def discarded (codec : Codec) (limit : Nat) (template : Message) (records : List (Keyed Key))
    (sensors : Option (List SensorInformation)) : List (Keyed Key) :=
  if isSingle codec limit template records sensors then []
  else
    match segments (.ofTemplate codec limit template) records sensors with
    | .error _ => []
    | .ok (placed, _) => (placed.drop Message.segmentLimit).flatMap Frame.Segment.entries

/-- What was sent and what lies beyond the limit are together the records of the cycle. -/
theorem reported_append_discarded_perm {codec : Codec} {limit : Nat} {template : Message}
    {records : List (Keyed Key)} {sensors : Option (List SensorInformation)}
    {segmentation : Segmentation Key} (noObjects : template.objects = [])
    (success : segment codec limit template records sensors = .ok segmentation) :
    (segmentation.reported ++ discarded codec limit template records sensors).Perm records := by
  unfold segment at success
  unfold discarded
  split at success
  · rename_i alone
    cases success
    rw [if_pos alone, List.append_nil]
    exact List.Perm.of_eq (unsegmented_reported template records sensors)
  · rename_i several
    rw [if_neg several]
    cases laid : segments (Frame.ofTemplate codec limit template) records sensors with
    | error cause =>
      rw [laid] at success
      cases success
    | ok result =>
      rw [laid] at success
      cases success
      have layout := Frame.laidOut_of_segments laid
      dsimp only
      rw [number_reported layout.isPacked noObjects, ← List.flatMap_append,
        List.take_append_drop, layout.entries_eq noObjects]
      exact byPriority_perm records

/-- Each segment holds a record but for one that carries the description alone, so fewer
records than there may be segments are all sent. -/
theorem discarded_eq_nil (codec : Codec) (limit : Nat) (template : Message)
    {records : List (Keyed Key)} (few : records.length < Message.segmentLimit)
    (sensors : Option (List SensorInformation)) :
    discarded codec limit template records sensors = [] := by
  unfold discarded
  split
  · rfl
  · split
    · rfl
    · rename_i placed position laid
      obtain ⟨_, groups, grouping, placement⟩ := Frame.laidOut_of_segments laid
      have grouped := grouping.count_le
      have segments := placement.count_le
      rw [(byPriority_perm records).length_eq] at grouped
      rw [List.length_map] at segments
      rw [List.drop_eq_nil_of_le (by omega), List.flatMap_nil]

/-- Every record of a cycle is either in the messages, under its own key, or among those
that the segmentation counts as dropped. -/
theorem segment_conserves_records (codec : Codec) (limit : Nat) (template : Message)
    (records : List (Keyed Key)) (sensors : Option (List SensorInformation))
    (segmentation : Segmentation Key) (noObjects : template.objects = [])
    (success : segment codec limit template records sensors = .ok segmentation) :
    segmentation.included.length = (segmentation.messages.flatMap (·.objects)).length ∧
      (∃ unused, (segmentation.reported ++ unused).Perm records ∧
        unused.length = segmentation.dropped) ∧
      segmentation.included.length + segmentation.dropped = records.length ∧
      (segmentation.messages.length < Message.segmentLimit → segmentation.dropped = 0) := by
  obtain ⟨keys, objects⟩ := segment_reported noObjects success
  have accounted : ∃ unused, (segmentation.reported ++ unused).Perm records ∧
      unused.length = segmentation.dropped ∧
      (segmentation.messages.length < Message.segmentLimit → unused = []) := by
    rcases segment_cases success with ⟨_, rfl⟩ | ⟨_, placed, position, layout, rfl⟩
    · refine ⟨[], ?_, rfl, fun _ => rfl⟩
      rw [unsegmented_reported, List.append_nil]
    · obtain ⟨discarded, whole, count, few⟩ := number_reported_append layout noObjects
      exact ⟨discarded, whole ▸ byPriority_perm records, count, few⟩
  obtain ⟨unused, permutation, count, few⟩ := accounted
  refine ⟨?_, ⟨unused, permutation, count⟩, ?_, fun short => ?_⟩
  · rw [keys, objects, List.length_map, List.length_map]
  · rw [keys, List.length_map, ← count, ← List.length_append, permutation.length_eq]
  · rw [← count, few short, List.length_nil]

theorem threeSegments_conserve :
    threeSegments.included.length = (threeSegments.messages.flatMap (·.objects)).length ∧
      threeSegments.reported.Perm threeObjects := by
  obtain ⟨aligned, ⟨unused, permutation, count⟩, _, complete⟩ := segment_conserves_records
    counting 2 default threeObjects (some threeSensors) threeSegments rfl segment_threeObjects
  rw [complete (by decide)] at count
  rw [List.length_eq_zero_iff.mp count, List.append_nil] at permutation
  exact ⟨aligned, permutation⟩

end CollectivePerception.Segmentation
