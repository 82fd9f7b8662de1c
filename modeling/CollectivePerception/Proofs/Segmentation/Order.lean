/-
This file proves in which order the segments of a cycle carry its records. No record is
sent before a more urgent one, records of one priority are sent in the reverse of the
order in which they were given, and what is lost with the segments beyond the limit is
never more urgent than what was sent.
-/

import CollectivePerception.Proofs.Segmentation.Conservation

namespace CollectivePerception.Segmentation

variable {Key : Type}

/-- A segmentation with a number in one of its messages comes from a layout. -/
theorem layout_of_segmented {codec : Codec} {limit : Nat} {template : Message}
    {records : List (Keyed Key)} {sensors : Option (List SensorInformation)}
    {segmentation : Segmentation Key} (noNumber : template.management.segment = none)
    (success : segment codec limit template records sensors = .ok segmentation)
    (segmented : ∃ message ∈ segmentation.messages, message.isSegmented = true) :
    ∃ placed position,
      (Frame.ofTemplate codec limit template).LaidOut records sensors placed position ∧
        segmentation = number placed position := by
  rcases segment_cases success with ⟨_, rfl⟩ | ⟨_, laid⟩
  · obtain ⟨message, member, marked⟩ := segmented
    rw [List.mem_singleton.mp member] at marked
    have unmarked : (single template records sensors).isSegmented = false := by
      show template.management.segment.isSome = false
      rw [noNumber, Option.isSome_none]
    rw [unmarked] at marked
    exact absurd marked Bool.false_ne_true
  · exact laid

/-- The objects of a segmented cycle are sent in descending order of priority, equals in
the reverse of the order in which they were given, and every record that is dropped with
the segments beyond the limit is at most as urgent as every record that is sent. -/
theorem segment_descends_in_priority (codec : Codec) (limit : Nat) (template : Message)
    (records : List (Keyed Key)) (sensors : Option (List SensorInformation))
    (segmentation : Segmentation Key) (noObjects : template.objects = [])
    (noNumber : template.management.segment = none)
    (success : segment codec limit template records sensors = .ok segmentation)
    (segmented : ∃ message ∈ segmentation.messages, message.isSegmented = true) :
    (segmentation.messages.flatMap (·.objects)).Pairwise
        (fun earlier later => later.priority ≤ earlier.priority) ∧
      segmentation.messages.flatMap (·.objects) = segmentation.reported.map (·.2) ∧
      ∃ discarded : List (Keyed Key),
        (segmentation.reported ++ discarded).Perm records ∧
          discarded.length = segmentation.dropped ∧
          (∀ priority : Int,
            (segmentation.reported ++ discarded).filter (·.2.priority = priority) =
              (records.filter (·.2.priority = priority)).reverse) ∧
          ∀ kept ∈ segmentation.reported, ∀ lost ∈ discarded,
            lost.2.priority ≤ kept.2.priority := by
  have objects := (segment_reported noObjects success).2
  obtain ⟨placed, position, layout, rfl⟩ := layout_of_segmented noNumber success segmented
  obtain ⟨discarded, whole, count, _⟩ := number_reported_append layout noObjects
  have descending := byPriority_descends records
  rw [← whole] at descending
  obtain ⟨sent, _, apart⟩ := List.pairwise_append.mp descending
  refine ⟨?_, objects, discarded, whole ▸ byPriority_perm records, count, ?_, apart⟩
  · rw [objects, List.pairwise_map]
    exact sent
  · intro priority
    rw [whole]
    exact filter_byPriority records priority

theorem threeSegments_descend :
    (threeSegments.messages.flatMap (·.objects)).Pairwise
        (fun earlier later => later.priority ≤ earlier.priority) ∧
      threeSegments.reported.filter (·.2.priority = 5) =
        (threeObjects.filter (·.2.priority = 5)).reverse := by
  obtain ⟨descending, _, discarded, _, count, equals, _⟩ := segment_descends_in_priority
    counting 2 default threeObjects (some threeSensors) threeSegments rfl rfl segment_threeObjects
    ⟨_, List.mem_cons_self, rfl⟩
  rw [List.length_eq_zero_iff.mp count, List.append_nil] at equals
  exact ⟨descending, equals 5⟩

end CollectivePerception.Segmentation
