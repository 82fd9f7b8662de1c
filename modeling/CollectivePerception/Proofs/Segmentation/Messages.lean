/-
This file says what a single message of a segmentation is made of. Whether it holds
everything or is one of many segments, it is a copy of the template but for its segment
number, its description of the sensors and its objects, and of these it carries nothing that
the cycle does not have (`segment_carries`).
-/

import CollectivePerception.Proofs.Segmentation.Bounds

namespace CollectivePerception.Segmentation

variable {Key : Type} {template : Message} {records : List (Keyed Key)}
  {sensors : Option (List SensorInformation)}

/-- A message that a template, the records of a cycle and its description of the sensors
account for. -/
structure Carries (template : Message) (records : List (Keyed Key))
    (sensors : Option (List SensorInformation)) (message : Message) : Prop where
  copied : message =
    { template with
      management := { template.management with segment := message.management.segment }
      sensors := message.sensors
      objects := message.objects }
  /-- A segment number is the place among at most as many segments as the format allows. -/
  counted : ∀ number ∈ message.management.segment,
    1 ≤ number.this ∧ number.this ≤ number.total ∧ number.total ≤ Message.segmentLimit
  described : ∀ description ∈ message.sensors, sensors = some description
  loaded : ∀ object ∈ message.objects, ∃ entry ∈ records, entry.2 = object
  few : message.objects.length ≤ Message.objectLimit

theorem single_carries (noNumber : template.management.segment = none)
    (few : records.length ≤ Message.objectLimit) :
    Carries template records sensors (single template records sensors) where
  copied := rfl
  counted := by
    intro number present
    exact absurd (noNumber.symm.trans present) nofun
  described := fun _ => id
  loaded := fun _ member => List.mem_map.mp member
  few := by
    rw [single, List.length_map]
    exact few

/-- A segment of a layout that got its place among all segments. -/
theorem numbered_carries {codec : Codec} {limit : Nat} {placed : List (Frame.Segment Key)}
    {position : Option Nat}
    (layout : (Frame.ofTemplate codec limit template).LaidOut records sensors placed position)
    (noObjects : template.objects = []) (noSensors : template.sensors = none)
    {segment : Frame.Segment Key} (member : segment ∈ placed) {number : SegmentNumber}
    (place : 1 ≤ number.this ∧ number.this ≤ number.total ∧
      number.total ≤ Message.segmentLimit) :
    Carries template records sensors (segment.message.numbered number) where
  copied := by
    obtain ⟨group, description, rfl⟩ := layout.isPacked segment member
    rfl
  counted := by
    intro other same
    cases same
    exact place
  described := by
    intro description present
    have inside : description ∈ placed.filterMap Frame.Segment.sensors :=
      List.mem_filterMap.mpr ⟨segment, member, present⟩
    rw [layout.sensors_eq noSensors] at inside
    exact Option.mem_toList.mp inside
  loaded := by
    intro object carried
    have objects := (layout.isPacked segment member).objects_eq noObjects
    obtain ⟨entry, inside, rfl⟩ := List.mem_map.mp (objects ▸ carried)
    have among := List.mem_flatMap_of_mem member inside
    rw [layout.entries_eq noObjects] at among
    exact ⟨entry, (byPriority_perm records).subset among, rfl⟩
  few := by
    show segment.message.objects.length ≤ Message.objectLimit
    rw [(layout.isPacked segment member).objects_eq noObjects, List.length_map]
    exact layout.entries_length_le noObjects segment member

/-- Every message of a segmentation is a copy of the template, with its place among the
others and its share of the records and the description. -/
theorem segment_carries {codec : Codec} {limit : Nat} {segmentation : Segmentation Key}
    (noObjects : template.objects = []) (noSensors : template.sensors = none)
    (noNumber : template.management.segment = none)
    (success : segment codec limit template records sensors = .ok segmentation) :
    ∀ message ∈ segmentation.messages, Carries template records sensors message := by
  rcases segment_cases success with ⟨fitting, rfl⟩ | ⟨_, placed, position, layout, rfl⟩
  · rw [isSingle, Bool.and_eq_true, decide_eq_true_iff] at fitting
    rw [unsegmented, List.forall_mem_singleton]
    exact single_carries noNumber fitting.1
  · intro message member
    obtain ⟨index, inside, rfl⟩ := List.getElem_of_mem member
    obtain ⟨segment, origin, same⟩ := number_messages_getElem placed position index inside
    rw [same]
    refine numbered_carries layout noObjects noSensors origin ⟨Nat.succ_pos index, inside, ?_⟩
    dsimp only
    rw [number_messages_length]
    exact Nat.min_le_left _ _

end CollectivePerception.Segmentation
