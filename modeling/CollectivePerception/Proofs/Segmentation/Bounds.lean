/-
This file proves the limits that a segmentation keeps. Every message is small enough in
the form in which it is sent, with its final number and the description of the sensors in
it, and there are neither too many objects in a message nor too many messages. A cycle
with segments has at least two of them: a single segment would hold everything, and the
same message without a number would have been small enough before.
-/

import CollectivePerception.Proofs.Message.Size
import CollectivePerception.Proofs.Segmentation.Numbering
import CollectivePerception.Proofs.Segmentation.Priority

namespace CollectivePerception.Segmentation

variable {Key : Type} {records : List (Keyed Key)} {sensors : Option (List SensorInformation)}
  {placed : List (Frame.Segment Key)} {position : Option Nat}

/-! ### The messages of a layout -/

/-- The messages are small enough with their final numbers. -/
theorem number_encodedSize_le {frame : Frame} (ignoring : frame.codec.IgnoresNumbers)
    (layout : frame.LaidOut records sensors placed position)
    (undescribed : frame.blank.sensors = none) (segmented : frame.blank.isSegmented = true) :
    ∀ message ∈ (number placed position).messages,
      frame.codec.encodedSize message ≤ frame.limit := by
  intro message member
  obtain ⟨index, inside, rfl⟩ := List.getElem_of_mem member
  obtain ⟨segment, origin, same⟩ := number_messages_getElem placed position index inside
  have marked : segment.message.isSegmented = true := by
    obtain ⟨group, description, rfl⟩ := layout.isPacked segment origin
    exact segmented
  rw [same, ignoring segment.message _ marked]
  exact of_decide_eq_true (layout.fits undescribed segment origin)

theorem number_objects_length_le {frame : Frame}
    (layout : frame.LaidOut records sensors placed position)
    (noObjects : frame.blank.objects = []) :
    ∀ message ∈ (number placed position).messages,
      message.objects.length ≤ Message.objectLimit := by
  intro message member
  obtain ⟨index, inside, rfl⟩ := List.getElem_of_mem member
  obtain ⟨segment, origin, same⟩ := number_messages_getElem placed position index inside
  have objects := (layout.isPacked segment origin).objects_eq noObjects
  rw [same]
  show segment.message.objects.length ≤ Message.objectLimit
  rw [objects, List.length_map]
  exact layout.entries_length_le noObjects segment origin

/-! ### No lone segment -/

/-- The only segment of a layout holds all records and the description of the sensors. -/
theorem message_eq_of_singleton {frame : Frame} {segment : Frame.Segment Key}
    (layout : frame.LaidOut records sensors [segment] position)
    (noObjects : frame.blank.objects = []) (undescribed : frame.blank.sensors = none) :
    segment.message = describe (load frame.blank (byPriority records)) sensors := by
  have entries := layout.entries_eq noObjects
  have described := layout.sensors_eq undescribed
  obtain ⟨group, description, rfl⟩ := layout.isPacked segment List.mem_cons_self
  rw [List.flatMap_singleton, Frame.Segment.entries_described,
    Frame.entries_segment noObjects] at entries
  have carried : description = sensors := by
    cases description with
    | none => exact (Option.toList_eq_nil_iff.mp described.symm).symm
    | some given => exact (Option.toList_eq_singleton_iff.mp described.symm).symm
  rw [entries, carried]
  rfl

/-- A message with everything in it takes at most as many bytes as the segment that holds
everything. -/
theorem encodedSize_single_le (template : Message) (noObjects : template.objects = [])
    (records : List (Keyed Key)) (sensors : Option (List SensorInformation))
    (start : SegmentNumber) :
    FixedLayout.encodedSize (single template records sensors) ≤
      FixedLayout.encodedSize
        (describe (load (template.numbered start) (byPriority records)) sensors) := by
  have loaded : describe (load (template.numbered start) (byPriority records)) sensors =
      ({ single template records sensors with
        objects := (byPriority records).map (·.2) } : Message).numbered start := by
    show describe { template.numbered start with
      objects := template.objects ++ (byPriority records).map (·.2) } sensors = _
    rw [noObjects, List.nil_append]
    rfl
  rw [loaded]
  refine Nat.le_trans (Nat.le_of_eq ?_) (FixedLayout.encodedSize_le_numbered _ start)
  exact (FixedLayout.encodedSize_perm (single template records sensors)
    ((byPriority_perm records).map (·.2))).symm

/-- A cycle that does not go into one message has at least two segments. -/
theorem two_le_length {limit : Nat} {template : Message}
    (layout : (Frame.ofTemplate .fixedLayout limit template).LaidOut records sensors placed
      position)
    (noObjects : template.objects = []) (undescribed : template.sensors = none)
    (several : isSingle .fixedLayout limit template records sensors = false) :
    2 ≤ placed.length := by
  rcases placed with _ | ⟨segment, _ | ⟨other, rest⟩⟩
  · exact absurd rfl layout.1
  · have message := message_eq_of_singleton layout noObjects undescribed
    have small := of_decide_eq_true (layout.fits undescribed segment List.mem_cons_self)
    rw [message] at small
    have entries := layout.entries_eq noObjects
    have few := layout.entries_length_le noObjects segment List.mem_cons_self
    rw [List.flatMap_singleton] at entries
    rw [entries, (byPriority_perm records).length_eq] at few
    have fitting : isSingle .fixedLayout limit template records sensors = true := by
      rw [isSingle, Bool.and_eq_true, decide_eq_true_iff, decide_eq_true_iff]
      exact ⟨few, Nat.le_trans (encodedSize_single_le template noObjects records sensors ⟨1, 1⟩)
        small⟩
    rw [fitting] at several
    exact absurd several.symm Bool.false_ne_true
  · rw [List.length_cons, List.length_cons]
    omega

/-! ### The limits of a segmentation -/

/-- A segmentation has at least one message and not more than the format allows, each of
them within the limits for its size and its objects. It is one message without a number,
or at least two that are numbered from one and know how many they are. -/
theorem segment_within_limits (limit : Nat) (template : Message) (records : List (Keyed Key))
    (sensors : Option (List SensorInformation)) (segmentation : Segmentation Key)
    (noObjects : template.objects = []) (noSensors : template.sensors = none)
    (noNumber : template.management.segment = none)
    (success : segment .fixedLayout limit template records sensors = .ok segmentation) :
    1 ≤ segmentation.messages.length ∧
      segmentation.messages.length ≤ Message.segmentLimit ∧
      (∀ message ∈ segmentation.messages,
        FixedLayout.encodedSize message ≤ limit ∧
          message.objects.length ≤ Message.objectLimit) ∧
      ((∃ message, segmentation.messages = [message] ∧ message.management.segment = none) ∨
        (2 ≤ segmentation.messages.length ∧
          ∀ (index : Nat) (inside : index < segmentation.messages.length),
            segmentation.messages[index].management.segment =
              some ⟨segmentation.messages.length, index + 1⟩)) := by
  rcases segment_cases success with ⟨fitting, rfl⟩ | ⟨several, placed, position, layout, rfl⟩
  · rw [isSingle, Bool.and_eq_true, decide_eq_true_iff, decide_eq_true_iff] at fitting
    refine ⟨Nat.le_refl 1, (by decide : 1 ≤ Message.segmentLimit), ?_, .inl ⟨_, rfl, noNumber⟩⟩
    intro message member
    rw [List.mem_singleton.mp member]
    refine ⟨fitting.2, ?_⟩
    rw [single, List.length_map]
    exact fitting.1
  · have count := number_messages_length placed position
    have many := two_le_length layout noObjects noSensors several
    have limitAbove : 2 ≤ Message.segmentLimit := by decide
    refine ⟨by omega, by omega, fun message member => ⟨?_, ?_⟩, .inr ⟨by omega, ?_⟩⟩
    · exact number_encodedSize_le FixedLayout.fixedLayout_ignoresNumbers layout noSensors rfl
        message member
    · exact number_objects_length_le layout noObjects message member
    · intro index inside
      obtain ⟨origin, _, same⟩ := number_messages_getElem placed position index inside
      rw [same]
      rfl

theorem threeSegments_within_limits :
    (∀ message ∈ threeSegments.messages,
        FixedLayout.encodedSize message ≤ 83 ∧ message.objects.length ≤ Message.objectLimit) ∧
      ∀ (index : Nat) (inside : index < threeSegments.messages.length),
        threeSegments.messages[index].management.segment = some ⟨3, index + 1⟩ := by
  have grouping : (Frame.ofTemplate .fixedLayout 83 default).Grouping (byPriority threeObjects)
      [[(2, moving 7), (1, moving 5)], [(0, moving 5)]] := by
    rw [byPriority_threeObjects]
    exact .cons rfl (List.cons_ne_nil _ _) (.cons rfl (List.cons_ne_nil _ _) .nil)
  have success : segment .fixedLayout 83 default threeObjects (some threeSensors) =
      .ok threeSegments := by
    rw [segment, if_neg (by decide), segments, grouping.groups_eq]
    rfl
  obtain ⟨_, _, small, ⟨message, lone, _⟩ | ⟨_, numbers⟩⟩ := segment_within_limits 83 default
    threeObjects (some threeSensors) threeSegments rfl rfl rfl success
  · cases lone
  · exact ⟨small, numbers⟩

end CollectivePerception.Segmentation
