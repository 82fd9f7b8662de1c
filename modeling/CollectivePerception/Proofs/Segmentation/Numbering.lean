/-
This file describes what the caller of a segmentation gets. A segmentation that succeeds
is either the one message with everything in it or the numbered segments of a layout
(`segment_cases`). In both the caller reads which records were sent by pairing the keys
with the objects of all messages (`reported`). Numbering keeps the first segments and
drops the records of the others, so the reported records and the dropped ones together
are the records of the cycle in the order of their priority (`number_reported_append`).
-/

import CollectivePerception.Proofs.Segmentation.Layout

namespace CollectivePerception.Segmentation

variable {Key : Type}

/-- The records that were sent: each object of the messages, in the order of
transmission, with the key at the same position. -/
def reported (segmentation : Segmentation Key) : List (Keyed Key) :=
  segmentation.included.zip (segmentation.messages.flatMap (·.objects))

/-! ### The two ways to succeed -/

/-- The segmentation with everything in one message. -/
def unsegmented (template : Message) (records : List (Keyed Key))
    (sensors : Option (List SensorInformation)) : Segmentation Key where
  messages := [single template records sensors]
  included := records.map (·.1)
  sensorSegment := sensors.map fun _ => 1
  dropped := 0

/-- A segmentation that succeeds is the one message, or it comes of segments. -/
theorem segment_ok_cases {codec : Codec} {limit : Nat} {template : Message}
    {records : List (Keyed Key)} {sensors : Option (List SensorInformation)}
    {segmentation : Segmentation Key}
    (success : segment codec limit template records sensors = .ok segmentation) :
    isSingle codec limit template records sensors = true ∧
        segmentation = unsegmented template records sensors ∨
      isSingle codec limit template records sensors = false ∧
        ∃ placed position,
          segments (Frame.ofTemplate codec limit template) records sensors =
              .ok (placed, position) ∧
            segmentation = number placed position := by
  unfold segment at success
  cases alone : isSingle codec limit template records sensors with
  | true =>
    rw [alone, if_pos rfl] at success
    cases success
    exact .inl ⟨rfl, rfl⟩
  | false =>
    rw [alone, if_neg Bool.false_ne_true] at success
    cases laid : segments (Frame.ofTemplate codec limit template) records sensors with
    | error cause =>
      rw [laid] at success
      cases success
    | ok result =>
      rw [laid] at success
      cases success
      exact .inr ⟨rfl, result.1, result.2, rfl, rfl⟩

theorem segment_cases {codec : Codec} {limit : Nat} {template : Message}
    {records : List (Keyed Key)} {sensors : Option (List SensorInformation)}
    {segmentation : Segmentation Key}
    (success : segment codec limit template records sensors = .ok segmentation) :
    isSingle codec limit template records sensors = true ∧
        segmentation = unsegmented template records sensors ∨
      isSingle codec limit template records sensors = false ∧
        ∃ placed position,
          (Frame.ofTemplate codec limit template).LaidOut records sensors placed position ∧
          segmentation = number placed position :=
  (segment_ok_cases success).imp_right fun ⟨several, placed, position, laid, numbered⟩ =>
    ⟨several, placed, position, Frame.laidOut_of_segments laid, numbered⟩

theorem unsegmented_reported (template : Message) (records : List (Keyed Key))
    (sensors : Option (List SensorInformation)) :
    (unsegmented template records sensors).reported = records := by
  show (records.map (·.1)).zip (records.map (·.2) ++ []) = records
  rw [List.append_nil]
  exact (List.zip_of_prod rfl rfl).symm

/-! ### Numbered segments -/

theorem number_messages_length (placed : List (Frame.Segment Key)) (position : Option Nat) :
    (number placed position).messages.length = min Message.segmentLimit placed.length := by
  show ((placed.take Message.segmentLimit).zipIdx.map _).length = _
  rw [List.length_map, List.length_zipIdx, List.length_take]

/-- A segmentation that succeeds has a message. -/
theorem segment_messages_ne_nil {codec : Codec} {limit : Nat} {template : Message}
    {records : List (Keyed Key)} {sensors : Option (List SensorInformation)}
    {segmentation : Segmentation Key}
    (success : segment codec limit template records sensors = .ok segmentation) :
    segmentation.messages ≠ [] := by
  rcases segment_cases success with ⟨_, rfl⟩ | ⟨_, placed, position, layout, rfl⟩
  · exact List.cons_ne_nil _ _
  · have some : 0 < placed.length := List.length_pos_iff.mpr layout.1
    have limit : 0 < Message.segmentLimit := by decide
    rw [← List.length_pos_iff, number_messages_length]
    omega

/-- Each message is that of a segment, with its number and the count of all messages. -/
theorem number_messages_getElem (placed : List (Frame.Segment Key)) (position : Option Nat)
    (index : Nat) (inside : index < (number placed position).messages.length) :
    ∃ segment ∈ placed, (number placed position).messages[index] =
      segment.message.numbered ⟨(number placed position).messages.length, index + 1⟩ := by
  have bound : index < (placed.take Message.segmentLimit).length := by
    rwa [List.length_take, ← number_messages_length placed position]
  refine ⟨(placed.take Message.segmentLimit)[index],
    List.mem_of_mem_take (List.getElem_mem bound), ?_⟩
  have count : (number placed position).messages.length =
      (placed.take Message.segmentLimit).length := by
    rw [number_messages_length, List.length_take]
  rw [count]
  simp only [number, List.getElem_map, List.getElem_zipIdx, Nat.zero_add]

theorem number_objects (placed : List (Frame.Segment Key)) (position : Option Nat) :
    (number placed position).messages.flatMap (·.objects) =
      (placed.take Message.segmentLimit).flatMap (·.message.objects) := by
  calc
    (number placed position).messages.flatMap (·.objects) =
        (placed.take Message.segmentLimit).zipIdx.flatMap (·.1.message.objects) := by
      rw [number, List.flatMap_map]
      rfl
    _ = ((placed.take Message.segmentLimit).zipIdx.map (·.1)).flatMap (·.message.objects) :=
      by rw [List.flatMap_map]
    _ = (placed.take Message.segmentLimit).flatMap (·.message.objects) :=
      congrArg (List.flatMap _) (List.zipIdx_map_fst 0 _)

/-- What does not depend on numbers is as frequent among the messages as among the segments
that were kept. -/
theorem countP_number {condition : Message → Bool}
    (ignoring : ∀ message number, condition (message.numbered number) = condition message)
    (placed : List (Frame.Segment Key)) (position : Option Nat) :
    (number placed position).messages.countP condition =
      (placed.take Message.segmentLimit).countP (condition ·.message) := by
  calc
    (number placed position).messages.countP condition =
        (placed.take Message.segmentLimit).zipIdx.countP (condition ·.1.message) := by
      rw [number, List.countP_map]
      exact List.countP_congr fun pair _ => by simp only [Function.comp_apply, ignoring]
    _ = ((placed.take Message.segmentLimit).zipIdx.map (·.1)).countP (condition ·.message) := by
      rw [List.countP_map]
      rfl
    _ = (placed.take Message.segmentLimit).countP (condition ·.message) :=
      congrArg (List.countP _) (List.zipIdx_map_fst 0 _)

variable {frame : Frame} {placed : List (Frame.Segment Key)}

theorem number_included (packed : ∀ segment ∈ placed, frame.IsPacked segment)
    (noObjects : frame.blank.objects = []) (position : Option Nat) :
    (number placed position).included =
      ((placed.take Message.segmentLimit).flatMap Frame.Segment.entries).map (·.1) := by
  rw [List.map_flatMap, List.flatMap_def]
  show (placed.take Message.segmentLimit).flatMap (·.keys) = _
  rw [List.flatMap_def]
  refine congrArg List.flatten (List.map_congr_left fun segment member => ?_)
  exact (packed segment (List.mem_of_mem_take member)).keys_eq noObjects

theorem number_objects_eq (packed : ∀ segment ∈ placed, frame.IsPacked segment)
    (noObjects : frame.blank.objects = []) (position : Option Nat) :
    (number placed position).messages.flatMap (·.objects) =
      ((placed.take Message.segmentLimit).flatMap Frame.Segment.entries).map (·.2) := by
  rw [number_objects, List.map_flatMap, List.flatMap_def, List.flatMap_def]
  refine congrArg List.flatten (List.map_congr_left fun segment member => ?_)
  exact (packed segment (List.mem_of_mem_take member)).objects_eq noObjects

/-- The records that were sent are those of the segments that were kept. -/
theorem number_reported (packed : ∀ segment ∈ placed, frame.IsPacked segment)
    (noObjects : frame.blank.objects = []) (position : Option Nat) :
    (number placed position).reported =
      (placed.take Message.segmentLimit).flatMap Frame.Segment.entries := by
  rw [reported, number_included packed noObjects, number_objects_eq packed noObjects]
  exact (List.zip_of_prod rfl rfl).symm

/-- The dropped records are as many as the segments beyond the limit hold. -/
theorem number_dropped (packed : ∀ segment ∈ placed, frame.IsPacked segment)
    (noObjects : frame.blank.objects = []) (position : Option Nat) :
    (number placed position).dropped =
      ((placed.drop Message.segmentLimit).flatMap Frame.Segment.entries).length := by
  rw [length_flatMap_eq_totalOf]
  refine congrArg totalOf (List.map_congr_left fun segment member => ?_)
  rw [(packed segment (List.mem_of_mem_drop member)).keys_eq noObjects, List.length_map]

/-- The records that were sent, followed by those in the segments beyond the limit, are
the records of the cycle in the order of their priority. -/
theorem number_reported_append {records : List (Keyed Key)}
    {sensors : Option (List SensorInformation)} {position : Option Nat}
    (layout : frame.LaidOut records sensors placed position)
    (noObjects : frame.blank.objects = []) :
    ∃ discarded : List (Keyed Key),
      (number placed position).reported ++ discarded = byPriority records ∧
        discarded.length = (number placed position).dropped ∧
        ((number placed position).messages.length < Message.segmentLimit → discarded = []) := by
  refine ⟨(placed.drop Message.segmentLimit).flatMap Frame.Segment.entries, ?_, ?_, ?_⟩
  · rw [number_reported layout.isPacked noObjects, ← List.flatMap_append,
      List.take_append_drop, layout.entries_eq noObjects]
  · rw [number_dropped layout.isPacked noObjects]
  · intro few
    rw [number_messages_length] at few
    rw [List.drop_eq_nil_of_le (by omega), List.flatMap_nil]

/-! ### Small segmentations -/

/-- An encoding in which an object counts one and a description of the sensors two. -/
def counting : Codec where
  encodedSize message := message.objects.length + if message.sensors.isSome then 2 else 0
  fault? _ := none

/-- An object and the description of the sensors get a message each if only one of them
fits. -/
theorem segment_object_apart (template : Message) (noObjects : template.objects = [])
    (noSensors : template.sensors = none) (entry : Keyed Key)
    (sensors : List SensorInformation) :
    segment counting 2 template [entry] (some sensors) =
      .ok
        { messages :=
            [{ template.numbered ⟨2, 1⟩ with objects := [entry.2] },
              { template.numbered ⟨2, 2⟩ with sensors := some sensors }]
          included := [entry.1]
          sensorSegment := some 2
          dropped := 0 } := by
  obtain ⟨header, time, management, vehicle, _, _, count⟩ := template
  cases noObjects
  cases noSensors
  have several : isSingle counting 2 ⟨header, time, management, vehicle, none, [], count⟩ [entry]
      (some sensors) = false := rfl
  have grouping : (Frame.ofTemplate counting 2
      ⟨header, time, management, vehicle, none, [], count⟩).Grouping (byPriority [entry])
        [[entry]] := by
    rw [byPriority, List.mergeSort_singleton]
    exact .cons rfl (List.cons_ne_nil _ _) .nil
  rw [segment, several, if_neg Bool.false_ne_true, segments, grouping.groups_eq]
  rfl

/-- An object that is the more urgent the faster it moves. -/
def moving (speed : Int) : PerceivedObject := { (default : PerceivedObject) with xSpeed := speed }

def threeObjects : List (Keyed Nat) := [(0, moving 5), (1, moving 5), (2, moving 7)]

def threeSensors : List SensorInformation := [default, default, default]

/-- The fastest object travels with the later of the two others, and the sensors are
described in a message of their own. -/
def threeSegments : Segmentation Nat where
  messages :=
    [{ (default : Message).numbered ⟨3, 1⟩ with objects := [moving 7, moving 5] },
      { (default : Message).numbered ⟨3, 2⟩ with objects := [moving 5] },
      { (default : Message).numbered ⟨3, 3⟩ with sensors := some threeSensors }]
  included := [2, 1, 0]
  sensorSegment := some 3
  dropped := 0

theorem byPriority_threeObjects :
    byPriority threeObjects = [(2, moving 7), (1, moving 5), (0, moving 5)] := by
  rw [byPriority, List.mergeSort_of_pairwise (by decide)]
  rfl

theorem segment_threeObjects :
    segment counting 2 default threeObjects (some threeSensors) = .ok threeSegments := by
  have grouping : (Frame.ofTemplate counting 2 default).Grouping (byPriority threeObjects)
      [[(2, moving 7), (1, moving 5)], [(0, moving 5)]] := by
    rw [byPriority_threeObjects]
    exact .cons rfl (List.cons_ne_nil _ _) (.cons rfl (List.cons_ne_nil _ _) .nil)
  rw [segment, if_neg (by decide), segments, grouping.groups_eq]
  rfl

end CollectivePerception.Segmentation
