/-
This file says where the description of the sensors is found. The segmentation names exactly
the message that carries it (`number_sensorSegment_iff`). In a segmented cycle its place is
settled by the groups of records alone, before any segment is dropped: it is the first group
whose segment has room for the description, or comes after the last one
(`Frame.Placement.position_eq`, `Frame.Placement.objects_eq`). So the description is lost only
if that place lies beyond the limit.
-/

import CollectivePerception.Proofs.Message.Size
import CollectivePerception.Proofs.Segmentation.Description
import CollectivePerception.Proofs.Segmentation.Order

namespace CollectivePerception.Segmentation

variable {Key : Type}

/-- Where one element alone satisfies a condition, it is found at its own index only. -/
theorem exists_getElem?_iff_of_only {Element : Type} {condition : Element → Bool}
    {before after : List Element} {chosen : Element}
    (noneBefore : ∀ element ∈ before, ¬condition element = true) (holds : condition chosen = true)
    (noneAfter : ∀ element ∈ after, ¬condition element = true) (index : Nat) :
    (∃ element ∈ (before ++ chosen :: after)[index]?, condition element = true) ↔
      before.length = index := by
  constructor
  · rintro ⟨element, found, satisfied⟩
    rcases Nat.lt_trichotomy index before.length with early | same | late
    · rw [List.getElem?_append_left early] at found
      exact absurd satisfied (noneBefore element (List.mem_of_getElem? found))
    · exact same.symm
    · obtain ⟨further, beyond⟩ : ∃ further, index - before.length = further + 1 :=
        ⟨index - before.length - 1, by omega⟩
      rw [List.getElem?_append_right (Nat.le_of_lt late), beyond, List.getElem?_cons_succ] at found
      exact absurd satisfied (noneAfter element (List.mem_of_getElem? found))
  · rintro rfl
    refine ⟨chosen, ?_, holds⟩
    rw [List.getElem?_append_right (Nat.le_refl _), Nat.sub_self]
    rfl

namespace Frame

variable {frame : Frame} {segments placed : List (Segment Key)} {records : List (Keyed Key)}
  {sensors : Option (List SensorInformation)} {position : Option Nat}

/-! ### The place among the segments -/

/-- The description comes after as many segments as have no room for it in front. -/
theorem Placement.position_eq (placement : frame.Placement segments sensors placed position) :
    position = sensors.map fun description => segments.findIdx (frame.hasRoom description) := by
  cases placement with
  | unneeded => rfl
  | @joined description before after chosen apart full room =>
    have passed : before.findIdx (frame.hasRoom description) = before.length :=
      List.findIdx_eq_length_of_false full
    rw [Option.map_some, apart, List.findIdx_append, passed, if_neg (Nat.lt_irrefl _),
      List.findIdx_cons, room, cond_true, Nat.zero_add]
  | appended full _ =>
    rw [Option.map_some, List.findIdx_eq_length_of_false full]

theorem map_objects_described (segments : List (Segment Key)) :
    (segments.map (·.described none)).map (·.message.objects) =
      segments.map (·.message.objects) := by
  rw [List.map_map]
  rfl

/-- The description changes the objects of no segment, and an additional segment has none. -/
theorem Placement.objects_eq {description : List SensorInformation}
    (placement : frame.Placement segments (some description) placed position)
    (noObjects : frame.blank.objects = []) :
    placed.map (·.message.objects) = segments.map (·.message.objects) ++
      if segments.findIdx (frame.hasRoom description) = segments.length then [[]] else [] := by
  cases placement with
  | @joined _ before after chosen apart full room =>
    have found : segments.findIdx (frame.hasRoom description) < segments.length :=
      List.findIdx_lt_length.mpr
        ⟨chosen, apart ▸ List.mem_append_right before List.mem_cons_self, room⟩
    rw [if_neg (Nat.ne_of_lt found), List.append_nil, apart, List.map_append,
      map_objects_described, List.map_append]
    rfl
  | appended full _ =>
    rw [if_pos (List.findIdx_eq_length_of_false full), List.map_append, map_objects_described,
      List.map_singleton]
    show _ ++ [frame.blank.objects] = _
    rw [noObjects]

/-- The segment at the place of the description is the only one that carries it. -/
theorem Placement.describes_getElem?_iff
    (placement : frame.Placement segments sensors placed position)
    (undescribed : ∀ segment ∈ segments, segment.sensors = none) (index : Nat) :
    (∃ segment ∈ placed[index]?, segment.message.describes = true) ↔ position = some index := by
  have plain {part : List (Segment Key)} (each : ∀ segment ∈ part, segment.sensors = none) :
      ∀ segment ∈ part, ¬segment.message.describes = true :=
    fun segment member => Segment.not_describes (each segment member)
  cases placement with
  | unneeded =>
    refine iff_of_false ?_ nofun
    rintro ⟨segment, found, describes⟩
    exact plain undescribed segment (List.mem_of_getElem? found) describes
  | @joined description before after chosen apart _ _ =>
    rw [apart, List.forall_mem_append, List.forall_mem_cons] at undescribed
    rw [Segment.map_described_none undescribed.1, Option.some_inj]
    exact exists_getElem?_iff_of_only (plain undescribed.1) rfl (plain undescribed.2.2) index
  | appended _ _ =>
    rw [Segment.map_described_none undescribed, Option.some_inj]
    exact exists_getElem?_iff_of_only (plain undescribed) rfl
      (fun _ absent => absurd absent List.not_mem_nil) index

theorem LaidOut.describes_getElem?_iff
    (layout : frame.LaidOut records sensors placed position)
    (undescribed : frame.blank.sensors = none) (index : Nat) :
    (∃ segment ∈ placed[index]?, segment.message.describes = true) ↔ position = some index := by
  obtain ⟨_, groups, _, placement⟩ := layout
  refine placement.describes_getElem?_iff (fun segment member => ?_) index
  obtain ⟨group, _, rfl⟩ := List.mem_map.mp member
  exact undescribed

end Frame

/-! ### The messages -/

section

variable {frame : Frame} {records : List (Keyed Key)}
  {sensors : Option (List SensorInformation)} {placed : List (Frame.Segment Key)}
  {position : Option Nat}

theorem number_messages_getElem? (placed : List (Frame.Segment Key)) (position : Option Nat)
    (index : Nat) :
    (number placed position).messages[index]? =
      (placed.take Message.segmentLimit)[index]?.map fun segment =>
        segment.message.numbered ⟨(placed.take Message.segmentLimit).length, index + 1⟩ := by
  rw [number, List.getElem?_map, List.getElem?_zipIdx, Option.map_map, Nat.zero_add]
  rfl

theorem map_objects_number (placed : List (Frame.Segment Key)) (position : Option Nat) :
    (number placed position).messages.map (·.objects) =
      (placed.map (·.message.objects)).take Message.segmentLimit := by
  calc
    (number placed position).messages.map (·.objects) =
        (placed.take Message.segmentLimit).zipIdx.map (·.1.message.objects) := by
      rw [number, List.map_map]
      rfl
    _ = ((placed.take Message.segmentLimit).zipIdx.map (·.1)).map (·.message.objects) := by
      rw [List.map_map]
      rfl
    _ = (placed.map (·.message.objects)).take Message.segmentLimit := by
      rw [List.zipIdx_map_fst 0, List.map_take]

theorem sensorSegment_number (placed : List (Frame.Segment Key)) (place : Nat) :
    (number placed (some place)).sensorSegment =
      if place < Message.segmentLimit then some (place + 1) else none := by
  rw [number, Option.filter_some]
  by_cases kept : place < Message.segmentLimit
  · rw [if_pos kept, if_pos (decide_eq_true kept)]
    rfl
  · rw [if_neg kept, if_neg fun below => kept (of_decide_eq_true below)]
    rfl

theorem unsegmented_sensorSegment_iff (template : Message) (records : List (Keyed Key))
    (sensors : Option (List SensorInformation)) (segment : Nat) :
    (unsegmented template records sensors).sensorSegment = some segment ↔
      ∃ index, segment = index + 1 ∧
        ∃ message ∈ (unsegmented template records sensors).messages[index]?,
          message.describes = true := by
  cases sensors with
  | none =>
    refine iff_of_false nofun ?_
    rintro ⟨index, _, message, found, describes⟩
    rw [List.mem_singleton.mp (List.mem_of_getElem? found)] at describes
    cases describes
  | some description =>
    constructor
    · rintro ⟨⟩
      exact ⟨0, rfl, _, rfl, rfl⟩
    · rintro ⟨index, rfl, message, found, _⟩
      have first : index < 1 := (List.getElem?_eq_some_iff.mp found).1
      rw [Nat.lt_one_iff.mp first]
      rfl

/-- A message describes the sensors as they were given. -/
theorem number_sensors_mem (layout : frame.LaidOut records sensors placed position)
    (undescribed : frame.blank.sensors = none) :
    ∀ message ∈ (number placed position).messages, ∀ description ∈ message.sensors,
      description ∈ sensors := by
  intro message member description carried
  obtain ⟨index, inside, rfl⟩ := List.getElem_of_mem member
  obtain ⟨segment, origin, same⟩ := number_messages_getElem placed position index inside
  rw [same] at carried
  have among : description ∈ placed.filterMap Frame.Segment.sensors :=
    List.mem_filterMap.mpr ⟨segment, origin, carried⟩
  rw [layout.sensors_eq undescribed] at among
  exact Option.mem_toList.mp among

/-- The segmentation names the message that carries the description, if there is one. -/
theorem number_sensorSegment_iff (layout : frame.LaidOut records sensors placed position)
    (undescribed : frame.blank.sensors = none) (segment : Nat) :
    (number placed position).sensorSegment = some segment ↔
      ∃ index, segment = index + 1 ∧
        ∃ message ∈ (number placed position).messages[index]?, message.describes = true := by
  have carries_iff (index : Nat) :
      (∃ message ∈ (number placed position).messages[index]?, message.describes = true) ↔
        index < Message.segmentLimit ∧ position = some index := by
    rw [← layout.describes_getElem?_iff undescribed, number_messages_getElem?, List.getElem?_take]
    split
    · rename_i kept
      simp only [kept, true_and, Option.mem_def, Option.map_eq_some_iff]
      constructor
      · rintro ⟨_, ⟨segment, found, rfl⟩, describes⟩
        exact ⟨segment, found, describes⟩
      · rintro ⟨segment, found, describes⟩
        exact ⟨_, ⟨segment, found, rfl⟩, describes⟩
    · rename_i cut
      refine iff_of_false ?_ fun both => cut both.1
      rintro ⟨_, ⟨⟩, _⟩
  simp only [carries_iff]
  cases position with
  | none =>
    refine iff_of_false ?_ ?_
    · rintro ⟨⟩
    · rintro ⟨_, _, _, ⟨⟩⟩
  | some place =>
    rw [sensorSegment_number]
    constructor
    · intro named
      split at named
      · rename_i kept
        exact ⟨place, (Option.some.inj named).symm, kept, rfl⟩
      · cases named
    · rintro ⟨_, rfl, kept, ⟨⟩⟩
      rw [if_pos kept]

end

/-! ### The place of the description -/

/-- The objects of a group of records. -/
def objectsOf (group : List (Keyed Key)) : List PerceivedObject := group.map (·.2)

/-- Whether the segment of a template with some records stays small enough with the description
of the sensors in it. -/
def isRoomy (codec : Codec) (limit : Nat) (template : Message) (number : SegmentNumber)
    (description : List SensorInformation) (group : List (Keyed Key)) : Bool :=
  codec.encodedSize
    { template.numbered number with
      sensors := some description
      objects := objectsOf group } ≤ limit

theorem hasRoom_segment {codec : Codec} (ignoring : codec.IgnoresNumbers) {limit : Nat}
    {template : Message} (noObjects : template.objects = []) (number : SegmentNumber)
    (description : List SensorInformation) (group : List (Keyed Key)) :
    (Frame.ofTemplate codec limit template).hasRoom description
        ((Frame.ofTemplate codec limit template).segment group) =
      isRoomy codec limit template number description group := by
  have same : { template.numbered number with
        sensors := some description
        objects := objectsOf group } =
      (describe (load (template.numbered ⟨1, 1⟩) group) (some description)).numbered number := by
    have objects : (template.numbered ⟨1, 1⟩).objects = [] := noObjects
    rw [load, objects, List.nil_append]
    rfl
  rw [isRoomy, same, ignoring _ number rfl]
  rfl

section

variable {codec : Codec} {limit : Nat} {template : Message} {records : List (Keyed Key)}
  {sensors : Option (List SensorInformation)} {segmentation : Segmentation Key}

/-- A message of a segmentation describes the sensors as they were given. -/
theorem segment_sensors_mem (noSensors : template.sensors = none)
    (success : segment codec limit template records sensors = .ok segmentation) :
    ∀ message ∈ segmentation.messages, ∀ description ∈ message.sensors,
      description ∈ sensors := by
  rcases segment_cases success with ⟨_, rfl⟩ | ⟨_, placed, position, layout, rfl⟩
  · intro message member
    rw [List.mem_singleton.mp member]
    exact fun _ => id
  · exact number_sensors_mem layout noSensors

/-- A segmentation names the message that carries the description, if there is one. -/
theorem segment_sensorSegment_iff (noSensors : template.sensors = none)
    (success : segment codec limit template records sensors = .ok segmentation) (number : Nat) :
    segmentation.sensorSegment = some number ↔
      ∃ index, number = index + 1 ∧
        ∃ message ∈ segmentation.messages[index]?, message.describes = true := by
  rcases segment_cases success with ⟨_, rfl⟩ | ⟨_, placed, position, layout, rfl⟩
  · exact unsegmented_sensorSegment_iff template records sensors number
  · exact number_sensorSegment_iff layout noSensors number

/-- A single message carries the description if there is one. -/
theorem segment_sensorSegment_of_unsegmented
    (success : segment codec limit template records sensors = .ok segmentation)
    (unnumbered : ∀ message ∈ segmentation.messages, message.isSegmented = false) :
    segmentation.sensorSegment = sensors.map fun _ => 1 := by
  rcases segment_cases success with ⟨_, rfl⟩ | ⟨_, placed, position, layout, rfl⟩
  · rfl
  · obtain ⟨message, member⟩ := List.exists_mem_of_ne_nil _ (segment_messages_ne_nil success)
    obtain ⟨index, inside, rfl⟩ := List.getElem_of_mem member
    obtain ⟨segment, _, same⟩ := number_messages_getElem placed position index inside
    have numbered := unnumbered _ member
    rw [same] at numbered
    cases numbered

/-- The first group whose segment has room for the description is the first roomy one. -/
theorem findIdx_hasRoom_eq (ignoring : codec.IgnoresNumbers) (limit : Nat)
    (noObjects : template.objects = []) (number : SegmentNumber)
    (description : List SensorInformation) (groups : List (List (Keyed Key))) :
    (groups.map (Frame.ofTemplate codec limit template).segment).findIdx
        ((Frame.ofTemplate codec limit template).hasRoom description) =
      groups.findIdx (isRoomy codec limit template number description) := by
  rw [List.findIdx_map]
  refine congrArg (List.findIdx · groups) (funext fun group => ?_)
  exact hasRoom_segment ignoring noObjects number description group

/-- In a segmented cycle the description is in the first segment with records that has room for
it, or in an additional last one without records. -/
theorem segment_place (ignoring : codec.IgnoresNumbers) (noObjects : template.objects = [])
    (noNumber : template.management.segment = none)
    (success : segment codec limit template records sensors = .ok segmentation)
    (segmented : ∃ message ∈ segmentation.messages, message.isSegmented = true) :
    ∃ groups : List (List (Keyed Key)),
      (Frame.ofTemplate codec limit template).groups (byPriority records) = .ok groups ∧
        (∀ group ∈ groups, group ≠ []) ∧
        ∀ description ∈ sensors, ∀ number,
          let place := groups.findIdx (isRoomy codec limit template number description)
          segmentation.messages.map (·.objects) =
              (groups.map objectsOf ++
                if place = groups.length then [[]] else []).take Message.segmentLimit ∧
            segmentation.sensorSegment =
              if place < Message.segmentLimit then some (place + 1) else none := by
  obtain ⟨placed, position, ⟨_, groups, grouping, placement⟩, rfl⟩ :=
    layout_of_segmented noNumber success segmented
  refine ⟨groups, grouping.groups_eq, fun group member => (grouping.admits group member).1, ?_⟩
  rintro description ⟨⟩ number
  have place_eq := findIdx_hasRoom_eq ignoring limit noObjects number description groups
  have objects := placement.objects_eq noObjects
  rw [place_eq, List.length_map] at objects
  have positions := placement.position_eq
  rw [Option.map_some, place_eq] at positions
  have loaded : (groups.map (Frame.ofTemplate codec limit template).segment).map
      (·.message.objects) = groups.map objectsOf := by
    rw [List.map_map]
    exact List.map_congr_left fun group _ => Frame.objects_segment noObjects group
  constructor
  · rw [map_objects_number, objects, loaded]
  · rw [positions, sensorSegment_number]

end

/-- At most one message carries the description of the sensors, as it was given, and the
segmentation names that message. In a segmented cycle the description is in the first segment
with records that has room for it, or in an additional last one without records; it is missing
only if that one lies beyond the limit. -/
theorem segment_places_sensors (codec : Codec) (ignoring : codec.IgnoresNumbers) (limit : Nat)
    (template : Message) (records : List (Keyed Key)) (sensors : Option (List SensorInformation))
    (segmentation : Segmentation Key) (noObjects : template.objects = [])
    (noSensors : template.sensors = none) (noNumber : template.management.segment = none)
    (success : segment codec limit template records sensors = .ok segmentation) :
    segmentation.messages.countP (·.describes) ≤ 1 ∧
      (∀ message ∈ segmentation.messages, ∀ description ∈ message.sensors,
        description ∈ sensors) ∧
      (∀ segment, segmentation.sensorSegment = some segment ↔
        ∃ index, segment = index + 1 ∧
          ∃ message ∈ segmentation.messages[index]?, message.describes = true) ∧
      ((∀ message ∈ segmentation.messages, message.isSegmented = false) →
        segmentation.sensorSegment = sensors.map fun _ => 1) ∧
      ((∃ message ∈ segmentation.messages, message.isSegmented = true) →
        ∃ groups : List (List (Keyed Key)),
          (Frame.ofTemplate codec limit template).groups (byPriority records) = .ok groups ∧
            (∀ group ∈ groups, group ≠ []) ∧
            ∀ description ∈ sensors, ∀ number,
              let place := groups.findIdx (isRoomy codec limit template number description)
              segmentation.messages.map (·.objects) =
                  (groups.map objectsOf ++
                    if place = groups.length then [[]] else []).take Message.segmentLimit ∧
                segmentation.sensorSegment =
                  if place < Message.segmentLimit then some (place + 1) else none) := by
  refine ⟨?_, segment_sensors_mem noSensors success, segment_sensorSegment_iff noSensors success,
    segment_sensorSegment_of_unsegmented success,
    segment_place ignoring noObjects noNumber success⟩
  rw [segment_describes noSensors success]
  split <;> omega

/-- An object that was seen by many sensors. -/
def widelySeen (speed : Int) : PerceivedObject :=
  { moving speed with sensors := List.replicate 20 1 }

/-- Four objects, of which the second needs a message of 90 bytes for itself. -/
def fourObjects : List (Keyed Nat) :=
  [(0, moving 5), (1, widelySeen 7), (2, moving 8), (3, moving 9)]

def fourGroups : List (List (Keyed Nat)) :=
  [[(3, moving 9), (2, moving 8)], [(1, widelySeen 7)], [(0, moving 5)]]

/-- There is no room for the description of a sensor besides two objects, but there is besides
the large one. -/
def fourSegments : Segmentation Nat where
  messages :=
    [{ (default : Message).numbered ⟨3, 1⟩ with objects := [moving 9, moving 8] },
      { (default : Message).numbered ⟨3, 2⟩ with
        sensors := some [default]
        objects := [widelySeen 7] },
      { (default : Message).numbered ⟨3, 3⟩ with objects := [moving 5] }]
  included := [3, 2, 1, 0]
  sensorSegment := some 2
  dropped := 0

theorem groups_fourObjects :
    (Frame.ofTemplate .fixedLayout 90 default).groups (byPriority fourObjects) =
      .ok fourGroups := by
  have ordered : byPriority fourObjects = fourObjects.reverse := by
    rw [byPriority, List.mergeSort_of_pairwise (by decide)]
  rw [ordered]
  refine Frame.Grouping.groups_eq ?_
  exact .cons rfl (List.cons_ne_nil _ _) (.cons rfl (List.cons_ne_nil _ _)
    (.cons rfl (List.cons_ne_nil _ _) .nil))

theorem segment_fourObjects :
    segment .fixedLayout 90 default fourObjects (some [default]) = .ok fourSegments := by
  rw [segment, if_neg (by decide), segments, groups_fourObjects]
  rfl

/-- The second segment is the first one with room, and only the second message carries the
description. -/
theorem fourSegments_place_second :
    fourGroups.findIdx (isRoomy .fixedLayout 90 default ⟨3, 2⟩ [default]) = 1 ∧
      fourSegments.messages.map (·.objects) = fourGroups.map objectsOf ∧
      fourSegments.messages.countP (·.describes) ≤ 1 ∧
      ∃ message ∈ fourSegments.messages[1]?, message.describes = true := by
  obtain ⟨atMostOne, _, named, _, segmented⟩ := segment_places_sensors .fixedLayout
    FixedLayout.fixedLayout_ignoresNumbers 90 default fourObjects (some [default]) fourSegments
    rfl rfl rfl segment_fourObjects
  obtain ⟨groups, grouped, _, place⟩ := segmented ⟨_, List.mem_cons_self, rfl⟩
  rw [groups_fourObjects] at grouped
  obtain rfl : fourGroups = groups := Except.ok.inj grouped
  obtain ⟨objects, _⟩ := place [default] rfl ⟨3, 2⟩
  obtain ⟨_, ⟨⟩, second⟩ := (named 2).mp rfl
  exact ⟨by decide, objects, atMostOne, second⟩

end CollectivePerception.Segmentation
