/-
This file describes what the segments of a cycle are made of, apart from how they are
computed. `Grouping` says how records fall into groups, `Placement` how the description
of the sensors joins the segments of these groups. Every property of a segmented cycle
is read off these two relations, and off two facts about them: a segment is always a
copy of the blank message loaded with its own records (`IsPacked`), and the records of
all segments in the order of transmission are the records of the cycle in the order of
their priority.
-/

import CollectivePerception.Segmentation

namespace CollectivePerception.Segmentation.Frame

variable {Key : Type}

/-! ### Segments and the records in them -/

namespace Segment

/-- The records of a segment: each object of its message with the key at the same
position. -/
def entries (segment : Segment Key) : List (Keyed Key) :=
  segment.keys.zip segment.message.objects

/-- The description of the sensors in a segment, if it carries one. -/
def sensors (segment : Segment Key) : Option (List SensorInformation) :=
  segment.message.sensors

/-- A segment with the description of the sensors in its message replaced. -/
def described (segment : Segment Key) (sensors : Option (List SensorInformation)) :
    Segment Key :=
  { segment with message := describe segment.message sensors }

theorem entries_described (segment : Segment Key)
    (sensors : Option (List SensorInformation)) :
    (segment.described sensors).entries = segment.entries := rfl

end Segment

/-- A segment is packed when it is a copy of the blank message that was loaded with
records and got some description of the sensors or none. -/
def IsPacked (frame : Frame) (segment : Segment Key) : Prop :=
  ∃ records sensors, segment = (frame.segment records).described sensors

theorem isPacked_segment (frame : Frame) (group : List (Keyed Key)) :
    frame.IsPacked (frame.segment group) :=
  ⟨group, frame.blank.sensors, rfl⟩

theorem IsPacked.described {frame : Frame} {segment : Segment Key}
    (packed : frame.IsPacked segment) (sensors : Option (List SensorInformation)) :
    frame.IsPacked (segment.described sensors) := by
  obtain ⟨records, previous, rfl⟩ := packed
  exact ⟨records, sensors, rfl⟩

theorem objects_segment {frame : Frame} (noObjects : frame.blank.objects = [])
    (group : List (Keyed Key)) : (frame.segment group).message.objects = group.map (·.2) := by
  show frame.blank.objects ++ group.map (·.2) = group.map (·.2)
  rw [noObjects, List.nil_append]

theorem entries_segment {frame : Frame} (noObjects : frame.blank.objects = [])
    (group : List (Keyed Key)) : (frame.segment group).entries = group := by
  show (group.map (·.1)).zip (frame.blank.objects ++ group.map (·.2)) = group
  rw [noObjects, List.nil_append]
  exact (List.zip_of_prod rfl rfl).symm

/-- The keys of a packed segment are those of its records. -/
theorem IsPacked.keys_eq {frame : Frame} {segment : Segment Key}
    (packed : frame.IsPacked segment) (noObjects : frame.blank.objects = []) :
    segment.keys = segment.entries.map (·.1) := by
  obtain ⟨records, sensors, rfl⟩ := packed
  rw [Segment.entries_described, entries_segment noObjects]
  rfl

/-- The objects of a packed segment are those of its records. -/
theorem IsPacked.objects_eq {frame : Frame} {segment : Segment Key}
    (packed : frame.IsPacked segment) (noObjects : frame.blank.objects = []) :
    segment.message.objects = segment.entries.map (·.2) := by
  obtain ⟨records, sensors, rfl⟩ := packed
  rw [Segment.entries_described, entries_segment noObjects]
  show frame.blank.objects ++ records.map (·.2) = records.map (·.2)
  rw [noObjects, List.nil_append]

/-! ### Groups of records -/

/-- Records fall into groups, each of which is filled from the records that the groups
before it left. -/
inductive Grouping (frame : Frame) : List (Keyed Key) → List (List (Keyed Key)) → Prop
  | nil : Grouping frame [] []
  | cons {records group left : List (Keyed Key)} {later : List (List (Keyed Key))}
      (filled : frame.fill [] records = (group, left)) (nonempty : group ≠ [])
      (grouped : Grouping frame left later) : Grouping frame records (group :: later)

section

variable {frame : Frame} {records : List (Keyed Key)} {groups : List (List (Keyed Key))}

/-- The groups that a computation returns are those of the relation. -/
theorem grouping_of_groups (success : frame.groups records = .ok groups) :
    frame.Grouping records groups := by
  induction records using Frame.groups.induct frame generalizing groups with
  | case1 =>
    rw [Frame.groups] at success
    cases success
    exact .nil
  | case2 record rest left stuck =>
    rw [Frame.groups] at success
    split at success
    · cases success
    · rename_i filled
      rw [stuck] at filled
      cases filled
  | case3 record rest first others left filled inductionHypothesis =>
    rw [Frame.groups] at success
    split at success
    · cases success
    · rename_i again
      rw [filled] at again
      cases again
      cases later : frame.groups left with
      | error cause =>
        rw [later] at success
        cases success
      | ok rest =>
        rw [later] at success
        cases success
        exact .cons filled (List.cons_ne_nil _ _) (inductionHypothesis later)

/-- The relation leaves the computation no other result. -/
theorem Grouping.groups_eq (grouping : frame.Grouping records groups) :
    frame.groups records = .ok groups := by
  induction grouping with
  | nil => rw [Frame.groups]
  | @cons records group left later filled nonempty _ inductionHypothesis =>
    cases records with
    | nil =>
      cases filled
      exact absurd rfl nonempty
    | cons record rest =>
      rw [Frame.groups]
      split
      · rename_i stuck
        rw [filled] at stuck
        cases stuck
        exact absurd rfl nonempty
      · rename_i again
        rw [filled] at again
        cases again
        rw [inductionHypothesis]
        rfl

/-- A group that a segment may hold: not more records than the format allows, and small
enough if there are any. -/
def Admits (frame : Frame) (group : List (Keyed Key)) : Prop :=
  group.length ≤ Message.objectLimit ∧
    (group ≠ [] → frame.fits (load frame.blank group) = true)

theorem admits_nil (frame : Frame) : frame.Admits ([] : List (Keyed Key)) :=
  ⟨Nat.zero_le _, fun nonempty => absurd rfl nonempty⟩

theorem admits_fill {taken : List (Keyed Key)} (admitted : frame.Admits taken)
    (records : List (Keyed Key)) : frame.Admits (frame.fill taken records).1 := by
  induction records generalizing taken with
  | nil => exact admitted
  | cons record rest inductionHypothesis =>
    unfold fill
    split
    · rename_i room
      refine inductionHypothesis ⟨?_, fun _ => room.2⟩
      rw [List.length_append, List.length_singleton]
      exact room.1
    · exact admitted

theorem append_of_fill {group left : List (Keyed Key)}
    (filled : frame.fill [] records = (group, left)) : group ++ left = records := by
  have whole := frame.fill_append [] records
  rwa [filled, List.nil_append] at whole

/-- Grouping neither loses nor reorders a record. -/
theorem Grouping.flatten_eq (grouping : frame.Grouping records groups) :
    groups.flatten = records := by
  induction grouping with
  | nil => rfl
  | cons filled _ _ inductionHypothesis =>
    rw [List.flatten_cons, inductionHypothesis, append_of_fill filled]

theorem Grouping.admits (grouping : frame.Grouping records groups) :
    ∀ group ∈ groups, group ≠ [] ∧ frame.Admits group := by
  induction grouping with
  | nil =>
    intro group member
    cases member
  | @cons records group left later filled nonempty _ inductionHypothesis =>
    intro other member
    rcases List.mem_cons.mp member with rfl | inner
    · have admitted := admits_fill frame.admits_nil records
      rw [filled] at admitted
      exact ⟨nonempty, admitted⟩
    · exact inductionHypothesis other inner

/-- No group is empty, so there are not more groups than records. -/
theorem Grouping.count_le (grouping : frame.Grouping records groups) :
    groups.length ≤ records.length := by
  induction grouping with
  | nil => exact Nat.le_refl 0
  | @cons records group left later filled nonempty _ inductionHypothesis =>
    have some : 0 < group.length := List.length_pos_iff.mpr nonempty
    rw [List.length_cons, ← append_of_fill filled, List.length_append]
    omega

end

/-! ### The place of the description -/

/-- Whether a segment stays small enough with the description of the sensors in it. -/
def hasRoom (frame : Frame) (sensors : List SensorInformation) (segment : Segment Key) :
    Bool :=
  frame.fits (segment.described (some sensors)).message

/-- The segment that holds nothing but the description of the sensors. -/
def lone (frame : Frame) (sensors : List SensorInformation) : Segment Key :=
  ⟨describe frame.blank (some sensors), []⟩

theorem isPacked_lone (frame : Frame) (sensors : List SensorInformation) :
    frame.IsPacked (frame.lone sensors : Segment Key) := by
  refine ⟨[], some sensors, ?_⟩
  show _ = Segment.mk (describe (load frame.blank []) (some sensors)) []
  rw [load, List.map_nil, List.append_nil]
  rfl

/-- The description of the sensors is not needed, or joins the first segment with room
for it, or gets a segment of its own after all others. -/
inductive Placement (frame : Frame) (segments : List (Segment Key)) :
    Option (List SensorInformation) → List (Segment Key) → Option Nat → Prop
  | unneeded : Placement frame segments none segments none
  | joined {sensors : List SensorInformation} {before after : List (Segment Key)}
      {chosen : Segment Key} (apart : segments = before ++ chosen :: after)
      (full : ∀ segment ∈ before, frame.hasRoom sensors segment = false)
      (room : frame.hasRoom sensors chosen = true) :
      Placement frame segments (some sensors)
        (before.map (·.described none) ++ chosen.described (some sensors) :: after)
        (some before.length)
  | appended {sensors : List SensorInformation}
      (full : ∀ segment ∈ segments, frame.hasRoom sensors segment = false)
      (small : frame.fits (frame.lone sensors : Segment Key).message = true) :
      Placement frame segments (some sensors)
        (segments.map (·.described none) ++ [frame.lone sensors]) (some segments.length)

theorem attach_cons (frame : Frame) (sensors : List SensorInformation)
    (segment : Segment Key) (rest : List (Segment Key)) :
    frame.attach sensors (segment :: rest) =
      if frame.hasRoom sensors segment = true then
        (segment.described (some sensors) :: rest, some 0)
      else
        (segment.described none :: (frame.attach sensors rest).1,
          (frame.attach sensors rest).2.map (· + 1)) := rfl

/-- Attaching the description leaves all segments without it, or puts it into the first
one with room for it. -/
theorem attach_cases (frame : Frame) (sensors : List SensorInformation)
    (segments : List (Segment Key)) :
    (∀ segment ∈ segments, frame.hasRoom sensors segment = false) ∧
        frame.attach sensors segments = (segments.map (·.described none), none) ∨
      ∃ before chosen after, segments = before ++ chosen :: after ∧
        (∀ segment ∈ before, frame.hasRoom sensors segment = false) ∧
        frame.hasRoom sensors chosen = true ∧
        frame.attach sensors segments =
          (before.map (·.described none) ++ chosen.described (some sensors) :: after,
            some before.length) := by
  induction segments with
  | nil => exact .inl ⟨fun _ member => absurd member List.not_mem_nil, rfl⟩
  | cons segment rest inductionHypothesis =>
    rw [attach_cons]
    cases room : frame.hasRoom sensors segment with
    | true =>
      exact .inr ⟨[], segment, rest, rfl, fun _ member => absurd member List.not_mem_nil, room,
        rfl⟩
    | false =>
      rw [if_neg Bool.false_ne_true]
      rcases inductionHypothesis with ⟨full, result⟩ |
        ⟨before, chosen, after, apart, full, chosenRoom, result⟩
      · refine .inl ⟨List.forall_mem_cons.mpr ⟨room, full⟩, ?_⟩
        rw [result]
        rfl
      · refine .inr ⟨segment :: before, chosen, after, by rw [apart, List.cons_append],
          List.forall_mem_cons.mpr ⟨room, full⟩, chosenRoom, ?_⟩
        rw [result]
        rfl

section

variable {frame : Frame} {segments placed : List (Segment Key)}
  {sensors : Option (List SensorInformation)} {position : Option Nat}

theorem placement_of_place (success : frame.place segments sensors = .ok (placed, position)) :
    frame.Placement segments sensors placed position := by
  cases sensors with
  | none =>
    cases success
    exact .unneeded
  | some sensors =>
    rcases frame.attach_cases sensors segments with ⟨full, result⟩ |
      ⟨before, chosen, after, apart, full, room, result⟩
    · simp only [place, result] at success
      split at success
      · rename_i small
        cases success
        exact .appended full small
      · cases success
    · simp only [place, result] at success
      cases success
      exact .joined apart full room

/-- Placing the description changes no record. -/
theorem Placement.entries_eq (placement : frame.Placement segments sensors placed position) :
    placed.flatMap Segment.entries = segments.flatMap Segment.entries := by
  have stripped (part : List (Segment Key)) :
      (part.map (·.described none)).flatMap Segment.entries = part.flatMap Segment.entries := by
    rw [List.flatMap_map]
    rfl
  cases placement with
  | unneeded => rfl
  | joined apart _ _ =>
    rw [apart, List.flatMap_append, List.flatMap_append, stripped]
    rfl
  | appended _ _ =>
    rw [List.flatMap_append, stripped]
    exact List.append_nil _

/-- What the description of the sensors cannot change holds of all placed segments if it
holds of the segments before and of the lone one. -/
theorem Placement.forall_mem (placement : frame.Placement segments sensors placed position)
    {holds : Segment Key → Prop} (known : ∀ segment ∈ segments, holds segment)
    (described : ∀ segment sensors, holds segment → holds (segment.described sensors))
    (lone : ∀ sensors, holds (frame.lone sensors)) :
    ∀ segment ∈ placed, holds segment := by
  have stripped (part : List (Segment Key)) (each : ∀ segment ∈ part, holds segment) :
      ∀ segment ∈ part.map (·.described none), holds segment := by
    intro segment member
    obtain ⟨origin, inside, rfl⟩ := List.mem_map.mp member
    exact described origin none (each origin inside)
  cases placement with
  | unneeded => exact known
  | joined apart _ _ =>
    rw [apart, List.forall_mem_append, List.forall_mem_cons] at known
    rw [List.forall_mem_append, List.forall_mem_cons]
    exact ⟨stripped _ known.1, described _ _ known.2.1, known.2.2⟩
  | appended _ _ =>
    rw [List.forall_mem_append, List.forall_mem_singleton]
    exact ⟨stripped _ known, lone _⟩

/-- A segment without a description is not changed by taking it out. -/
theorem Segment.described_none {segment : Segment Key}
    (undescribed : segment.sensors = none) : segment.described none = segment := by
  show Segment.mk { segment.message with sensors := none } segment.keys = segment
  rw [← undescribed]
  rfl

theorem Segment.map_described_none {segments : List (Segment Key)}
    (undescribed : ∀ segment ∈ segments, segment.sensors = none) :
    segments.map (·.described none) = segments := by
  calc
    segments.map (·.described none) = segments.map id :=
      List.map_congr_left fun segment member => described_none (undescribed segment member)
    _ = segments := List.map_id segments

/-- The description goes into segments that stay small enough with it. -/
theorem Placement.fits (placement : frame.Placement segments sensors placed position)
    (undescribed : ∀ segment ∈ segments, segment.sensors = none)
    (small : ∀ segment ∈ segments, frame.fits segment.message = true) :
    ∀ segment ∈ placed, frame.fits segment.message = true := by
  cases placement with
  | unneeded => exact small
  | joined apart _ room =>
    rw [apart, List.forall_mem_append, List.forall_mem_cons] at undescribed small
    rw [Segment.map_described_none undescribed.1, List.forall_mem_append, List.forall_mem_cons]
    exact ⟨small.1, room, small.2.2⟩
  | appended _ smallLone =>
    rw [Segment.map_described_none undescribed, List.forall_mem_append,
      List.forall_mem_singleton]
    exact ⟨small, smallLone⟩

/-- The description takes at most one more segment. -/
theorem Placement.count_le (placement : frame.Placement segments sensors placed position) :
    placed.length ≤ segments.length + 1 := by
  cases placement with
  | unneeded => exact Nat.le_succ _
  | joined apart _ _ =>
    rw [apart, List.length_append, List.length_append, List.length_map, List.length_cons,
      List.length_cons]
    exact Nat.le_succ _
  | appended _ _ =>
    refine Nat.le_of_eq ?_
    rw [List.length_append, List.length_map, List.length_singleton]

/-- Exactly one segment carries the description of the sensors, if there is one. -/
theorem Placement.sensors_eq (placement : frame.Placement segments sensors placed position)
    (undescribed : ∀ segment ∈ segments, segment.sensors = none) :
    placed.filterMap Segment.sensors = sensors.toList := by
  have absent (part : List (Segment Key))
      (known : ∀ segment ∈ part, segment.sensors = none) :
      part.filterMap Segment.sensors = [] :=
    List.filterMap_eq_nil_iff.mpr known
  cases placement with
  | unneeded => exact absent segments undescribed
  | @joined sensors before after chosen apart _ _ =>
    have carried : (chosen.described (some sensors)).sensors = some sensors := rfl
    rw [apart, List.forall_mem_append, List.forall_mem_cons] at undescribed
    rw [Segment.map_described_none undescribed.1, List.filterMap_append,
      absent _ undescribed.1, List.nil_append, List.filterMap_cons_some carried,
      absent _ undescribed.2.2]
    rfl
  | appended _ _ =>
    rw [Segment.map_described_none undescribed, List.filterMap_append,
      absent _ undescribed]
    rfl

end

/-! ### The whole -/

/-- The segments of a cycle come from groups of the records in the order of their
priority, with the description of the sensors in its place. -/
def LaidOut (frame : Frame) (records : List (Keyed Key))
    (sensors : Option (List SensorInformation)) (placed : List (Segment Key))
    (position : Option Nat) : Prop :=
  placed ≠ [] ∧ ∃ groups, frame.Grouping (byPriority records) groups ∧
    frame.Placement (groups.map frame.segment) sensors placed position

theorem laidOut_of_segments {frame : Frame} {records : List (Keyed Key)}
    {sensors : Option (List SensorInformation)} {placed : List (Segment Key)}
    {position : Option Nat} (success : segments frame records sensors = .ok (placed, position)) :
    frame.LaidOut records sensors placed position := by
  unfold segments at success
  cases grouped : frame.groups (byPriority records) with
  | error cause =>
    rw [grouped] at success
    cases success
  | ok groups =>
    rw [grouped] at success
    cases attached : frame.place (groups.map frame.segment) sensors with
    | error cause =>
      simp only [bind, Except.bind, attached] at success
      cases success
    | ok result =>
      simp only [bind, Except.bind, attached] at success
      split at success
      · cases success
      · rename_i nonempty
        cases success
        refine ⟨fun empty => nonempty ?_, groups, grouping_of_groups grouped,
          placement_of_place attached⟩
        rw [empty, List.isEmpty_nil]

variable {frame : Frame} {records : List (Keyed Key)}
  {sensors : Option (List SensorInformation)} {placed : List (Segment Key)}
  {position : Option Nat}

theorem LaidOut.isPacked (layout : frame.LaidOut records sensors placed position) :
    ∀ segment ∈ placed, frame.IsPacked segment := by
  obtain ⟨_, groups, _, placement⟩ := layout
  refine placement.forall_mem (fun segment member => ?_)
    (fun _ sensors packed => packed.described sensors) frame.isPacked_lone
  obtain ⟨group, _, rfl⟩ := List.mem_map.mp member
  exact frame.isPacked_segment group

/-- The records of all segments, in the order of transmission, are those of the cycle in
the order of their priority. -/
theorem LaidOut.entries_eq (layout : frame.LaidOut records sensors placed position)
    (noObjects : frame.blank.objects = []) :
    placed.flatMap Segment.entries = byPriority records := by
  obtain ⟨_, groups, grouping, placement⟩ := layout
  rw [placement.entries_eq, List.flatMap_map, ← grouping.flatten_eq, List.flatMap_def]
  refine congrArg List.flatten ?_
  calc
    groups.map (fun group => (frame.segment group).entries) = groups.map id :=
      List.map_congr_left fun group _ => entries_segment noObjects group
    _ = groups := List.map_id groups

/-- Every segment is small enough with the number that it starts with. -/
theorem LaidOut.fits (layout : frame.LaidOut records sensors placed position)
    (undescribed : frame.blank.sensors = none) :
    ∀ segment ∈ placed, frame.fits segment.message = true := by
  obtain ⟨_, groups, grouping, placement⟩ := layout
  refine placement.fits (fun segment member => ?_) fun segment member => ?_
  · obtain ⟨group, _, rfl⟩ := List.mem_map.mp member
    exact undescribed
  · obtain ⟨group, inside, rfl⟩ := List.mem_map.mp member
    obtain ⟨nonempty, admitted⟩ := grouping.admits group inside
    exact admitted.2 nonempty

theorem LaidOut.sensors_eq (layout : frame.LaidOut records sensors placed position)
    (undescribed : frame.blank.sensors = none) :
    placed.filterMap Segment.sensors = sensors.toList := by
  obtain ⟨_, groups, _, placement⟩ := layout
  refine placement.sensors_eq fun segment member => ?_
  obtain ⟨group, _, rfl⟩ := List.mem_map.mp member
  exact undescribed

/-- No segment holds more records than the format allows. -/
theorem LaidOut.entries_length_le (layout : frame.LaidOut records sensors placed position)
    (noObjects : frame.blank.objects = []) :
    ∀ segment ∈ placed, segment.entries.length ≤ Message.objectLimit := by
  obtain ⟨_, groups, grouping, placement⟩ := layout
  refine placement.forall_mem (fun segment member => ?_) (fun _ _ bounded => bounded)
    fun _ => Nat.zero_le _
  obtain ⟨group, inside, rfl⟩ := List.mem_map.mp member
  rw [entries_segment noObjects]
  exact (grouping.admits group inside).2.1

end CollectivePerception.Segmentation.Frame
