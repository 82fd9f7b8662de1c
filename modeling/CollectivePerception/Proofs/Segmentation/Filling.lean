/-
This file proves that no segment is closed early. A segment that is followed by another one
with records is full: it holds as many records as the format allows, or the next record would
have made it too large, whether or not the description of the sensors joined it later
(`Frame.IsFull`). If all records have one size, then every segment but the last holds as many
of them as any segment can (`Frame.capacity`), so the records cannot be distributed over fewer
segments.

The description of the sensors hides the groups behind the segments. It is taken out again in
`Frame.LaidOut.stripped_eq`, from which both results are read.
-/

import CollectivePerception.Proofs.Message.Size
import CollectivePerception.Proofs.Segmentation.Bounds
import CollectivePerception.Proofs.Segmentation.Order
import Mathlib.Data.List.Chain
import Mathlib.Order.Bounds.Defs

namespace CollectivePerception

/-- Whether a message carries objects. -/
def Message.isLoaded (message : Message) : Bool := !message.objects.isEmpty

namespace Segmentation

variable {Key : Type}

namespace Frame

/-! ### Full segments -/

/-- A group is full if the format allows no further record in a segment, or if the next record
would make the segment too large. -/
def IsFull (frame : Frame) (group : List (Keyed Key)) (next : Keyed Key) : Prop :=
  group.length = Message.objectLimit ∨ frame.fits (load frame.blank (group ++ [next])) = false

variable {frame : Frame} {records : List (Keyed Key)} {groups : List (List (Keyed Key))}

/-- Filling a segment stops before a record only if the segment is full. -/
theorem isFull_of_fill {taken group left : List (Keyed Key)} {next : Keyed Key}
    (few : taken.length ≤ Message.objectLimit)
    (filled : frame.fill taken records = (group, next :: left)) : frame.IsFull group next := by
  induction records generalizing taken with
  | nil => cases filled
  | cons record rest inductionHypothesis =>
    unfold fill at filled
    split at filled
    · rename_i room
      refine inductionHypothesis ?_ filled
      rw [List.length_append, List.length_singleton]
      exact room.1
    · rename_i stopped
      cases filled
      rcases Nat.lt_or_eq_of_le few with below | same
      · exact .inr (Bool.eq_false_iff.mpr fun small => stopped ⟨below, small⟩)
      · exact .inl same

/-- Every group that is followed by another one is full. -/
theorem Grouping.isFull (grouping : frame.Grouping records groups) :
    groups.IsChain fun group later => ∀ next ∈ later.head?, frame.IsFull group next := by
  induction grouping with
  | nil => exact .nil
  | @cons records group left later filled _ grouped inductionHypothesis =>
    cases grouped with
    | nil => exact .singleton group
    | @cons _ second remaining others filledNext _ _ =>
      refine .cons_cons (fun next first => ?_) inductionHypothesis
      obtain ⟨rest, rfl⟩ := List.head?_eq_some_iff.mp first
      have whole := append_of_fill filledNext
      rw [List.cons_append] at whole
      exact isFull_of_fill (Nat.zero_le _) (whole ▸ filled)

/-- If full groups have at least some number of records, then so many records as come before
the last group's are all taken by groups of that number. -/
theorem Grouping.lt_length (grouping : frame.Grouping records groups) {uniform : Keyed Key → Prop}
    {bound : Nat}
    (full : ∀ group next, (∀ entry ∈ group ++ [next], uniform entry) → frame.IsFull group next →
      bound ≤ group.length)
    (each : ∀ entry ∈ records, uniform entry) (some : records ≠ []) :
    (groups.length - 1) * bound < records.length := by
  induction grouping with
  | nil => exact absurd rfl some
  | @cons records group left later filled _ grouped inductionHypothesis =>
    have whole := append_of_fill filled
    cases left with
    | nil =>
      cases grouped with
      | nil =>
        rw [List.length_singleton, Nat.sub_self, Nat.zero_mul]
        exact List.length_pos_iff.mpr some
      | cons none nonempty _ =>
        cases none
        exact absurd rfl nonempty
    | cons next rest =>
      have enough : bound ≤ group.length := by
        have start : group ++ [next] <+: records :=
          ⟨rest, by rw [List.append_assoc, List.singleton_append, whole]⟩
        exact full group next (fun entry member => each entry (start.subset member))
          (isFull_of_fill (Nat.zero_le _) filled)
      have remaining := inductionHypothesis
        (fun entry member => each entry (whole ▸ List.mem_append_right group member))
        (List.cons_ne_nil next rest)
      have several : later ≠ [] := by
        rintro rfl
        cases grouped.flatten_eq
      obtain ⟨count, counted⟩ : ∃ count, later.length = count + 1 :=
        Nat.exists_eq_succ_of_ne_zero (fun none => several (List.length_eq_zero_iff.mp none))
      rw [← whole, List.length_append, List.length_cons, counted, Nat.add_sub_cancel,
        Nat.add_mul, Nat.one_mul]
      rw [counted, Nat.add_sub_cancel] at remaining
      omega

/-! ### Segments without the description -/

/-- Without the description of the sensors the segments of a layout are those of its groups,
and perhaps one more that carries nothing. -/
theorem LaidOut.stripped_eq {sensors : Option (List SensorInformation)}
    {placed : List (Segment Key)} {position : Option Nat}
    (layout : frame.LaidOut records sensors placed position)
    (noObjects : frame.blank.objects = []) (undescribed : frame.blank.sensors = none) :
    ∃ groups extra, frame.Grouping (byPriority records) groups ∧
      placed.map (·.described none) = groups.map frame.segment ++ extra ∧
      ∀ segment ∈ extra, segment.message.objects = [] := by
  obtain ⟨_, groups, grouping, placement⟩ := layout
  have bare : ∀ segment ∈ groups.map frame.segment, segment.sensors = none := by
    intro segment member
    obtain ⟨group, _, rfl⟩ := List.mem_map.mp member
    exact undescribed
  have twice (part : List (Segment Key)) :
      (part.map (·.described none)).map (·.described none) = part.map (·.described none) := by
    rw [List.map_map]
    rfl
  refine ⟨groups, ?_⟩
  cases placement with
  | unneeded =>
    refine ⟨[], grouping, ?_, List.forall_mem_nil _⟩
    rw [Segment.map_described_none bare, List.append_nil]
  | @joined sensors before after chosen apart _ _ =>
    refine ⟨[], grouping, ?_, List.forall_mem_nil _⟩
    rw [List.append_nil, ← Segment.map_described_none bare, apart, List.map_append,
      List.map_append, twice, List.map_cons, List.map_cons]
    rfl
  | @appended sensors _ _ =>
    refine ⟨[(frame.lone sensors).described none], grouping, ?_,
      List.forall_mem_singleton.mpr noObjects⟩
    rw [List.map_append, twice, Segment.map_described_none bare, List.map_singleton]

end Frame

/-! ### The messages of a layout -/

/-- A message without its description of the sensors and with one more object. -/
def extended (message : Message) (record : PerceivedObject) : Message :=
  { message with sensors := none, objects := message.objects ++ [record] }

/-- A message is full before another one if the format allows no further object in it, or if
the first object of the other one would make it too large. -/
def IsFullBefore (codec : Codec) (limit : Nat) (message following : Message) : Prop :=
  ∀ next ∈ following.objects.head?, message.objects.length = Message.objectLimit ∨
    limit < codec.encodedSize (extended message next)

section

variable {frame : Frame} {records : List (Keyed Key)}
  {sensors : Option (List SensorInformation)} {placed : List (Frame.Segment Key)}
  {position : Option Nat}

theorem isFullBefore_of_isFull (noObjects : frame.blank.objects = [])
    (undescribed : frame.blank.sensors = none) {group later : List (Keyed Key)}
    (full : ∀ next ∈ later.head?, frame.IsFull group next) :
    IsFullBefore frame.codec frame.limit (frame.segment group).message
      (frame.segment later).message := by
  intro next first
  rw [Frame.objects_segment noObjects, List.head?_map] at first
  obtain ⟨entry, head, rfl⟩ := Option.map_eq_some_iff.mp first
  refine (full entry head).imp (fun many => ?_) fun large => ?_
  · rw [Frame.objects_segment noObjects, List.length_map, many]
  · have same : extended (frame.segment group).message entry.2 =
        load frame.blank (group ++ [entry]) := by
      rw [extended, Frame.objects_segment noObjects, ← undescribed, load, noObjects,
        List.nil_append, List.map_append]
      rfl
    rw [same]
    exact Nat.lt_of_not_le (of_decide_eq_false large)

/-- Every segment of a layout is full before the next one. -/
theorem Frame.LaidOut.isFullBefore (layout : frame.LaidOut records sensors placed position)
    (noObjects : frame.blank.objects = []) (undescribed : frame.blank.sensors = none) :
    placed.IsChain fun segment following =>
      IsFullBefore frame.codec frame.limit segment.message following.message := by
  obtain ⟨groups, extra, grouping, stripped, empty⟩ := layout.stripped_eq noObjects undescribed
  have before (segment following : Frame.Segment Key) (member : following ∈ extra) :
      IsFullBefore frame.codec frame.limit segment.message following.message := by
    intro next first
    rw [empty following member] at first
    cases first
  have whole : (groups.map frame.segment ++ extra).IsChain fun segment following =>
      IsFullBefore frame.codec frame.limit segment.message following.message := by
    refine List.isChain_append.mpr ⟨?_, ?_, ?_⟩
    · exact (List.isChain_map frame.segment).mpr
        (grouping.isFull.imp fun _ _ => isFullBefore_of_isFull noObjects undescribed)
    · refine (List.pairwise_of_forall_mem_list ?_).isChain
      exact fun segment _ following => before segment following
    · exact fun segment _ following first => before segment following (List.mem_of_mem_head? first)
  rw [← stripped] at whole
  exact (List.isChain_map (Frame.Segment.described · none)).mp whole

/-- Numbers do not change which messages are full. -/
theorem number_isFullBefore (ignoring : frame.codec.IgnoresNumbers)
    (layout : frame.LaidOut records sensors placed position)
    (noObjects : frame.blank.objects = []) (undescribed : frame.blank.sensors = none)
    (segmented : frame.blank.isSegmented = true) :
    (number placed position).messages.IsChain (IsFullBefore frame.codec frame.limit) := by
  have kept := (layout.isFullBefore noObjects undescribed).take Message.segmentLimit
  rw [number]
  dsimp only
  rw [← List.zipIdx_map_fst 0 (placed.take Message.segmentLimit), List.isChain_map] at kept
  refine (List.isChain_map _).mpr (kept.imp_of_mem_imp fun early late inside _ full => ?_)
  intro next first
  refine (full next first).imp_right fun large => ?_
  have marked : (extended early.1.message next).isSegmented = true := by
    obtain ⟨group, description, same⟩ :=
      layout.isPacked early.1 (List.mem_of_mem_take (List.fst_mem_of_mem_zipIdx inside))
    rw [same]
    exact segmented
  exact Nat.lt_of_lt_of_eq large (ignoring _ _ marked).symm

end

/-! ### Records of one size -/

/-- How many records of a size a segment of the template holds under the fixed layout. -/
def capacity (limit : Nat) (template : Message) (size : Nat) : Nat :=
  min Message.objectLimit
    ((limit - FixedLayout.encodedSize (template.numbered ⟨1, 1⟩) - 1) / size)

/-- Segments of a template that together carry some records, each within the limits. -/
structure Distributes (limit : Nat) (template : Message) (records : List (Keyed Key))
    (messages : List Message) : Prop where
  copied : ∀ message ∈ messages, ∃ number description objects, message =
    { template.numbered number with sensors := description, objects := objects }
  small : ∀ message ∈ messages, FixedLayout.encodedSize message ≤ limit
  few : ∀ message ∈ messages, message.objects.length ≤ Message.objectLimit
  complete : (messages.flatMap (·.objects)).Perm (records.map (·.2))

theorem totalOf_of_forall_eq {size : Nat} {counts : List Nat}
    (equal : ∀ count ∈ counts, count = size) : totalOf counts = counts.length * size := by
  rw [List.eq_replicate_of_mem equal, List.length_replicate]
  induction counts.length with
  | zero => rw [List.replicate_zero, totalOf_nil, Nat.zero_mul]
  | succ count inductionHypothesis =>
    rw [List.replicate_succ, totalOf_cons, inductionHypothesis, Nat.add_mul, Nat.one_mul,
      Nat.add_comm]

/-- The size of a segment with records of one size. -/
theorem encodedSize_of_uniform {template : Message} (noObjects : template.objects = [])
    (noSensors : template.sensors = none) {size : Nat} {objects : List PerceivedObject}
    (some : objects ≠ []) (uniform : ∀ record ∈ objects, FixedLayout.recordSize record = size)
    (number : SegmentNumber) (description : Option (List SensorInformation)) :
    FixedLayout.encodedSize
        { template.numbered number with sensors := description, objects := objects } =
      FixedLayout.encodedSize (template.numbered ⟨1, 1⟩) + FixedLayout.sensorsSize description +
        (1 + objects.length * size) := by
  have equal : ∀ count ∈ objects.map FixedLayout.recordSize, count = size := by
    intro count member
    obtain ⟨record, inside, rfl⟩ := List.mem_map.mp member
    exact uniform record inside
  have total : totalOf (objects.map FixedLayout.recordSize) = objects.length * size := by
    rw [totalOf_of_forall_eq equal, List.length_map]
  have blankSensors : (template.numbered ⟨1, 1⟩).sensors = none := noSensors
  have blankObjects : (template.numbered ⟨1, 1⟩).objects = [] := noObjects
  rw [FixedLayout.encodedSize, FixedLayout.encodedSize, blankSensors, blankObjects]
  simp only [FixedLayout.objectsSize, List.isEmpty_eq_false_iff.mpr some, total,
    List.isEmpty_nil, if_true, Bool.false_eq_true, if_false]
  show 19 + 2 + FixedLayout.vehicleSize template.vehicle + _ + _ =
    19 + 2 + FixedLayout.vehicleSize template.vehicle + 0 + 0 + _ + _
  omega

section

variable {limit : Nat} {template : Message} {records : List (Keyed Key)} {size : Nat}

/-- No segment within the limits holds more than its capacity. -/
theorem length_le_capacity (noObjects : template.objects = []) (noSensors : template.sensors = none)
    (positive : 0 < size) {objects : List PerceivedObject}
    (uniform : ∀ record ∈ objects, FixedLayout.recordSize record = size) {number : SegmentNumber}
    {description : Option (List SensorInformation)}
    (few : objects.length ≤ Message.objectLimit)
    (small : FixedLayout.encodedSize
      { template.numbered number with sensors := description, objects := objects } ≤ limit) :
    objects.length ≤ capacity limit template size := by
  by_cases some : objects = []
  · rw [some]
    exact Nat.zero_le _
  · rw [encodedSize_of_uniform noObjects noSensors some uniform] at small
    refine Nat.le_min.mpr ⟨few, (Nat.le_div_iff_mul_le positive).mpr ?_⟩
    omega

/-- A full group holds as many records as a segment can. -/
theorem capacity_le_of_isFull (noObjects : template.objects = [])
    (noSensors : template.sensors = none) (positive : 0 < size) {group : List (Keyed Key)}
    {next : Keyed Key}
    (uniform : ∀ entry ∈ group ++ [next], FixedLayout.recordSize entry.2 = size)
    (full : (Frame.ofTemplate .fixedLayout limit template).IsFull group next) :
    capacity limit template size ≤ group.length := by
  rcases full with many | large
  · rw [many]
    exact Nat.min_le_left _ _
  · refine Nat.le_trans (Nat.min_le_right _ _) ?_
    have loaded : load (template.numbered ⟨1, 1⟩) (group ++ [next]) =
        { template.numbered ⟨1, 1⟩ with
          sensors := none
          objects := (group ++ [next]).map (·.2) } := by
      have objects : (template.numbered ⟨1, 1⟩).objects = [] := noObjects
      rw [load, objects, ← noSensors]
      rfl
    have exceeds : limit < FixedLayout.encodedSize
        (load (template.numbered ⟨1, 1⟩) (group ++ [next])) :=
      Nat.lt_of_not_le (of_decide_eq_false large)
    have equal : ∀ record ∈ (group ++ [next]).map (·.2), FixedLayout.recordSize record = size := by
      intro record member
      obtain ⟨entry, inside, rfl⟩ := List.mem_map.mp member
      exact uniform entry inside
    have some : (group ++ [next]).map (·.2) ≠ [] := by
      rw [List.map_append]
      exact List.append_ne_nil_of_right_ne_nil _ (List.cons_ne_nil _ _)
    rw [loaded, encodedSize_of_uniform noObjects noSensors some equal, List.length_map,
      List.length_append, List.length_singleton] at exceeds
    refine Nat.lt_succ_iff.mp ((Nat.div_lt_iff_lt_mul positive).mpr ?_)
    have product : 0 < (group.length + 1) * size := Nat.mul_pos (Nat.succ_pos _) positive
    have nothing : FixedLayout.sensorsSize none = 0 := rfl
    rw [Nat.succ_eq_add_one]
    omega

/-- The records of a distribution are at most as many as its loaded segments can hold. -/
theorem Distributes.length_le {messages : List Message}
    (distributes : Distributes limit template records messages)
    (noObjects : template.objects = []) (noSensors : template.sensors = none)
    (positive : 0 < size) (uniform : ∀ entry ∈ records, FixedLayout.recordSize entry.2 = size) :
    records.length ≤ messages.countP Message.isLoaded * capacity limit template size := by
  have each : ∀ message ∈ messages,
      message.objects.length ≤ capacity limit template size := by
    intro message member
    obtain ⟨number, description, objects, rfl⟩ := distributes.copied message member
    refine length_le_capacity noObjects noSensors positive (fun record inside => ?_)
      (distributes.few _ member) (distributes.small _ member)
    obtain ⟨entry, among, rfl⟩ := List.mem_map.mp
      (distributes.complete.subset (List.mem_flatMap_of_mem member inside))
    exact uniform entry among
  rw [← List.length_map (·.2), ← distributes.complete.length_eq]
  clear distributes
  induction messages with
  | nil => exact Nat.zero_le _
  | cons message later inductionHypothesis =>
    obtain ⟨first, others⟩ := List.forall_mem_cons.mp each
    have remaining := inductionHypothesis others
    rw [List.flatMap_cons, List.length_append]
    by_cases empty : message.objects = []
    · have idle : ¬message.isLoaded = true := by
        rw [Message.isLoaded, empty]
        exact Bool.false_ne_true
      rw [List.countP_cons_of_neg idle, empty, List.length_nil, Nat.zero_add]
      exact remaining
    · have loaded : message.isLoaded = true := by
        rw [Message.isLoaded, List.isEmpty_eq_false_iff.mpr empty, Bool.not_false]
      rw [List.countP_cons_of_pos loaded, Nat.add_mul, Nat.one_mul]
      omega

/-- The groups of a cycle are not more than the loaded segments of any distribution. -/
theorem Frame.Grouping.length_le {groups : List (List (Keyed Key))} {ordered : List (Keyed Key)}
    (grouping : (Frame.ofTemplate .fixedLayout limit template).Grouping ordered groups)
    (permutation : ordered.Perm records) (noObjects : template.objects = [])
    (noSensors : template.sensors = none)
    (uniform : ∀ entry ∈ records, FixedLayout.recordSize entry.2 = size)
    {messages : List Message} (distributes : Distributes limit template records messages) :
    groups.length ≤ messages.countP Message.isLoaded := by
  cases groups with
  | nil => exact Nat.zero_le _
  | cons group later =>
    have some : ordered ≠ [] := by
      intro nothing
      have whole := grouping.flatten_eq
      rw [nothing, List.flatten_cons, List.append_eq_nil_iff] at whole
      exact (grouping.admits group List.mem_cons_self).1 whole.1
    have each : ∀ entry ∈ ordered, FixedLayout.recordSize entry.2 = size :=
      fun entry member => uniform entry (permutation.subset member)
    have positive : 0 < size := by
      obtain ⟨entry, member⟩ := List.exists_mem_of_ne_nil ordered some
      rw [← each entry member, FixedLayout.recordSize]
      omega
    have many := grouping.lt_length
      (fun group next => capacity_le_of_isFull noObjects noSensors positive) each some
    have few := distributes.length_le noObjects noSensors positive uniform
    rw [← permutation.length_eq] at few
    have below := Nat.lt_of_mul_lt_mul_right (Nat.lt_of_lt_of_le many few)
    omega

end

/-- The loaded messages of a layout are not more than its groups. -/
theorem countP_isLoaded_number_le {frame : Frame} {groups : List (List (Keyed Key))}
    {placed extra : List (Frame.Segment Key)}
    (stripped : placed.map (·.described none) = groups.map frame.segment ++ extra)
    (empty : ∀ segment ∈ extra, segment.message.objects = []) (position : Option Nat) :
    (number placed position).messages.countP Message.isLoaded ≤ groups.length := by
  have idle : extra.countP (·.message.isLoaded) = 0 := by
    refine List.countP_eq_zero.mpr fun segment member => ?_
    rw [Message.isLoaded, empty segment member]
    exact Bool.false_ne_true
  calc
    (number placed position).messages.countP Message.isLoaded =
        (placed.take Message.segmentLimit).countP (·.message.isLoaded) :=
      countP_number (fun _ _ => rfl) placed position
    _ ≤ placed.countP (·.message.isLoaded) := (List.take_sublist _ _).countP_le
    _ = (placed.map (·.described none)).countP (·.message.isLoaded) := by
      rw [List.countP_map]
      rfl
    _ = (groups.map frame.segment).countP (·.message.isLoaded) := by
      rw [stripped, List.countP_append, idle, Nat.add_zero]
    _ ≤ groups.length := by
      rw [← List.length_map frame.segment]
      exact List.countP_le_length

/-! ### No segment is closed early -/

/-- Every message of a segmented cycle is full before the next one. If all records have one
size and none was dropped, then under the fixed layout no distribution of the records over
segments within the limits has fewer segments with records. -/
theorem segment_fills_segments (codec : Codec) (ignoring : codec.IgnoresNumbers) (limit : Nat)
    (template : Message) (records : List (Keyed Key)) (sensors : Option (List SensorInformation))
    (segmentation : Segmentation Key) (noObjects : template.objects = [])
    (noSensors : template.sensors = none) (noNumber : template.management.segment = none)
    (success : segment codec limit template records sensors = .ok segmentation)
    (segmented : ∃ message ∈ segmentation.messages, message.isSegmented = true) :
    segmentation.messages.IsChain (IsFullBefore codec limit) ∧
      (codec = .fixedLayout → segmentation.dropped = 0 →
        ∀ size, (∀ entry ∈ records, FixedLayout.recordSize entry.2 = size) →
          IsLeast
            { count | ∃ messages, Distributes limit template records messages ∧
              messages.countP Message.isLoaded = count }
            (segmentation.messages.countP Message.isLoaded)) := by
  have objects := (segment_reported noObjects success).2
  obtain ⟨placed, position, layout, rfl⟩ := layout_of_segmented noNumber success segmented
  refine ⟨number_isFullBefore ignoring layout noObjects noSensors rfl, ?_⟩
  rintro rfl complete size uniform
  obtain ⟨groups, extra, grouping, stripped, empty⟩ := layout.stripped_eq noObjects noSensors
  obtain ⟨discarded, whole, count, _⟩ := number_reported_append layout noObjects
  refine ⟨⟨(number placed position).messages, ⟨?_, ?_, ?_, ?_⟩, rfl⟩, ?_⟩
  · intro message member
    obtain ⟨index, inside, rfl⟩ := List.getElem_of_mem member
    obtain ⟨segment, origin, same⟩ := number_messages_getElem placed position index inside
    obtain ⟨group, description, rfl⟩ := layout.isPacked segment origin
    exact ⟨_, _, _, same⟩
  · exact number_encodedSize_le FixedLayout.fixedLayout_ignoresNumbers layout noSensors rfl
  · exact number_objects_length_le layout noObjects
  · rw [complete] at count
    rw [List.length_eq_zero_iff.mp count, List.append_nil] at whole
    rw [objects, whole]
    exact (byPriority_perm records).map _
  · rintro other ⟨messages, distributes, rfl⟩
    exact Nat.le_trans (countP_isLoaded_number_le stripped empty position)
      (grouping.length_le (byPriority_perm records) noObjects noSensors uniform distributes)

/-- Five objects of one size, of which a message of 90 bytes holds two. -/
def fiveObjects : List (Keyed Nat) :=
  [(0, moving 1), (1, moving 2), (2, moving 3), (3, moving 4), (4, moving 5)]

/-- The description of the sensors joins the last object. -/
def fiveSegments : Segmentation Nat where
  messages :=
    [{ (default : Message).numbered ⟨3, 1⟩ with objects := [moving 5, moving 4] },
      { (default : Message).numbered ⟨3, 2⟩ with objects := [moving 3, moving 2] },
      { (default : Message).numbered ⟨3, 3⟩ with
        sensors := some threeSensors
        objects := [moving 1] }]
  included := [4, 3, 2, 1, 0]
  sensorSegment := some 3
  dropped := 0

theorem segment_fiveObjects :
    segment .fixedLayout 90 default fiveObjects (some threeSensors) = .ok fiveSegments := by
  have ordered : byPriority fiveObjects = fiveObjects.reverse := by
    rw [byPriority, List.mergeSort_of_pairwise (by decide)]
  have grouping : (Frame.ofTemplate .fixedLayout 90 default).Grouping (byPriority fiveObjects)
      [[(4, moving 5), (3, moving 4)], [(2, moving 3), (1, moving 2)], [(0, moving 1)]] := by
    rw [ordered]
    exact .cons rfl (List.cons_ne_nil _ _) (.cons rfl (List.cons_ne_nil _ _)
      (.cons rfl (List.cons_ne_nil _ _) .nil))
  rw [segment, if_neg (by decide), segments, grouping.groups_eq]
  rfl

/-- Fewer than three segments do not carry the five objects. -/
theorem fiveSegments_fill :
    fiveSegments.messages.IsChain (IsFullBefore .fixedLayout 90) ∧
      IsLeast
        { count | ∃ messages, Distributes 90 default fiveObjects messages ∧
          messages.countP Message.isLoaded = count } 3 := by
  obtain ⟨full, least⟩ := segment_fills_segments .fixedLayout
    FixedLayout.fixedLayout_ignoresNumbers 90 default fiveObjects (some threeSensors) fiveSegments
    rfl rfl rfl segment_fiveObjects ⟨_, List.mem_cons_self, rfl⟩
  exact ⟨full, least rfl rfl 30 (by decide)⟩

end Segmentation

end CollectivePerception
