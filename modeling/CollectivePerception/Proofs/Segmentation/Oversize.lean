/-
This file proves when a segmentation fails. The computation notices a record that is too
large only where that record starts a segment, and a description that is too large only
after every segment had no room for it. Under the fixed layout a message does not get
smaller with more in it, so this comes to a condition in which neither the order of the
records nor the segments appear: a cycle that does not go into one message fails exactly if
one of its parts does not fit into a segment of its own, or if it has no part.

`Frame.Growing` is what is needed of the sizes, and `Frame.groups_eq_error` says which record
a failed grouping names: the first oversize one in the order of priority.
-/

import CollectivePerception.Proofs.Message.Size
import CollectivePerception.Proofs.Segmentation.Capacity

namespace CollectivePerception

namespace Segmentation

variable {Key : Type}

/-! ### Sizes that grow -/

namespace Frame

/-- Whether a record does not fit into a segment of its own. -/
def isOversize (frame : Frame) (record : Keyed Key) : Bool :=
  !frame.fits (load frame.blank [record])

/-- The segments of a frame do not get smaller with more in them. -/
structure Growing (frame : Frame) : Prop where
  records : ∀ {Key : Type} (group : List (Keyed Key)) (record : Keyed Key), record ∈ group →
    frame.codec.encodedSize (load frame.blank [record]) ≤
      frame.codec.encodedSize (load frame.blank group)
  sensors : ∀ {Key : Type} (group : List (Keyed Key)) (sensors : List SensorInformation),
    frame.codec.encodedSize (describe frame.blank (some sensors)) ≤
      frame.codec.encodedSize (describe (load frame.blank group) (some sensors))

variable {frame : Frame}

/-- A segment that is small enough holds no oversize record. -/
theorem Growing.not_isOversize (growing : frame.Growing) {group : List (Keyed Key)}
    (small : frame.fits (load frame.blank group) = true) :
    ∀ record ∈ group, frame.isOversize record = false := by
  intro record member
  have fitting : frame.fits (load frame.blank [record]) = true :=
    decide_eq_true (Nat.le_trans (growing.records group record member) (of_decide_eq_true small))
  rw [isOversize, fitting, Bool.not_true]

/-- No segment has room for a description that does not fit into a segment of its own. -/
theorem Growing.not_hasRoom (growing : frame.Growing) {sensors : List SensorInformation}
    (large : frame.fits (describe frame.blank (some sensors)) = false)
    (group : List (Keyed Key)) : frame.hasRoom sensors (frame.segment group) = false := by
  refine decide_eq_false fun room => ?_
  exact of_decide_eq_false large (Nat.le_trans (growing.sensors group sensors) room)

theorem growing_fixedLayout {limit : Nat} {template : Message} (noObjects : template.objects = []) :
    (ofTemplate .fixedLayout limit template).Growing where
  records group record member := by
    have share : FixedLayout.recordSize record.2 ≤
        totalOf ((group.map (·.2)).map FixedLayout.recordSize) :=
      le_totalOf_of_mem (List.mem_map_of_mem (List.mem_map_of_mem member))
    have filled : (group.map (·.2)).isEmpty = false :=
      List.isEmpty_eq_false_iff.mpr (List.ne_nil_of_mem (List.mem_map_of_mem member))
    show FixedLayout.encodedSize (load (template.numbered ⟨1, 1⟩) [record]) ≤
      FixedLayout.encodedSize (load (template.numbered ⟨1, 1⟩) group)
    have objects : (template.numbered ⟨1, 1⟩).objects = [] := noObjects
    simp only [FixedLayout.encodedSize, load, objects, List.nil_append, FixedLayout.objectsSize,
      filled, List.map_cons, List.map_nil, List.isEmpty_cons, totalOf_cons, totalOf_nil,
      Bool.false_eq_true, if_false]
    omega
  sensors group sensors := by
    show FixedLayout.encodedSize (describe (template.numbered ⟨1, 1⟩) (some sensors)) ≤
      FixedLayout.encodedSize (describe (load (template.numbered ⟨1, 1⟩) group) (some sensors))
    have objects : (template.numbered ⟨1, 1⟩).objects = [] := noObjects
    simp only [FixedLayout.encodedSize, describe, load, objects, FixedLayout.objectsSize,
      List.isEmpty_nil, if_true]
    omega

/-! ### The record that a failed grouping names -/

/-- The failure over a record that is too large. -/
def oversizeRecord (frame : Frame) (record : Keyed Key) : Oversize :=
  ⟨.perceivedObject, frame.codec.encodedSize (load frame.blank [record]), frame.limit⟩

/-- Grouping fails with the first oversize record. -/
theorem groups_eq_error (growing : frame.Growing) {records : List (Keyed Key)}
    {record : Keyed Key} (first : records.find? frame.isOversize = some record) :
    frame.groups records = .error (frame.oversizeRecord record) := by
  induction records using Frame.groups.induct frame with
  | case1 => cases first
  | case2 head rest left stuck =>
    -- A segment stays empty only because of the record that it should start with.
    have large : frame.isOversize head = true := by
      cases small : frame.fits (load frame.blank [head]) with
      | true => exact absurd (congrArg Prod.fst stuck) (fill_nil_cons_ne_nil rest small)
      | false => rw [isOversize, small, Bool.not_false]
    rw [List.find?_cons_of_pos large] at first
    cases first
    rw [groups]
    split
    · rfl
    · rename_i filled
      rw [stuck] at filled
      cases filled
  | case3 head rest one others left filled inductionHypothesis =>
    have admitted := admits_fill frame.admits_nil (head :: rest)
    have whole := frame.fill_append [] (head :: rest)
    rw [filled] at admitted whole
    have small := growing.not_isOversize (admitted.2 (List.cons_ne_nil one others))
    have later : left.find? frame.isOversize = some record := by
      rw [← List.nil_append (head :: rest), ← whole, List.find?_append,
        List.find?_eq_none.mpr fun other member => Bool.eq_false_iff.mp (small other member),
        Option.none_or] at first
      exact first
    rw [groups]
    split
    · rename_i stuck
      rw [filled] at stuck
      cases stuck
    · rename_i again
      rw [filled] at again
      cases again
      rw [inductionHypothesis later]
      rfl

/-- The description gets no place if it does not fit into a segment of its own. -/
theorem place_eq_error (growing : frame.Growing) {sensors : List SensorInformation}
    (large : frame.fits (describe frame.blank (some sensors)) = false)
    (groups : List (List (Keyed Key))) :
    frame.place (groups.map frame.segment) (some sensors) =
      .error ⟨.sensorInformation, frame.codec.encodedSize (describe frame.blank (some sensors)),
        frame.limit⟩ := by
  rcases frame.attach_cases sensors (groups.map frame.segment) with
    ⟨_, unplaced⟩ | ⟨before, chosen, after, apart, _, room, _⟩
  · simp only [place, unplaced, large, Bool.false_eq_true, if_false]
  · obtain ⟨group, _, rfl⟩ := List.mem_map.mp
      (apart ▸ List.mem_append_right before List.mem_cons_self)
    rw [growing.not_hasRoom large group] at room
    exact absurd room Bool.false_ne_true

end Frame

/-! ### The four ends of a layout -/

section

variable {frame : Frame} {records : List (Keyed Key)} {sensors : Option (List SensorInformation)}
  {description : List SensorInformation}

/-- Laying out the segments ends with the first oversize record in the order of priority. -/
theorem segments_of_isOversize (growing : frame.Growing) {record : Keyed Key}
    (first : (byPriority records).find? frame.isOversize = some record) :
    segments frame records sensors = .error (frame.oversizeRecord record) := by
  rw [segments, Frame.groups_eq_error growing first]
  rfl

/-- Records of which none is oversize fall into groups, and into no group only if there are no
records. -/
theorem exists_groups (small : ∀ record ∈ records, frame.isOversize record = false) :
    ∃ groups, frame.groups (byPriority records) = .ok groups ∧ (groups = [] ↔ records = []) := by
  have permuted := byPriority_perm records
  obtain ⟨groups, grouping⟩ := Frame.exists_grouping fun record member => by
    simpa [Frame.isOversize] using small record (permuted.mem_iff.mp member)
  have whole := grouping.flatten_eq ▸ permuted
  refine ⟨groups, grouping.groups_eq, ?_, ?_⟩
  · rintro rfl
    exact whole.nil_eq.symm
  · rintro rfl
    refine List.eq_nil_iff_forall_not_mem.mpr fun group member => ?_
    have nothing := List.flatten_eq_nil_iff.mp whole.eq_nil group member
    exact (grouping.admits group member).1 nothing

/-- If no record is oversize, it ends with a description that is too large. -/
theorem segments_of_large (growing : frame.Growing)
    (small : ∀ record ∈ records, frame.isOversize record = false)
    (large : frame.fits (describe frame.blank (some description)) = false) :
    segments frame records (some description) =
      .error ⟨.sensorInformation, frame.codec.encodedSize (describe frame.blank (some description)),
        frame.limit⟩ := by
  obtain ⟨groups, grouped, _⟩ := exists_groups small
  simp only [segments, grouped, bind, Except.bind, Frame.place_eq_error growing large]

/-- It ends for want of anything to send. -/
theorem segments_of_nothing (frame : Frame) :
    segments frame ([] : List (Keyed Key)) none =
      .error ⟨.emptyMessage, frame.codec.encodedSize frame.blank, frame.limit⟩ := by
  obtain ⟨groups, grouped, empty_iff⟩ :=
    exists_groups fun record (member : record ∈ ([] : List (Keyed Key))) =>
      absurd member List.not_mem_nil
  rw [segments, grouped, empty_iff.mpr rfl]
  rfl

/-- Anything else is laid out. -/
theorem exists_segments (small : ∀ record ∈ records, frame.isOversize record = false)
    (fitting : ∀ description ∈ sensors,
      frame.fits (describe frame.blank (some description)) = true)
    (something : ¬(records = [] ∧ sensors = none)) :
    ∃ result, segments frame records sensors = .ok result := by
  obtain ⟨groups, grouped, empty_iff⟩ := exists_groups small
  obtain ⟨⟨placed, position⟩, attached⟩ :=
    Frame.exists_place fitting (groups.map frame.segment)
  have nonempty : placed ≠ [] := by
    cases sensors with
    | some => exact (Frame.placement_of_place attached).ne_nil (fun none => nomatch none)
    | none =>
      cases attached
      exact fun empty => something ⟨empty_iff.mp (List.map_eq_nil_iff.mp empty), rfl⟩
  refine ⟨(placed, position), ?_⟩
  simp only [segments, grouped, bind, Except.bind, attached, List.isEmpty_eq_false_iff.mpr nonempty]
  rfl

end

/-! ### The record that is named, without the order of the segments -/

/-- The first record that meets a condition in the order of priority is the most urgent one,
and the last of equals in the order in which the records were given. -/
theorem eq_append_of_find?_byPriority {condition : Keyed Key → Bool}
    {records : List (Keyed Key)} {record : Keyed Key}
    (first : (byPriority records).find? condition = some record) :
    condition record = true ∧
      ∃ before after, records = before ++ record :: after ∧
        (∀ other ∈ before, condition other = true → other.2.priority ≤ record.2.priority) ∧
        ∀ other ∈ after, condition other = true → other.2.priority < record.2.priority := by
  obtain ⟨holds, early, late, whole, none⟩ := List.find?_eq_some_iff_append.mp first
  have none : ∀ other ∈ early, condition other = false :=
    fun other member => by simpa using none other member
  have bounded : ∀ other ∈ records, condition other = true →
      other.2.priority ≤ record.2.priority := by
    intro other member meets
    have descending := byPriority_descends records
    rw [whole] at descending
    have inside := (byPriority_perm records).mem_iff.mpr member
    rw [whole] at inside
    rcases List.mem_append.mp inside with earlier | within
    · exact absurd (none other earlier ▸ meets) Bool.false_ne_true
    · rcases List.mem_cons.mp within with rfl | later
      · exact Int.le_refl _
      · exact (List.pairwise_cons.mp (List.pairwise_append.mp descending).2.1).1 other later
  -- Among the records of this priority, the first in the order of priority was given last.
  have equals := congrArg (List.filter condition) (filter_byPriority records record.2.priority)
  rw [whole, List.filter_append, List.filter_append,
    List.filter_cons_of_pos (by exact decide_eq_true rfl), List.filter_cons_of_pos holds,
    List.filter_reverse, List.filter_eq_nil_iff.mpr fun other member =>
      Bool.eq_false_iff.mp (none other (List.mem_filter.mp member).1), List.nil_append,
    ← List.reverse_eq_iff, List.reverse_cons] at equals
  simp only [List.filter_filter] at equals
  obtain ⟨front, back, apart, _, last⟩ := List.filter_eq_append_iff.mp equals.symm
  obtain ⟨between, after, split, _, _, none⟩ := List.filter_eq_cons_iff.mp last
  refine ⟨holds, front ++ between, after, by rw [apart, split, List.append_assoc], ?_, ?_⟩
  · intro other member
    refine bounded other ?_
    rw [apart, split, ← List.append_assoc]
    exact List.mem_append_left _ member
  · intro other member meets
    have inside : other ∈ records := by
      rw [apart, split, ← List.append_assoc]
      exact List.mem_append_right _ (List.mem_cons_of_mem record member)
    have notMore := bounded other inside meets
    have different : other.2.priority ≠ record.2.priority := by
      intro same
      refine List.filter_eq_nil_iff.mp none other member ?_
      rw [meets, Bool.true_and]
      exact decide_eq_true same
    omega

/-! ### The failure of a segmentation -/

theorem isSingle_eq_false_iff {codec : Codec} {limit : Nat} {template : Message}
    {records : List (Keyed Key)} {sensors : Option (List SensorInformation)} :
    isSingle codec limit template records sensors = false ↔
      Message.objectLimit < records.length ∨
        limit < codec.encodedSize (single template records sensors) := by
  rw [isSingle, Bool.and_eq_false_iff, decide_eq_false_iff_not, decide_eq_false_iff_not,
    Nat.not_le, Nat.not_le]

section

variable {limit : Nat} {template : Message}

theorem load_ofTemplate (noObjects : template.objects = []) (record : Keyed Key) :
    load (Frame.ofTemplate .fixedLayout limit template).blank [record] =
      { template.numbered ⟨1, 1⟩ with objects := [record.2] } :=
  congrArg (fun objects => { template.numbered ⟨1, 1⟩ with objects := objects ++ [record.2] })
    noObjects

theorem isOversize_iff (noObjects : template.objects = []) {record : Keyed Key} :
    (Frame.ofTemplate .fixedLayout limit template).isOversize record = true ↔
      limit < FixedLayout.encodedSize
        { template.numbered ⟨1, 1⟩ with objects := [record.2] } := by
  rw [Frame.isOversize, Frame.fits, load_ofTemplate noObjects, Bool.not_eq_true',
    decide_eq_false_iff_not, Nat.not_le]
  rfl

theorem fits_describe_eq_false_iff {description : List SensorInformation} :
    (Frame.ofTemplate .fixedLayout limit template).fits
        (describe (Frame.ofTemplate .fixedLayout limit template).blank (some description)) =
          false ↔
      limit < FixedLayout.encodedSize
        { template.numbered ⟨1, 1⟩ with sensors := some description } := by
  rw [Frame.fits, decide_eq_false_iff_not, Nat.not_le]
  rfl

variable {records : List (Keyed Key)} {sensors : Option (List SensorInformation)}

theorem not_isOversize_of_small (noObjects : template.objects = [])
    (small : ∀ record ∈ records, FixedLayout.encodedSize
      { template.numbered ⟨1, 1⟩ with objects := [record.2] } ≤ limit) :
    ∀ record ∈ records,
      (Frame.ofTemplate .fixedLayout limit template).isOversize record = false :=
  fun record member => Bool.eq_false_iff.mpr fun oversize =>
    Nat.not_lt.mpr (small record member) ((isOversize_iff noObjects).mp oversize)

/-- What goes into one message is no failure. -/
theorem segment_ne_error_of_isSingle {codec : Codec}
    (together : isSingle codec limit template records sensors = true) (cause : Oversize) :
    segment codec limit template records sensors ≠ .error cause := by
  rw [segment, if_pos together]
  intro failed
  cases failed

/-- What does not go into one message fails over an oversize record: the most urgent one, and of
equals the one that was given last. -/
theorem segment_of_oversize (noObjects : template.objects = [])
    (several : isSingle .fixedLayout limit template records sensors = false)
    (large : ∃ record ∈ records, limit < FixedLayout.encodedSize
      { template.numbered ⟨1, 1⟩ with objects := [record.2] }) :
    let sizeOfRecord (record : Keyed Key) :=
      FixedLayout.encodedSize { template.numbered ⟨1, 1⟩ with objects := [record.2] }
    ∃ before record after, records = before ++ record :: after ∧
      limit < sizeOfRecord record ∧
      (∀ other ∈ before, limit < sizeOfRecord other → other.2.priority ≤ record.2.priority) ∧
      (∀ other ∈ after, limit < sizeOfRecord other → other.2.priority < record.2.priority) ∧
      segment .fixedLayout limit template records sensors =
        .error ⟨.perceivedObject, sizeOfRecord record, limit⟩ := by
  obtain ⟨other, member, tooLarge⟩ := large
  have found : ((byPriority records).find?
      (Frame.ofTemplate .fixedLayout limit template).isOversize).isSome = true :=
    List.find?_isSome.mpr ⟨other, (byPriority_perm records).mem_iff.mpr member,
      (isOversize_iff noObjects).mpr tooLarge⟩
  obtain ⟨record, first⟩ := Option.isSome_iff_exists.mp found
  obtain ⟨oversize, before, after, apart, early, late⟩ := eq_append_of_find?_byPriority first
  simp only [isOversize_iff noObjects] at oversize early late
  refine ⟨before, record, after, apart, oversize, early, late, ?_⟩
  rw [segment, several, segments_of_isOversize (Frame.growing_fixedLayout noObjects) first]
  exact congrArg (fun message => Except.error
    (⟨.perceivedObject, FixedLayout.encodedSize message, limit⟩ : Oversize))
    (load_ofTemplate noObjects record)

/-- Without oversize records it fails over a description that is too large. -/
theorem segment_of_large (noObjects : template.objects = [])
    {description : List SensorInformation}
    (several : isSingle .fixedLayout limit template records (some description) = false)
    (small : ∀ record ∈ records, FixedLayout.encodedSize
      { template.numbered ⟨1, 1⟩ with objects := [record.2] } ≤ limit)
    (large : limit < FixedLayout.encodedSize
      { template.numbered ⟨1, 1⟩ with sensors := some description }) :
    segment .fixedLayout limit template records (some description) =
      .error ⟨.sensorInformation, FixedLayout.encodedSize
        { template.numbered ⟨1, 1⟩ with sensors := some description }, limit⟩ := by
  rw [segment, several, segments_of_large (Frame.growing_fixedLayout noObjects)
    (not_isOversize_of_small noObjects small) (fits_describe_eq_false_iff.mpr large)]
  rfl

/-- It fails without anything to send. -/
theorem segment_of_nothing
    (several : isSingle .fixedLayout limit template ([] : List (Keyed Key)) none = false) :
    segment .fixedLayout limit template ([] : List (Keyed Key)) none =
      .error ⟨.emptyMessage, FixedLayout.encodedSize (template.numbered ⟨1, 1⟩), limit⟩ := by
  rw [segment, several, segments_of_nothing]
  rfl

/-- It does not fail over anything else. -/
theorem segment_ne_error_of_small (noObjects : template.objects = [])
    (several : isSingle .fixedLayout limit template records sensors = false)
    (small : ∀ record ∈ records, FixedLayout.encodedSize
      { template.numbered ⟨1, 1⟩ with objects := [record.2] } ≤ limit)
    (fitting : ∀ description ∈ sensors, FixedLayout.encodedSize
      { template.numbered ⟨1, 1⟩ with sensors := some description } ≤ limit)
    (something : ¬(records = [] ∧ sensors = none)) (cause : Oversize) :
    segment .fixedLayout limit template records sensors ≠ .error cause := by
  have fits : ∀ description ∈ sensors, (Frame.ofTemplate .fixedLayout limit template).fits
      (describe (Frame.ofTemplate .fixedLayout limit template).blank (some description)) = true :=
    fun description given => Bool.not_eq_false _ ▸ fun large =>
      Nat.not_lt.mpr (fitting description given) (fits_describe_eq_false_iff.mp large)
  obtain ⟨result, laid⟩ :=
    exists_segments (not_isOversize_of_small noObjects small) fits something
  rw [segment, several, laid]
  intro failed
  cases failed

end

/-- A segmentation fails exactly if not everything goes into one message and some record, or
the description of the sensors, does not fit into a segment of its own, or there is neither of
them. An oversize record is named before the description: the most urgent one, and of equals
the one that was given last. -/
theorem segment_fails_iff (limit : Nat) (template : Message) (records : List (Keyed Key))
    (sensors : Option (List SensorInformation)) (noObjects : template.objects = []) :
    let blank := template.numbered ⟨1, 1⟩
    let sizeOfRecord (record : Keyed Key) :=
      FixedLayout.encodedSize { blank with objects := [record.2] }
    let sizeOfSensors (description : List SensorInformation) :=
      FixedLayout.encodedSize { blank with sensors := some description }
    ((∃ cause, segment .fixedLayout limit template records sensors = .error cause) ↔
      (Message.objectLimit < records.length ∨
          limit < FixedLayout.encodedSize (single template records sensors)) ∧
        ((∃ record ∈ records, limit < sizeOfRecord record) ∨
          (∃ description ∈ sensors, limit < sizeOfSensors description) ∨
          records = [] ∧ sensors = none)) ∧
      ∀ cause, segment .fixedLayout limit template records sensors = .error cause →
        ((∃ record ∈ records, limit < sizeOfRecord record) →
          ∃ before record after, records = before ++ record :: after ∧
            limit < sizeOfRecord record ∧
            (∀ other ∈ before, limit < sizeOfRecord other →
              other.2.priority ≤ record.2.priority) ∧
            (∀ other ∈ after, limit < sizeOfRecord other →
              other.2.priority < record.2.priority) ∧
            cause = ⟨.perceivedObject, sizeOfRecord record, limit⟩) ∧
        ((∀ record ∈ records, sizeOfRecord record ≤ limit) →
          cause =
            match sensors with
            | some description => ⟨.sensorInformation, sizeOfSensors description, limit⟩
            | none => ⟨.emptyMessage, FixedLayout.encodedSize blank, limit⟩) := by
  intro blank sizeOfRecord sizeOfSensors
  have several_iff : isSingle .fixedLayout limit template records sensors = false ↔
      Message.objectLimit < records.length ∨
        limit < FixedLayout.encodedSize (single template records sensors) :=
    isSingle_eq_false_iff
  rw [← several_iff]
  cases several : isSingle .fixedLayout limit template records sensors with
  | true =>
    have laid := segment_ne_error_of_isSingle several
    exact ⟨iff_of_false (fun ⟨cause, failed⟩ => laid cause failed)
      fun both => Bool.false_ne_true both.1.symm, fun cause failed => absurd failed (laid cause)⟩
  | false =>
    by_cases someLarge : ∃ record ∈ records, limit < sizeOfRecord record
    · obtain ⟨before, record, after, apart, large, early, late, failed⟩ :=
        segment_of_oversize noObjects several someLarge
      rw [failed]
      refine ⟨iff_of_true ⟨_, rfl⟩ ⟨rfl, .inl someLarge⟩, ?_⟩
      rintro cause ⟨⟩
      refine ⟨fun _ => ⟨before, record, after, apart, large, early, late, rfl⟩, fun small => ?_⟩
      exact absurd large (Nat.not_lt.mpr
        (small record (apart ▸ List.mem_append_right before List.mem_cons_self)))
    · have small : ∀ record ∈ records, sizeOfRecord record ≤ limit :=
        fun record member => Nat.not_lt.mp fun large => someLarge ⟨record, member, large⟩
      by_cases ends : (∃ description ∈ sensors, limit < sizeOfSensors description) ∨
          records = [] ∧ sensors = none
      · rcases ends with ⟨description, rfl, large⟩ | ⟨rfl, rfl⟩
        · rw [segment_of_large noObjects several small large]
          refine ⟨iff_of_true ⟨_, rfl⟩ ⟨rfl, .inr (.inl ⟨description, rfl, large⟩)⟩, ?_⟩
          rintro cause ⟨⟩
          exact ⟨fun found => absurd found someLarge, fun _ => rfl⟩
        · rw [segment_of_nothing several]
          refine ⟨iff_of_true ⟨_, rfl⟩ ⟨rfl, .inr (.inr ⟨rfl, rfl⟩)⟩, ?_⟩
          rintro cause ⟨⟩
          exact ⟨fun found => absurd found someLarge, fun _ => rfl⟩
      · obtain ⟨noLarge, something⟩ := not_or.mp ends
        have laid := segment_ne_error_of_small noObjects several small
          (fun description given => Nat.not_lt.mp fun large => noLarge ⟨description, given, large⟩)
          something
        exact ⟨iff_of_false (fun ⟨cause, failed⟩ => laid cause failed)
          fun both => both.2.elim someLarge ends, fun cause failed => absurd failed (laid cause)⟩

/-- Four objects of which the two in the middle, equally urgent, were seen by too many sensors
for a message of 55 bytes. -/
def mixedObjects : List (Keyed Nat) :=
  [(0, moving 5), (1, { moving 7 with sensors := List.replicate 10 1 }),
    (2, { moving 7 with sensors := List.replicate 20 1 }), (3, moving 9)]

/-- The later one of the two is named, although the more urgent object would have fitted and
the description of the sensors is too large as well. -/
theorem mixedObjects_fail :
    segment .fixedLayout 55 default mixedObjects (some threeSensors) =
      .error ⟨.perceivedObject, 72, 55⟩ := by
  obtain ⟨fails_iff, causes⟩ := segment_fails_iff 55 default mixedObjects (some threeSensors) rfl
  have large : ∃ record ∈ mixedObjects, 55 < FixedLayout.encodedSize
      { (default : Message).numbered ⟨1, 1⟩ with objects := [record.2] } := by
    decide
  obtain ⟨cause, failed⟩ := fails_iff.mpr ⟨.inr (by decide), .inl large⟩
  obtain ⟨before, record, after, apart, tooLarge, early, late, named⟩ :=
    (causes cause failed).1 large
  rw [failed, named]
  rcases before with _ | ⟨first, _ | ⟨second, _ | ⟨third, _ | ⟨fourth, before⟩⟩⟩⟩
  all_goals
    simp only [mixedObjects, List.cons_append, List.nil_append, List.cons.injEq] at apart
  · obtain ⟨rfl, _⟩ := apart
    exact absurd tooLarge (by decide)
  · obtain ⟨_, rfl, rfl⟩ := apart
    exact absurd (late _ List.mem_cons_self (by decide)) (by decide)
  · obtain ⟨_, _, rfl, _⟩ := apart
    rfl
  · obtain ⟨_, _, _, rfl, _⟩ := apart
    exact absurd tooLarge (by decide)
  · obtain ⟨_, _, _, _, apart⟩ := apart
    cases before <;> cases apart

end Segmentation

end CollectivePerception
