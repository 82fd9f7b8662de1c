/-
This file proves when a segmentation cannot fail: if each record fits into a segment of its
own, the description of the sensors into another one, and a cycle without records and
sensors into a message without a number (`exists_segment`). Filling a segment then always
takes the first record that is left, so every record finds its group.
-/

import CollectivePerception.Proofs.Segmentation.Numbering
import CollectivePerception.Proofs.Segmentation.Priority

namespace CollectivePerception.Segmentation

variable {Key : Type}

namespace Frame

variable {frame : Frame}

theorem fill_ne_nil {taken : List (Keyed Key)} (nonempty : taken ≠ [])
    (records : List (Keyed Key)) : (frame.fill taken records).1 ≠ [] := by
  induction records generalizing taken with
  | nil => exact nonempty
  | cons record rest inductionHypothesis =>
    unfold fill
    split
    · exact inductionHypothesis (List.append_ne_nil_of_left_ne_nil nonempty _)
    · exact nonempty

/-- An empty segment takes the first record if the record fits into it. -/
theorem fill_nil_cons_ne_nil {record : Keyed Key} (rest : List (Keyed Key))
    (small : frame.fits (load frame.blank [record]) = true) :
    (frame.fill [] (record :: rest)).1 ≠ [] := by
  unfold fill
  rw [if_pos ⟨(by decide : 0 < Message.objectLimit), small⟩]
  exact fill_ne_nil (List.cons_ne_nil record []) rest

/-- Records of which each fits into a segment fall into groups. -/
theorem exists_grouping {records : List (Keyed Key)}
    (small : ∀ record ∈ records, frame.fits (load frame.blank [record]) = true) :
    ∃ groups, frame.Grouping records groups := by
  induction records using Frame.groups.induct frame with
  | case1 => exact ⟨[], .nil⟩
  | case2 record rest left stuck =>
    have taken := fill_nil_cons_ne_nil rest (small record List.mem_cons_self)
    rw [stuck] at taken
    exact absurd rfl taken
  | case3 record rest first others left filled inductionHypothesis =>
    have whole := frame.fill_append [] (record :: rest)
    rw [filled, List.nil_append] at whole
    obtain ⟨later, grouping⟩ := inductionHypothesis fun other member =>
      small other (whole ▸ List.mem_append_right _ member)
    exact ⟨_, .cons filled (List.cons_ne_nil _ _) grouping⟩

/-- A description of the sensors that fits into a segment of its own finds a place. -/
theorem exists_place {sensors : Option (List SensorInformation)}
    (small : ∀ description ∈ sensors,
      frame.fits (describe frame.blank (some description)) = true)
    (segments : List (Segment Key)) :
    ∃ result, frame.place segments sensors = .ok result := by
  cases sensors with
  | none => exact ⟨_, rfl⟩
  | some description =>
    rcases frame.attach_cases description segments with
      ⟨_, unplaced⟩ | ⟨before, chosen, after, _, _, _, placed⟩
    · refine ⟨(segments.map (·.described none) ++ [frame.lone description],
        some segments.length), ?_⟩
      simp only [place, unplaced, if_pos (small description rfl)]
      rfl
    · refine ⟨(before.map (·.described none) ++ chosen.described (some description) :: after,
        some before.length), ?_⟩
      simp only [place, placed]

end Frame

variable {codec : Codec} {limit : Nat} {template : Message} {records : List (Keyed Key)}
  {sensors : Option (List SensorInformation)}

/-- There is a segment if there is a record or a description of the sensors. -/
theorem Frame.Placement.ne_nil {frame : Frame} {groups : List (List (Keyed Key))}
    {placed : List (Frame.Segment Key)} {position : Option Nat}
    (placement : frame.Placement (groups.map frame.segment) sensors placed position)
    (something : sensors = none → groups ≠ []) : placed ≠ [] := by
  cases placement with
  | unneeded => exact fun empty => something rfl (List.map_eq_nil_iff.mp empty)
  | joined _ _ _ => exact List.append_ne_nil_of_right_ne_nil _ (List.cons_ne_nil _ _)
  | appended _ _ => exact List.append_ne_nil_of_right_ne_nil _ (List.cons_ne_nil _ _)

/-- A segmentation succeeds if each of its parts fits into a message of its own. -/
theorem exists_segment
    (smallRecords : ∀ record ∈ records,
      codec.encodedSize (load (template.numbered ⟨1, 1⟩) [record]) ≤ limit)
    (smallSensors : ∀ description ∈ sensors,
      codec.encodedSize (describe (template.numbered ⟨1, 1⟩) (some description)) ≤ limit)
    (smallTemplate : codec.encodedSize (single template ([] : List (Keyed Key)) none) ≤ limit) :
    ∃ segmentation, segment codec limit template records sensors = .ok segmentation := by
  unfold segment
  split
  · exact ⟨_, rfl⟩
  · rename_i several
    have recordFits : ∀ record ∈ byPriority records, (Frame.ofTemplate codec limit template).fits
        (load (template.numbered ⟨1, 1⟩) [record]) = true :=
      fun record member => decide_eq_true (smallRecords record
        ((byPriority_perm records).subset member))
    have sensorsFit : ∀ description ∈ sensors, (Frame.ofTemplate codec limit template).fits
        (describe (template.numbered ⟨1, 1⟩) (some description)) = true :=
      fun description member => decide_eq_true (smallSensors description member)
    obtain ⟨groups, grouping⟩ := Frame.exists_grouping recordFits
    obtain ⟨⟨placed, position⟩, attached⟩ := Frame.exists_place sensorsFit
      (groups.map (Frame.ofTemplate codec limit template).segment)
    have nonempty : placed ≠ [] := by
      refine (Frame.placement_of_place attached).ne_nil fun noSensors noGroups => several ?_
      -- Without records and sensors a single message would have done.
      have noRecords : records = [] := by
        have whole := grouping.flatten_eq
        rw [noGroups, List.flatten_nil] at whole
        exact (whole ▸ byPriority_perm records).nil_eq.symm
      rw [isSingle, noRecords, noSensors, Bool.and_eq_true]
      exact ⟨rfl, decide_eq_true smallTemplate⟩
    refine ⟨number placed position, ?_⟩
    rw [segments, grouping.groups_eq]
    simp only [bind, Except.bind, attached, List.isEmpty_eq_false_iff.mpr nonempty]
    rfl

end CollectivePerception.Segmentation
