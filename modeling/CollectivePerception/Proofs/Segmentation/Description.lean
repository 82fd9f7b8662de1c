/-
This file follows the description of the sensors through a segmentation. It has one place
among the segments, so a segmentation either keeps that place, and then exactly one message
carries the description, or it loses it with the segments beyond the limit
(`segment_describes`). It is only lost if the cycle needs more segments than there may be
(`isSome_sensorSegment_of_needed_le`).
-/

import CollectivePerception.Proofs.Segmentation.Numbering

namespace CollectivePerception

/-- Whether a message carries a description of the sensors. -/
def Message.describes (message : Message) : Bool := message.sensors.isSome

namespace Segmentation

variable {Key : Type}

/-- Where one element alone satisfies a condition, some first elements have one that does if
they reach it. -/
theorem countP_take_of_only {Element : Type} {condition : Element → Bool}
    {before after : List Element} {chosen : Element}
    (noneBefore : ∀ element ∈ before, ¬condition element = true) (holds : condition chosen = true)
    (noneAfter : ∀ element ∈ after, ¬condition element = true) (count : Nat) :
    ((before ++ chosen :: after).take count).countP condition =
      if before.length < count then 1 else 0 := by
  rw [List.take_append, List.countP_append,
    List.countP_eq_zero.mpr fun element member => noneBefore element (List.mem_of_mem_take member)]
  split
  · rename_i reached
    obtain ⟨further, beyond⟩ : ∃ further, count - before.length = further + 1 :=
      ⟨count - before.length - 1, by omega⟩
    rw [beyond, List.take_succ_cons, List.countP_cons_of_pos holds,
      List.countP_eq_zero.mpr fun element member => noneAfter element (List.mem_of_mem_take member)]
  · rename_i short
    rw [Nat.sub_eq_zero_of_le (Nat.not_lt.mp short), List.take_zero, List.countP_nil]

/-! ### The place of the description -/

namespace Frame

/-- Whether a place is among the first segments. -/
def reaches (count : Nat) (position : Option Nat) : Bool := position.any (· < count)

theorem reaches_of_le {few many : Nat} {position : Option Nat} (order : few ≤ many)
    (reached : reaches few position = true) : reaches many position = true := by
  obtain ⟨place, among, below⟩ := (Option.any_eq_true _ _).mp reached
  refine (Option.any_eq_true _ _).mpr ⟨place, among, decide_eq_true ?_⟩
  exact Nat.lt_of_lt_of_le (of_decide_eq_true below) order

variable {frame : Frame} {segments placed : List (Segment Key)} {records : List (Keyed Key)}
  {sensors : Option (List SensorInformation)} {position : Option Nat}

theorem Segment.not_describes {segment : Segment Key} (undescribed : segment.sensors = none) :
    ¬segment.message.describes = true := by
  rw [Message.describes, ← Segment.sensors, undescribed]
  exact Bool.false_ne_true

/-- The first segments carry the description once if its place is among them, and else not at
all. -/
theorem Placement.countP_take (placement : frame.Placement segments sensors placed position)
    (undescribed : ∀ segment ∈ segments, segment.sensors = none) (count : Nat) :
    (placed.take count).countP (·.message.describes) =
      if reaches count position = true then 1 else 0 := by
  have plain {part : List (Segment Key)} (each : ∀ segment ∈ part, segment.sensors = none) :
      ∀ segment ∈ part, ¬segment.message.describes = true :=
    fun segment member => Segment.not_describes (each segment member)
  cases placement with
  | unneeded =>
    exact List.countP_eq_zero.mpr fun segment member =>
      plain undescribed segment (List.mem_of_mem_take member)
  | @joined sensors before after chosen apart _ _ =>
    rw [apart, List.forall_mem_append, List.forall_mem_cons] at undescribed
    rw [Segment.map_described_none undescribed.1,
      countP_take_of_only (plain undescribed.1) rfl (plain undescribed.2.2)]
    simp only [reaches, Option.any_some, decide_eq_true_eq]
  | appended _ _ =>
    rw [Segment.map_described_none undescribed, countP_take_of_only (plain undescribed) rfl
      fun _ absent => absurd absent List.not_mem_nil]
    simp only [reaches, Option.any_some, decide_eq_true_eq]

/-- A description that is needed has a place among the segments. -/
theorem Placement.reaches_length {description : List SensorInformation}
    (placement : frame.Placement segments (some description) placed position) :
    reaches placed.length position = true := by
  cases placement with
  | joined _ _ _ =>
    rw [reaches, Option.any_some, decide_eq_true_eq, List.length_append, List.length_map,
      List.length_cons]
    omega
  | appended _ _ =>
    rw [reaches, Option.any_some, decide_eq_true_eq, List.length_append, List.length_map,
      List.length_singleton]
    omega

theorem LaidOut.countP_take (layout : frame.LaidOut records sensors placed position)
    (undescribed : frame.blank.sensors = none) (count : Nat) :
    (placed.take count).countP (·.message.describes) =
      if reaches count position = true then 1 else 0 := by
  obtain ⟨_, groups, _, placement⟩ := layout
  refine placement.countP_take (fun segment member => ?_) count
  obtain ⟨group, _, rfl⟩ := List.mem_map.mp member
  exact undescribed

/-- Without a description there is no place for one. -/
theorem LaidOut.position_eq_none (layout : frame.LaidOut records none placed position) :
    position = none := by
  obtain ⟨_, _, _, placement⟩ := layout
  cases placement
  rfl

end Frame

/-! ### The whole -/

theorem isSome_sensorSegment_number (placed : List (Frame.Segment Key)) (position : Option Nat) :
    (number placed position).sensorSegment.isSome =
      Frame.reaches Message.segmentLimit position := by
  rw [number, Option.isSome_map, Frame.reaches]
  cases position with
  | none => rfl
  | some place =>
    rw [Option.filter_some, Option.any_some]
    split <;> simp_all

/-- How many segments a cycle needs, whether or not there may be that many. -/
def needed (codec : Codec) (limit : Nat) (template : Message) (records : List (Keyed Key))
    (sensors : Option (List SensorInformation)) : Nat :=
  if isSingle codec limit template records sensors then 1
  else
    match segments (.ofTemplate codec limit template) records sensors with
    | .error _ => 0
    | .ok (placed, _) => placed.length

section

variable {codec : Codec} {limit : Nat} {template : Message} {records : List (Keyed Key)}
  {segmentation : Segmentation Key}

/-- Exactly one message carries the description if the segmentation says so, and else none. -/
theorem segment_describes {sensors : Option (List SensorInformation)}
    (noSensors : template.sensors = none)
    (success : segment codec limit template records sensors = .ok segmentation) :
    segmentation.messages.countP (·.describes) =
      if segmentation.sensorSegment.isSome then 1 else 0 := by
  rcases segment_cases success with ⟨_, rfl⟩ | ⟨_, placed, position, layout, rfl⟩
  · cases sensors <;> rfl
  · rw [countP_number fun _ _ => rfl, isSome_sensorSegment_number, layout.countP_take noSensors]

theorem sensorSegment_eq_none
    (success : segment codec limit template records none = .ok segmentation) :
    segmentation.sensorSegment = none := by
  rcases segment_cases success with ⟨_, rfl⟩ | ⟨_, placed, position, layout, rfl⟩
  · rfl
  · rw [layout.position_eq_none]
    rfl

/-- The description is in a message unless the cycle needs more segments than there may be. -/
theorem isSome_sensorSegment_of_needed_le {description : List SensorInformation}
    (success : segment codec limit template records (some description) = .ok segmentation)
    (enough : needed codec limit template records (some description) ≤ Message.segmentLimit) :
    segmentation.sensorSegment.isSome = true := by
  rcases segment_ok_cases success with ⟨_, rfl⟩ | ⟨several, placed, position, laid, rfl⟩
  · rfl
  · obtain ⟨_, _, _, placement⟩ := Frame.laidOut_of_segments laid
    rw [needed, several, if_neg Bool.false_ne_true, laid] at enough
    rw [isSome_sensorSegment_number]
    exact Frame.reaches_of_le enough placement.reaches_length

end

end Segmentation

end CollectivePerception
