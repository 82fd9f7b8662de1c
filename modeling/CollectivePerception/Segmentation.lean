/-
This file distributes the object records of a cycle over messages that the channel can
carry. If everything fits into one message, that message is sent as it is. Otherwise
the records are taken in the order of their priority, highest first; a segment is
closed when it is full or when the next record would make it too large; and the
description of the sensors joins the first segment with room for it, or gets one of its
own at the end. Each record travels with a key, so that the caller learns which of them
are in the messages.
-/

import CollectivePerception.Message.Codec

namespace CollectivePerception

/-! ### Results -/

/-- What does not fit into a message of its own. -/
inductive MessagePart
  | perceivedObject
  | sensorInformation
  | emptyMessage
deriving DecidableEq, Repr

def MessagePart.name : MessagePart → String
  | perceivedObject => "perceived object"
  | sensorInformation => "sensor information container"
  | emptyMessage => "empty CPM"

/-- The failure of a segmentation: a part whose message alone exceeds the limit. -/
structure Oversize where
  part : MessagePart
  size : Nat
  limit : Nat
deriving DecidableEq, Repr

/-- The messages of a cycle. -/
structure Segmentation (Key : Type) where
  /-- In the order of transmission. -/
  messages : List Message
  /-- The keys of the records in the messages, in the same order. -/
  included : List Key
  /-- The number of the message that describes the sensors, counted from one. -/
  sensorSegment : Option Nat
  /-- How many records were lost with segments beyond the limit. -/
  dropped : Nat
deriving Repr

namespace Segmentation

variable {Key : Type}

/-- A record with its key. -/
abbrev Keyed (Key : Type) := Key × PerceivedObject

/-- The records with the highest priority first, the last of equals before the
others. -/
def byPriority (records : List (Keyed Key)) : List (Keyed Key) :=
  (records.mergeSort fun first second => first.2.priority ≤ second.2.priority).reverse

/-- A message with records added to its objects. -/
def load (message : Message) (records : List (Keyed Key)) : Message :=
  { message with objects := message.objects ++ records.map (·.2) }

/-- A message with its description of sensors replaced. -/
def describe (message : Message) (sensors : Option (List SensorInformation)) : Message :=
  { message with sensors := sensors }

/-- What the messages are made of: how they are encoded, how large they may become, and
the message that every segment starts from. Its segment number is stamped later and
does not change its size. -/
structure Frame where
  codec : Codec
  limit : Nat
  blank : Message

namespace Frame

/-- The frame of the segments of a template. -/
def ofTemplate (codec : Codec) (limit : Nat) (template : Message) : Frame :=
  ⟨codec, limit, template.numbered ⟨1, 1⟩⟩

/-- Whether a message is small enough. -/
def fits (frame : Frame) (message : Message) : Bool :=
  frame.codec.encodedSize message ≤ frame.limit

/-! ### Filling segments -/

/-- Takes records as long as they fit into one segment with those taken already, and
returns the records taken and those left. -/
def fill (frame : Frame) (taken : List (Keyed Key)) :
    List (Keyed Key) → List (Keyed Key) × List (Keyed Key)
  | [] => (taken, [])
  | record :: rest =>
    if taken.length < Message.objectLimit ∧ frame.fits (load frame.blank (taken ++ [record])) then
      fill frame (taken ++ [record]) rest
    else
      (taken, record :: rest)

/-- Filling a segment neither loses nor reorders a record. -/
theorem fill_append (frame : Frame) (taken records : List (Keyed Key)) :
    (frame.fill taken records).1 ++ (frame.fill taken records).2 = taken ++ records := by
  induction records generalizing taken with
  | nil => simp [fill]
  | cons record rest inductionHypothesis =>
    unfold fill
    split
    · rw [inductionHypothesis]
      simp
    · rfl

/-- Splits records into segments, each filled as far as possible. Fails on a record
that does not fit into a segment of its own. -/
def groups (frame : Frame) : List (Keyed Key) → Except Oversize (List (List (Keyed Key)))
  | [] => .ok []
  | record :: rest =>
    match _filled : frame.fill [] (record :: rest) with
    | ([], _) =>
      .error ⟨.perceivedObject, frame.codec.encodedSize (load frame.blank [record]), frame.limit⟩
    | (first :: others, left) => do
      let later ← frame.groups left
      return (first :: others) :: later
termination_by records => records.length
decreasing_by
  have whole := congrArg List.length (frame.fill_append [] (record :: rest))
  rw [_filled] at whole
  simp only [List.length_append, List.length_cons, List.length_nil] at whole ⊢
  omega

/-! ### Placing the description of the sensors -/

/-- One segment: its message and the keys of the records in it. -/
structure Segment (Key : Type) where
  message : Message
  keys : List Key
deriving Repr

/-- The segment of a group of records. -/
def segment (frame : Frame) (group : List (Keyed Key)) : Segment Key :=
  ⟨load frame.blank group, group.map (·.1)⟩

/-- Puts the description of the sensors into the first segment with room for it, and
returns how many segments come before that one, if there is one. -/
def attach (frame : Frame) (sensors : List SensorInformation) :
    List (Segment Key) → List (Segment Key) × Option Nat
  | [] => ([], none)
  | segment :: rest =>
    if frame.fits (describe segment.message (some sensors)) then
      ({ segment with message := describe segment.message (some sensors) } :: rest, some 0)
    else
      let (later, position) := frame.attach sensors rest
      ({ segment with message := describe segment.message none } :: later,
        position.map (· + 1))

/-- Puts the description of the sensors, if there is one, into a segment of the cycle or
into an additional last one. -/
def place (frame : Frame) (segments : List (Segment Key)) :
    Option (List SensorInformation) → Except Oversize (List (Segment Key) × Option Nat)
  | none => .ok (segments, none)
  | some sensors =>
    match frame.attach sensors segments with
    | (placed, some position) => .ok (placed, some position)
    | (unplaced, none) =>
      let alone := describe frame.blank (some sensors)
      if frame.fits alone then .ok (unplaced ++ [⟨alone, []⟩], some segments.length)
      else .error ⟨.sensorInformation, frame.codec.encodedSize alone, frame.limit⟩

end Frame

/-! ### Numbering -/

/-- Keeps as many segments as a cycle may have and numbers them from one. -/
def number (segments : List (Frame.Segment Key)) (position : Option Nat) : Segmentation Key :=
  let kept := segments.take Message.segmentLimit
  { messages := kept.zipIdx.map fun (segment, index) =>
      segment.message.numbered ⟨kept.length, index + 1⟩
    included := kept.flatMap (·.keys)
    sensorSegment := (position.filter (· < Message.segmentLimit)).map (· + 1)
    dropped := totalOf ((segments.drop Message.segmentLimit).map (·.keys.length)) }

/-! ### The whole -/

/-- The one message that holds everything. -/
def single (template : Message) (records : List (Keyed Key))
    (sensors : Option (List SensorInformation)) : Message :=
  { template with sensors := sensors, objects := records.map (·.2) }

/-- Whether everything goes into one message. -/
def isSingle (codec : Codec) (limit : Nat) (template : Message) (records : List (Keyed Key))
    (sensors : Option (List SensorInformation)) : Bool :=
  records.length ≤ Message.objectLimit &&
    codec.encodedSize (single template records sensors) ≤ limit

/-- The segments of a cycle, with the description of the sensors in its place. -/
def segments (frame : Frame) (records : List (Keyed Key))
    (sensors : Option (List SensorInformation)) :
    Except Oversize (List (Frame.Segment Key) × Option Nat) := do
  let groups ← frame.groups (byPriority records)
  let (segments, position) ← frame.place (groups.map frame.segment) sensors
  if segments.isEmpty then
    throw ⟨.emptyMessage, frame.codec.encodedSize frame.blank, frame.limit⟩
  return (segments, position)

/-- Distributes records and an optional description of the sensors over copies of a
template, which is meant to carry neither objects nor sensors nor a segment number. -/
def segment (codec : Codec) (limit : Nat) (template : Message) (records : List (Keyed Key))
    (sensors : Option (List SensorInformation)) : Except Oversize (Segmentation Key) :=
  if isSingle codec limit template records sensors then
    .ok
      { messages := [single template records sensors]
        included := records.map (·.1)
        sensorSegment := sensors.map fun _ => 1
        dropped := 0 }
  else
    (segments (.ofTemplate codec limit template) records sensors).map fun result =>
      number result.1 result.2

end Segmentation

end CollectivePerception
