/-
This file proves on which parts of a message its size depends. An encoding ignores numbers
when a message with a segment number keeps its size under every other number; the fixed
layout is such an encoding. Its size neither depends on the order of the objects, nor does
it shrink when a message gets a segment number.
-/

import CollectivePerception.Message.Codec

namespace CollectivePerception

/-- An encoding ignores numbers if the size of a message depends on whether it has a
segment number, and not on which. -/
def Codec.IgnoresNumbers (codec : Codec) : Prop :=
  ∀ (message : Message) (segment : SegmentNumber), message.isSegmented = true →
    codec.encodedSize (message.numbered segment) = codec.encodedSize message

namespace FixedLayout

theorem encodedSize_numbered (message : Message) (segment : SegmentNumber) :
    encodedSize (message.numbered segment) =
      baseSize + 2 + vehicleSize message.vehicle + sensorsSize message.sensors +
        objectsSize message.objects := rfl

theorem segmentSize_le (segment : Option SegmentNumber) : segmentSize segment ≤ 2 := by
  unfold segmentSize
  split <;> omega

theorem fixedLayout_ignoresNumbers : Codec.fixedLayout.IgnoresNumbers := by
  intro message segment segmented
  show encodedSize (message.numbered segment) = encodedSize message
  have already : segmentSize message.management.segment = 2 := if_pos segmented
  rw [encodedSize_numbered, encodedSize, already]

/-- A message does not get smaller with a segment number. -/
theorem encodedSize_le_numbered (message : Message) (segment : SegmentNumber) :
    encodedSize message ≤ encodedSize (message.numbered segment) := by
  have bound := segmentSize_le message.management.segment
  rw [encodedSize_numbered, encodedSize]
  omega

theorem objectsSize_perm {first second : List PerceivedObject}
    (permutation : first.Perm second) : objectsSize first = objectsSize second := by
  rw [objectsSize, objectsSize, totalOf_perm (permutation.map recordSize),
    permutation.isEmpty_eq]

/-- The order of the objects does not matter to the size of a message. -/
theorem encodedSize_perm (message : Message) {objects : List PerceivedObject}
    (permutation : objects.Perm message.objects) :
    encodedSize { message with objects := objects } = encodedSize message := by
  rw [encodedSize, objectsSize_perm permutation]
  rfl

end FixedLayout

end CollectivePerception
