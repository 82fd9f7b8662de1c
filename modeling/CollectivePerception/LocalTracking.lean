/-
This file defines which of the objects that a station senses it has already reported,
and in which state. The tracked objects follow the sensed ones: one walk over both
ascending lists removes what is no longer sensed or no longer there, adds what is new,
and leaves the rest as it is.
-/

import CollectivePerception.Scene

namespace CollectivePerception

open OrderedKey

/-- The sensed objects of a station, each with the state in which it was last
reported, if it ever was. -/
structure LocalTracking where
  objects : OrderedMap Handle (Option Motion)

namespace LocalTracking

def empty : LocalTracking := ⟨OrderedMap.empty⟩

instance : Inhabited LocalTracking := ⟨empty⟩

def size (tracking : LocalTracking) : Nat := tracking.objects.size

def handles (tracking : LocalTracking) : List Handle := tracking.objects.keys

def isTracked (tracking : LocalTracking) (handle : Handle) : Bool :=
  tracking.objects.contains handle

/-- The state in which a tracked object was last reported. -/
def lastReported (tracking : LocalTracking) (handle : Handle) : Option Motion :=
  (tracking.objects.get? handle).join

/-- Notes the state in which an object was reported. An object that is not tracked is
left out. -/
def report (tracking : LocalTracking) (handle : Handle) (motion : Motion) : LocalTracking :=
  if tracking.isTracked handle then ⟨tracking.objects.insert handle (some motion)⟩
  else tracking

/-! ### Synchronisation -/

/-- What a synchronisation did: the entries it leaves, and how many were added and
removed. -/
structure Walk where
  kept : List (Handle × Option Motion)
  inserted : Nat
  removed : Nat
deriving Inhabited

/-- The walk with one more entry in front. -/
def Walk.keep (walk : Walk) (entry : Handle × Option Motion) : Walk :=
  { walk with kept := entry :: walk.kept }

/-- The walk with one more new object in front, provided that it is alive. -/
def Walk.add (walk : Walk) (scene : Scene) (handle : Handle) : Walk :=
  if scene.isAlive handle then
    { walk with kept := (handle, none) :: walk.kept, inserted := walk.inserted + 1 }
  else
    walk

/-- The walk with one more removal. -/
def Walk.drop (walk : Walk) : Walk :=
  { walk with removed := walk.removed + 1 }

/-- Walks over the sensed handles and the tracked entries. A sensed handle that does
not lie beyond the last one that was taken is skipped. -/
def walk (scene : Scene) (last : Option Handle) :
    List Handle → List (Handle × Option Motion) → Walk
  | [], tracked => ⟨[], 0, tracked.length⟩
  | sensed :: later, tracked =>
    if last.any fun taken => !precedes taken sensed then
      walk scene last later tracked
    else
      match tracked with
      | [] => (walk scene (some sensed) later []).add scene sensed
      | (known, reported) :: rest =>
        if precedes known sensed then
          (walk scene last (sensed :: later) rest).drop
        else if precedes sensed known then
          (walk scene (some sensed) later ((known, reported) :: rest)).add scene sensed
        else if scene.isAlive sensed then
          (walk scene (some sensed) later rest).keep (known, reported)
        else
          (walk scene (some sensed) later rest).drop
termination_by sensed tracked => sensed.length + tracked.length

/-- How many objects a synchronisation added and removed. -/
structure Changes where
  inserted : Nat
  removed : Nat
deriving DecidableEq, Repr, Inhabited

/-- Makes the tracked objects those of the sensed ones that are alive. The sensed
handles are meant to ascend; one that does not is passed over. -/
def synchronize (tracking : LocalTracking) (sensed : List Handle) (scene : Scene) :
    LocalTracking × Changes :=
  let result := walk scene none sensed tracking.objects.entries
  (⟨OrderedMap.ofList result.kept⟩, ⟨result.inserted, result.removed⟩)

end LocalTracking

end CollectivePerception
