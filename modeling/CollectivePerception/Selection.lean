/-
This file defines the rules that select the objects for the next message among those
that a station tracks. The static rule takes them all and asks for a message even if
there are none. The dynamic rule takes those that were never reported or whose state
has drifted past a threshold since; it may also add those that are predicted to do so,
but a prediction alone never causes a message.
-/

import CollectivePerception.LocalTracking

namespace CollectivePerception

/-- The objects selected for a message, and whether to send one even if there are
none. -/
structure Selection where
  candidates : List Handle
  force : Bool
deriving DecidableEq, Repr, Inhabited

namespace Selection

/-! ### The static rule -/

/-- Every tracked object that is alive. -/
def all (tracking : LocalTracking) (scene : Scene) : Selection :=
  ⟨tracking.handles.filter scene.isAlive, true⟩

/-! ### The dynamic rule -/

/-- Why an object is selected. -/
inductive Reason
  /-- It was never reported, or its state has drifted. -/
  | now
  /-- Its state is predicted to drift. -/
  | predicted
deriving DecidableEq, Repr

/-- How to judge an object: when a state has drifted from the reported one, and the
state to expect of an object unless nothing is predicted. -/
structure Judge where
  drifted : (current reported : Motion) → Bool
  expected : Option (SceneObject → Motion → Motion)

/-- Why a tracked object is selected, if it is. -/
def Judge.reason? (judge : Judge) (scene : Scene) (now : Instant)
    (tracked : Handle × Option Motion) : Option Reason :=
  match scene tracked.1, tracked.2 with
  | none, _ => none
  | some _, none => some .now
  | some object, some reported =>
    let current := object.motion now
    if judge.drifted current reported then
      some .now
    else
      match judge.expected with
      | none => none
      | some expected =>
        if judge.drifted (expected object current) reported then some .predicted else none

/-- The tracked objects that are selected for one reason, in ascending order. -/
def Judge.selectedFor (judge : Judge) (reason : Reason) (tracking : LocalTracking)
    (scene : Scene) (now : Instant) : List Handle :=
  (tracking.objects.entries.filter fun tracked =>
    judge.reason? scene now tracked == some reason).map (·.1)

/-- The objects selected now, followed by the predicted ones unless there are none to
follow. -/
def Judge.select (judge : Judge) (tracking : LocalTracking) (scene : Scene) (now : Instant) :
    Selection :=
  match judge.selectedFor .now tracking scene now with
  | [] => ⟨[], false⟩
  | first :: rest =>
    ⟨first :: rest ++ judge.selectedFor .predicted tracking scene now, false⟩

end Selection

/-! ### Rules -/

/-- The thresholds past which a state has drifted, and how far to predict. -/
structure DriftThresholds where
  /-- Metres. -/
  distance : Float
  /-- Metres per second. -/
  speed : Float
  /-- The heading may change by this much. -/
  heading : Angle
  /-- A report may become this old. -/
  time : Duration
  /-- Predict to the next cycle and not by a fixed interval. -/
  dynamicPrediction : Bool
  /-- The fixed interval; nothing is predicted if it is zero. -/
  predictionInterval : Duration
deriving Inhabited

namespace DriftThresholds

def standard : DriftThresholds where
  distance := 4.0
  speed := 0.5
  heading := Angle.ofDegrees 4.0
  time := Duration.ofMillis 1000
  dynamicPrediction := false
  predictionInterval := Duration.zero

/-- How far to predict if the next cycle is `nextCycle` away; zero means not at all. -/
def horizon (thresholds : DriftThresholds) (nextCycle : Duration) : Duration :=
  if thresholds.predictionInterval = Duration.zero then Duration.zero
  else if thresholds.dynamicPrediction then nextCycle
  else thresholds.predictionInterval

/-- Whether a state has drifted past a threshold from the reported one. -/
def exceeded (thresholds : DriftThresholds) (current reported : Motion) : Bool :=
  thresholds.distance < current.position.distance reported.position ||
    thresholds.speed < (current.speed - reported.speed).abs ||
    !current.heading.similar reported.heading thresholds.heading ||
    thresholds.time < current.time.elapsedSince reported.time

/-- The judge of a cycle whose successor is `nextCycle` away. -/
def judge (thresholds : DriftThresholds) (nextCycle : Duration) : Selection.Judge where
  drifted := thresholds.exceeded
  expected :=
    let horizon := thresholds.horizon nextCycle
    if horizon = Duration.zero then none
    else some fun object current => current.predict horizon object.acceleration

end DriftThresholds

/-- A rule that selects objects. -/
inductive SelectionRule
  | static
  | dynamic (thresholds : DriftThresholds)
deriving Inhabited

namespace SelectionRule

def name : SelectionRule → String
  | static => "static"
  | dynamic _ => "dynamic"

/-- The selection of a cycle whose successor is `nextCycle` away. -/
def select (rule : SelectionRule) (tracking : LocalTracking) (scene : Scene) (now : Instant)
    (nextCycle : Duration) : Selection :=
  match rule with
  | static => Selection.all tracking scene
  | dynamic thresholds => (thresholds.judge nextCycle).select tracking scene now

end SelectionRule

end CollectivePerception
