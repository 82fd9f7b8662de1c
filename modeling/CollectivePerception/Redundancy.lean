/-
This file defines the rules that take objects out of a selection because other
stations report them already. Each rule judges an object by what is known of its
station remotely, and a chain of rules applies them one after the other.
-/

import CollectivePerception.Remote.Tracking
import CollectivePerception.Scene

namespace CollectivePerception

/-- A rule that finds an object redundant. -/
inductive RedundancyRule
  /-- A report not older than the window came from a station within the distance. -/
  | distance (window : Duration) (reach : Float)
  /-- The newest report of all agrees with our own measurement in position and speed. -/
  | dynamics (reach tolerance : Float)
  /-- More than `number` reports are not older than the window. -/
  | frequency (window : Duration) (number : Nat)
  /-- Anything at all is known of the object's station. -/
  | selfAnnouncement
deriving Inhabited

/-- What the rules may look at. -/
structure RedundancyContext where
  remote : Remote.Tracking
  scene : Scene
  own : OwnState
  now : Instant

namespace RedundancyRule

def name : RedundancyRule → String
  | distance _ _ => "distance"
  | dynamics _ _ => "dynamics"
  | frequency _ _ => "frequency"
  | selfAnnouncement => "self_announcement"

/-- Whether a report is not older than a window. -/
def isRecent (context : RedundancyContext) (window : Duration) (entry : Remote.HistoryEntry) :
    Bool :=
  context.now.before window ≤ entry.received

/-- Whether what is known of an object's station makes the object redundant. -/
def isRedundant (rule : RedundancyRule) (context : RedundancyContext) (object : SceneObject)
    (known : Remote.Knowledge) : Bool :=
  match rule with
  | distance window reach =>
    known.stored.any fun entry =>
      isRecent context window entry &&
        context.own.position.distance entry.reporterPosition ≤ reach
  | dynamics reach tolerance =>
    known.aggregate.any fun aggregate =>
      object.position.distance aggregate.position ≤ reach &&
        (object.speed - aggregate.speed).abs ≤ tolerance
  | frequency window number =>
    number < known.stored.countP (isRecent context window)
  | selfAnnouncement => true

/-- Whether a candidate stays: its object is alive and not redundant. -/
def keeps (rule : RedundancyRule) (context : RedundancyContext) (candidate : Handle) : Bool :=
  match context.scene candidate with
  | none => false
  | some object =>
    match context.remote.get? object.station with
    | none => true
    | some known => !rule.isRedundant context object known

/-- The candidates that stay. -/
def filter (rule : RedundancyRule) (context : RedundancyContext) (candidates : List Handle) :
    List Handle :=
  candidates.filter (rule.keeps context)

end RedundancyRule

/-- Rules that apply one after the other. -/
abbrev RedundancyChain := List RedundancyRule

namespace RedundancyChain

def names (chain : RedundancyChain) : List String := chain.map RedundancyRule.name

/-- The candidates that stay after all rules. -/
def filter (chain : RedundancyChain) (context : RedundancyContext) (candidates : List Handle) :
    List Handle :=
  chain.foldl (fun left rule => rule.filter context left) candidates

end RedundancyChain

end CollectivePerception
