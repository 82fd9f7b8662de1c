/-
This file defines the settings of the selection rule and of the redundancy rules, and
how they become rules. A rule is rejected for the first of its settings, in a fixed
order, that it cannot work with.
-/

import CollectivePerception.Configuration.Error
import CollectivePerception.Redundancy
import CollectivePerception.Selection

namespace CollectivePerception

/-- Accepts a positive, finite number. -/
def requirePositive (name : String) (value : Float) : Except ConfigurationError Unit :=
  requireSetting (isPositive value) name (.notPositiveNumber value)

/-- Accepts a number of milliseconds other than zero. -/
def requireNonZero (name : String) (millis : Nat) : Except ConfigurationError Unit :=
  requireSetting (millis != 0) name .zero

/-! ### Selection -/

/-- The settings of the dynamic selection rule. -/
structure DriftSettings where
  distanceThreshold : Float
  speedThreshold : Float
  headingThresholdDegrees : Float
  timeThresholdMillis : Nat
  dynamicPrediction : Bool
  predictionIntervalMillis : Nat
deriving Inhabited, BEq

def DriftSettings.standard : DriftSettings where
  distanceThreshold := 4.0
  speedThreshold := 0.5
  headingThresholdDegrees := 4.0
  timeThresholdMillis := 1000
  dynamicPrediction := false
  predictionIntervalMillis := 0

/-- The settings of a selection rule. -/
inductive SelectionSettings
  | static
  | dynamic (settings : DriftSettings)
deriving Inhabited, BEq

namespace SelectionSettings

def standard : SelectionSettings := dynamic DriftSettings.standard

/-- The rule with these settings. -/
def build : SelectionSettings → Except ConfigurationError SelectionRule
  | static => .ok .static
  | dynamic settings => do
    let degrees := settings.headingThresholdDegrees
    requireSetting (degrees.isFinite && 0.0 ≤ degrees && degrees ≤ 180.0)
      "generation.heading_threshold_deg" (.outsideHalfTurn degrees)
    requirePositive "generation.distance_threshold" settings.distanceThreshold
    requirePositive "generation.speed_threshold" settings.speedThreshold
    requireNonZero "generation.time_threshold_ms" settings.timeThresholdMillis
    return .dynamic
      { distance := settings.distanceThreshold
        speed := settings.speedThreshold
        heading := Angle.ofDegrees degrees
        time := Duration.ofMillis settings.timeThresholdMillis
        dynamicPrediction := settings.dynamicPrediction
        predictionInterval := Duration.ofMillis settings.predictionIntervalMillis }

end SelectionSettings

/-! ### Redundancy -/

/-- The settings of a redundancy rule. -/
inductive RedundancySettings
  | distance (windowMillis : Nat) (reach : Float)
  | dynamics (reach tolerance : Float)
  | frequency (windowMillis number : Nat)
  | selfAnnouncement
deriving Inhabited, BEq

namespace RedundancySettings

/-- What a rule takes for the settings that are left out. -/
def standardWindowMillis : Nat := 1000
def standardReach : Float := 10.0
def standardNumber : Nat := 5

/-- The rule with these settings. -/
def build : RedundancySettings → Except ConfigurationError RedundancyRule
  | distance windowMillis reach => do
    requireNonZero "redundancy.distance.window_ms" windowMillis
    requirePositive "redundancy.distance.distance" reach
    return .distance (Duration.ofMillis windowMillis) reach
  | dynamics reach tolerance => do
    requirePositive "redundancy.dynamics.distance" reach
    requirePositive "redundancy.dynamics.speed" tolerance
    return .dynamics reach tolerance
  | frequency windowMillis number => do
    requireNonZero "redundancy.frequency.window_ms" windowMillis
    return .frequency (Duration.ofMillis windowMillis) number
  | selfAnnouncement => .ok .selfAnnouncement

/-- The chain of the rules, in the order of their settings. -/
def buildChain (settings : List RedundancySettings) :
    Except ConfigurationError RedundancyChain :=
  settings.mapM build

end RedundancySettings

end CollectivePerception
