/-
This file defines the settings of a station's service: how often it generates
messages, how large they may be, what it tracks, and which rules it applies.
-/

import CollectivePerception.Configuration.Rules

namespace CollectivePerception

/-! ### Transmission profiles -/

/-- The profile under which congestion control treats a message. -/
inductive TransmissionProfile
  | dp0
  | dp1
  | dp2
  | dp3
deriving DecidableEq, Repr, Inhabited

/-- The profile of a traffic class, which its low two bits select. -/
def TransmissionProfile.ofTrafficClass (trafficClass : Nat) : TransmissionProfile :=
  match trafficClass % 4 with
  | 0 => .dp0
  | 1 => .dp1
  | 2 => .dp2
  | _ => .dp3

/-! ### Settings -/

/-- The settings of a service. -/
structure ServiceSettings where
  /-- The least interval between two cycles that send. -/
  minimumIntervalMillis : Nat
  /-- The greatest interval that congestion control may demand. -/
  maximumIntervalMillis : Nat
  /-- How often the sensors are described. -/
  sensorIntervalMillis : Nat
  /-- The greatest size of a message in bytes. -/
  sizeLimit : Nat
  trafficClass : Nat
  /-- Whether congestion control may stretch the interval. -/
  restricted : Bool
  /-- Whether redundant objects are taken out only above a channel load. -/
  loadDependent : Bool
  /-- That load. -/
  redundancyLoad : Float
  /-- The sensors whose objects are tracked. -/
  trackedCategory : SensorCategory
  duplicatePolicy : Remote.DuplicatePolicy
  /-- The message clock's count at the origin of simulation time. -/
  epochOffset : Int
  selection : SelectionSettings
  redundancy : List RedundancySettings
deriving Inhabited, BEq

namespace ServiceSettings

def standard : ServiceSettings where
  minimumIntervalMillis := 100
  maximumIntervalMillis := 1000
  sensorIntervalMillis := 1000
  sizeLimit := 1394
  trafficClass := 2
  restricted := false
  loadDependent := false
  redundancyLoad := 0.25
  trackedCategory := .radar
  duplicatePolicy := .none
  epochOffset := 0
  selection := .standard
  redundancy := []

def minimumInterval (settings : ServiceSettings) : Duration :=
  Duration.ofMillis settings.minimumIntervalMillis

def maximumInterval (settings : ServiceSettings) : Duration :=
  Duration.ofMillis settings.maximumIntervalMillis

def sensorInterval (settings : ServiceSettings) : Duration :=
  Duration.ofMillis settings.sensorIntervalMillis

def profile (settings : ServiceSettings) : TransmissionProfile :=
  .ofTrafficClass settings.trafficClass

/-- Rejects the first setting that a service cannot work with. The settings of the
rules are checked when the rules are built. -/
def validate (settings : ServiceSettings) : Except ConfigurationError Unit := do
  requireSetting (settings.minimumIntervalMillis != 0) "gen_cpm_min_ms" .zero
  requireSetting (settings.minimumIntervalMillis ≤ settings.maximumIntervalMillis)
    "gen_cpm_max_ms"
    (.belowMinimum settings.maximumIntervalMillis settings.minimumIntervalMillis)
  requireSetting (settings.sensorIntervalMillis != 0) "add_sensor_information_ms" .zero
  requireSetting (settings.sizeLimit != 0) "mtu" .zero
  requireSetting
    (settings.redundancyLoad.isFinite && 0.0 ≤ settings.redundancyLoad &&
      settings.redundancyLoad ≤ 1.0)
    "redundancy_load" (.outsideUnitInterval settings.redundancyLoad)
  requireSetting settings.trackedCategory.isOnBoard "local_tracking_category"
    (.notOnBoard settings.trackedCategory)

end ServiceSettings

end CollectivePerception
