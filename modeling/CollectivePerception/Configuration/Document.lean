/-
This file writes the settings of the rules and of a service as documents and reads them
from documents. A setting that a document leaves out has its standard value, or the
default of its type where the standard value is just that. The settings of a rule name
the kind of the rule, and what is left out is standard for that kind. Where a list stands
for settings, items after the last of them are passed over, but not in a list that stands
for a rule.
-/

import CollectivePerception.Configuration.Service
import CollectivePerception.Document

namespace CollectivePerception

open Document (Reader natural)

/-! ### Selection -/

/-- The entries that describe the thresholds of the dynamic selection rule. -/
def DriftSettings.entries (settings : DriftSettings) : Document.Table := [
  ("distance_threshold", .float settings.distanceThreshold),
  ("speed_threshold", .float settings.speedThreshold),
  ("heading_threshold_deg", .float settings.headingThresholdDegrees),
  ("time_threshold_ms", natural settings.timeThresholdMillis),
  ("dynamic_prediction", .boolean settings.dynamicPrediction),
  ("prediction_interval_ms", natural settings.predictionIntervalMillis)]

def DriftSettings.ofFields (fields : Document.Fields) :
    Except Document.Mismatch DriftSettings := do
  let standard := DriftSettings.standard
  let distanceThreshold ←
    fields.withStandard 0 "distance_threshold" standard.distanceThreshold .float
  let speedThreshold ← fields.withStandard 1 "speed_threshold" standard.speedThreshold .float
  let headingThresholdDegrees ←
    fields.withStandard 2 "heading_threshold_deg" standard.headingThresholdDegrees .float
  let timeThresholdMillis ←
    fields.withStandard 3 "time_threshold_ms" standard.timeThresholdMillis (.natural 64)
  let dynamicPrediction ← fields.withStandard 4 "dynamic_prediction" default .boolean
  let predictionIntervalMillis ←
    fields.withStandard 5 "prediction_interval_ms" default (.natural 64)
  return ⟨distanceThreshold, speedThreshold, headingThresholdDegrees, timeThresholdMillis,
    dynamicPrediction, predictionIntervalMillis⟩

namespace SelectionSettings

def toDocument : SelectionSettings → Document
  | static => .table [("type", .text "static")]
  | dynamic settings => .table (("type", .text "dynamic") :: settings.entries)

/-- The reader of the other fields of a kind of rule. -/
def kindReader? : String → Option (Document.Fields → Except Document.Mismatch SelectionSettings)
  | "static" => some fun fields => do
    fields.refuseMore 0
    return static
  | "dynamic" => some fun fields => do
    let settings ← DriftSettings.ofFields fields
    fields.refuseMore 6
    return dynamic settings
  | _ => none

def ofDocument : Reader SelectionSettings := .tagged "type" kindReader?

end SelectionSettings

/-! ### Redundancy -/

namespace RedundancySettings

def toDocument : RedundancySettings → Document
  | distance windowMillis reach =>
    .table [
      ("type", .text "distance"),
      ("window_ms", natural windowMillis),
      ("distance", .float reach)]
  | dynamics reach tolerance =>
    .table [
      ("type", .text "dynamics"),
      ("distance", .float reach),
      ("speed", .float tolerance)]
  | frequency windowMillis number =>
    .table [
      ("type", .text "frequency"),
      ("window_ms", natural windowMillis),
      ("number", natural number)]
  | selfAnnouncement => .table [("type", .text "self_announcement")]

/-- The reader of the other fields of a kind of rule. -/
def kindReader? :
    String → Option (Document.Fields → Except Document.Mismatch RedundancySettings)
  | "distance" => some fun fields => do
    let windowMillis ← fields.withStandard 0 "window_ms" standardWindowMillis (.natural 64)
    let reach ← fields.withStandard 1 "distance" standardReach .float
    fields.refuseMore 2
    return distance windowMillis reach
  | "dynamics" => some fun fields => do
    let standard := DriftSettings.standard
    let reach ← fields.withStandard 0 "distance" standard.distanceThreshold .float
    let tolerance ← fields.withStandard 1 "speed" standard.speedThreshold .float
    fields.refuseMore 2
    return dynamics reach tolerance
  | "frequency" => some fun fields => do
    let windowMillis ← fields.withStandard 0 "window_ms" standardWindowMillis (.natural 64)
    let number ← fields.withStandard 1 "number" standardNumber (.natural 64)
    fields.refuseMore 2
    return frequency windowMillis number
  | "self_announcement" => some fun fields => do
    fields.refuseMore 0
    return selfAnnouncement
  | _ => none

def ofDocument : Reader RedundancySettings := .tagged "type" kindReader?

end RedundancySettings

/-! ### Service -/

namespace ServiceSettings

def toDocument (settings : ServiceSettings) : Document :=
  .table [
    ("gen_cpm_min_ms", natural settings.minimumIntervalMillis),
    ("gen_cpm_max_ms", natural settings.maximumIntervalMillis),
    ("add_sensor_information_ms", natural settings.sensorIntervalMillis),
    ("mtu", natural settings.sizeLimit),
    ("traffic_class", natural settings.trafficClass),
    ("with_dcc_restriction", .boolean settings.restricted),
    ("dynamic_redundancy_mitigation", .boolean settings.loadDependent),
    ("redundancy_load", .float settings.redundancyLoad),
    ("local_tracking_category", .named settings.trackedCategory),
    ("duplicate_policy", .named settings.duplicatePolicy),
    ("its_epoch_offset_ms", .integer settings.epochOffset),
    ("generation", settings.selection.toDocument),
    ("redundancy", .list (settings.redundancy.map RedundancySettings.toDocument))]

def ofDocument : Reader ServiceSettings := fun document => do
  let fields ← Reader.fields document
  let standard := ServiceSettings.standard
  let minimumIntervalMillis ←
    fields.withStandard 0 "gen_cpm_min_ms" standard.minimumIntervalMillis (.natural 64)
  let maximumIntervalMillis ←
    fields.withStandard 1 "gen_cpm_max_ms" standard.maximumIntervalMillis (.natural 64)
  let sensorIntervalMillis ←
    fields.withStandard 2 "add_sensor_information_ms" standard.sensorIntervalMillis (.natural 64)
  let sizeLimit ← fields.withStandard 3 "mtu" standard.sizeLimit (.natural 64)
  let trafficClass ← fields.withStandard 4 "traffic_class" standard.trafficClass (.natural 8)
  let restricted ← fields.withStandard 5 "with_dcc_restriction" default .boolean
  let loadDependent ← fields.withStandard 6 "dynamic_redundancy_mitigation" default .boolean
  let redundancyLoad ← fields.withStandard 7 "redundancy_load" standard.redundancyLoad .float
  let trackedCategory ←
    fields.withStandard 8 "local_tracking_category" default (.named Document.isEmpty)
  let duplicatePolicy ←
    fields.withStandard 9 "duplicate_policy" default (.named Document.isEmpty)
  let epochOffset ← fields.withStandard 10 "its_epoch_offset_ms" default (.signed 64)
  let selection ←
    fields.withStandard 11 "generation" standard.selection SelectionSettings.ofDocument
  let redundancy ←
    fields.withStandard 12 "redundancy" default (.list RedundancySettings.ofDocument)
  return {
    minimumIntervalMillis := minimumIntervalMillis
    maximumIntervalMillis := maximumIntervalMillis
    sensorIntervalMillis := sensorIntervalMillis
    sizeLimit := sizeLimit
    trafficClass := trafficClass
    restricted := restricted
    loadDependent := loadDependent
    redundancyLoad := redundancyLoad
    trackedCategory := trackedCategory
    duplicatePolicy := duplicatePolicy
    epochOffset := epochOffset
    selection := selection
    redundancy := redundancy }

end ServiceSettings

end CollectivePerception
