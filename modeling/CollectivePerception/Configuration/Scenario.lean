/-
This file defines the settings of a simulation: those of the service that every vehicle
runs, and those of the road that the vehicles drive on. A document that leaves settings
out gets their standard values, and variables of the surrounding system may replace a
few of them.
-/

import CollectivePerception.Configuration.Document
import CollectivePerception.Decimal.Reading

namespace CollectivePerception

open Document (Reader natural)

/-! ### The road -/

/-- A straight road with a column of vehicles in one lane. -/
structure ScenarioSettings where
  vehicles : Nat
  /-- The gap between two vehicles at the start, in metres. -/
  spacing : Float
  /-- The speed of the last vehicle in metres per second. -/
  baseSpeed : Float
  /-- By how much each vehicle is faster than the one behind it. -/
  speedStep : Float
  /-- How far the front radar of a vehicle reaches, in metres. -/
  radarRange : Float
  /-- How far the radio of a vehicle reaches, in metres. -/
  radioRange : Float
  /-- The time from sending to reception. -/
  latencyMillis : Nat
  /-- The time from one step of the simulation to the next. -/
  stepMillis : Nat
  durationMillis : Nat
  /-- Where the plane's origin lies. -/
  origin : GeoPoint
deriving Inhabited, BEq

namespace ScenarioSettings

def standard : ScenarioSettings where
  vehicles := 8
  spacing := 30.0
  baseSpeed := 13.9
  speedStep := 0.4
  radarRange := 80.0
  radioRange := 500.0
  latencyMillis := 2
  stepMillis := 100
  durationMillis := 5000
  origin := ⟨52.2689, 10.5268⟩

/-- Accepts a measure that is positive and finite. -/
def requireMeasure (name : String) (value : Float) : Except ConfigurationError Unit :=
  requireSetting (isPositive value) name (.notPositive value)

/-- Rejects the first setting that no simulation can work with. -/
def validate (settings : ScenarioSettings) : Except ConfigurationError Unit := do
  requireSetting (settings.vehicles != 0) "scenario.vehicles" .noVehicle
  requireSetting (settings.stepMillis != 0) "scenario.step_ms" .zero
  requireMeasure "scenario.spacing" settings.spacing
  requireMeasure "scenario.radar_range" settings.radarRange
  requireMeasure "scenario.radio_range" settings.radioRange

end ScenarioSettings

/-! ### Documents -/

def GeoPoint.toDocument (position : GeoPoint) : Document :=
  .table [("latitude", .float position.latitude), ("longitude", .float position.longitude)]

def GeoPoint.ofDocument : Reader GeoPoint := fun document => do
  let fields ← Reader.fields document
  let latitude ← fields.required 0 "latitude" .float
  let longitude ← fields.required 1 "longitude" .float
  return ⟨latitude, longitude⟩

namespace ScenarioSettings

def toDocument (settings : ScenarioSettings) : Document :=
  .table [
    ("vehicles", natural settings.vehicles),
    ("spacing", .float settings.spacing),
    ("base_speed", .float settings.baseSpeed),
    ("speed_step", .float settings.speedStep),
    ("radar_range", .float settings.radarRange),
    ("radio_range", .float settings.radioRange),
    ("latency_ms", natural settings.latencyMillis),
    ("step_ms", natural settings.stepMillis),
    ("duration_ms", natural settings.durationMillis),
    ("origin", settings.origin.toDocument)]

def ofDocument : Reader ScenarioSettings := fun document => do
  let fields ← Reader.fields document
  let standard := ScenarioSettings.standard
  let vehicles ← fields.withStandard 0 "vehicles" standard.vehicles (.natural 64)
  let spacing ← fields.withStandard 1 "spacing" standard.spacing .float
  let baseSpeed ← fields.withStandard 2 "base_speed" standard.baseSpeed .float
  let speedStep ← fields.withStandard 3 "speed_step" standard.speedStep .float
  let radarRange ← fields.withStandard 4 "radar_range" standard.radarRange .float
  let radioRange ← fields.withStandard 5 "radio_range" standard.radioRange .float
  let latencyMillis ← fields.withStandard 6 "latency_ms" standard.latencyMillis (.natural 64)
  let stepMillis ← fields.withStandard 7 "step_ms" standard.stepMillis (.natural 64)
  let durationMillis ← fields.withStandard 8 "duration_ms" standard.durationMillis (.natural 64)
  let origin ← fields.withStandard 9 "origin" standard.origin GeoPoint.ofDocument
  return {
    vehicles := vehicles
    spacing := spacing
    baseSpeed := baseSpeed
    speedStep := speedStep
    radarRange := radarRange
    radioRange := radioRange
    latencyMillis := latencyMillis
    stepMillis := stepMillis
    durationMillis := durationMillis
    origin := origin }

end ScenarioSettings

/-! ### The whole -/

/-- The settings of a simulation. -/
structure SimulationSettings where
  service : ServiceSettings
  scenario : ScenarioSettings
deriving Inhabited, BEq

namespace SimulationSettings

def standard : SimulationSettings := ⟨.standard, .standard⟩

/-- The entries of the document of settings. -/
def entries (settings : SimulationSettings) : Document.Table := [
  ("service", settings.service.toDocument),
  ("scenario", settings.scenario.toDocument)]

def toDocument (settings : SimulationSettings) : Document := .table settings.entries

def ofDocument : Reader SimulationSettings := fun document => do
  let fields ← Reader.fields document
  let service ←
    fields.withStandard 0 "service" ServiceSettings.standard ServiceSettings.ofDocument
  let scenario ←
    fields.withStandard 1 "scenario" ScenarioSettings.standard ScenarioSettings.ofDocument
  return ⟨service, scenario⟩

/-! ### Variables -/

/-- A natural number of at most 64 bits as a variable gives it. -/
def variableNatural? (text : String) : Option Nat :=
  (Decimal.natural? text).filter (· < Binary64.wordRange)

/-- A truth value as a variable gives it. -/
def variableBoolean? : String → Option Bool
  | "true" => some true
  | "false" => some false
  | _ => none

/-- The variables that may replace settings. -/
def variableNames : List String :=
  ["CPM_MTU", "CPM_GEN_CPM_MIN_MS", "CPM_DCC", "CPM_VEHICLES", "CPM_DURATION_MS"]

/-- The settings with those replaced for which a variable is set. A variable whose text
is no value of its setting is passed over. -/
def override (settings : SimulationSettings) (lookup : String → Option String) :
    SimulationSettings :=
  let natural (name : String) (standard : Nat) : Nat :=
    ((lookup name).bind variableNatural?).getD standard
  let service := { settings.service with
    sizeLimit := natural "CPM_MTU" settings.service.sizeLimit
    minimumIntervalMillis :=
      natural "CPM_GEN_CPM_MIN_MS" settings.service.minimumIntervalMillis
    restricted :=
      ((lookup "CPM_DCC").bind variableBoolean?).getD settings.service.restricted }
  let scenario := { settings.scenario with
    vehicles := natural "CPM_VEHICLES" settings.scenario.vehicles
    durationMillis := natural "CPM_DURATION_MS" settings.scenario.durationMillis }
  ⟨service, scenario⟩

end SimulationSettings

end CollectivePerception
