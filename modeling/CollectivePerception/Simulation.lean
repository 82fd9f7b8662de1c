/-
This file defines the simulation: a column of vehicles on a straight road, each with a
front radar, a radio and a service. In every step all vehicles move, each of them senses
its surroundings, the messages that have arrived are delivered to the vehicles in reach,
and then every service gets its turn. A step leaves a trace of what happened, from which
its totals follow.
-/

import CollectivePerception.Channel
import CollectivePerception.Configuration.Scenario
import CollectivePerception.Service.Generation
import CollectivePerception.Service.Reception

namespace CollectivePerception

/-! ### Vehicles -/

/-- One vehicle: its object in the scene, what it knows, and its service. -/
structure Vehicle where
  handle : Handle
  own : OwnState
  environment : Environment
  awareness : AwarenessStore
  service : Service
  /-- The measurements not yet taken, the newest first. -/
  recorded : List Statistic

namespace Vehicle

def station (vehicle : Vehicle) : StationId := vehicle.own.station

/-- What the vehicle's service may look at. -/
def surroundings (vehicle : Vehicle) (scene : Scene) : Surroundings :=
  ⟨scene, vehicle.environment, vehicle.awareness, vehicle.own⟩

/-- The vehicle after some measurements. -/
def record (vehicle : Vehicle) (statistics : List Statistic) : Vehicle :=
  { vehicle with recorded := statistics.reverseAux vehicle.recorded }

end Vehicle

/-- The state that a vehicle knows of itself after it has looked at its own object. -/
def OwnState.observe (own : OwnState) (object : SceneObject) (projection : Projection)
    (now : Instant) : OwnState :=
  { own with
    acceleration := object.acceleration
    position := object.position
    geo := projection.toGeo object.position
    heading := object.heading
    speed := object.speed
    updated := now }

/-! ### Sensing -/

/-- How far the devices of a vehicle reach, in metres. -/
structure Reach where
  radar : Float
  radio : Float

namespace Reach

/-- The number of the front radar, and that of the radio as a source of sightings. -/
def radarSensor : Nat := 1
def radioSensor : Nat := 0

/-- For how long a sighting is remembered. -/
def sightingLifetime : Duration := Duration.ofMillis 200

/-- Whether the radar of one vehicle sees another: it is strictly ahead and in range. -/
def sees (reach : Reach) (own other : SceneObject) : Bool :=
  let ahead := other.position.x - own.position.x
  0.0 < ahead && ahead ≤ reach.radar

/-- Whether the radio of one vehicle hears another. -/
def hears (reach : Reach) (own other : SceneObject) : Bool :=
  own.position.distance other.position ≤ reach.radio

end Reach

/-- The announcement of an object by itself. -/
def SceneObject.announcement (object : SceneObject) (now : Instant) : AwarenessReport :=
  ⟨object.station, now, object.position, object.speed⟩

/-- The vehicle after it has sensed one other. -/
def Vehicle.senseOther (vehicle : Vehicle) (reach : Reach) (own : SceneObject) (now : Instant)
    (other : Handle × SceneObject) : Vehicle :=
  let seen :=
    if reach.sees own other.2 then
      { vehicle with
        environment := vehicle.environment.record other.1 Reach.radarSensor .radar now }
    else
      vehicle
  if reach.hears own other.2 then
    { seen with
      environment := seen.environment.record other.1 Reach.radioSensor .awareness now
      awareness := seen.awareness.update (other.2.announcement now) }
  else
    seen

/-- The vehicle after it has forgotten what it no longer senses. -/
def Vehicle.forget (vehicle : Vehicle) (now : Instant) : Vehicle :=
  { vehicle with
    environment := (vehicle.environment.expire now Reach.sightingLifetime).1
    awareness := vehicle.awareness.expire now }

/-- The vehicle after it has sensed all others. -/
def Vehicle.sense (vehicle : Vehicle) (reach : Reach) (projection : Projection) (now : Instant)
    (present : List (Handle × SceneObject)) (own : SceneObject) : Vehicle :=
  let observed := { vehicle with own := vehicle.own.observe own projection now }
  let others := present.filter fun other => other.1 != vehicle.handle
  (others.foldl (fun vehicle other => vehicle.senseOther reach own now other) observed).forget now

/-! ### Traces -/

/-- One message offered to one vehicle, and what came of it. -/
structure Delivery where
  transmission : Transmission
  receiver : StationId
  outcome : Except ServiceError ReceptionReport

/-- One cycle of one vehicle. -/
structure CycleTrace where
  station : StationId
  outcome : Except ServiceError CycleReport
  sent : List Message

/-- What happened in one step. -/
structure StepTrace where
  time : Instant
  deliveries : List Delivery
  cycles : List CycleTrace
  /-- The channel's load after the step. -/
  busyRatio : Float

/-- The totals of one step or of several. -/
structure StepSummary where
  timeMillis : Int
  triggered : Nat
  messages : Nat
  segments : Nat
  objectsSent : Nat
  selected : Nat
  mitigated : Nat
  receptions : Nat
  errors : Nat
  busyRatio : Float
deriving Inhabited

def Delivery.isReception (delivery : Delivery) : Bool := delivery.outcome.isOk

namespace StepTrace

/-- The reports of the cycles that did not fail. -/
def reports (trace : StepTrace) : List CycleReport :=
  trace.cycles.filterMap fun cycle => cycle.outcome.toOption

/-- The reports of the cycles whose interval had passed. -/
def triggered (trace : StepTrace) : List CycleReport :=
  trace.reports.filter (·.triggered)

/-- The reports of the cycles that sent. -/
def sending (trace : StepTrace) : List CycleReport :=
  trace.reports.filter fun report => decide (0 < report.segments)

/-- How many cycles failed. -/
def failures (trace : StepTrace) : Nat :=
  trace.cycles.countP fun cycle => !cycle.outcome.isOk

def summary (trace : StepTrace) : StepSummary where
  timeMillis := trace.time.millis
  triggered := trace.triggered.length
  messages := trace.sending.length
  segments := totalOf (trace.sending.map (·.segments))
  objectsSent := totalOf (trace.sending.map (·.objects))
  selected := totalOf (trace.triggered.map (·.selected))
  mitigated := totalOf (trace.triggered.map (·.mitigated))
  receptions := trace.deliveries.countP (·.isReception)
  errors := trace.deliveries.countP (!·.isReception) + trace.failures
  busyRatio := trace.busyRatio

end StepTrace

namespace StepSummary

/-- The totals of nothing. -/
def zero : StepSummary := ⟨0, 0, 0, 0, 0, 0, 0, 0, 0, 0.0⟩

/-- The totals with those of a later step added; of the channel's load the peak counts. -/
def add (total step : StepSummary) : StepSummary where
  timeMillis := step.timeMillis
  triggered := total.triggered + step.triggered
  messages := total.messages + step.messages
  segments := total.segments + step.segments
  objectsSent := total.objectsSent + step.objectsSent
  selected := total.selected + step.selected
  mitigated := total.mitigated + step.mitigated
  receptions := total.receptions + step.receptions
  errors := total.errors + step.errors
  busyRatio := if total.busyRatio < step.busyRatio then step.busyRatio else total.busyRatio

def toDocument (summary : StepSummary) : Document :=
  .table [
    ("time_ms", .integer summary.timeMillis),
    ("triggered", .natural summary.triggered),
    ("messages", .natural summary.messages),
    ("segments", .natural summary.segments),
    ("objects_sent", .natural summary.objectsSent),
    ("generated", .natural summary.selected),
    ("mitigated", .natural summary.mitigated),
    ("receptions", .natural summary.receptions),
    ("errors", .natural summary.errors),
    ("channel_busy_ratio", .float summary.busyRatio)]

end StepSummary

/-! ### The simulation -/

structure Simulation where
  scenario : ScenarioSettings
  arena : Arena
  vehicles : List Vehicle
  channel : Channel
  now : Instant

namespace Simulation

/-- The number of the last vehicle of the column. -/
def firstStation : StationId := 100

/-- The object of a vehicle at the start; the column heads east. -/
def startObject (scenario : ScenarioSettings) (place : Nat) : SceneObject :=
  { SceneObject.initial (firstStation + place) .passengerCar with
    position := ⟨Float.ofNat place * scenario.spacing, 0.0⟩
    speed := scenario.baseSpeed + Float.ofNat place * scenario.speedStep
    heading := Angle.ofDegrees 90.0 }

def projection (scenario : ScenarioSettings) : Projection := .flat scenario.origin

/-- What the service of every vehicle gets. -/
def facilities (scenario : ScenarioSettings) : Facilities where
  codec := .fixedLayout
  projection := projection scenario
  hasThrottle := true
  hasProbe := true

/-- A vehicle at the start. -/
def startVehicle (scenario : ScenarioSettings) (service : Service) (handle : Handle)
    (object : SceneObject) : Vehicle where
  handle := handle
  own := (OwnState.initial object.station object.type).observe object (projection scenario) .zero
  environment := .empty
  awareness := .empty
  service := service
  recorded := []

/-- Adds a vehicle at the head of the column. -/
def addVehicle (scenario : ScenarioSettings) (service : Service)
    (column : Arena × List Vehicle) (place : Nat) : Arena × List Vehicle :=
  let object := startObject scenario place
  let (arena, handle) := column.1.insert object
  (arena, column.2 ++ [startVehicle scenario service handle object])

/-- The simulation at its start. -/
def create (settings : SimulationSettings) : Except ConfigurationError Simulation := do
  let scenario := settings.scenario
  scenario.validate
  let service ← Service.create settings.service (facilities scenario) .zero
  let (arena, vehicles) :=
    (List.range scenario.vehicles).foldl (addVehicle scenario service) (.empty, [])
  return ⟨scenario, arena, vehicles, .empty (Duration.ofMillis scenario.latencyMillis), .zero⟩

/-! ### The parts of a step -/

def stepDuration (simulation : Simulation) : Duration :=
  Duration.ofMillis simulation.scenario.stepMillis

def reach (simulation : Simulation) : Reach :=
  ⟨simulation.scenario.radarRange, simulation.scenario.radioRange⟩

/-- An object after a step at constant speed. -/
def driven (interval : Duration) (object : SceneObject) : SceneObject :=
  { object with
    position := object.position.advance object.heading (object.speed * interval.seconds) }

/-- Moves time on by one step and all vehicles with it. -/
def moved (simulation : Simulation) : Simulation :=
  { simulation with
    now := simulation.now.after simulation.stepDuration
    arena := simulation.vehicles.foldl
      (fun arena vehicle => arena.modify vehicle.handle (driven simulation.stepDuration))
      simulation.arena }

/-- The vehicles that are there, with their objects. -/
def present (simulation : Simulation) : List (Handle × SceneObject) :=
  simulation.vehicles.filterMap fun vehicle =>
    (simulation.arena.resolve vehicle.handle).map fun object => (vehicle.handle, object)

/-- Lets every vehicle sense its surroundings. -/
def sensed (simulation : Simulation) : Simulation :=
  let present := simulation.present
  { simulation with
    vehicles := simulation.vehicles.map fun vehicle =>
      match simulation.arena.resolve vehicle.handle with
      | none => vehicle
      | some own =>
        vehicle.sense simulation.reach (projection simulation.scenario) simulation.now present own }

/-- Where the vehicles believe to be. -/
def positions (simulation : Simulation) : List (StationId × Point) :=
  simulation.vehicles.map fun vehicle => (vehicle.station, vehicle.own.position)

/-- Moves the channel on to the time of the step. -/
def tuned (simulation : Simulation) : Simulation :=
  { simulation with
    channel := simulation.channel.advance simulation.now simulation.positions }

/-- Whether a message is offered to a vehicle: another one sent it, from not too far
away. -/
def isOffered (reach : Reach) (transmission : Transmission) (vehicle : Vehicle) : Bool :=
  vehicle.station != transmission.message.sender &&
    !(decide (reach.radio < vehicle.own.position.distance transmission.origin))

/-- Delivers a message to a vehicle if it is offered to it. -/
def offer (reach : Reach) (scene : Scene) (now : Instant) (transmission : Transmission)
    (vehicle : Vehicle) : Vehicle × Option Delivery :=
  if isOffered reach transmission vehicle then
    let reception :=
      vehicle.service.indicate (vehicle.surroundings scene) now transmission.message
    (({ vehicle with service := reception.service } : Vehicle).record reception.statistics,
      some ⟨transmission, vehicle.station, reception.outcome⟩)
  else
    (vehicle, none)

/-- Delivers messages one after the other. -/
def deliver (reach : Reach) (scene : Scene) (now : Instant) :
    List Transmission → List Vehicle → List Vehicle × List Delivery
  | [], vehicles => (vehicles, [])
  | transmission :: later, vehicles =>
    let offered := vehicles.map (offer reach scene now transmission)
    let (final, rest) := deliver reach scene now later (offered.map (·.1))
    (final, offered.filterMap (·.2) ++ rest)

/-- Delivers the messages that have arrived. -/
def delivered (simulation : Simulation) : Simulation × List Delivery :=
  let (due, channel) := simulation.channel.takeDue
  let (vehicles, deliveries) :=
    deliver simulation.reach simulation.arena.resolve simulation.now due simulation.vehicles
  ({ simulation with channel := channel, vehicles := vehicles }, deliveries)

/-- Gives every vehicle its turn on the channel. -/
def trigger (scene : Scene) (now : Instant) :
    Channel → List Vehicle → Channel × List Vehicle × List CycleTrace
  | channel, [] => (channel, [], [])
  | channel, vehicle :: later =>
    let cycle := vehicle.service.trigger Channel.transport channel channel.conditions
      (vehicle.surroundings scene) now
    let after := ({ vehicle with service := cycle.service } : Vehicle).record cycle.statistics
    let (final, vehicles, traces) := trigger scene now cycle.channel later
    (final, after :: vehicles, ⟨vehicle.station, cycle.outcome, cycle.sent⟩ :: traces)

/-- Gives every vehicle its turn. -/
def triggered (simulation : Simulation) : Simulation × List CycleTrace :=
  let (channel, vehicles, cycles) :=
    trigger simulation.arena.resolve simulation.now simulation.channel simulation.vehicles
  ({ simulation with channel := channel, vehicles := vehicles }, cycles)

/-! ### Running -/

/-- The simulation after one step, and what happened in it. -/
def step (simulation : Simulation) : Simulation × StepTrace :=
  let (received, deliveries) := simulation.moved.sensed.tuned.delivered
  let (sent, cycles) := received.triggered
  (sent, ⟨sent.now, deliveries, cycles, sent.channel.busyRatio⟩)

/-- The simulation after a number of steps. -/
def after (simulation : Simulation) : (steps : Nat) → Simulation
  | 0 => simulation
  | steps + 1 => (simulation.step.1).after steps

/-- Whether the configured time has passed. The duration counts as a signed number of
64 bits. -/
def isFinished (simulation : Simulation) : Bool :=
  (simulation.scenario.durationMillis : Int).bmod Binary64.wordRange ≤ simulation.now.millis

/-- The measurements of every vehicle since they were last taken, in the order of
recording. -/
def takeStatistics (simulation : Simulation) :
    Simulation × List (StationId × List Statistic) :=
  ({ simulation with
      vehicles := simulation.vehicles.map fun vehicle => { vehicle with recorded := [] } },
    simulation.vehicles.map fun vehicle => (vehicle.station, vehicle.recorded.reverse))

end Simulation

end CollectivePerception
