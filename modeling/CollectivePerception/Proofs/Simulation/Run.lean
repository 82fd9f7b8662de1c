/-
This file defines the runs of a simulation and says what their steps leave alone. Between
two steps lie two states: a step is poised when all vehicles have sensed and the channel is
at the time of the step, and informed when what has arrived is delivered as well. From there
on a step changes the services and the channel alone, so the outline of every vehicle is the
one that it had when the step was poised (`map_outline_after_succ`). The scenario never
changes, and time moves on evenly until it reaches the last instant (`now_after`).

Whatever moves and senses stays a `Column`: the vehicles keep their numbers, and each of them is
where its object is.
-/

import CollectivePerception.Proofs.Scene.Lifetimes
import CollectivePerception.Proofs.Service.Creation
import CollectivePerception.Proofs.Service.Run
import CollectivePerception.Simulation

namespace CollectivePerception

/-! ### Outlines -/

/-- What a vehicle keeps while messages are delivered and services have their turn. -/
structure Outline where
  handle : Handle
  own : OwnState
  environment : Environment
  settings : ServiceSettings

def Vehicle.outline (vehicle : Vehicle) : Outline :=
  ⟨vehicle.handle, vehicle.own, vehicle.environment, vehicle.service.settings⟩

namespace Simulation

theorem outline_offer (reach : Reach) (scene : Scene) (now : Instant)
    (transmission : Transmission) (vehicle : Vehicle) :
    (offer reach scene now transmission vehicle).1.outline = vehicle.outline := by
  unfold offer
  split
  · obtain ⟨_, left⟩ := vehicle.service.indicate_eq (vehicle.surroundings scene) now
      transmission.message
    dsimp only [Vehicle.record]
    rw [left]
    rfl
  · rfl

theorem map_outline_deliver (reach : Reach) (scene : Scene) (now : Instant)
    (due : List Transmission) (vehicles : List Vehicle) :
    (deliver reach scene now due vehicles).1.map Vehicle.outline =
      vehicles.map Vehicle.outline := by
  induction due generalizing vehicles with
  | nil => rfl
  | cons transmission later inductionHypothesis =>
    rw [deliver, inductionHypothesis, List.map_map, List.map_map]
    exact List.map_congr_left fun vehicle _ => outline_offer reach scene now transmission vehicle

theorem map_outline_trigger (scene : Scene) (now : Instant) (channel : Channel)
    (vehicles : List Vehicle) :
    (trigger scene now channel vehicles).2.1.map Vehicle.outline =
      vehicles.map Vehicle.outline := by
  induction vehicles generalizing channel with
  | nil => rfl
  | cons vehicle later inductionHypothesis =>
    rw [trigger, List.map_cons, List.map_cons, inductionHypothesis]
    have settings := (vehicle.service.after_revises (.trigger Channel.transport channel
      channel.conditions (vehicle.surroundings scene) now)).settings_eq
    refine congrArg (· :: _) ?_
    exact congrArg (Outline.mk vehicle.handle vehicle.own vehicle.environment) settings

/-- A turn is a cycle of one of the vehicles, on the channel as it then was. -/
theorem exists_of_mem_cycles {scene : Scene} {now : Instant} {channel : Channel}
    {vehicles : List Vehicle} {cycle : CycleTrace}
    (member : cycle ∈ (trigger scene now channel vehicles).2.2) :
    ∃ vehicle ∈ vehicles, ∃ met : Channel, cycle.station = vehicle.station ∧
      cycle.sent = (vehicle.service.trigger Channel.transport met met.conditions
        (vehicle.surroundings scene) now).sent := by
  induction vehicles generalizing channel with
  | nil => cases member
  | cons vehicle later inductionHypothesis =>
    rcases List.mem_cons.mp member with rfl | inner
    · exact ⟨vehicle, List.mem_cons_self, channel, rfl, rfl⟩
    · obtain ⟨other, among, found⟩ := inductionHypothesis inner
      exact ⟨other, List.mem_cons_of_mem vehicle among, found⟩

/-- The vehicles have their turns in their order. -/
theorem map_station_trigger (scene : Scene) (now : Instant) (channel : Channel)
    (vehicles : List Vehicle) :
    (trigger scene now channel vehicles).2.2.map (·.station) = vehicles.map (·.station) := by
  induction vehicles generalizing channel with
  | nil => rfl
  | cons vehicle later inductionHypothesis =>
    rw [trigger, List.map_cons, List.map_cons, inductionHypothesis]

/-! ### Runs -/

section

variable (simulation : Simulation) (number : Nat)

/-- What happens in a step of a run; the first step has the number zero. -/
def trace : StepTrace := (simulation.after number).step.2

/-- A step of a run before anything is delivered in it. -/
def poised : Simulation := (simulation.after number).moved.sensed.tuned

/-- A step of a run before a service has its turn in it. -/
def informed : Simulation := (simulation.poised number).delivered.1

/-- Where the stations are in a step of a run. -/
def places : List (StationId × Point) := (simulation.after (number + 1)).positions

theorem after_succ :
    simulation.after (number + 1) = (simulation.after number).step.1 := by
  induction number generalizing simulation with
  | zero => rfl
  | succ number inductionHypothesis => exact inductionHypothesis simulation.step.1

theorem after_succ_eq : simulation.after (number + 1) = (simulation.informed number).triggered.1 :=
  simulation.after_succ number

theorem map_outline_informed :
    (simulation.informed number).vehicles.map Vehicle.outline =
      (simulation.poised number).vehicles.map Vehicle.outline :=
  map_outline_deliver _ _ _ _ _

theorem map_outline_after_succ :
    (simulation.after (number + 1)).vehicles.map Vehicle.outline =
      (simulation.poised number).vehicles.map Vehicle.outline := by
  rw [after_succ_eq, ← map_outline_informed]
  exact map_outline_trigger _ _ _ _

theorem positions_eq :
    simulation.positions = (simulation.vehicles.map Vehicle.outline).map
      fun outline => (outline.own.station, outline.own.position) := by
  rw [List.map_map]
  rfl

theorem positions_poised : (simulation.poised number).positions = simulation.places number := by
  rw [places, positions_eq, positions_eq, map_outline_after_succ]

theorem positions_informed :
    (simulation.informed number).positions = simulation.places number := by
  rw [← positions_poised, positions_eq, positions_eq, map_outline_informed]

variable {simulation number} in
theorem mem_outlines_poised {vehicle : Vehicle}
    (among : vehicle ∈ (simulation.informed number).vehicles) :
    vehicle.outline ∈ (simulation.poised number).vehicles.map Vehicle.outline := by
  rw [← map_outline_informed]
  exact List.mem_map_of_mem among

variable {simulation number} in
theorem exists_of_mem_places {station : StationId} {place : Point}
    (there : (station, place) ∈ simulation.places number) :
    ∃ vehicle ∈ (simulation.informed number).vehicles,
      vehicle.station = station ∧ vehicle.own.position = place := by
  rw [← positions_informed] at there
  obtain ⟨vehicle, among, same⟩ := List.mem_map.mp there
  obtain ⟨station, position⟩ := Prod.mk.inj same
  exact ⟨vehicle, among, station, position⟩

/-! ### What steps leave alone -/

theorem scenario_after : (simulation.after number).scenario = simulation.scenario := by
  induction number with
  | zero => rfl
  | succ number inductionHypothesis =>
    rw [after_succ]
    exact inductionHypothesis

theorem now_after_succ : (simulation.after (number + 1)).now =
    (simulation.after number).now.after simulation.stepDuration := by
  rw [after_succ, ← show (simulation.after number).stepDuration = simulation.stepDuration by
    rw [stepDuration, scenario_after, stepDuration]]
  rfl

theorem time_trace : (simulation.trace number).time = (simulation.after (number + 1)).now := by
  rw [after_succ]
  rfl

theorem now_poised : (simulation.poised number).now = (simulation.trace number).time := by
  rw [time_trace, after_succ]
  rfl

end

/-! ### Time -/

/-- Time moves on evenly until it reaches the last instant. -/
theorem now_after (simulation : Simulation) (start : simulation.now = .zero) (number : Nat) :
    (simulation.after number).now =
      ⟨min Binary64.greatestInt64 (number * Instant.step simulation.stepDuration)⟩ := by
  induction number with
  | zero =>
    rw [Int.natCast_zero, Int.zero_mul]
    exact start
  | succ number inductionHypothesis =>
    have forward : 0 ≤ Instant.step simulation.stepDuration := by
      rw [Instant.step, Binary64.greatestInt64]
      omega
    rw [now_after_succ, inductionHypothesis, Instant.after, Int.natCast_succ, Int.add_mul,
      Int.one_mul]
    refine congrArg Instant.mk ?_
    dsimp only
    omega

theorem time_trace_eq (simulation : Simulation) (start : simulation.now = .zero) (number : Nat) :
    (simulation.trace number).time =
      ⟨min Binary64.greatestInt64 ((number + 1) * Instant.step simulation.stepDuration)⟩ := by
  rw [time_trace, simulation.now_after start, Int.natCast_succ]

/-! ### Sensing -/

theorem senseOther_eq (vehicle : Vehicle) (reach : Reach) (own : SceneObject) (now : Instant)
    (other : Handle × SceneObject) :
    ∃ environment awareness, vehicle.senseOther reach own now other =
      { vehicle with environment := environment, awareness := awareness } := by
  unfold Vehicle.senseOther
  dsimp only
  split <;> split <;> exact ⟨_, _, rfl⟩

theorem foldl_senseOther_eq (vehicle : Vehicle) (reach : Reach) (own : SceneObject)
    (now : Instant) (others : List (Handle × SceneObject)) :
    ∃ environment awareness,
      others.foldl (fun vehicle other => vehicle.senseOther reach own now other) vehicle =
        { vehicle with environment := environment, awareness := awareness } := by
  induction others generalizing vehicle with
  | nil => exact ⟨_, _, rfl⟩
  | cons other later inductionHypothesis =>
    obtain ⟨_, _, first⟩ := senseOther_eq vehicle reach own now other
    rw [List.foldl_cons, first]
    exact inductionHypothesis _

/-- Sensing changes nothing of a vehicle but what it knows of itself and of the others. -/
theorem sense_eq (vehicle : Vehicle) (reach : Reach) (projection : Projection) (now : Instant)
    (present : List (Handle × SceneObject)) (own : SceneObject) :
    ∃ environment awareness, vehicle.sense reach projection now present own =
      { vehicle with
        own := vehicle.own.observe own projection now
        environment := environment
        awareness := awareness } := by
  unfold Vehicle.sense Vehicle.forget
  dsimp only
  obtain ⟨_, _, sensed⟩ := foldl_senseOther_eq
    { vehicle with own := vehicle.own.observe own projection now } reach own now
    (present.filter fun other => other.1 != vehicle.handle)
  rw [sensed]
  exact ⟨_, _, rfl⟩

/-! ### Columns -/

/-- Changing the objects behind different handles changes each of them once. -/
theorem resolve_foldl_modify (change : SceneObject → SceneObject) {vehicles : List Vehicle}
    (distinct : (vehicles.map (·.handle)).Nodup) (arena : Arena) (handle : Handle) :
    (vehicles.foldl (fun arena vehicle => arena.modify vehicle.handle change) arena).resolve
        handle =
      if handle ∈ vehicles.map (·.handle) then (arena.resolve handle).map change
      else arena.resolve handle := by
  induction vehicles generalizing arena with
  | nil => rfl
  | cons vehicle later inductionHypothesis =>
    obtain ⟨first, rest⟩ := List.nodup_cons.mp distinct
    rw [List.foldl_cons, inductionHypothesis rest, Arena.resolve_modify, List.map_cons]
    by_cases same : handle = vehicle.handle
    · rw [same, if_neg first, if_pos rfl, if_pos List.mem_cons_self]
    · rw [if_neg same]
      exact if_congr (List.mem_cons.trans (or_iff_right same)).symm rfl rfl

/-- Vehicles of different numbers, each with an object of its number in the arena that is
where the vehicle believes to be. -/
structure Column (arena : Arena) (outlines : List Outline) : Prop where
  distinct : (outlines.map (·.own.station)).Nodup
  owned : ∀ outline ∈ outlines, ∃ object, arena.resolve outline.handle = some object ∧
    object.station = outline.own.station ∧ object.position = outline.own.position

theorem Column.eq_of_station_eq {arena : Arena} {outlines : List Outline}
    (column : Column arena outlines) {first second : Outline} (memberFirst : first ∈ outlines)
    (memberSecond : second ∈ outlines) (same : first.own.station = second.own.station) :
    first = second :=
  List.inj_on_of_nodup_map column.distinct memberFirst memberSecond same

theorem Column.handles_nodup {arena : Arena} {outlines : List Outline}
    (column : Column arena outlines) : (outlines.map (·.handle)).Nodup := by
  refine List.Nodup.map_on (fun first memberFirst second memberSecond same => ?_)
    (List.Nodup.of_map _ column.distinct)
  obtain ⟨object, resolved, station, _⟩ := column.owned first memberFirst
  obtain ⟨other, found, number, _⟩ := column.owned second memberSecond
  rw [← same, resolved] at found
  cases found
  exact column.eq_of_station_eq memberFirst memberSecond (station.symm.trans number)

def outlines (simulation : Simulation) : List Outline := simulation.vehicles.map Vehicle.outline

section

variable {simulation : Simulation}

/-- In a column every vehicle drives. -/
theorem Column.resolve_moved (column : Column simulation.arena simulation.outlines)
    {vehicle : Vehicle} (member : vehicle ∈ simulation.vehicles) :
    ∃ object, simulation.arena.resolve vehicle.handle = some object ∧
      object.station = vehicle.station ∧
      simulation.moved.arena.resolve vehicle.handle =
        some (driven simulation.stepDuration object) := by
  obtain ⟨object, resolved, station, _⟩ :=
    column.owned vehicle.outline (List.mem_map_of_mem member)
  have distinct := column.handles_nodup
  rw [outlines, List.map_map] at distinct
  have found : simulation.arena.resolve vehicle.handle = some object := resolved
  refine ⟨object, found, station, ?_⟩
  have moved := resolve_foldl_modify (driven simulation.stepDuration) distinct simulation.arena
    vehicle.handle
  rwa [if_pos (List.mem_map_of_mem member), found] at moved

/-- What a vehicle becomes when all have moved and it has sensed. -/
def advanced (simulation : Simulation) (vehicle : Vehicle) (own : SceneObject) : Vehicle :=
  vehicle.sense simulation.reach (projection simulation.scenario) simulation.moved.now
    simulation.moved.present own

theorem Column.exists_of_mem_sensed (column : Column simulation.arena simulation.outlines)
    {vehicle : Vehicle} (member : vehicle ∈ simulation.moved.sensed.vehicles) :
    ∃ before ∈ simulation.vehicles, ∃ own,
      simulation.moved.arena.resolve before.handle = some own ∧ own.station = before.station ∧
        vehicle = simulation.advanced before own := by
  obtain ⟨before, among, rfl⟩ := List.mem_map.mp member
  obtain ⟨object, _, station, resolved⟩ := column.resolve_moved among
  refine ⟨before, among, driven simulation.stepDuration object, resolved, station, ?_⟩
  rw [resolved]
  rfl

variable (simulation) in
theorem outline_advanced (vehicle : Vehicle) (own : SceneObject) :
    ∃ environment, (simulation.advanced vehicle own).outline =
      { handle := vehicle.handle
        own := vehicle.own.observe own (projection simulation.scenario) simulation.moved.now
        environment := environment
        settings := vehicle.service.settings } := by
  obtain ⟨environment, _, same⟩ := sense_eq vehicle simulation.reach
    (projection simulation.scenario) simulation.moved.now simulation.moved.present own
  exact ⟨environment, congrArg Vehicle.outline same⟩

/-- What the vehicles have in common with what they were before all moved and sensed. -/
theorem Column.map_outlines_sensed (column : Column simulation.arena simulation.outlines)
    {Feature : Type} {before after : Outline → Feature}
    (agree : ∀ vehicle ∈ simulation.vehicles, ∀ object,
      simulation.arena.resolve vehicle.handle = some object →
      simulation.moved.arena.resolve vehicle.handle =
        some (driven simulation.stepDuration object) →
      ∀ environment,
        after
            { handle := vehicle.handle
              own := vehicle.own.observe (driven simulation.stepDuration object)
                (projection simulation.scenario) simulation.moved.now
              environment := environment
              settings := vehicle.service.settings } =
          before vehicle.outline) :
    simulation.moved.sensed.outlines.map after = simulation.outlines.map before := by
  show ((simulation.moved.vehicles.map _).map _).map _ = (simulation.vehicles.map _).map _
  rw [List.map_map, List.map_map, List.map_map]
  refine List.map_congr_left fun vehicle member => ?_
  obtain ⟨object, resolved, _, moved⟩ := column.resolve_moved member
  obtain ⟨environment, same⟩ :=
    simulation.outline_advanced vehicle (driven simulation.stepDuration object)
  rw [Function.comp_apply, Function.comp_apply, moved]
  exact (congrArg after same).trans (agree vehicle member object resolved moved environment)

/-- Vehicles that have moved and sensed are a column if they were one before. -/
theorem Column.sensed (column : Column simulation.arena simulation.outlines) :
    Column simulation.moved.sensed.arena simulation.moved.sensed.outlines where
  distinct := by
    have stations : simulation.moved.sensed.outlines.map (·.own.station) =
        simulation.outlines.map (·.own.station) :=
      column.map_outlines_sensed fun _ _ _ _ _ _ => rfl
    exact stations ▸ column.distinct
  owned outline member := by
    obtain ⟨vehicle, among, rfl⟩ := List.mem_map.mp member
    obtain ⟨before, _, own, resolved, station, rfl⟩ := column.exists_of_mem_sensed among
    obtain ⟨environment, same⟩ := simulation.outline_advanced before own
    rw [same]
    exact ⟨own, resolved, station, rfl⟩

end

/-! ### Columns in a run -/

variable {simulation : Simulation}

theorem Column.poised {number : Nat}
    (column : Column (simulation.after number).arena (simulation.after number).outlines) :
    Column (simulation.poised number).arena (simulation.poised number).outlines :=
  column.sensed

theorem Column.after (column : Column simulation.arena simulation.outlines) (number : Nat) :
    Column (simulation.after number).arena (simulation.after number).outlines := by
  induction number with
  | zero => exact column
  | succ number inductionHypothesis =>
    rw [outlines, map_outline_after_succ, after_succ_eq]
    exact inductionHypothesis.poised

/-! ### The start -/

end Simulation

theorem ScenarioSettings.validate_eq_ok_iff {settings : ScenarioSettings} :
    settings.validate = .ok () ↔
      settings.vehicles ≠ 0 ∧ settings.stepMillis ≠ 0 ∧ isPositive settings.spacing = true ∧
        isPositive settings.radarRange = true ∧ isPositive settings.radioRange = true := by
  simp only [validate, requireMeasure, Except.bind_eq_ok_iff, requireSetting_eq_ok_iff,
    exists_const, bne_iff_ne]

namespace Simulation

/-- The arena and the first vehicles of a simulation at its start. -/
def startColumn (scenario : ScenarioSettings) (service : Service) (count : Nat) :
    Arena × List Vehicle :=
  (List.range count).foldl (addVehicle scenario service) (.empty, [])

theorem startColumn_succ (scenario : ScenarioSettings) (service : Service) (count : Nat) :
    startColumn scenario service (count + 1) =
      addVehicle scenario service (startColumn scenario service count) count := by
  rw [startColumn, List.range_succ, List.foldl_append]
  rfl

section

variable (scenario : ScenarioSettings) (service : Service) (count : Nat)

/-- The handle of the vehicle that is added next. -/
def nextHandle : Handle :=
  ((startColumn scenario service count).1.insert (startObject scenario count)).2

theorem arena_startColumn_succ :
    (startColumn scenario service (count + 1)).1 =
      ((startColumn scenario service count).1.insert (startObject scenario count)).1 := by
  rw [startColumn_succ]
  rfl

theorem vehicles_startColumn_succ :
    (startColumn scenario service (count + 1)).2 =
      (startColumn scenario service count).2 ++
        [startVehicle scenario service (nextHandle scenario service count)
          (startObject scenario count)] := by
  rw [startColumn_succ]
  rfl

theorem sound_startColumn : (startColumn scenario service count).1.Sound := by
  induction count with
  | zero => exact Arena.sound_empty
  | succ count inductionHypothesis =>
    rw [arena_startColumn_succ]
    exact inductionHypothesis.insert _

theorem resolve_nextHandle :
    (startColumn scenario service (count + 1)).1.resolve (nextHandle scenario service count) =
      some (startObject scenario count) := by
  rw [arena_startColumn_succ, Arena.resolve_insert (sound_startColumn scenario service count)]
  exact if_pos rfl

/-- The vehicles are numbered from the end of the column to its head. -/
theorem stations_startColumn :
    (startColumn scenario service count).2.map (·.station) =
      (List.range count).map (firstStation + ·) := by
  induction count with
  | zero => rfl
  | succ count inductionHypothesis =>
    rw [vehicles_startColumn_succ, List.range_succ, List.map_append, List.map_append,
      inductionHypothesis]
    rfl

theorem column_startColumn :
    Column (startColumn scenario service count).1
      ((startColumn scenario service count).2.map Vehicle.outline) where
  distinct := by
    have stations := stations_startColumn scenario service count
    rw [List.map_map]
    show ((startColumn scenario service count).2.map (·.station)).Nodup
    rw [stations]
    exact List.nodup_range.map fun _ _ same => Nat.add_left_cancel same
  owned := by
    induction count with
    | zero => exact fun _ member => absurd member List.not_mem_nil
    | succ count inductionHypothesis =>
      rw [vehicles_startColumn_succ, List.map_append, List.forall_mem_append, List.map_singleton,
        List.forall_mem_singleton]
      refine ⟨fun outline old => ?_, startObject scenario count,
        resolve_nextHandle scenario service count, rfl, rfl⟩
      obtain ⟨object, found, rest⟩ := inductionHypothesis outline old
      rw [arena_startColumn_succ]
      exact ⟨object, Arena.resolve_insert_of_resolve
        (sound_startColumn scenario service count) _ found, rest⟩

/-- A vehicle has sensed nothing at the start, and its service is new. -/
theorem fresh_of_mem_startColumn {vehicle : Vehicle}
    (member : vehicle ∈ (startColumn scenario service count).2) :
    vehicle.environment = .empty ∧ vehicle.service = service := by
  induction count with
  | zero => cases member
  | succ count inductionHypothesis =>
    rw [vehicles_startColumn_succ] at member
    rcases List.mem_append.mp member with old | new
    · exact inductionHypothesis old
    · rw [List.mem_singleton.mp new]
      exact ⟨rfl, rfl⟩

end

/-- A simulation is created exactly if the settings of its scenario and of its services pass
their checks. -/
theorem create_eq_ok_iff {settings : SimulationSettings} {simulation : Simulation} :
    create settings = .ok simulation ↔
      settings.scenario.validate = .ok () ∧
        ∃ service,
          Service.create settings.service (facilities settings.scenario) .zero = .ok service ∧
            simulation =
              { scenario := settings.scenario
                arena := (startColumn settings.scenario service settings.scenario.vehicles).1
                vehicles := (startColumn settings.scenario service settings.scenario.vehicles).2
                channel := .empty (Duration.ofMillis settings.scenario.latencyMillis)
                now := .zero } := by
  simp only [create, Except.bind_eq_ok_iff, pure, Except.pure, Except.ok.injEq,
    @eq_comm _ _ simulation]
  exact ⟨fun ⟨_, rest⟩ => rest, fun rest => ⟨(), rest⟩⟩

section

variable {settings : SimulationSettings} {simulation : Simulation}
  (created : create settings = .ok simulation)
include created

theorem scenario_of_create : simulation.scenario = settings.scenario := by
  obtain ⟨_, _, _, rfl⟩ := create_eq_ok_iff.mp created
  rfl

theorem now_of_create : simulation.now = .zero := by
  obtain ⟨_, _, _, rfl⟩ := create_eq_ok_iff.mp created
  rfl

theorem column_of_create : Column simulation.arena simulation.outlines := by
  obtain ⟨_, service, _, rfl⟩ := create_eq_ok_iff.mp created
  exact column_startColumn settings.scenario service settings.scenario.vehicles

/-- Every vehicle starts with a new service and has sensed nothing. -/
theorem fresh_of_create :
    ∃ service, Service.create settings.service (facilities settings.scenario) .zero = .ok service ∧
      ∀ vehicle ∈ simulation.vehicles,
        vehicle.environment = .empty ∧ vehicle.service = service := by
  obtain ⟨_, service, new, rfl⟩ := create_eq_ok_iff.mp created
  exact ⟨service, new, fun vehicle member => fresh_of_mem_startColumn _ _ _ member⟩

end

end Simulation

end CollectivePerception
