/-
This file says where the vehicles of a simulation are. Nothing but driving changes an object,
so after some steps every vehicle is where its object at the start has driven to in as many
steps (`places_eq`).
-/

import CollectivePerception.Proofs.Simulation.Run
import Mathlib.Logic.Function.Iterate

namespace CollectivePerception.Simulation

/-! ### Rosters -/

/-- The numbers of the vehicles, each with the object behind its handle. -/
def roster (arena : Arena) (outlines : List Outline) : List (StationId × Option SceneObject) :=
  outlines.map fun outline => (outline.own.station, arena.resolve outline.handle)

/-- An entry of a roster after its object has changed. -/
def changed (change : SceneObject → SceneObject) (entry : StationId × Option SceneObject) :
    StationId × Option SceneObject :=
  (entry.1, entry.2.map change)

variable {simulation : Simulation}

theorem Column.roster_sensed (column : Column simulation.arena simulation.outlines) :
    roster simulation.moved.sensed.arena simulation.moved.sensed.outlines =
      (roster simulation.arena simulation.outlines).map
        (changed (driven simulation.stepDuration)) := by
  rw [roster, roster, List.map_map]
  refine column.map_outlines_sensed fun vehicle _ object before after _ => ?_
  show (vehicle.station, simulation.moved.arena.resolve vehicle.handle) =
    (vehicle.station, (simulation.arena.resolve vehicle.handle).map _)
  rw [before, after]
  rfl

theorem Column.roster_after (column : Column simulation.arena simulation.outlines)
    (number : Nat) :
    roster (simulation.after number).arena (simulation.after number).outlines =
      (roster simulation.arena simulation.outlines).map
        (changed (driven simulation.stepDuration))^[number] := by
  induction number with
  | zero => exact (List.map_id _).symm
  | succ number inductionHypothesis =>
    have before := column.after number
    have duration : (simulation.after number).stepDuration = simulation.stepDuration := by
      rw [stepDuration, scenario_after, stepDuration]
    have stepped : roster (simulation.after (number + 1)).arena
          (simulation.after (number + 1)).outlines =
        roster (simulation.after number).moved.sensed.arena
          (simulation.after number).moved.sensed.outlines := by
      rw [outlines, map_outline_after_succ, after_succ_eq]
      rfl
    rw [stepped, before.roster_sensed, inductionHypothesis, List.map_map, duration,
      Function.iterate_succ']

/-- The vehicles of a column are where their objects are. -/
theorem Column.positions_eq (column : Column simulation.arena simulation.outlines) :
    simulation.positions.map (fun entry => (entry.1, some entry.2)) =
      (roster simulation.arena simulation.outlines).map
        fun entry => (entry.1, entry.2.map (·.position)) := by
  rw [Simulation.positions_eq, ← outlines, roster, List.map_map, List.map_map]
  refine List.map_congr_left fun outline member => ?_
  obtain ⟨object, resolved, _, place⟩ := column.owned outline member
  show (outline.own.station, some outline.own.position) =
    (outline.own.station, (simulation.arena.resolve outline.handle).map _)
  rw [resolved, ← place]
  rfl

/-! ### The vehicles of a simulation -/

theorem roster_startColumn (scenario : ScenarioSettings) (service : Service) (count : Nat) :
    roster (startColumn scenario service count).1
        ((startColumn scenario service count).2.map Vehicle.outline) =
      (List.range count).map fun place =>
        (firstStation + place, some (startObject scenario place)) := by
  induction count with
  | zero => rfl
  | succ count inductionHypothesis =>
    rw [vehicles_startColumn_succ, List.map_append, roster, List.map_append, List.range_succ,
      List.map_append, ← inductionHypothesis]
    refine congrArg₂ (· ++ ·) (List.map_congr_left fun outline member => ?_) ?_
    · obtain ⟨object, found, _⟩ := (column_startColumn scenario service count).owned outline member
      rw [arena_startColumn_succ, found,
        Arena.resolve_insert_of_resolve (sound_startColumn scenario service count) _ found]
    · exact congrArg (fun object => [(firstStation + count, object)])
        (resolve_nextHandle scenario service count)

theorem iterate_changed (change : SceneObject → SceneObject) (number : Nat)
    (station : StationId) (object : SceneObject) :
    (changed change)^[number] (station, some object) =
      (station, some (change^[number] object)) := by
  induction number generalizing object with
  | zero => rfl
  | succ number inductionHypothesis => exact inductionHypothesis (change object)

section

variable {settings : SimulationSettings} (created : create settings = .ok simulation)
  (number : Nat)
include created

/-- In every step each vehicle is where its object has driven to from the start. -/
theorem places_eq :
    simulation.places number =
      (List.range settings.scenario.vehicles).map fun place =>
        (firstStation + place,
          ((driven simulation.stepDuration)^[number + 1]
            (startObject settings.scenario place)).position) := by
  have column := column_of_create created
  have start : roster simulation.arena simulation.outlines =
      (List.range settings.scenario.vehicles).map fun place =>
        (firstStation + place, some (startObject settings.scenario place)) := by
    obtain ⟨_, service, _, rfl⟩ := create_eq_ok_iff.mp created
    exact roster_startColumn settings.scenario service settings.scenario.vehicles
  have tagged : Function.Injective fun entry : StationId × Point => (entry.1, some entry.2) := by
    rintro ⟨_, _⟩ ⟨_, _⟩ same
    cases same
    rfl
  refine List.map_injective_iff.mpr tagged ?_
  rw [places, (column.after (number + 1)).positions_eq, column.roster_after, start, List.map_map,
    List.map_map, List.map_map]
  refine List.map_congr_left fun place _ => ?_
  rw [Function.comp_apply, Function.comp_apply, iterate_changed]
  rfl

/-- Every station is in one place. -/
theorem places_nodup : ((simulation.places number).map (·.1)).Nodup := by
  rw [places_eq created, List.map_map]
  exact List.nodup_range.map fun _ _ same => Nat.add_left_cancel same

/-- The vehicle at some place of the column, counted from its end. -/
theorem mem_places {place : Nat} (inside : place < settings.scenario.vehicles) :
    (firstStation + place,
      ((driven simulation.stepDuration)^[number + 1]
        (startObject settings.scenario place)).position) ∈ simulation.places number := by
  rw [places_eq created]
  exact List.mem_map_of_mem (List.mem_range.mpr inside)

end

end CollectivePerception.Simulation
