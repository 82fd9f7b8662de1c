/-
This file proves that the totals of a step add up, and those of a run.

The totals of a step are sums over the reports of its cycles, and each report is sound on its own:
it counts the messages that were handed over, which are not more than the format allows, and no
more objects than were left over from the selected ones (`Service.sound_of_course`). A cycle that
fails reports nothing, so what it has handed over until then is in flight without being counted.

The receptions of a step, failed ones included, are as many as there are pairs of a message that is
due and a station that it is meant for (`length_deliveries`). A station is left out only if its
distance is greater than the range of the radio, and no distance that is undefined is.
-/

import CollectivePerception.Proofs.Binary64.Maximum
import CollectivePerception.Proofs.Segmentation.Conservation
import CollectivePerception.Proofs.Selection.Candidates
import CollectivePerception.Proofs.Simulation.Ending
import CollectivePerception.Proofs.Simulation.Load
import Mathlib.Data.List.ProdSigma

namespace CollectivePerception

/-! ### The report of a cycle -/

/-- The counts of a report agree with each other and with the messages that were sent. -/
structure CycleReport.Sound (report : CycleReport) (sent : List Message) : Prop where
  triggered_of_segments : 0 < report.segments → report.triggered = true
  segments_eq : report.segments = sent.length
  segments_le : report.segments ≤ Message.segmentLimit
  objects_le : report.objects ≤ report.mitigated
  mitigated_le : report.mitigated ≤ report.selected

namespace Segmentation

variable {Key : Type} {codec : Codec} {limit : Nat} {template : Message}
  {records : List (Keyed Key)} {sensors : Option (List SensorInformation)}
  {segmentation : Segmentation Key}

theorem length_messages_le
    (success : segment codec limit template records sensors = .ok segmentation) :
    segmentation.messages.length ≤ Message.segmentLimit := by
  rcases segment_cases success with ⟨_, rfl⟩ | ⟨_, placed, position, _, rfl⟩
  · exact (by decide : 1 ≤ Message.segmentLimit)
  · rw [number_messages_length]
    exact Nat.min_le_left _ _

/-- No more keys are included than there are records. -/
theorem length_included_le (noObjects : template.objects = [])
    (success : segment codec limit template records sensors = .ok segmentation) :
    segmentation.included.length ≤ records.length := by
  have whole := (reported_append_discarded_perm noObjects success).length_eq
  rw [List.length_append] at whole
  rw [(segment_reported noObjects success).1, List.length_map]
  omega

end Segmentation

namespace Service

variable {Channel : Type} {current : Service} {transport : Transport Channel} {channel : Channel}
  {conditions : ChannelConditions} {surroundings : Surroundings} {now : Instant}
  {cycle : Cycle Channel} {report : CycleReport}

theorem length_cycleRecords_le (service : Service) (conditions : ChannelConditions)
    (surroundings : Surroundings) (now : Instant) :
    (service.cycleRecords conditions surroundings now).length ≤
      (service.candidates conditions surroundings now).length :=
  (List.length_filterMap_le _ _).trans (List.length_take_le' _ _)

theorem sound_of_course
    (course : Course current transport channel conditions surroundings now cycle)
    (ended : cycle.outcome = .ok report) : report.Sound cycle.sent := by
  have fewer := (current.candidates_sublist conditions surroundings now).length_le
  cases course with
  | early _ =>
    cases ended
    exact ⟨nofun, rfl, Nat.zero_le _, Nat.le_refl 0, Nat.le_refl 0⟩
  | silent _ _ =>
    cases ended
    exact ⟨nofun, rfl, Nat.zero_le _, Nat.zero_le _, fewer⟩
  | unassembled _ _ _ => cases ended
  | refused _ _ _ _ _ _ => cases ended
  | sent _ _ succeeded _ =>
    cases ended
    obtain ⟨packed, _⟩ := packed_of_assembled succeeded
    exact
      { triggered_of_segments := fun _ => rfl
        segments_eq := rfl
        segments_le := Segmentation.length_messages_le packed
        objects_le := (Segmentation.length_included_le rfl packed).trans
          (current.length_cycleRecords_le conditions surroundings now)
        mitigated_le := fewer }

end Service

/-! ### The reports of a step -/

namespace StepTrace

/-- The messages of the cycles that ended well. -/
def acknowledged (trace : StepTrace) : List Message :=
  (trace.cycles.filter fun cycle => cycle.outcome.isOk).flatMap (·.sent)

/-- The messages that a step reports are those of its cycles, and each report is sound. -/
def Sound (trace : StepTrace) : Prop :=
  ∀ cycle ∈ trace.cycles, ∀ report, cycle.outcome = .ok report → report.Sound cycle.sent

theorem mem_reports_iff {trace : StepTrace} {report : CycleReport} :
    report ∈ trace.reports ↔ ∃ cycle ∈ trace.cycles, cycle.outcome = .ok report := by
  rw [reports, List.mem_filterMap]
  refine exists_congr fun cycle => and_congr_right fun _ => ?_
  cases cycle.outcome with
  | error _ => exact iff_of_false nofun nofun
  | ok _ => exact ⟨fun same => congrArg _ (Option.some.inj same), fun same => by cases same; rfl⟩

namespace Sound

variable {trace : StepTrace} (sound : trace.Sound)
include sound

theorem exists_sound {report : CycleReport} (member : report ∈ trace.reports) :
    ∃ sent, report.Sound sent := by
  obtain ⟨cycle, inside, ended⟩ := mem_reports_iff.mp member
  exact ⟨cycle.sent, sound cycle inside report ended⟩

/-- The cycles that sent are among those whose interval had passed. -/
theorem sending_eq :
    trace.sending = trace.triggered.filter fun report => decide (0 < report.segments) := by
  rw [triggered, List.filter_filter, sending]
  refine List.filter_congr fun report member => ?_
  obtain ⟨_, report⟩ := sound.exists_sound member
  rw [eq_comm, Bool.and_eq_left_iff_imp, decide_eq_true_iff]
  exact report.triggered_of_segments

theorem messages_le : trace.sending.length ≤ trace.triggered.length := by
  rw [sound.sending_eq]
  exact List.length_filter_le _ _

omit sound in
theorem triggered_le : trace.triggered.length ≤ trace.cycles.length :=
  (List.length_filter_le _ _).trans (List.length_filterMap_le _ _)

omit sound in
theorem messages_le_segments :
    trace.sending.length ≤ totalOf (trace.sending.map (·.segments)) := by
  have ones := totalOf_map_const 1 trace.sending
  rw [Nat.one_mul] at ones
  rw [← ones]
  exact totalOf_map_le fun report member => of_decide_eq_true (List.mem_filter.mp member).2

theorem segments_le :
    totalOf (trace.sending.map (·.segments)) ≤ Message.segmentLimit * trace.sending.length := by
  rw [← totalOf_map_const]
  refine totalOf_map_le fun report member => ?_
  obtain ⟨_, report⟩ := sound.exists_sound (List.mem_filter.mp member).1
  exact report.segments_le

theorem objects_le :
    totalOf (trace.sending.map (·.objects)) ≤ totalOf (trace.triggered.map (·.mitigated)) := by
  calc
    totalOf (trace.sending.map (·.objects)) ≤ totalOf (trace.sending.map (·.mitigated)) :=
      totalOf_map_le fun report member => by
        obtain ⟨_, report⟩ := sound.exists_sound (List.mem_filter.mp member).1
        exact report.objects_le
    _ ≤ totalOf (trace.triggered.map (·.mitigated)) := by
      rw [sound.sending_eq]
      exact totalOf_le_of_sublist (List.filter_sublist.map _)

theorem mitigated_le :
    totalOf (trace.triggered.map (·.mitigated)) ≤ totalOf (trace.triggered.map (·.selected)) := by
  refine totalOf_map_le fun report member => ?_
  obtain ⟨_, report⟩ := sound.exists_sound (List.mem_filter.mp member).1
  exact report.mitigated_le

/-- The segments that a step counts are the messages of the cycles that ended well. -/
theorem segments_eq :
    totalOf (trace.sending.map (·.segments)) = trace.acknowledged.length := by
  rw [sending, totalOf_map_filter_pos, acknowledged, length_flatMap_eq_totalOf, reports,
    List.map_filterMap, ← List.filterMap_eq_map, List.filterMap_filter]
  refine congrArg totalOf (List.filterMap_congr fun cycle member => ?_)
  cases outcome : cycle.outcome with
  | error failure => rfl
  | ok report => exact congrArg some (sound cycle member report outcome).segments_eq

end Sound

end StepTrace

namespace Simulation

section

variable (simulation : Simulation) (number : Nat)

theorem sound_trace : (simulation.trace number).Sound := by
  intro cycle member report ended
  obtain ⟨turn, found⟩ := List.mem_iff_getElem?.mp member
  rw [cycles_trace] at found
  obtain ⟨vehicle, _, rfl⟩ := Option.map_eq_some_iff.mp found
  exact Service.sound_of_course (vehicle.service.trigger_course _ _ _ _ _) ended

theorem acknowledged_sublist :
    (simulation.trace number).acknowledged.Sublist (simulation.handed number) :=
  List.filter_sublist.flatMap _

theorem length_cycles :
    (simulation.trace number).cycles.length = (simulation.places number).length := by
  have turns : (simulation.trace number).cycles.map (·.station) =
      (simulation.informed number).vehicles.map (·.station) := map_station_trigger _ _ _ _
  rw [← List.length_map, turns, List.length_map, ← positions_informed, positions, List.length_map]

/-- The messages in flight that are due in a step. -/
def due : List Transmission :=
  (simulation.after number).channel.inFlight.filter fun transmission =>
    transmission.deliverAt ≤ (simulation.trace number).time

end

/-! ### Deliveries -/

variable {settings : SimulationSettings} {simulation : Simulation}

theorem Starts.leaving_eq_due (starts : simulation.Starts) (number : Nat) :
    simulation.leaving number = simulation.due number := by
  have arrived : ∀ sent, ∀ transmission ∈ simulation.emitted sent,
      decide (transmission.deliverAt ≤ (simulation.trace number).time) =
        decide (simulation.arrival sent ≤ (simulation.trace number).time) := by
    intro sent transmission member
    obtain ⟨_, _, rfl⟩ := List.mem_map.mp member
    rfl
  rw [due, starts.inFlight_after, filter_flatMap_of_agree arrived, List.filter_filter,
    starts.leaving_eq]
  refine congrArg (List.flatMap _) (List.filter_congr fun sent member => ?_)
  rw [← Bool.decide_and, decide_eq_decide, Arrives, and_iff_right (List.mem_range.mp member),
    and_comm]

/-- The pairs of an element of each of two lists that satisfy a condition. -/
theorem length_flatMap_filter {First Second Image : Type} (firsts : List First)
    (seconds : List Second) (condition : First × Second → Bool) (image : First → Second → Image) :
    (firsts.flatMap fun first =>
        (seconds.filter fun second => condition (first, second)).map (image first)).length =
      (firsts ×ˢ seconds).countP condition := by
  induction firsts with
  | nil => rfl
  | cons first later inductionHypothesis =>
    rw [List.flatMap_cons, List.length_append, inductionHypothesis, List.length_map,
      List.product_cons, List.countP_append, List.countP_map, ← List.countP_eq_length_filter]
    rfl

section

variable (created : create settings = .ok simulation) (number : Nat)
include created

/-- There are as many deliveries as there are pairs of a message that is due and a station that it
is meant for. -/
theorem length_deliveries :
    (simulation.trace number).deliveries.length =
      (simulation.due number ×ˢ simulation.places number).countP fun pair =>
        pair.1.IsFor settings.scenario.radioRange pair.2 := by
  rw [← List.length_map, deliveries_trace created number,
    (starts_of_create created).leaving_eq_due, ← length_flatMap_filter]

theorem length_places : (simulation.places number).length = settings.scenario.vehicles := by
  rw [places_eq created, List.length_map, List.length_range]

end

end Simulation

/-! ### Totals -/

/-- The totals of some steps: sums of their values, and the greatest load of the channel. -/
structure StepSummary.Totals (total : StepSummary) (steps : List StepSummary) : Prop where
  triggered_eq : total.triggered = totalOf (steps.map (·.triggered))
  messages_eq : total.messages = totalOf (steps.map (·.messages))
  segments_eq : total.segments = totalOf (steps.map (·.segments))
  objectsSent_eq : total.objectsSent = totalOf (steps.map (·.objectsSent))
  selected_eq : total.selected = totalOf (steps.map (·.selected))
  mitigated_eq : total.mitigated = totalOf (steps.map (·.mitigated))
  receptions_eq : total.receptions = totalOf (steps.map (·.receptions))
  errors_eq : total.errors = totalOf (steps.map (·.errors))
  busyRatio_mem : total.busyRatio ∈ 0.0 :: steps.map (·.busyRatio)
  busyRatio_le : ∀ step ∈ steps, 0.0 ≤ step.busyRatio ∧ step.busyRatio ≤ total.busyRatio

namespace StepSummary

/-- The steps added up. -/
def ofSteps (steps : List StepSummary) : StepSummary := steps.foldl add zero

theorem foldl_add_eq (count : StepSummary → Nat)
    (additive : ∀ total step : StepSummary, count (total.add step) = count total + count step)
    (steps : List StepSummary) (total : StepSummary) :
    count (steps.foldl .add total) = count total + totalOf (steps.map count) := by
  induction steps generalizing total with
  | nil => rfl
  | cons step later inductionHypothesis =>
    rw [List.foldl_cons, inductionHypothesis, additive, List.map_cons, totalOf_cons,
      Nat.add_assoc]

theorem busyRatio_foldl_add (steps : List StepSummary) (total : StepSummary) :
    (steps.foldl .add total).busyRatio =
      (steps.map (·.busyRatio)).foldl Binary64.greater total.busyRatio := by
  induction steps generalizing total with
  | nil => rfl
  | cons step later inductionHypothesis =>
    rw [List.foldl_cons, inductionHypothesis]
    rfl

/-- Adding up steps whose loads are numbers from zero on gives their totals. -/
theorem totals_ofSteps {steps : List StepSummary}
    (loads : ∀ step ∈ steps, Binary64.FromZero step.busyRatio.toModel.unpack) :
    (ofSteps steps).Totals steps := by
  have sums (count : StepSummary → Nat) (nothing : count zero = 0)
      (additive : ∀ total step : StepSummary, count (total.add step) = count total + count step) :
      count (ofSteps steps) = totalOf (steps.map count) := by
    rw [ofSteps, foldl_add_eq count additive, nothing, Nat.zero_add]
  have numbers : ∀ load ∈ 0.0 :: steps.map (·.busyRatio), load.isNaN = false := by
    rw [List.forall_mem_cons, List.forall_mem_map]
    exact ⟨rfl, fun step member => (loads step member).isNaN_eq⟩
  obtain ⟨among, bounds⟩ := Binary64.foldl_greater numbers
  have greatest : (steps.map (·.busyRatio)).foldl Binary64.greater 0.0 =
      (ofSteps steps).busyRatio := (busyRatio_foldl_add steps zero).symm
  rw [greatest] at among bounds
  exact
    { triggered_eq := sums (·.triggered) rfl fun _ _ => rfl
      messages_eq := sums (·.messages) rfl fun _ _ => rfl
      segments_eq := sums (·.segments) rfl fun _ _ => rfl
      objectsSent_eq := sums (·.objectsSent) rfl fun _ _ => rfl
      selected_eq := sums (·.selected) rfl fun _ _ => rfl
      mitigated_eq := sums (·.mitigated) rfl fun _ _ => rfl
      receptions_eq := sums (·.receptions) rfl fun _ _ => rfl
      errors_eq := sums (·.errors) rfl fun _ _ => rfl
      busyRatio_mem := among
      busyRatio_le := fun step member => ⟨(loads step member).zero_le,
        bounds _ (List.mem_cons_of_mem _ (List.mem_map_of_mem member))⟩ }

end StepSummary

/-- The load of a channel is a number that does not lie below zero. -/
theorem Channel.fromZero_busyRatio (channel : Channel) :
    Binary64.FromZero channel.busyRatio.toModel.unpack := by
  obtain ⟨_, _, _, capacity⟩ : ∃ significand exponent positive,
      capacity.toModel.unpack = .finite .positive significand exponent positive := ⟨_, _, _, rfl⟩
  simp only [busyRatio]
  split
  · exact ⟨rfl, id⟩
  · exact Binary64.fromZero_div (Binary64.fromZero_ofNat _) capacity

namespace Simulation

open CommandLine (Host stepLine summary titles)

variable {settings : SimulationSettings} {simulation : Simulation}

theorem totals_summaries (simulation : Simulation) (steps : Nat) :
    (StepSummary.ofSteps (simulation.summaries steps)).Totals (simulation.summaries steps) := by
  refine StepSummary.totals_ofSteps (List.forall_mem_map.mpr fun number _ => ?_)
  exact Channel.fromZero_busyRatio _

/-- A simulation that ends has no more steps than its duration has milliseconds. -/
theorem steps_le_duration (created : create settings = .ok simulation) {steps : Nat}
    (ends : simulation.EndsAfter steps) : steps ≤ settings.scenario.durationMillis := by
  obtain ⟨finished, unfinished⟩ := endsAfter_iff.mp ends
  by_contra short
  have later := unfinished _ (Nat.lt_of_not_le short)
  rw [Bool.eq_false_iff, Ne, isFinished_after_iff created] at later
  rw [isFinished_after_iff created] at finished
  have passed : settings.scenario.durationMillis ≤
      settings.scenario.durationMillis * settings.scenario.stepMillis :=
    Nat.le_mul_of_pos_right _ (stepMillis_pos created)
  have bounded : (settings.scenario.durationMillis : Int).bmod Binary64.wordRange ≤
      settings.scenario.durationMillis := by
    rw [Int.bmod_def, Binary64.wordRange]
    split <;> omega
  omega

/-- The program prints the lines of the steps of a simulation that ends, and then a summary of
their totals. -/
theorem simulate_eq (created : create settings = .ok simulation) {steps : Nat}
    (ends : simulation.EndsAfter steps) {m : Type → Type} [Monad m] [LawfulMonad m]
    (host : Host m) (statistics : Option String) :
    host.simulate settings simulation statistics = (do
      host.printAll ["", titles]
      host.printAll ((simulation.summaries steps).map stepLine)
      host.printAll (summary (.ofSteps (simulation.summaries steps))
        (simulation.after steps).now.millis)
      match statistics with
      | none => return ()
      | some path => host.writeStatistics (simulation.after steps) path) := by
  unfold Host.simulate
  rw [runSteps_eq host .zero ends (steps_le_duration created ends)]
  simp only [bind_assoc, pure_bind]
  rfl

/-! ### The account of a step -/

/-- The totals of a step add up, and they agree with what the step did. -/
structure AddsUp (simulation : Simulation) (vehicles : Nat) (range : Float) (number : Nat)
    (trace : StepTrace) : Prop where
  messages_le : trace.summary.messages ≤ trace.summary.triggered
  triggered_le : trace.summary.triggered ≤ vehicles
  messages_le_segments : trace.summary.messages ≤ trace.summary.segments
  segments_le : trace.summary.segments ≤ 127 * trace.summary.messages
  objects_le : trace.summary.objectsSent ≤ trace.summary.mitigated
  mitigated_le : trace.summary.mitigated ≤ trace.summary.selected
  /-- The segments that are counted are the messages of the cycles that ended well. -/
  segments_eq : trace.summary.segments = trace.acknowledged.length
  /-- These are among the messages that the step has put in flight. -/
  acknowledged_sublist : trace.acknowledged.Sublist ((simulation.emitted number).map (·.message))
  inFlight_eq : (simulation.after (number + 1)).channel.inFlight =
    (simulation.informed number).channel.inFlight ++ simulation.emitted number
  /-- Every message that is due is received by each station that it is meant for, or the
  reception fails. -/
  receptions_eq : trace.summary.receptions + trace.deliveries.countP (!·.isReception) =
    (simulation.due number ×ˢ simulation.places number).countP fun pair =>
      pair.1.IsFor range pair.2
  errors_eq : trace.summary.errors = trace.deliveries.countP (!·.isReception) +
    trace.cycles.countP (!·.outcome.isOk)

theorem addsUp_trace (created : create settings = .ok simulation) (number : Nat) :
    simulation.AddsUp settings.scenario.vehicles settings.scenario.radioRange number
      (simulation.trace number) where
  messages_le := (simulation.sound_trace number).messages_le
  triggered_le := by
    rw [← length_places created number, ← length_cycles]
    exact StepTrace.Sound.triggered_le
  messages_le_segments := StepTrace.Sound.messages_le_segments
  segments_le := (simulation.sound_trace number).segments_le
  objects_le := (simulation.sound_trace number).objects_le
  mitigated_le := (simulation.sound_trace number).mitigated_le
  segments_eq := (simulation.sound_trace number).segments_eq
  acknowledged_sublist := by
    have messages : (simulation.emitted number).map (·.message) = simulation.handed number := by
      rw [emitted, List.map_map]
      exact List.map_id _
    rw [messages]
    exact simulation.acknowledged_sublist number
  inFlight_eq := (starts_of_create created).inFlight_after_succ number
  receptions_eq := by
    rw [← length_deliveries created, List.length_eq_countP_add_countP (·.isReception)]
    simp only [decide_not, Bool.decide_eq_true]
    rfl
  errors_eq := rfl

/-- A station whose distance is a number is in range exactly if it is not farther away than the
radio reaches. -/
theorem isFor_iff_of_number (created : create settings = .ok simulation)
    {transmission : Transmission} {station : StationId} {place : Point}
    (number : (place.distance transmission.origin).isNaN = false) :
    transmission.IsFor settings.scenario.radioRange (station, place) ↔
      station ≠ transmission.message.sender ∧
        place.distance transmission.origin ≤ settings.scenario.radioRange := by
  obtain ⟨valid, _⟩ := create_eq_ok_iff.mp created
  obtain ⟨_, _, _, _, positive⟩ := ScenarioSettings.validate_eq_ok_iff.mp valid
  have bounded := Binary64.isNaN_of_isFinite (Bool.and_eq_true_iff.mp positive).1
  exact and_congr_right fun _ => Binary64.not_lt_iff bounded number

/-- The totals of every step add up, and what the program prints at the end of a run are the sums
of the totals of its steps, with the greatest load of the channel. A station counts as in range of
a message if its distance is not greater than the range of the radio, which for a distance that is
a number says that it is at most the range. -/
theorem steps_add_up (created : create settings = .ok simulation) :
    let vehicles := settings.scenario.vehicles
    let range := settings.scenario.radioRange
    (∀ number, simulation.AddsUp vehicles range number (simulation.trace number)) ∧
      (∀ (transmission : Transmission) (station : StationId) (place : Point),
        (place.distance transmission.origin).isNaN = false →
          (transmission.IsFor range (station, place) ↔
            station ≠ transmission.message.sender ∧
              place.distance transmission.origin ≤ range)) ∧
      (∀ steps, (StepSummary.ofSteps (simulation.summaries steps)).Totals
        (simulation.summaries steps)) ∧
      ∀ steps, simulation.EndsAfter steps →
        ∀ {m : Type → Type} [Monad m] [LawfulMonad m] (host : Host m)
          (statistics : Option String),
          host.simulate settings simulation statistics = (do
            host.printAll ["", titles]
            host.printAll ((simulation.summaries steps).map stepLine)
            host.printAll (summary (.ofSteps (simulation.summaries steps))
              (simulation.after steps).now.millis)
            match statistics with
            | none => return ()
            | some path => host.writeStatistics (simulation.after steps) path) := by
  intro vehicles range
  exact ⟨addsUp_trace created, fun _ _ _ => isFor_iff_of_number created,
    simulation.totals_summaries, fun _ ends _ _ _ => simulate_eq created ends⟩

/-- The standard scenario ends after fifty steps, and all of its messages are counted. -/
theorem standard_steps_add_up :
    ∃ simulation, create .standard = .ok simulation ∧ simulation.EndsAfter 50 ∧
      (simulation.trace 0).summary.messages ≤ 8 ∧
      (StepSummary.ofSteps (simulation.summaries 50)).messages =
        totalOf ((simulation.summaries 50).map (·.messages)) := by
  obtain ⟨simulation, created⟩ : ∃ simulation, create .standard = .ok simulation := ⟨_, rfl⟩
  obtain ⟨accounts, _, totals, _⟩ := steps_add_up created
  exact ⟨simulation, created, (endsAfter_iff_of_reachable created (by decide)).mpr (by decide),
    (accounts 0).messages_le.trans (accounts 0).triggered_le, (totals 50).messages_eq⟩

/-! ### Distances that are undefined -/

/-- In the second step of the distant vehicles, a message is due that was sent from a place to
which a station's distance is undefined. -/
theorem exists_due_undefined (created : create distantSettings = .ok simulation) :
    ∃ transmission ∈ simulation.due 1, ∃ entry ∈ simulation.places 1,
      entry.1 ≠ transmission.message.sender ∧
        (entry.2.distance transmission.origin).isNaN = true := by
  have starts := starts_of_create created
  obtain ⟨transmission, emitted, sender, origin⟩ := exists_emitted_first created rfl rfl
    (mem_places created 0 (by decide : 2 < distantSettings.scenario.vehicles))
  have arrives := starts.arrives_succ (by rw [scenario_of_create created]; decide) 0
  have leaves : transmission ∈ simulation.leaving 1 := by
    rw [starts.leaving_eq]
    exact List.mem_flatMap_of_mem
      (List.mem_filter.mpr ⟨List.mem_range.mpr Nat.one_pos, decide_eq_true arrives⟩) emitted
  rw [starts.leaving_eq_due] at leaves
  refine ⟨transmission, leaves, _,
    mem_places created 1 (by decide : 3 < distantSettings.scenario.vehicles), ?_, ?_⟩
  · rw [sender]
    exact (by decide : firstStation + 3 ≠ firstStation + 2)
  · have step : simulation.stepDuration = .ofMillis 100 := by
      rw [stepDuration, scenario_of_create created]
      rfl
    rw [origin, step]
    exact distance_driven_isNaN

/-- A condition that implies another one, and that some element does not satisfy which satisfies
the other one, is satisfied less often. -/
theorem countP_lt_countP {Element : Type} {elements : List Element}
    {condition other : Element → Bool}
    (implies : ∀ element, condition element = true → other element = true) {element : Element}
    (member : element ∈ elements) (fails : condition element = false)
    (holds : other element = true) : elements.countP condition < elements.countP other := by
  calc
    elements.countP condition = (elements.filter other).countP condition := by
      rw [List.countP_filter]
      refine List.countP_congr fun element _ => ?_
      rw [Bool.and_eq_true, iff_self_and]
      exact implies element
    _ < (elements.filter other).length :=
      List.countP_lt_length_iff.mpr ⟨element, List.mem_filter.mpr ⟨member, holds⟩, fails⟩
    _ = elements.countP other := List.countP_eq_length_filter.symm

/-- Among the distant vehicles more receptions are counted than there are messages due and stations
within the range of the radio. -/
theorem distant_receptions_out_of_range :
    ∃ simulation, create distantSettings = .ok simulation ∧
      ((simulation.due 1 ×ˢ simulation.places 1).countP fun pair =>
          pair.2.1 ≠ pair.1.message.sender ∧
            pair.2.2.distance pair.1.origin ≤ distantSettings.scenario.radioRange) <
        (simulation.trace 1).summary.receptions +
          (simulation.trace 1).deliveries.countP (!·.isReception) := by
  obtain ⟨simulation, created⟩ := create_distantSettings
  obtain ⟨transmission, leaves, entry, there, other, undefined⟩ := exists_due_undefined created
  refine ⟨simulation, created, ?_⟩
  rw [(addsUp_trace created 1).receptions_eq]
  refine countP_lt_countP (fun pair near => ?_) (List.mem_product.mpr ⟨leaves, there⟩)
    (decide_eq_false fun near => Binary64.not_le_of_isNaN undefined near.2)
    (decide_eq_true ⟨other, Binary64.not_lt_of_isNaN undefined⟩)
  have within := of_decide_eq_true near
  have number : (pair.2.2.distance pair.1.origin).isNaN = false :=
    Bool.eq_false_iff.mpr fun undefined => Binary64.not_le_of_isNaN undefined within.2
  exact decide_eq_true ((isFor_iff_of_number created number).mpr within)

end Simulation

end CollectivePerception
