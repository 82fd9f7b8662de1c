/-
This file says what the channel of a simulation takes over. A cycle hands its messages to the
channel and does nothing else to it, and so do all the turns of a step together
(`takes_handed`). The channel knows where all vehicles are, so it refuses no message of
theirs; in the first step every vehicle that is due describes its sensors and sends the whole
of its cycle (`exists_cycle_first`).
-/

import CollectivePerception.Proofs.Service.Segments
import CollectivePerception.Proofs.Simulation.Run

namespace CollectivePerception

namespace Channel

/-! ### Taking over -/

/-- The place that a list of positions gives for a station. -/
def placeIn (positions : List (StationId × Point)) (station : StationId) : Point :=
  ((positions.find? fun entry => entry.1 == station).map (·.2)).getD Point.origin

/-- A station that is listed once is where the list says. -/
theorem placeIn_eq {positions : List (StationId × Point)}
    (distinct : (positions.map (·.1)).Nodup) {station : StationId} {place : Point}
    (member : (station, place) ∈ positions) : placeIn positions station = place := by
  cases found : positions.find? fun entry => entry.1 == station with
  | none => exact absurd (beq_self_eq_true station) (List.find?_eq_none.mp found _ member)
  | some entry =>
    have tested := List.find?_some found
    have same : entry = (station, place) := List.inj_on_of_nodup_map distinct
      (List.mem_of_find?_eq_some found) member (eq_of_beq tested)
    rw [placeIn, found, same]
    rfl

/-- A message as the channel takes it over. -/
def takenOver (channel : Channel) (message : Message) : Transmission :=
  ⟨channel.now.after channel.latency, placeIn channel.positions message.sender, message⟩

/-- The channel after it has taken over some messages of stations that it knows. -/
structure Takes (before : Channel) (messages : List Message) (after : Channel) : Prop where
  now_eq : after.now = before.now
  latency_eq : after.latency = before.latency
  positions_eq : after.positions = before.positions
  inFlight_eq : after.inFlight = before.inFlight ++ messages.map before.takenOver
  known : ∀ message ∈ messages,
    (message.sender, placeIn before.positions message.sender) ∈ before.positions

theorem takes_nil (channel : Channel) : channel.Takes [] channel where
  now_eq := rfl
  latency_eq := rfl
  positions_eq := rfl
  inFlight_eq := (List.append_nil _).symm
  known := List.forall_mem_nil _

theorem Takes.trans {first second third : Channel} {early later : List Message}
    (begins : first.Takes early second) (goesOn : second.Takes later third) :
    first.Takes (early ++ later) third where
  now_eq := goesOn.now_eq.trans begins.now_eq
  latency_eq := goesOn.latency_eq.trans begins.latency_eq
  positions_eq := goesOn.positions_eq.trans begins.positions_eq
  inFlight_eq := by
    have same : second.takenOver = first.takenOver := by
      funext message
      rw [takenOver, begins.now_eq, begins.latency_eq, begins.positions_eq]
      rfl
    rw [goesOn.inFlight_eq, begins.inFlight_eq, same, List.map_append, List.append_assoc]
  known := by
    have known := goesOn.known
    rw [begins.positions_eq] at known
    exact List.forall_mem_append.mpr ⟨begins.known, known⟩

theorem takes_of_send {channel after : Channel} {message : Message}
    (accepted : channel.send message = (.ok (), after)) : channel.Takes [message] after := by
  unfold send at accepted
  split at accepted
  · cases accepted
  · rename_i station place found
    have origin : placeIn channel.positions message.sender = place := by
      rw [placeIn, found]
      rfl
    have member := List.mem_of_find?_eq_some found
    have tested := List.find?_some found
    have same : station = message.sender := eq_of_beq tested
    cases accepted
    refine ⟨rfl, rfl, rfl, ?_, ?_⟩
    · rw [List.map_singleton, takenOver, origin]
    · rw [List.forall_mem_singleton, origin, ← same]
      exact member

/-- A refusal leaves the channel as it is. -/
theorem eq_of_send_error {channel after : Channel} {message : Message} {failure : TransportError}
    (refused : channel.send message = (.error failure, after)) : after = channel := by
  unfold send at refused
  split at refused
  · exact (congrArg Prod.snd refused).symm
  · cases refused

/-- The message of a station that the channel knows is not refused. -/
theorem send_ne_error {channel after : Channel} {message : Message} {failure : TransportError}
    {place : Point} (known : (message.sender, place) ∈ channel.positions) :
    channel.send message ≠ (.error failure, after) := by
  intro refused
  unfold send at refused
  split at refused
  · rename_i missing
    exact List.find?_eq_none.mp missing _ known (beq_self_eq_true message.sender)
  · cases refused

theorem takes_of_accepts {channel after : Channel} {messages : List Message}
    (accepts : transport.Accepts channel messages after) : channel.Takes messages after := by
  induction accepts with
  | nil => exact takes_nil _
  | cons accepted _ inductionHypothesis => exact (takes_of_send accepted).trans inductionHypothesis

/-- A cycle hands its messages to the channel and does nothing else to it. -/
theorem takes_of_course {current : Service} {channel : Channel} {conditions : ChannelConditions}
    {surroundings : Surroundings} {now : Instant} {cycle : Cycle Channel}
    (course : Service.Course current transport channel conditions surroundings now cycle) :
    channel.Takes cycle.sent cycle.channel := by
  cases course with
  | early _ => exact takes_nil channel
  | silent _ _ => exact takes_nil channel
  | unassembled _ _ _ => exact takes_nil channel
  | refused _ _ _ _ accepts refusal =>
    dsimp only
    rw [eq_of_send_error refusal]
    exact takes_of_accepts accepts
  | sent _ _ _ accepts => exact takes_of_accepts accepts

end Channel

/-- A station that the channel knows sends all messages of a cycle that is due and has
something to say, unless a message has no room for one object. -/
theorem Service.exists_sent_eq {service : Service}
    (standard : service.facilities.codec = .fixedLayout)
    (room : 64 ≤ service.settings.sizeLimit) {channel : Channel} {conditions : ChannelConditions}
    {surroundings : Surroundings} {now : Instant}
    (due : ¬now.elapsedSince service.lastSent < service.interval conditions)
    (something : (service.synchronized surroundings now).isSilent conditions surroundings now =
      false) {place : Point} (known : (surroundings.own.station, place) ∈ channel.positions) :
    ∃ segmentation,
      (service.synchronized surroundings now).assembled conditions surroundings now =
          .ok segmentation ∧
        (service.trigger Channel.transport channel conditions surroundings now).sent =
          segmentation.messages := by
  have course := service.trigger_course Channel.transport channel conditions surroundings now
  have revises := service.synchronized_revises surroundings now
  rw [← revises.facilities_eq] at standard
  rw [← revises.settings_eq] at room
  generalize service.trigger Channel.transport channel conditions surroundings now = cycle
    at course ⊢
  cases course with
  | early soon => exact absurd soon due
  | silent _ nothing => cases something.symm.trans nothing
  | unassembled _ _ failed =>
    exact absurd (sizeLimit_lt_of_assembled_error standard failed).2 (Nat.not_lt_of_le room)
  | @refused segmentation accepted later refused before _ _ _ _ succeeded apart accepts refusal =>
    have carries := carries_of_packed (packed_of_assembled succeeded).1 refused
      (apart ▸ List.mem_append_right accepted List.mem_cons_self)
    have sender : refused.sender = surroundings.own.station := by
      rw [Message.sender, carries.copied]
      rfl
    have there : (refused.sender, place) ∈ before.positions := by
      rw [(Channel.takes_of_accepts accepts).positions_eq, sender]
      exact known
    exact absurd refusal (Channel.send_ne_error there)
  | sent _ _ succeeded _ => exact ⟨_, succeeded, rfl⟩

namespace Simulation

theorem takes_trigger (scene : Scene) (now : Instant) (channel : Channel)
    (vehicles : List Vehicle) :
    channel.Takes ((trigger scene now channel vehicles).2.2.flatMap (·.sent))
      (trigger scene now channel vehicles).1 := by
  induction vehicles generalizing channel with
  | nil => exact channel.takes_nil
  | cons vehicle later inductionHypothesis =>
    have course := vehicle.service.trigger_course Channel.transport channel channel.conditions
      (vehicle.surroundings scene) now
    rw [trigger, List.flatMap_cons]
    exact (Channel.takes_of_course course).trans (inductionHypothesis _)

/-- A message is of the station that has its turn. -/
theorem sender_of_mem_sent {scene : Scene} {now : Instant} {channel : Channel}
    {vehicles : List Vehicle} {cycle : CycleTrace}
    (member : cycle ∈ (trigger scene now channel vehicles).2.2) {message : Message}
    (sent : message ∈ cycle.sent) : message.sender = cycle.station := by
  obtain ⟨vehicle, _, met, station, same⟩ := exists_of_mem_cycles member
  rw [same] at sent
  have carries := Service.carries_of_mem_sent sent
  rw [station, Message.sender, carries.copied]
  rfl

/-- Every vehicle has its turn, on the channel after the turns before it. -/
theorem exists_turn {scene : Scene} {now : Instant} {channel : Channel} {vehicles : List Vehicle}
    {vehicle : Vehicle} (member : vehicle ∈ vehicles) :
    ∃ cycle ∈ (trigger scene now channel vehicles).2.2, ∃ met messages,
      channel.Takes messages met ∧ cycle.sent = (vehicle.service.trigger Channel.transport met
        met.conditions (vehicle.surroundings scene) now).sent ∧
      cycle.station = vehicle.station := by
  induction vehicles generalizing channel with
  | nil => cases member
  | cons first later inductionHypothesis =>
    rcases List.mem_cons.mp member with rfl | inner
    · exact ⟨_, List.mem_cons_self, channel, [], channel.takes_nil, rfl, rfl⟩
    · have course := first.service.trigger_course Channel.transport channel channel.conditions
        (first.surroundings scene) now
      obtain ⟨cycle, among, met, messages, takes, rest⟩ := inductionHypothesis inner
      exact ⟨cycle, List.mem_cons_of_mem _ among, met, _,
        (Channel.takes_of_course course).trans takes, rest⟩

/-! ### What is sent in a step -/

section

variable (simulation : Simulation) (number : Nat)

/-- The messages that the channel takes over in a step of a run, in the order of sending. -/
def handed : List Message := (simulation.trace number).cycles.flatMap (·.sent)

theorem takes_handed :
    (simulation.informed number).channel.Takes (simulation.handed number)
      (simulation.after (number + 1)).channel := by
  rw [after_succ_eq]
  exact takes_trigger _ _ _ _

theorem latency_after :
    (simulation.after number).channel.latency = simulation.channel.latency := by
  induction number with
  | zero => rfl
  | succ number inductionHypothesis =>
    rw [(simulation.takes_handed number).latency_eq]
    exact inductionHypothesis

end

/-! ### The first step -/

section

variable {settings : SimulationSettings} {simulation : Simulation}
  (created : create settings = .ok simulation)
include created

/-- In the first step nothing arrives, so every service has its turn as it was created. -/
theorem service_of_mem_informed_zero :
    ∃ service, Service.create settings.service (facilities settings.scenario) .zero = .ok service ∧
      ∀ vehicle ∈ (simulation.informed 0).vehicles, vehicle.service = service := by
  obtain ⟨service, new, fresh⟩ := fresh_of_create created
  have nothing : (simulation.poised 0).channel.takeDue.1 = [] := by
    obtain ⟨_, _, _, rfl⟩ := create_eq_ok_iff.mp created
    rfl
  have vehicles : (simulation.informed 0).vehicles = simulation.moved.sensed.vehicles := by
    show (deliver _ _ _ (simulation.poised 0).channel.takeDue.1 _).1 = _
    rw [nothing]
    rfl
  refine ⟨service, new, fun vehicle member => ?_⟩
  rw [vehicles] at member
  obtain ⟨before, among, own, _, _, rfl⟩ :=
    (column_of_create created).exists_of_mem_sensed member
  obtain ⟨_, _, same⟩ := sense_eq before simulation.reach (projection simulation.scenario)
    simulation.moved.now simulation.moved.present own
  rw [advanced, same]
  exact (fresh before among).2

/-- If a new service is due in the first step and has to describe its sensors, then every
station sends all messages of its cycle in that step. -/
theorem exists_cycle_first (room : 64 ≤ settings.service.sizeLimit)
    (ready : ∀ service,
      Service.create settings.service (facilities settings.scenario) .zero = .ok service →
        (∀ conditions, ¬(simulation.trace 0).time.elapsedSince service.lastSent <
          service.interval conditions) ∧
        service.describesSensors (simulation.trace 0).time = true)
    {vehicle : Vehicle} (among : vehicle ∈ (simulation.informed 0).vehicles) :
    ∃ cycle ∈ (simulation.trace 0).cycles, cycle.station = vehicle.station ∧
      ∃ conditions segmentation,
        (vehicle.service.synchronized
            (vehicle.surroundings (simulation.informed 0).arena.resolve)
            (simulation.trace 0).time).assembled conditions
          (vehicle.surroundings (simulation.informed 0).arena.resolve)
          (simulation.trace 0).time = .ok segmentation ∧
        cycle.sent = segmentation.messages := by
  obtain ⟨service, new, same⟩ := service_of_mem_informed_zero created
  obtain ⟨due, describes⟩ := ready service new
  obtain ⟨settingsOf, facilitiesOf, _⟩ := Service.state_of_create new
  rw [← same vehicle among] at due describes settingsOf facilitiesOf
  obtain ⟨cycle, inside, met, messages, takes, sent, turn⟩ :
      ∃ cycle ∈ (simulation.trace 0).cycles, ∃ met messages,
        (simulation.informed 0).channel.Takes messages met ∧ cycle.sent =
          (vehicle.service.trigger Channel.transport met met.conditions
            (vehicle.surroundings (simulation.informed 0).arena.resolve)
            (simulation.informed 0).now).sent ∧ cycle.station = vehicle.station :=
    exists_turn among
  have now : (simulation.informed 0).now = (simulation.trace 0).time := by
    rw [time_trace, after_succ_eq]
    rfl
  have known : ((vehicle.surroundings (simulation.informed 0).arena.resolve).own.station,
      vehicle.own.position) ∈ met.positions := by
    have places : (simulation.informed 0).channel.positions = simulation.places 0 :=
      simulation.positions_poised 0
    rw [takes.positions_eq, places, ← positions_informed]
    exact List.mem_map_of_mem among
  obtain ⟨segmentation, assembled, whole⟩ := Service.exists_sent_eq
    (by rw [facilitiesOf]; rfl) (settingsOf ▸ room) (due met.conditions)
    (Service.isSilent_eq_false_iff.mpr (.inr (.inr describes))) known
  rw [now] at sent
  exact ⟨cycle, inside, turn, met.conditions, segmentation, assembled, sent.trans whole⟩

theorem time_trace_zero (steps : settings.scenario.stepMillis = 100) :
    (simulation.trace 0).time = .ofMillis 100 := by
  rw [simulation.time_trace_eq (now_of_create created), stepDuration,
    scenario_of_create created, steps]
  decide

section

variable (services : settings.service = .standard)
  (steps : settings.scenario.stepMillis = 100)
include services steps

/-- With the standard settings of the services and steps of a tenth of a second every station
sends all messages of its cycle in the first step. -/
theorem exists_cycle_standard {vehicle : Vehicle}
    (among : vehicle ∈ (simulation.informed 0).vehicles) :
    ∃ cycle ∈ (simulation.trace 0).cycles, cycle.station = vehicle.station ∧
      ∃ conditions segmentation,
        (vehicle.service.synchronized
            (vehicle.surroundings (simulation.informed 0).arena.resolve)
            (simulation.trace 0).time).assembled conditions
          (vehicle.surroundings (simulation.informed 0).arena.resolve)
          (simulation.trace 0).time = .ok segmentation ∧
        cycle.sent = segmentation.messages := by
  refine exists_cycle_first created (by rw [services]; decide) (fun service new => ?_) among
  obtain ⟨settingsOf, _, _, _, sent, described⟩ := Service.state_of_create new
  rw [time_trace_zero created steps, sent, Service.describesSensors, described,
    settingsOf, services]
  refine ⟨fun conditions => ?_, by decide⟩
  have unrestricted : service.interval conditions = ServiceSettings.standard.minimumInterval := by
    rw [Service.interval, settingsOf, services]
    exact if_neg Bool.false_ne_true
  rw [unrestricted]
  decide

theorem exists_handed_standard {station : StationId} {place : Point}
    (there : (station, place) ∈ simulation.places 0) :
    ∃ message ∈ simulation.handed 0, message.sender = station := by
  obtain ⟨vehicle, among, rfl, _⟩ := exists_of_mem_places there
  obtain ⟨cycle, inside, turn, conditions, segmentation, assembled, sent⟩ :=
    exists_cycle_standard created services steps among
  obtain ⟨message, first⟩ :=
    List.exists_mem_of_ne_nil _ (Service.messages_ne_nil_of_assembled assembled)
  have member : message ∈ cycle.sent := sent ▸ first
  exact ⟨message, List.mem_flatMap_of_mem inside member,
    (sender_of_mem_sent inside member).trans turn⟩

end

end

end Simulation

end CollectivePerception
