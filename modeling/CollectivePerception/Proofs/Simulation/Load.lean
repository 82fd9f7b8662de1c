/-
This file proves that the load of the channel consists of what was sent in the last second. The
channel forgets the oldest messages once in a step, and the vehicles add theirs one turn after
the other, so the load is judged at every turn, on the channel that the vehicle meets
(`load_met`). The times of the messages never decrease, hence forgetting from the front of the
load forgets exactly those that have left the window.
-/

import CollectivePerception.Proofs.Simulation.Channel

namespace CollectivePerception

theorem Transport.Accepts.trans {Channel : Type} {transport : Transport Channel}
    {first second third : Channel} {early later : List Message}
    (begins : transport.Accepts first early second)
    (goesOn : transport.Accepts second later third) :
    transport.Accepts first (early ++ later) third := by
  induction begins with
  | nil => exact goesOn
  | cons accepted _ inductionHypothesis => exact .cons accepted (inductionHypothesis goesOn)

theorem Instant.after_le_after {first second : Instant} {duration : Duration}
    (order : first ≤ second) : first.after duration ≤ second.after duration := by
  rw [le_def] at order
  rw [after, after, le_def]
  dsimp only
  omega

namespace Channel

/-! ### What sending adds to the load -/

/-- A message as it counts as load. -/
def burst (channel : Channel) (message : Message) : Burst :=
  ⟨channel.now, Codec.fixedLayout.encodedSize message⟩

theorem load_of_send {channel after : Channel} {message : Message}
    (accepted : channel.send message = (.ok (), after)) :
    after.load = channel.load ++ [channel.burst message] := by
  unfold send at accepted
  split at accepted
  · cases accepted
  · cases accepted
    rfl

theorem load_of_accepts {channel after : Channel} {messages : List Message}
    (accepts : transport.Accepts channel messages after) :
    after.load = channel.load ++ messages.map channel.burst := by
  induction accepts with
  | nil => exact (List.append_nil _).symm
  | @cons channel next after message later accepted _ inductionHypothesis =>
    have same : next.burst = channel.burst := by
      funext message
      rw [burst, (takes_of_send accepted).now_eq, burst]
    rw [inductionHypothesis, load_of_send accepted, same, List.map_cons, List.append_assoc,
      List.singleton_append]

/-- What a cycle hands over is accepted, and a message that is refused changes nothing. -/
theorem accepts_of_course {current : Service} {channel : Channel} {conditions : ChannelConditions}
    {surroundings : Surroundings} {now : Instant} {cycle : Cycle Channel}
    (course : Service.Course current transport channel conditions surroundings now cycle) :
    transport.Accepts channel cycle.sent cycle.channel := by
  cases course with
  | early _ => exact .nil
  | silent _ _ => exact .nil
  | unassembled _ _ _ => exact .nil
  | refused _ _ _ _ accepts refusal =>
    dsimp only
    rw [eq_of_send_error refusal]
    exact accepts
  | sent _ _ _ accepts => exact accepts

end Channel

namespace Simulation

/-! ### The turns of a step -/

section

variable (scene : Scene) (now : Instant)

/-- The cycle of a vehicle on the channel that it meets. -/
def cycleOf (met : Channel) (vehicle : Vehicle) : Cycle Channel :=
  vehicle.service.trigger Channel.transport met met.conditions (vehicle.surroundings scene) now

theorem accepts_cycleOf (met : Channel) (vehicle : Vehicle) :
    Channel.transport.Accepts met (cycleOf scene now met vehicle).sent
      (cycleOf scene now met vehicle).channel :=
  Channel.accepts_of_course (vehicle.service.trigger_course _ _ _ _ _)

theorem accepts_trigger (channel : Channel) (vehicles : List Vehicle) :
    Channel.transport.Accepts channel ((trigger scene now channel vehicles).2.2.flatMap (·.sent))
      (trigger scene now channel vehicles).1 := by
  induction vehicles generalizing channel with
  | nil => exact .nil
  | cons vehicle later inductionHypothesis =>
    rw [trigger, List.flatMap_cons]
    exact (accepts_cycleOf scene now channel vehicle).trans (inductionHypothesis _)

/-- The first turns of a step do not depend on the others. -/
theorem cycles_take (channel : Channel) (vehicles : List Vehicle) (turn : Nat) :
    (trigger scene now channel (vehicles.take turn)).2.2 =
      (trigger scene now channel vehicles).2.2.take turn := by
  induction vehicles generalizing channel turn with
  | nil => rw [List.take_nil, trigger, List.take_nil]
  | cons vehicle later inductionHypothesis =>
    cases turn with
    | zero => rfl
    | succ turn =>
      rw [List.take_succ_cons, trigger, trigger]
      dsimp only
      rw [inductionHypothesis, List.take_succ_cons]

/-- Every vehicle has its turn on the channel that the turns before it have left. -/
theorem getElem?_cycles (channel : Channel) (vehicles : List Vehicle) (turn : Nat) :
    (trigger scene now channel vehicles).2.2[turn]? = vehicles[turn]?.map fun vehicle =>
      let cycle := cycleOf scene now (trigger scene now channel (vehicles.take turn)).1 vehicle
      ⟨vehicle.station, cycle.outcome, cycle.sent⟩ := by
  induction vehicles generalizing channel turn with
  | nil => rfl
  | cons vehicle later inductionHypothesis =>
    cases turn with
    | zero => rfl
    | succ turn =>
      rw [trigger, List.getElem?_cons_succ, List.getElem?_cons_succ, inductionHypothesis]
      rfl

theorem channel_trigger_take_succ (channel : Channel) {vehicles : List Vehicle} {turn : Nat}
    {vehicle : Vehicle} (there : vehicles[turn]? = some vehicle) :
    (trigger scene now channel (vehicles.take (turn + 1))).1 =
      (cycleOf scene now (trigger scene now channel (vehicles.take turn)).1 vehicle).channel := by
  induction vehicles generalizing channel turn with
  | nil => cases there
  | cons first later inductionHypothesis =>
    cases turn with
    | zero =>
      cases there
      rfl
    | succ turn =>
      rw [List.take_succ_cons, List.take_succ_cons, trigger, trigger]
      exact inductionHypothesis _ there

end

/-! ### The load of a run -/

section

variable (simulation : Simulation) (number turn : Nat)

/-- The channel that is met in a turn of a step. After the last turn it is the channel that the
step leaves. -/
def met : Channel :=
  (trigger (simulation.informed number).arena.resolve (simulation.informed number).now
    (simulation.informed number).channel ((simulation.informed number).vehicles.take turn)).1

/-- The messages that the channel has taken over in a step before a turn. -/
def handedBefore : List Message :=
  ((simulation.trace number).cycles.take turn).flatMap (·.sent)

/-- The messages of a step, each with the time when it was sent. -/
def stamped : List (Instant × Message) :=
  (simulation.handed number).map ((simulation.trace number).time, ·)

/-- The messages that the channel has taken over before a turn of a step, each with the time when
it was sent, in the order of sending. -/
def log : List (Instant × Message) :=
  (List.range number).flatMap simulation.stamped ++
    (simulation.handedBefore number turn).map ((simulation.trace number).time, ·)

end

/-- A message with the time when it was sent, as it counts as load. -/
def burstOf (entry : Instant × Message) : Burst :=
  ⟨entry.1, Codec.fixedLayout.encodedSize entry.2⟩

/-- A message has not yet left the window. -/
def isRecent (now : Instant) (entry : Instant × Message) : Bool :=
  now < entry.1.after Channel.loadWindow

/-- A message is among the last second's exactly if it has not yet left the window. -/
theorem isRecent_iff {now : Instant} (moving : now.micros < Binary64.greatestInt64)
    (entry : Instant × Message) :
    isRecent now entry = true ↔ now.micros < entry.1.micros + 1000000 := by
  rw [isRecent, decide_eq_true_iff, Instant.lt_def, Instant.after, Channel.loadWindow,
    Duration.ofMillis, Instant.step, Binary64.greatestInt64]
  rw [Binary64.greatestInt64] at moving
  dsimp only
  omega

section

variable (simulation : Simulation) (number turn : Nat)

/-- The bytes of the messages of the last second, of those that the channel has taken over before
a turn of a step. -/
def recentBytes : Nat :=
  totalOf (((simulation.log number turn).filter fun entry =>
    (simulation.trace number).time.micros < entry.1.micros + 1000000 ∧
      entry.1 ≤ (simulation.trace number).time).map fun entry =>
    Codec.fixedLayout.encodedSize entry.2)

theorem time_informed : (simulation.informed number).now = (simulation.trace number).time := by
  rw [time_trace, after_succ_eq]
  rfl

/-- The cycle of a vehicle in its turn. -/
def cycleAt (vehicle : Vehicle) : Cycle Channel :=
  cycleOf (simulation.informed number).arena.resolve (simulation.trace number).time
    (simulation.met number turn) vehicle

theorem cycles_trace :
    (simulation.trace number).cycles[turn]? = (simulation.informed number).vehicles[turn]?.map
      fun vehicle => ⟨vehicle.station, (simulation.cycleAt number turn vehicle).outcome,
        (simulation.cycleAt number turn vehicle).sent⟩ := by
  simp only [cycleAt, ← time_informed]
  exact getElem?_cycles _ _ _ _ _

theorem met_succ {vehicle : Vehicle}
    (there : (simulation.informed number).vehicles[turn]? = some vehicle) :
    simulation.met number (turn + 1) = (simulation.cycleAt number turn vehicle).channel := by
  rw [cycleAt, ← time_informed]
  exact channel_trigger_take_succ _ _ _ there

theorem now_informed :
    (simulation.informed number).channel.now = (simulation.trace number).time :=
  simulation.channel_now_poised number

theorem load_after_succ :
    (simulation.after (number + 1)).channel.load =
      (simulation.informed number).channel.load ++ (simulation.stamped number).map burstOf := by
  have accepts : Channel.transport.Accepts (simulation.informed number).channel
      (simulation.handed number) (simulation.after (number + 1)).channel := by
    rw [after_succ_eq]
    exact accepts_trigger _ _ _ _
  rw [Channel.load_of_accepts accepts, stamped, List.map_map]
  refine congrArg _ (List.map_congr_left fun message _ => ?_)
  rw [Channel.burst, now_informed]
  rfl

theorem load_informed :
    (simulation.informed number).channel.load = (simulation.after number).channel.load.dropWhile
      fun burst =>
        decide (burst.sent.after Channel.loadWindow ≤ (simulation.trace number).time) := by
  rw [time_trace, after_succ]
  rfl

theorem load_met :
    (simulation.met number turn).load = (simulation.informed number).channel.load ++
      ((simulation.handedBefore number turn).map ((simulation.trace number).time, ·)).map
        burstOf := by
  have accepts := accepts_trigger (simulation.informed number).arena.resolve
    (simulation.informed number).now (simulation.informed number).channel
    ((simulation.informed number).vehicles.take turn)
  rw [cycles_take] at accepts
  rw [met, Channel.load_of_accepts accepts, List.map_map]
  refine congrArg _ (List.map_congr_left fun message _ => ?_)
  rw [Channel.burst, now_informed]
  rfl

end

/-! ### The window -/

section

variable {settings : SimulationSettings} {simulation : Simulation}
  (created : create settings = .ok simulation)
include created

theorem load_of_create : simulation.channel.load = [] := by
  obtain ⟨_, _, _, rfl⟩ := create_eq_ok_iff.mp created
  rfl

theorem stamped_ascending (number : Nat) :
    ((List.range number).flatMap simulation.stamped).Pairwise fun early late =>
      early.1 ≤ late.1 := by
  have times {step : Nat} {entry : Instant × Message} (member : entry ∈ simulation.stamped step) :
      entry.1 = (simulation.trace step).time := by
    obtain ⟨_, _, rfl⟩ := List.mem_map.mp member
    rfl
  refine List.pairwise_flatMap.mpr ⟨fun step _ => ?_,
    List.pairwise_lt_range.imp fun {first second} before early memberEarly late memberLate => ?_⟩
  · refine List.pairwise_of_forall_mem_list fun early memberEarly late memberLate => ?_
    rw [times memberEarly, times memberLate]
    exact Int.le_refl _
  · rw [times memberEarly, times memberLate]
    exact (starts_of_create created).time_le (Nat.le_of_lt before)

/-- Before the first turn of a step, the load are the messages that have not yet left the
window. -/
theorem load_informed_eq (number : Nat) :
    (simulation.informed number).channel.load =
      (((List.range number).flatMap simulation.stamped).filter
        (isRecent (simulation.trace number).time)).map burstOf := by
  induction number with
  | zero =>
    rw [load_informed, show (simulation.after 0).channel.load = [] from load_of_create created]
    rfl
  | succ number inductionHypothesis =>
    rw [load_informed, load_after_succ, inductionHypothesis, ← List.map_append, List.dropWhile_map]
    refine congrArg (List.map burstOf) ?_
    have times := (starts_of_create created).time_le (Nat.le_succ number)
    have whole := stamped_ascending created (number + 1)
    rw [List.range_succ, List.flatMap_append, List.flatMap_singleton] at whole ⊢
    -- What is old was sent before all that is not, so the old messages are in front.
    have ordered := (whole.sublist (List.Sublist.append_right
      (List.filter_sublist (p := isRecent (simulation.trace number).time))
      (simulation.stamped number))).imp
      fun {early late} order (old : decide (late.1.after Channel.loadWindow ≤
        (simulation.trace (number + 1)).time) = true) => decide_eq_true
          (Int.le_trans (Instant.after_le_after order) (of_decide_eq_true old))
    have recent (entry : Instant × Message) :
        (!decide (entry.1.after Channel.loadWindow ≤ (simulation.trace (number + 1)).time)) =
          isRecent (simulation.trace (number + 1)).time entry := by
      rw [isRecent, ← decide_not, decide_eq_decide]
      exact Int.not_le
    refine (takeWhile_eq_filter ordered).2.trans ?_
    simp only [recent, List.filter_append, List.filter_filter]
    refine congrArg (· ++ _) (List.filter_congr fun entry _ => ?_)
    refine Bool.and_eq_left_iff_imp.mpr fun still => decide_eq_true ?_
    exact Int.lt_of_le_of_lt times (of_decide_eq_true still)

/-- No message of the log was sent later than the time of the step. -/
theorem le_of_mem_log {number turn : Nat} {entry : Instant × Message}
    (member : entry ∈ simulation.log number turn) : entry.1 ≤ (simulation.trace number).time := by
  rcases List.mem_append.mp member with earlier | current
  · obtain ⟨step, before, inside⟩ := List.mem_flatMap.mp earlier
    obtain ⟨message, _, rfl⟩ := List.mem_map.mp inside
    exact (starts_of_create created).time_le (Nat.le_of_lt (List.mem_range.mp before))
  · obtain ⟨message, _, rfl⟩ := List.mem_map.mp current
    exact Int.le_refl _

/-- As long as time has not stopped, the load that a vehicle meets are the messages that have not
yet left the window. -/
theorem load_met_eq {number : Nat} (turn : Nat)
    (moving : (simulation.trace number).time.micros < Binary64.greatestInt64) :
    (simulation.met number turn).load =
      ((simulation.log number turn).filter (isRecent (simulation.trace number).time)).map
        burstOf := by
  have fresh (message : Message) :
      isRecent (simulation.trace number).time ((simulation.trace number).time, message) = true :=
    (isRecent_iff moving _).mpr (by dsimp only; omega)
  have current : ((simulation.handedBefore number turn).map
        ((simulation.trace number).time, ·)).filter (isRecent (simulation.trace number).time) =
      (simulation.handedBefore number turn).map ((simulation.trace number).time, ·) :=
    List.filter_eq_self.mpr (List.forall_mem_map.mpr fun message _ => fresh message)
  rw [load_met, load_informed_eq created, log, List.filter_append, current, List.map_append]

/-- As long as the time of a step fits into 64 bits, it is a multiple of the length of a step, and
not the last instant. -/
theorem time_of_unsaturated (number : Nat)
    (unsaturated : ((number : Int) + 1) * (settings.scenario.stepMillis * 1000) ≤
      Binary64.greatestInt64) :
    (simulation.trace number).time.micros =
        ((number : Int) + 1) * (settings.scenario.stepMillis * 1000) ∧
      (simulation.trace number).time.micros < Binary64.greatestInt64 := by
  have single : (settings.scenario.stepMillis * 1000 : Int) ≤
      ((number : Int) + 1) * (settings.scenario.stepMillis * 1000) :=
    le_mul_of_one_le_left (by omega) (by omega)
  have step : Instant.step simulation.stepDuration = settings.scenario.stepMillis * 1000 := by
    rw [stepDuration, scenario_of_create created, Duration.ofMillis, Instant.step]
    dsimp only
    omega
  have multiple : ((number : Int) + 1) * (settings.scenario.stepMillis * 1000) =
      ((number : Int) + 1) * settings.scenario.stepMillis * 1000 := (Int.mul_assoc _ _ _).symm
  rw [simulation.time_trace_eq (now_of_create created), step]
  rw [Binary64.greatestInt64] at unsaturated ⊢
  dsimp only
  omega

end

/-- As long as the time of the step fits into 64 bits, every vehicle that has its turn meets a
channel whose load is the sizes of the messages of the last second: those that were sent less than
a second ago, by whichever vehicle and in whichever step, and by the vehicles before it in this
step. From then on the channel accepts what the vehicle sends, and after the last turn the step
reports the share that is taken by then. Sending a message that is not accepted changes nothing. -/
theorem load_counts_last_second {settings : SimulationSettings} {simulation : Simulation}
    (created : create settings = .ok simulation) (number : Nat)
    (unsaturated : ((number : Int) + 1) * (settings.scenario.stepMillis * 1000) ≤
      Binary64.greatestInt64) :
    let now := (simulation.trace number).time
    let vehicles := (simulation.informed number).vehicles
    now.micros = (number + 1) * (settings.scenario.stepMillis * 1000) ∧
      (∀ turn,
        (simulation.met number turn).now = now ∧
        totalOf ((simulation.met number turn).load.map (·.size)) =
          simulation.recentBytes number turn ∧
        (simulation.met number turn).busyRatio =
          let ratio := Float.ofNat (simulation.recentBytes number turn) / Channel.capacity
          if 1.0 < ratio then 1.0 else ratio) ∧
      (∀ turn vehicle, vehicles[turn]? = some vehicle →
        let met := simulation.met number turn
        let cycle := vehicle.service.trigger Channel.transport met met.conditions
          (vehicle.surroundings (simulation.informed number).arena.resolve) now
        (simulation.trace number).cycles[turn]? =
            some ⟨vehicle.station, cycle.outcome, cycle.sent⟩ ∧
          Channel.transport.Accepts met cycle.sent (simulation.met number (turn + 1))) ∧
      (simulation.trace number).busyRatio = (simulation.met number vehicles.length).busyRatio ∧
      ∀ (channel after : Channel) (message : Message) (failure : TransportError),
        channel.send message = (.error failure, after) → after = channel := by
  intro now vehicles
  obtain ⟨time, moving⟩ := time_of_unsaturated created number unsaturated
  have bytes (turn : Nat) : totalOf ((simulation.met number turn).load.map (·.size)) =
      simulation.recentBytes number turn := by
    have recent : (simulation.log number turn).filter (isRecent now) =
        (simulation.log number turn).filter fun entry =>
          now.micros < entry.1.micros + 1000000 ∧ entry.1 ≤ now := by
      refine List.filter_congr fun entry member => ?_
      rw [Bool.eq_iff_iff, isRecent_iff moving, decide_eq_true_iff]
      exact (and_iff_left (le_of_mem_log created member)).symm
    rw [load_met_eq created turn moving, recent, recentBytes, List.map_map]
    rfl
  refine ⟨time, fun turn => ⟨?_, bytes turn, ?_⟩, fun turn vehicle there => ⟨?_, ?_⟩, ?_,
    fun _ _ _ _ => Channel.eq_of_send_error⟩
  · exact (takes_trigger _ _ _ _).now_eq.trans (simulation.now_informed number)
  · rw [Channel.busyRatio, bytes]
  · rw [cycles_trace, there]
    rfl
  · rw [met_succ simulation number turn there]
    exact accepts_cycleOf _ _ _ _
  · rw [met, List.take_length]
    rfl

/-- In the second step of the standard scenario all messages of the first one still count. -/
theorem standard_load_second_step :
    ∃ simulation, create .standard = .ok simulation ∧ simulation.handed 0 ≠ [] ∧
      totalOf ((simulation.met 1 0).load.map (·.size)) =
        totalOf ((simulation.handed 0).map Codec.fixedLayout.encodedSize) := by
  obtain ⟨simulation, created⟩ : ∃ simulation, create .standard = .ok simulation := ⟨_, rfl⟩
  obtain ⟨message, handed, _⟩ := exists_handed_standard created rfl rfl
    (mem_places created 0 (by decide : 0 < SimulationSettings.standard.scenario.vehicles))
  obtain ⟨time, turns, _⟩ := load_counts_last_second created 1 (by decide)
  obtain ⟨before, _⟩ := time_of_unsaturated created 0 (by decide)
  have all : (simulation.log 1 0).filter (fun entry =>
        (simulation.trace 1).time.micros < entry.1.micros + 1000000 ∧
          entry.1 ≤ (simulation.trace 1).time) = simulation.stamped 0 := by
    have log : simulation.log 1 0 = simulation.stamped 0 :=
      (List.append_nil _).trans (List.append_nil _)
    rw [log]
    refine List.filter_eq_self.mpr (List.forall_mem_map.mpr fun message _ => decide_eq_true ?_)
    rw [Instant.le_def, time, before]
    decide
  refine ⟨simulation, created, List.ne_nil_of_mem handed, ?_⟩
  rw [(turns 0).2.1, recentBytes, all, stamped, List.map_map]
  rfl

end Simulation

end CollectivePerception
