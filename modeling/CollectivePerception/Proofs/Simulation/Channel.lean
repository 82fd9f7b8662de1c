/-
This file proves that the channel of a simulation delivers every message once, on time and in
the order of sending.

All messages of a step arrive at the same instant, so what is in flight consists of whole
steps (`inFlight_after`). The steps follow each other in time, so the messages that have
arrived are always the first ones, and none is overlooked by looking at the front only
(`leaving_eq`).
-/

import CollectivePerception.Proofs.Binary64.Comparison
import CollectivePerception.Proofs.Simulation.Motion
import CollectivePerception.Proofs.Simulation.Sending

namespace CollectivePerception

/-- A message is meant for a station at a place if another station sent it, from not farther
away than the radio reaches. -/
def Transmission.IsFor (transmission : Transmission) (range : Float)
    (entry : StationId × Point) : Prop :=
  entry.1 ≠ transmission.message.sender ∧ ¬range < entry.2.distance transmission.origin

instance (transmission : Transmission) (range : Float) :
    DecidablePred (transmission.IsFor range) :=
  fun _ => inferInstanceAs (Decidable (_ ∧ _))

namespace Simulation

/-! ### What is in flight -/

section

variable (simulation : Simulation) (number : Nat)

/-- When the messages of a step arrive. -/
def arrival : Instant :=
  (simulation.trace number).time.after (Duration.ofMillis simulation.scenario.latencyMillis)

/-- The messages of a step on their way from where their senders are in that step. -/
def emitted : List Transmission :=
  (simulation.handed number).map fun message =>
    ⟨simulation.arrival number,
      Channel.placeIn (simulation.places number) message.sender, message⟩

/-- The messages that leave the channel in a step, in this order. -/
def leaving : List Transmission := (simulation.poised number).channel.takeDue.1

theorem channel_now_poised :
    (simulation.poised number).channel.now = (simulation.trace number).time :=
  simulation.now_poised number

end

/-- A simulation that no step was made of. -/
structure Starts (simulation : Simulation) : Prop where
  now_eq : simulation.now = .zero
  inFlight_eq : simulation.channel.inFlight = []
  latency_eq : simulation.channel.latency = Duration.ofMillis simulation.scenario.latencyMillis
  moves : simulation.scenario.stepMillis ≠ 0

theorem starts_of_create {settings : SimulationSettings} {simulation : Simulation}
    (created : create settings = .ok simulation) : simulation.Starts := by
  obtain ⟨valid, service, _, rfl⟩ := create_eq_ok_iff.mp created
  exact ⟨rfl, rfl, rfl, (ScenarioSettings.validate_eq_ok_iff.mp valid).2.1⟩

variable {simulation : Simulation}

theorem Starts.inFlight_after_succ (starts : simulation.Starts) (number : Nat) :
    (simulation.after (number + 1)).channel.inFlight =
      (simulation.informed number).channel.inFlight ++ simulation.emitted number := by
  rw [(simulation.takes_handed number).inFlight_eq]
  refine congrArg _ (List.map_congr_left fun message _ => ?_)
  have now : (simulation.informed number).channel.now = (simulation.trace number).time :=
    simulation.channel_now_poised number
  have latency : (simulation.informed number).channel.latency =
      Duration.ofMillis simulation.scenario.latencyMillis :=
    (simulation.latency_after number).trans starts.latency_eq
  have positions : (simulation.informed number).channel.positions = simulation.places number :=
    simulation.positions_poised number
  rw [Channel.takenOver, now, latency, positions]
  rfl

/-! ### Cutting the queue -/

section

variable {Entry Place : Type} {condition : Entry → Bool} {entries : List Entry}

/-- If no entry satisfies a condition after one that does not, then the first entries that
satisfy it are all that do. -/
theorem takeWhile_eq_filter
    (ordered : entries.Pairwise fun early late => condition late = true → condition early = true) :
    entries.takeWhile condition = entries.filter condition ∧
      entries.dropWhile condition = entries.filter fun entry => !condition entry := by
  induction entries with
  | nil => exact ⟨rfl, rfl⟩
  | cons entry later inductionHypothesis =>
    obtain ⟨first, rest⟩ := List.pairwise_cons.mp ordered
    obtain ⟨taken, left⟩ := inductionHypothesis rest
    cases satisfied : condition entry with
    | true =>
      rw [List.takeWhile_cons_of_pos satisfied, List.filter_cons_of_pos satisfied, taken,
        List.dropWhile_cons_of_pos satisfied, List.filter_cons_of_neg (by rw [satisfied]; decide),
        left]
      exact ⟨rfl, rfl⟩
    | false =>
      have unsatisfied (late : Entry) (member : late ∈ later) : condition late = false :=
        Bool.eq_false_iff.mpr fun holds => Bool.false_ne_true
          (satisfied.symm.trans (first late member holds))
      have none : later.filter condition = [] :=
        List.filter_eq_nil_iff.mpr fun late member => by
          rw [unsatisfied late member]
          exact Bool.false_ne_true
      have all : (entry :: later).filter (fun entry => !condition entry) = entry :: later := by
        refine List.filter_eq_self.mpr (List.forall_mem_cons.mpr ⟨?_, fun late member => ?_⟩)
        · rw [satisfied, Bool.not_false]
        · rw [unsatisfied late member, Bool.not_false]
      rw [List.takeWhile_cons_of_neg (by rw [satisfied]; decide),
        List.filter_cons_of_neg (by rw [satisfied]; decide), none, all,
        List.dropWhile_cons_of_neg (by rw [satisfied]; decide)]
      exact ⟨rfl, rfl⟩

/-- A condition that all entries of one place satisfy, or none, chooses among the places. -/
theorem filter_flatMap_of_agree {places : List Place} {entriesOf : Place → List Entry}
    {chosen : Place → Bool}
    (agree : ∀ place, ∀ entry ∈ entriesOf place, condition entry = chosen place) :
    (places.flatMap entriesOf).filter condition = (places.filter chosen).flatMap entriesOf := by
  induction places with
  | nil => rfl
  | cons place later inductionHypothesis =>
    rw [List.flatMap_cons, List.filter_append, inductionHypothesis]
    cases choice : chosen place with
    | true =>
      rw [List.filter_cons_of_pos choice, List.flatMap_cons, List.filter_eq_self.mpr
        fun entry member => (agree place entry member).trans choice]
    | false =>
      have none : (entriesOf place).filter condition = [] :=
        List.filter_eq_nil_iff.mpr fun entry member => by
          rw [agree place entry member, choice]
          exact Bool.false_ne_true
      rw [List.filter_cons_of_neg (by rw [choice]; decide), none, List.nil_append]

end

/-! ### When messages arrive -/

/-- No step after the one that sent the messages and before another one was late enough for
them to arrive. -/
def Underway (simulation : Simulation) (sent number : Nat) : Prop :=
  ∀ between < number, sent < between →
    (simulation.trace between).time < simulation.arrival sent

instance (simulation : Simulation) (sent number : Nat) :
    Decidable (simulation.Underway sent number) :=
  inferInstanceAs (Decidable (∀ between < number, _))

/-- A step is the first one, after the step that sent the messages, whose time is not before
their arrival. -/
def Arrives (simulation : Simulation) (sent number : Nat) : Prop :=
  sent < number ∧ simulation.Underway sent number ∧
    simulation.arrival sent ≤ (simulation.trace number).time

instance (simulation : Simulation) (sent number : Nat) :
    Decidable (simulation.Arrives sent number) :=
  inferInstanceAs (Decidable (_ ∧ _ ∧ _))

theorem underway_succ_iff {sent number : Nat} (before : sent < number) :
    simulation.Underway sent (number + 1) ↔
      simulation.Underway sent number ∧
        (simulation.trace number).time < simulation.arrival sent := by
  constructor
  · intro underway
    exact ⟨fun between early => underway between (Nat.lt_succ_of_lt early),
      underway number (Nat.lt_succ_self number) before⟩
  · rintro ⟨underway, last⟩ between early after
    rcases Nat.lt_succ_iff_lt_or_eq.mp early with earlier | rfl
    · exact underway between earlier after
    · exact last

namespace Starts

variable (starts : simulation.Starts)
include starts

theorem step_pos : 0 < Instant.step simulation.stepDuration := by
  have moves := starts.moves
  rw [Instant.step, stepDuration, Duration.ofMillis, Binary64.greatestInt64]
  dsimp only
  omega

theorem time_le {first second : Nat} (order : first ≤ second) :
    (simulation.trace first).time ≤ (simulation.trace second).time := by
  rw [simulation.time_trace_eq starts.now_eq, simulation.time_trace_eq starts.now_eq,
    Instant.le_def]
  have further : ((first : Int) + 1) * Instant.step simulation.stepDuration ≤
      (second + 1) * Instant.step simulation.stepDuration :=
    Int.mul_le_mul_of_nonneg_right (by omega) (Int.le_of_lt starts.step_pos)
  dsimp only
  omega

theorem arrival_le {first second : Nat} (order : first ≤ second) :
    simulation.arrival first ≤ simulation.arrival second := by
  have times := starts.time_le order
  rw [Instant.le_def] at times ⊢
  rw [arrival, arrival, Instant.after, Instant.after]
  dsimp only
  omega

/-- With a latency not longer than a step, messages arrive in the next step. -/
theorem arrives_succ
    (short : simulation.scenario.latencyMillis ≤ simulation.scenario.stepMillis) (number : Nat) :
    simulation.Arrives number (number + 1) := by
  refine ⟨Nat.lt_succ_self number, fun between early after => by omega, ?_⟩
  rw [arrival, simulation.time_trace_eq starts.now_eq, simulation.time_trace_eq starts.now_eq,
    Instant.le_def, Instant.after, Instant.step, Duration.ofMillis, Instant.step, stepDuration,
    Duration.ofMillis, Int.natCast_succ, Int.add_mul (_ + 1), Int.one_mul]
  dsimp only
  omega

/-- Some step is late enough for messages to arrive. -/
theorem exists_arrival_le (sent : Nat) :
    ∃ number, sent < number ∧ simulation.arrival sent ≤ (simulation.trace number).time := by
  refine ⟨sent + 1 + Binary64.greatestInt64.toNat, by omega, ?_⟩
  have bounded : (simulation.arrival sent).micros ≤ Binary64.greatestInt64 :=
    Int.min_le_left _ _
  have late : Binary64.greatestInt64 ≤
      (((sent + 1 + Binary64.greatestInt64.toNat : Nat) : Int) + 1) *
        Instant.step simulation.stepDuration := by
    have enough : (((sent + 1 + Binary64.greatestInt64.toNat : Nat) : Int) + 1) * 1 ≤
        (((sent + 1 + Binary64.greatestInt64.toNat : Nat) : Int) + 1) *
          Instant.step simulation.stepDuration :=
      Int.mul_le_mul_of_nonneg_left starts.step_pos (by omega)
    rw [Binary64.greatestInt64] at enough ⊢
    omega
  rw [simulation.time_trace_eq starts.now_eq, Instant.le_def]
  dsimp only
  omega

/-- The messages of a step arrive in exactly one step. -/
theorem existsUnique_arrives (sent : Nat) : ∃! number, simulation.Arrives sent number := by
  have arrived := starts.exists_arrival_le sent
  obtain ⟨after, due⟩ := Nat.find_spec arrived
  refine ⟨Nat.find arrived, ⟨after, fun between early later => ?_, due⟩, ?_⟩
  · exact Int.not_le.mp fun soon => Nat.find_min arrived early ⟨later, soon⟩
  · rintro other ⟨later, underway, soon⟩
    refine Nat.le_antisymm (Nat.le_of_not_lt fun early => ?_) (Nat.find_min' arrived ⟨later, soon⟩)
    exact Int.not_le.mpr (underway _ early after) due

/-- The messages of a step are in flight after another step if that is the step that sent them
or their arrival lies ahead. -/
theorem underway_iff {sent number : Nat} (order : sent ≤ number) :
    simulation.Underway sent (number + 1) ↔
      sent = number ∨ (simulation.trace number).time < simulation.arrival sent := by
  constructor
  · intro underway
    rcases Nat.eq_or_lt_of_le order with same | before
    · exact .inl same
    · exact .inr (underway number (Nat.lt_succ_self number) before)
  · rintro (rfl | ahead) between early after
    · omega
    · exact Int.lt_of_le_of_lt (starts.time_le (Nat.le_of_lt_succ early)) ahead

/-! ### The queue -/

omit starts in
theorem isDue_iff {sent number : Nat} {transmission : Transmission}
    (member : transmission ∈ simulation.emitted sent) :
    (simulation.poised number).channel.isDue transmission = true ↔
      simulation.arrival sent ≤ (simulation.trace number).time := by
  obtain ⟨message, _, rfl⟩ := List.mem_map.mp member
  rw [Channel.isDue, channel_now_poised, decide_eq_true_iff]

theorem cut (number : Nat) (steps : List Nat)
    (ascending : steps.Pairwise (· < ·)) :
    (steps.flatMap simulation.emitted).takeWhile (simulation.poised number).channel.isDue =
        (steps.filter fun sent =>
          simulation.arrival sent ≤ (simulation.trace number).time).flatMap simulation.emitted ∧
      (steps.flatMap simulation.emitted).dropWhile (simulation.poised number).channel.isDue =
        (steps.filter fun sent =>
          (simulation.trace number).time < simulation.arrival sent).flatMap simulation.emitted := by
  have ordered : (steps.flatMap simulation.emitted).Pairwise fun early late =>
      (simulation.poised number).channel.isDue late = true →
        (simulation.poised number).channel.isDue early = true := by
    refine List.pairwise_flatMap.mpr
      ⟨fun sent _ => ?_, ascending.imp fun {first second} before => ?_⟩
    · refine List.pairwise_of_forall_mem_list fun early memberEarly late memberLate => ?_
      rw [isDue_iff memberEarly, isDue_iff memberLate]
      exact id
    · intro early memberEarly late memberLate
      rw [isDue_iff memberEarly, isDue_iff memberLate]
      exact Int.le_trans (starts.arrival_le (Nat.le_of_lt before))
  obtain ⟨taken, left⟩ := takeWhile_eq_filter ordered
  refine ⟨taken.trans (filter_flatMap_of_agree fun sent entry member => ?_),
    left.trans (filter_flatMap_of_agree fun sent entry member => ?_)⟩
  · rw [Bool.eq_iff_iff, isDue_iff member, decide_eq_true_iff]
  · rw [Bool.eq_iff_iff, Bool.not_eq_true', ← Bool.not_eq_true, isDue_iff member,
      decide_eq_true_iff]
    exact Int.not_le

/-- In flight after some steps are the messages of those that no step was late enough for. -/
theorem inFlight_after (number : Nat) :
    (simulation.after number).channel.inFlight =
      ((List.range number).filter (simulation.Underway · number)).flatMap simulation.emitted := by
  induction number with
  | zero => exact starts.inFlight_eq
  | succ number inductionHypothesis =>
    have left : (simulation.informed number).channel.inFlight =
        (simulation.after number).channel.inFlight.dropWhile
          (simulation.poised number).channel.isDue := rfl
    have last : [number].filter (simulation.Underway · (number + 1)) = [number] :=
      List.filter_eq_self.mpr (List.forall_mem_singleton.mpr (decide_eq_true fun _ early after =>
        absurd (Nat.lt_succ_iff.mp early) (Nat.not_le_of_lt after)))
    rw [starts.inFlight_after_succ, left, inductionHypothesis,
      (starts.cut number _ (List.pairwise_lt_range.filter _)).2, List.filter_filter,
      List.range_succ, List.filter_append, List.flatMap_append, last, List.flatMap_singleton]
    refine congrArg (List.flatMap _ · ++ _) (List.filter_congr fun sent member => ?_)
    rw [← Bool.decide_and, decide_eq_decide, underway_succ_iff (List.mem_range.mp member),
      and_comm]

/-- The messages that leave the channel in a step are those that it is the first step late
enough for. -/
theorem leaving_eq (number : Nat) :
    simulation.leaving number =
      ((List.range number).filter (simulation.Arrives · number)).flatMap simulation.emitted := by
  have taken : simulation.leaving number =
      (simulation.after number).channel.inFlight.takeWhile
        (simulation.poised number).channel.isDue := rfl
  rw [taken, starts.inFlight_after, (starts.cut number _ (List.pairwise_lt_range.filter _)).1,
    List.filter_filter]
  refine congrArg (List.flatMap _) (List.filter_congr fun sent member => ?_)
  rw [← Bool.decide_and, decide_eq_decide, Arrives, and_iff_right (List.mem_range.mp member),
    and_comm]

end Starts

/-! ### Who receives a message -/

theorem isOffered_iff {reach : Reach} {transmission : Transmission} {vehicle : Vehicle} :
    isOffered reach transmission vehicle = true ↔
      transmission.IsFor reach.radio (vehicle.station, vehicle.own.position) := by
  rw [isOffered, Bool.and_eq_true, bne_iff_ne, Bool.not_eq_true', decide_eq_false_iff_not]
  rfl

/-- The receptions of a vehicle when messages are delivered. -/
def receptions (range : Float) (scene : Scene) (now : Instant) (due : List Transmission)
    (vehicle : Vehicle) : List (Call Channel) :=
  (due.filter (·.IsFor range (vehicle.station, vehicle.own.position))).map fun transmission =>
    .indicate (vehicle.surroundings scene) now transmission.message

section

variable (reach : Reach) (scene : Scene) (now : Instant)

theorem receptions_cons (transmission : Transmission) (later : List Transmission)
    (vehicle : Vehicle) :
    vehicle.service.run (receptions reach.radio scene now (transmission :: later) vehicle) =
      (offer reach scene now transmission vehicle).1.service.run
        (receptions reach.radio scene now later
          (offer reach scene now transmission vehicle).1) := by
  have chosen := @List.filter_cons _ transmission later fun other =>
    decide (other.IsFor reach.radio (vehicle.station, vehicle.own.position))
  unfold offer
  by_cases meant : transmission.IsFor reach.radio (vehicle.station, vehicle.own.position)
  · rw [if_pos (isOffered_iff.mpr meant), receptions, chosen, if_pos (decide_eq_true meant)]
    rfl
  · rw [if_neg (isOffered_iff.not.mpr meant), receptions, chosen,
      if_neg (decide_eq_true_iff.not.mpr meant)]
    rfl

/-- Every service receives what is meant for its station, in the order of arrival. -/
theorem services_deliver (due : List Transmission) (vehicles : List Vehicle) :
    (deliver reach scene now due vehicles).1.map
        (fun vehicle => (vehicle.station, vehicle.service)) =
      vehicles.map fun vehicle =>
        (vehicle.station,
          vehicle.service.run (receptions reach.radio scene now due vehicle)) := by
  induction due generalizing vehicles with
  | nil => rfl
  | cons transmission later inductionHypothesis =>
    rw [deliver, inductionHypothesis, List.map_map, List.map_map]
    refine List.map_congr_left fun vehicle _ => ?_
    have kept := outline_offer reach scene now transmission vehicle
    rw [Function.comp_apply, Function.comp_apply, receptions_cons reach]
    exact congrArg (fun outline => (outline.own.station, _)) kept

/-- A message is offered to the vehicles that it is meant for, and to no other. -/
theorem deliveries_deliver (due : List Transmission) (vehicles : List Vehicle) :
    (deliver reach scene now due vehicles).2.map
        (fun delivery => (delivery.transmission, delivery.receiver)) =
      due.flatMap fun transmission =>
        ((vehicles.map fun vehicle => (vehicle.station, vehicle.own.position)).filter
          (transmission.IsFor reach.radio ·)).map fun entry => (transmission, entry.1) := by
  induction due generalizing vehicles with
  | nil => rfl
  | cons transmission later inductionHypothesis =>
    have places : ((vehicles.map (offer reach scene now transmission)).map (·.1)).map
          (fun vehicle => (vehicle.station, vehicle.own.position)) =
        vehicles.map fun vehicle => (vehicle.station, vehicle.own.position) := by
      rw [List.map_map, List.map_map]
      refine List.map_congr_left fun vehicle _ => ?_
      exact congrArg (fun outline => (outline.own.station, outline.own.position))
        (outline_offer reach scene now transmission vehicle)
    rw [deliver, List.flatMap_cons]
    dsimp only
    rw [List.map_append, inductionHypothesis, places, List.filter_map, List.map_map,
      List.map_filterMap, List.filterMap_map]
    refine congrArg (· ++ _) ?_
    rw [← List.filterMap_eq_map, List.filterMap_filter]
    refine List.filterMap_congr fun vehicle _ => ?_
    rw [Function.comp_apply, Function.comp_apply, offer]
    by_cases meant : transmission.IsFor reach.radio (vehicle.station, vehicle.own.position)
    · rw [if_pos (isOffered_iff.mpr meant), if_pos (decide_eq_true meant)]
      rfl
    · rw [if_neg (isOffered_iff.not.mpr meant), if_neg (decide_eq_true_iff.not.mpr meant)]
      rfl

end

section

variable {settings : SimulationSettings} (created : create settings = .ok simulation)
  (number : Nat)
include created

theorem radio_poised : (simulation.poised number).reach.radio = settings.scenario.radioRange := by
  have scenario : (simulation.poised number).scenario = settings.scenario :=
    (simulation.scenario_after number).trans (scenario_of_create created)
  rw [reach, scenario]

theorem deliveries_trace :
    (simulation.trace number).deliveries.map
        (fun delivery => (delivery.transmission, delivery.receiver)) =
      (simulation.leaving number).flatMap fun transmission =>
        ((simulation.places number).filter
          (transmission.IsFor settings.scenario.radioRange ·)).map
            fun entry => (transmission, entry.1) := by
  rw [← radio_poised created number, ← positions_poised]
  exact deliveries_deliver _ _ _ _ _

/-- A message that leaves the channel reaches every station that it is meant for. -/
theorem exists_delivery {transmission : Transmission}
    (leaves : transmission ∈ simulation.leaving number) {station : StationId} {place : Point}
    (there : (station, place) ∈ simulation.places number)
    (meant : transmission.IsFor settings.scenario.radioRange (station, place)) :
    ∃ delivery ∈ (simulation.trace number).deliveries,
      delivery.transmission = transmission ∧ delivery.receiver = station := by
  have offered : (transmission, station) ∈ (simulation.trace number).deliveries.map
      (fun delivery => (delivery.transmission, delivery.receiver)) := by
    rw [deliveries_trace created]
    exact List.mem_flatMap_of_mem leaves
      (List.mem_map_of_mem (List.mem_filter.mpr ⟨there, decide_eq_true meant⟩))
  obtain ⟨delivery, inside, same⟩ := List.mem_map.mp offered
  exact ⟨delivery, inside, Prod.mk.inj same⟩

theorem services_informed :
    (simulation.informed number).vehicles.map (fun vehicle => (vehicle.station, vehicle.service)) =
      (simulation.poised number).vehicles.map fun vehicle =>
        (vehicle.station, vehicle.service.run
          (receptions settings.scenario.radioRange (simulation.poised number).arena.resolve
            (simulation.trace number).time (simulation.leaving number) vehicle)) := by
  rw [← radio_poised created number, ← now_poised]
  exact services_deliver _ _ _ _ _

omit created in
/-- A message that a station sends in its turn is its own, and the channel knows where the
station is. -/
theorem origin_of_mem_sent {cycle : CycleTrace} (member : cycle ∈ (simulation.trace number).cycles)
    {message : Message} (sent : message ∈ cycle.sent) :
    message.sender = cycle.station ∧
      (cycle.station, Channel.placeIn (simulation.places number) cycle.station) ∈
        simulation.places number := by
  have sender : message.sender = cycle.station := sender_of_mem_sent member sent
  have known := (simulation.takes_handed number).known message
    (List.mem_flatMap_of_mem member sent)
  have places : (simulation.informed number).channel.positions = simulation.places number :=
    simulation.positions_poised number
  rw [places, sender] at known
  exact ⟨sender, known⟩

end

/-! ### The channel -/

/-- The messages that a station sends in a step leave the channel together in exactly one step,
the first later one that their arrival does not lie ahead of, and in the order of sending; till
then they are in flight. A message that leaves is received by the stations that it is meant for:
another one sent it, and the distance to where that one was is not greater than the range of the
radio, which for a distance that is a number says that it is at most the range. -/
theorem channel_delivers_once {settings : SimulationSettings}
    (created : create settings = .ok simulation) (number : Nat) :
    let time := (simulation.trace number).time
    let range := settings.scenario.radioRange
    (∀ cycle ∈ (simulation.trace number).cycles, ∀ message ∈ cycle.sent,
        message.sender = cycle.station ∧
          (cycle.station, Channel.placeIn (simulation.places number) cycle.station) ∈
            simulation.places number) ∧
      (∃! later, simulation.Arrives number later) ∧
      (simulation.after (number + 1)).channel.inFlight =
        ((List.range (number + 1)).filter fun sent =>
          sent = number ∨ time < simulation.arrival sent).flatMap simulation.emitted ∧
      simulation.leaving number =
        ((List.range number).filter (simulation.Arrives · number)).flatMap simulation.emitted ∧
      (simulation.trace number).deliveries.map
          (fun delivery => (delivery.transmission, delivery.receiver)) =
        (simulation.leaving number).flatMap (fun transmission =>
          ((simulation.places number).filter (transmission.IsFor range ·)).map
            fun entry => (transmission, entry.1)) ∧
      (simulation.informed number).vehicles.map
          (fun vehicle => (vehicle.station, vehicle.service)) =
        (simulation.poised number).vehicles.map (fun vehicle =>
          (vehicle.station, vehicle.service.run
            (receptions range (simulation.poised number).arena.resolve time
              (simulation.leaving number) vehicle))) ∧
      ∀ (transmission : Transmission) (station : StationId) (place : Point),
        (place.distance transmission.origin).isNaN = false →
          (transmission.IsFor range (station, place) ↔
            station ≠ transmission.message.sender ∧
              place.distance transmission.origin ≤ range) := by
  intro time range
  have starts := starts_of_create created
  refine ⟨fun cycle member message sent => origin_of_mem_sent number member sent,
    starts.existsUnique_arrives number, ?_, starts.leaving_eq number,
    deliveries_trace created number, services_informed created number,
    fun transmission station place defined => ?_⟩
  · rw [starts.inFlight_after]
    refine congrArg (List.flatMap _) (List.filter_congr fun sent member => ?_)
    rw [decide_eq_decide]
    exact starts.underway_iff (Nat.lt_succ_iff.mp (List.mem_range.mp member))
  · obtain ⟨valid, _⟩ := create_eq_ok_iff.mp created
    obtain ⟨_, _, _, _, positive⟩ := ScenarioSettings.validate_eq_ok_iff.mp valid
    have bounded := Binary64.isNaN_of_isFinite (Bool.and_eq_true_iff.mp positive).1
    rw [Transmission.IsFor, Binary64.not_lt_iff bounded defined]

/-! ### Small columns -/

/-- With the standard settings of the services and steps of a tenth of a second every station
has a message on its way in the first step, from where the station is. -/
theorem exists_emitted_first {settings : SimulationSettings}
    (created : create settings = .ok simulation) (services : settings.service = .standard)
    (steps : settings.scenario.stepMillis = 100) {station : StationId} {place : Point}
    (there : (station, place) ∈ simulation.places 0) :
    ∃ transmission ∈ simulation.emitted 0, transmission.message.sender = station ∧
      transmission.origin = place := by
  obtain ⟨message, handed, sender⟩ := exists_handed_standard created services steps there
  refine ⟨_, List.mem_map_of_mem handed, sender, ?_⟩
  rw [sender]
  exact Channel.placeIn_eq (places_nodup created 0) there

/-- In the standard scenario every message leaves the channel in the step after its own. -/
theorem standard_leaves_next_step :
    ∃ simulation, create .standard = .ok simulation ∧ simulation.emitted 0 ≠ [] ∧
      simulation.leaving 1 = simulation.emitted 0 := by
  obtain ⟨simulation, created⟩ : ∃ simulation, create .standard = .ok simulation := ⟨_, rfl⟩
  obtain ⟨_, _, _, leaving, _⟩ := channel_delivers_once created 1
  obtain ⟨_, emitted, _⟩ := exists_emitted_first created rfl rfl
    (mem_places created 0 (by decide : 0 < SimulationSettings.standard.scenario.vehicles))
  have arrives : simulation.Arrives 0 1 := (starts_of_create created).arrives_succ
    (by rw [scenario_of_create created]; decide) 0
  have all : (List.range 1).filter (simulation.Arrives · 1) = [0] :=
    List.filter_eq_self.mpr (List.forall_mem_singleton.mpr (decide_eq_true arrives))
  refine ⟨simulation, created, List.ne_nil_of_mem emitted, ?_⟩
  rw [leaving, all]
  exact List.flatMap_singleton _ _

/-- Four vehicles so far apart that the last two of them are beyond all finite numbers. -/
def distantSettings : SimulationSettings :=
  { SimulationSettings.standard with
    scenario :=
      { ScenarioSettings.standard with
        vehicles := 4
        spacing := 1e308
        baseSpeed := 0.0
        speedStep := 0.0 } }

/-- Even an object at rest is moved by a multiple of zero. -/
theorem position_driven {interval : Duration} {object : SceneObject}
    (rests : object.speed * interval.seconds = 0.0) :
    (driven interval object).position =
      ⟨object.position.x + (halfTurn / 2.0 - object.heading.radians).cos * 0.0,
        object.position.y - (halfTurn / 2.0 - object.heading.radians).sin * 0.0⟩ := by
  rw [driven, rests, Point.advance]

/-- However the two are moved by multiples of zero, their distance is undefined. -/
theorem distance_isNaN : ∀ east ∈ [0.0, -0.0, 0.0 / 0.0], ∀ south ∈ [0.0, -0.0, 0.0 / 0.0],
    ((Point.mk (Float.ofNat 3 * 1e308 + east + east) (0.0 - south - south)).distance
      (Point.mk (Float.ofNat 2 * 1e308 + east) (0.0 - south))).isNaN = true := by
  decide +kernel

theorem distance_driven_isNaN :
    (((driven (.ofMillis 100))^[2] (startObject distantSettings.scenario 3)).position.distance
      ((driven (.ofMillis 100))^[1] (startObject distantSettings.scenario 2)).position).isNaN =
        true := by
  have rests : (startObject distantSettings.scenario 3).speed *
      (Duration.ofMillis 100).seconds = 0.0 := by decide +kernel
  have otherRests : (startObject distantSettings.scenario 2).speed *
      (Duration.ofMillis 100).seconds = 0.0 := by decide +kernel
  have stillRests : (driven (.ofMillis 100) (startObject distantSettings.scenario 3)).speed *
      (Duration.ofMillis 100).seconds = 0.0 := rests
  rw [Function.iterate_succ_apply, Function.iterate_one, position_driven stillRests,
    position_driven rests, position_driven otherRests]
  exact distance_isNaN _ (Binary64.mul_zero_mem _) _ (Binary64.mul_zero_mem _)

theorem create_distantSettings : ∃ simulation, create distantSettings = .ok simulation := by
  have valid : distantSettings.scenario.validate = .ok () :=
    ScenarioSettings.validate_eq_ok_iff.mpr
      ⟨by decide, by decide, by decide +kernel, by decide +kernel, by decide +kernel⟩
  obtain ⟨service, new⟩ : ∃ service, Service.create distantSettings.service
      (facilities distantSettings.scenario) .zero = .ok service := ⟨_, rfl⟩
  exact ⟨_, create_eq_ok_iff.mpr ⟨valid, service, new, rfl⟩⟩

/-- The distance between the last two vehicles is undefined, and one of them receives the
other one's message. -/
theorem distant_vehicles_hear :
    ∃ simulation, create distantSettings = .ok simulation ∧
      ∃ delivery ∈ (simulation.trace 1).deliveries,
        ∃ place, (delivery.receiver, place) ∈ simulation.places 1 ∧
          ¬place.distance delivery.transmission.origin ≤
            distantSettings.scenario.radioRange := by
  obtain ⟨simulation, created⟩ := create_distantSettings
  have receiver := mem_places created 1 (by decide : 3 < distantSettings.scenario.vehicles)
  obtain ⟨transmission, emitted, sender, origin⟩ := exists_emitted_first created rfl rfl
    (mem_places created 0 (by decide : 2 < distantSettings.scenario.vehicles))
  have leaves : transmission ∈ simulation.leaving 1 := by
    have starts := starts_of_create created
    have arrives := starts.arrives_succ (by rw [scenario_of_create created]; decide) 0
    rw [starts.leaving_eq]
    exact List.mem_flatMap_of_mem
      (List.mem_filter.mpr ⟨List.mem_range.mpr Nat.one_pos, decide_eq_true arrives⟩) emitted
  have step : simulation.stepDuration = .ofMillis 100 := by
    rw [stepDuration, scenario_of_create created]
    rfl
  have undefined := distance_driven_isNaN
  rw [← step, ← origin] at undefined
  have other : firstStation + 3 ≠ transmission.message.sender := by
    rw [sender]
    exact (by decide : firstStation + 3 ≠ firstStation + 2)
  obtain ⟨delivery, inside, sent, received⟩ :=
    exists_delivery created 1 leaves receiver ⟨other, Binary64.not_lt_of_isNaN undefined⟩
  rw [← received] at receiver
  rw [← sent] at undefined
  exact ⟨simulation, created, delivery, inside, _, receiver, Binary64.not_le_of_isNaN undefined⟩

end Simulation

end CollectivePerception
