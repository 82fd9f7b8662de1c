/-
This file proves how many steps a simulation takes. It is finished at the first step whose time
is not before the configured duration, so there are as many steps as fit into the duration,
rounded up, and the program prints a line for each of them (`ends_after_duration_iff`).

This asks for a duration that an instant can reach. The clock stops at its last instant, so a
longer duration never passes, and a duration that is no signed number of 64 bits counts as
negative and has passed before the first step.
-/

import CollectivePerception.CommandLine.Program
import CollectivePerception.Proofs.Simulation.Run
import Mathlib.Algebra.Order.Floor.Div

namespace CollectivePerception

open CommandLine (Host stepLine)

namespace Simulation

/-! ### Stepping until the end -/

/-- Stepping a simulation as long as it is not finished takes this number of steps. -/
inductive EndsAfter : Simulation → Nat → Prop
  | now {simulation : Simulation} (finished : simulation.isFinished = true) :
      EndsAfter simulation 0
  | later {simulation : Simulation} {steps : Nat} (unfinished : simulation.isFinished = false)
      (ends : EndsAfter simulation.step.1 steps) : EndsAfter simulation (steps + 1)

variable {simulation : Simulation} {steps : Nat}

theorem endsAfter_iff :
    simulation.EndsAfter steps ↔
      (simulation.after steps).isFinished = true ∧
        ∀ earlier < steps, (simulation.after earlier).isFinished = false := by
  induction steps generalizing simulation with
  | zero =>
    constructor
    · rintro ⟨finished⟩
      exact ⟨finished, nofun⟩
    · rintro ⟨finished, _⟩
      exact .now finished
  | succ steps inductionHypothesis =>
    constructor
    · rintro (_ | ⟨unfinished, ends⟩)
      obtain ⟨finished, before⟩ := inductionHypothesis.mp ends
      exact ⟨finished, fun
        | 0, _ => unfinished
        | earlier + 1, less => before earlier (Nat.lt_of_succ_lt_succ less)⟩
    · rintro ⟨finished, before⟩
      exact .later (before 0 (Nat.succ_pos steps)) (inductionHypothesis.mpr
        ⟨finished, fun earlier less => before (earlier + 1) (Nat.succ_lt_succ less)⟩)

/-- A simulation that is finished from some step on takes that many steps and no other number. -/
theorem endsAfter_iff_eq {last : Nat}
    (finished : ∀ number, (simulation.after number).isFinished = true ↔ last ≤ number) :
    simulation.EndsAfter steps ↔ steps = last := by
  have unfinished (number : Nat) :
      (simulation.after number).isFinished = false ↔ number < last := by
    rw [Bool.eq_false_iff, Ne, finished, Nat.not_le]
  rw [endsAfter_iff, finished]
  simp only [unfinished]
  constructor
  · rintro ⟨reached, before⟩
    by_contra different
    exact Nat.lt_irrefl last (before last (by omega))
  · rintro rfl
    exact ⟨Nat.le_refl steps, fun _ less => less⟩

/-! ### The loop of the program -/

/-- The totals of the first steps of a run. -/
def summaries (simulation : Simulation) (steps : Nat) : List StepSummary :=
  (List.range steps).map fun number => (simulation.trace number).summary

theorem summaries_succ :
    simulation.summaries (steps + 1) =
      simulation.step.2.summary :: simulation.step.1.summaries steps := by
  rw [summaries, List.range_succ_eq_map, List.map_cons, List.map_map]
  rfl

/-- With a limit that is not too small, the program prints a line for each step until the end and
adds up their totals. -/
theorem runSteps_eq {m : Type → Type} [Monad m] [LawfulMonad m] (host : Host m) {limit : Nat}
    (total : StepSummary) (ends : simulation.EndsAfter steps) (enough : steps ≤ limit) :
    host.runSteps limit simulation total = do
      host.printAll ((simulation.summaries steps).map stepLine)
      return (simulation.after steps, (simulation.summaries steps).foldl .add total) := by
  induction ends generalizing limit total with
  | @now simulation finished =>
    have stopped : host.runSteps limit simulation total = pure (simulation, total) := by
      cases limit with
      | zero => rfl
      | succ limit =>
        rw [Host.runSteps, if_pos finished]
    rw [stopped, summaries, List.range_zero, List.map_nil, List.map_nil, List.foldl_nil,
      Host.printAll, pure_bind]
    rfl
  | @later simulation steps unfinished _ inductionHypothesis =>
    obtain ⟨limit, rfl⟩ := Nat.exists_eq_add_of_le' (Nat.le_trans (Nat.succ_pos steps) enough)
    rw [Host.runSteps, if_neg (Bool.eq_false_iff.mp unfinished)]
    simp only [inductionHypothesis _ (Nat.le_of_succ_le_succ enough), summaries_succ,
      List.map_cons, Host.printAll, bind_assoc, List.foldl_cons]
    rfl

/-! ### Time -/

/-- The milliseconds of the last instant. -/
def lastMillis : Nat := 9223372036854775

theorem lastMillis_lt : lastMillis < 2 ^ 63 := by
  decide

/-- A duration below `2 ^ 63` is left as it is when it is made a signed number of 64 bits. -/
theorem bmod_wordRange {duration : Nat} (signed : duration < 2 ^ 63) :
    (duration : Int).bmod Binary64.wordRange = duration :=
  Int.bmod_eq_of_le_mul_two (by rw [Binary64.wordRange]; omega)
    (by rw [Binary64.wordRange]; omega)

/-- Counting whole steps in microseconds up to the last instant is counting their milliseconds up
to those of that instant. -/
theorem tdiv_min_mul (number step : Nat) :
    (min Binary64.greatestInt64
        ((number : Int) * min ((step * 1000 : Nat) : Int) Binary64.greatestInt64)).tdiv 1000 =
      (min lastMillis (number * step) : Nat) := by
  rw [Binary64.greatestInt64, lastMillis]
  rcases Nat.eq_zero_or_pos number with rfl | positive
  · rw [Int.natCast_zero, Int.zero_mul, Nat.zero_mul]
    rfl
  · rcases le_total ((step * 1000 : Nat) : Int) 9223372036854775807 with short | long
    · have passed : (number : Int) * (step * 1000 : Nat) = (number * step : Nat) * 1000 := by
        rw [Int.natCast_mul, Int.natCast_mul, Int.mul_assoc]
        rfl
      rw [min_eq_left short, passed, Int.tdiv_eq_ediv_of_nonneg (by omega)]
      omega
    · -- A single step reaches the last instant.
      have passed : step ≤ number * step := Nat.le_mul_of_pos_left step positive
      rw [min_eq_right long, Int.tdiv_eq_ediv_of_nonneg (by omega)]
      omega

section

variable {settings : SimulationSettings} (created : create settings = .ok simulation)
include created

/-- Time moves on by whole steps until the last instant. -/
theorem millis_now_after (number : Nat) :
    (simulation.after number).now.millis =
      (min lastMillis (number * settings.scenario.stepMillis) : Nat) := by
  rw [simulation.now_after (now_of_create created), stepDuration, scenario_of_create created]
  exact tdiv_min_mul number settings.scenario.stepMillis

theorem isFinished_after_iff (number : Nat) :
    (simulation.after number).isFinished = true ↔
      (settings.scenario.durationMillis : Int).bmod Binary64.wordRange ≤
        (min lastMillis (number * settings.scenario.stepMillis) : Nat) := by
  rw [isFinished, scenario_after, scenario_of_create created, millis_now_after created,
    decide_eq_true_iff]

theorem stepMillis_pos : 0 < settings.scenario.stepMillis := by
  obtain ⟨valid, _⟩ := create_eq_ok_iff.mp created
  exact Nat.pos_of_ne_zero (ScenarioSettings.validate_eq_ok_iff.mp valid).2.1

/-- A duration that an instant can reach has passed after as many steps as fit into it, rounded
up. -/
theorem endsAfter_iff_of_reachable (reachable : settings.scenario.durationMillis ≤ lastMillis) :
    simulation.EndsAfter steps ↔
      steps = settings.scenario.durationMillis ⌈/⌉ settings.scenario.stepMillis := by
  have signed := Nat.lt_of_le_of_lt reachable lastMillis_lt
  refine endsAfter_iff_eq fun number => ?_
  rw [isFinished_after_iff created, bmod_wordRange signed,
    ceilDiv_le_iff_le_mul (stepMillis_pos created), Nat.mul_comm number, Int.ofNat_le, le_min_iff]
  exact and_iff_right reachable

/-- A duration that no instant reaches never passes, as long as it is a signed number of 64
bits. -/
theorem not_endsAfter (unreachable : lastMillis < settings.scenario.durationMillis)
    (signed : settings.scenario.durationMillis < 2 ^ 63) : ¬simulation.EndsAfter steps := by
  intro ends
  have finished := (endsAfter_iff.mp ends).1
  rw [isFinished_after_iff created, bmod_wordRange signed] at finished
  omega

/-- A duration that is no signed number of 64 bits has passed at the start. -/
theorem endsAfter_iff_of_unsigned (unsigned : 2 ^ 63 ≤ settings.scenario.durationMillis)
    (word : settings.scenario.durationMillis < 2 ^ 64) :
    simulation.EndsAfter steps ↔ steps = 0 := by
  have negative : (settings.scenario.durationMillis : Int).bmod Binary64.wordRange < 0 := by
    rw [Int.bmod_def, Binary64.wordRange]
    split <;> omega
  refine endsAfter_iff_eq fun number => ?_
  rw [isFinished_after_iff created]
  exact iff_of_true (by omega) (Nat.zero_le number)

theorem endsAfter_iff_duration (word : settings.scenario.durationMillis < 2 ^ 64) :
    simulation.EndsAfter steps ↔
      settings.scenario.durationMillis ≤ lastMillis ∧
          steps = settings.scenario.durationMillis ⌈/⌉ settings.scenario.stepMillis ∨
        2 ^ 63 ≤ settings.scenario.durationMillis ∧ steps = 0 := by
  by_cases reachable : settings.scenario.durationMillis ≤ lastMillis
  · rw [endsAfter_iff_of_reachable created reachable]
    have signed := Nat.not_le.mpr (Nat.lt_of_le_of_lt reachable lastMillis_lt)
    exact ⟨fun same => .inl ⟨reachable, same⟩,
      fun given => given.elim And.right fun long => absurd long.1 signed⟩
  · by_cases unsigned : 2 ^ 63 ≤ settings.scenario.durationMillis
    · rw [endsAfter_iff_of_unsigned created unsigned word]
      exact ⟨fun same => .inr ⟨unsigned, same⟩,
        fun given => given.elim (fun short => absurd short.1 reachable) And.right⟩
    · refine iff_of_false (not_endsAfter created (by omega) (by omega)) ?_
      rintro (⟨short, _⟩ | ⟨long, _⟩)
      · exact reachable short
      · exact unsigned long

end

/-- A simulation whose duration an instant can reach takes as many steps as fit into the
duration, rounded up. If the duration is longer it takes no step or never ends, depending on
whether 64 bits hold the duration as a signed number. If it ends, the program prints a line for
each step, in the order of the steps. -/
theorem ends_after_duration_iff {settings : SimulationSettings} {simulation : Simulation}
    (created : create settings = .ok simulation)
    (word : settings.scenario.durationMillis < 2 ^ 64) :
    let duration := settings.scenario.durationMillis
    (∀ steps, simulation.EndsAfter steps ↔
        duration ≤ lastMillis ∧ steps = duration ⌈/⌉ settings.scenario.stepMillis ∨
          2 ^ 63 ≤ duration ∧ steps = 0) ∧
      ∀ steps, simulation.EndsAfter steps →
        ∀ {m : Type → Type} [Monad m] [LawfulMonad m] (host : Host m) (total : StepSummary),
          host.runSteps duration simulation total = do
            host.printAll ((simulation.summaries steps).map stepLine)
            return (simulation.after steps, (simulation.summaries steps).foldl .add total) := by
  intro duration
  refine ⟨fun steps => endsAfter_iff_duration created word,
    fun steps ends m _ _ host total => runSteps_eq host total ends ?_⟩
  rcases (endsAfter_iff_duration created word).mp ends with ⟨_, rfl⟩ | ⟨_, rfl⟩
  · rw [ceilDiv_le_iff_le_mul (stepMillis_pos created)]
    exact Nat.le_mul_of_pos_left duration (stepMillis_pos created)
  · exact Nat.zero_le duration

/-! ### A duration between two steps -/

/-- Steps of a tenth of a second, for half a step more than five seconds. -/
def unevenSettings : SimulationSettings :=
  { SimulationSettings.standard with
    scenario := { ScenarioSettings.standard with durationMillis := 5050 } }

/-- The last step begins before the duration has passed. -/
theorem unevenSettings_ends :
    ∃ simulation, create unevenSettings = .ok simulation ∧ simulation.EndsAfter 51 ∧
      ∀ host : Host Id,
        (host.runSteps unevenSettings.scenario.durationMillis simulation .zero).run.1 =
          simulation.after 51 := by
  obtain ⟨simulation, created⟩ : ∃ simulation, create unevenSettings = .ok simulation := ⟨_, rfl⟩
  obtain ⟨ends_iff, printed⟩ := ends_after_duration_iff created (by decide)
  have ends : simulation.EndsAfter 51 := (ends_iff 51).mpr (.inl (by decide))
  refine ⟨simulation, created, ends, fun host => ?_⟩
  rw [printed 51 ends host .zero, Id.run_bind, Id.run_pure]

/-! ### A duration that is no signed number -/

/-- The least duration that is no signed number of 64 bits. -/
def boundlessSettings : SimulationSettings :=
  { SimulationSettings.standard with
    scenario := { ScenarioSettings.standard with durationMillis := 2 ^ 63 } }

/-- The simulation is finished before its first step, although its steps are short. -/
theorem boundlessSettings_take_no_step :
    ∃ simulation, create boundlessSettings = .ok simulation ∧ simulation.EndsAfter 0 ∧
      ¬simulation.EndsAfter (boundlessSettings.scenario.durationMillis ⌈/⌉
        boundlessSettings.scenario.stepMillis) := by
  obtain ⟨simulation, created⟩ : ∃ simulation, create boundlessSettings = .ok simulation :=
    ⟨_, rfl⟩
  have ends_iff (steps : Nat) : simulation.EndsAfter steps ↔ steps = 0 :=
    endsAfter_iff_of_unsigned created (by decide) (by decide)
  exact ⟨simulation, created, (ends_iff 0).mpr rfl, fun ends => by
    cases (ends_iff _).mp ends⟩

end Simulation

end CollectivePerception
