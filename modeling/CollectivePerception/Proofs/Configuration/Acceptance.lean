/-
This file proves from which settings and with which facilities a service can be created. It is
created exactly if all requirements on them are met, with the rule and the chain that the settings
describe, and otherwise the cause is that of the first requirement that is violated
(`Service.create_checks_requirements`). The requirements are those of the service itself, of its
facilities, of the selection rule and of each redundancy rule in the order of the list.
-/

import CollectivePerception.Proofs.Requirement
import CollectivePerception.Service.State

namespace CollectivePerception

/-! ### Computations that check requirements -/

section

variable {Fault Value Result Part : Type}

/-- A computation checks requirements one after the other, fails with the fault of the first one
that is not met, and otherwise returns a value. -/
def Checks (requirements : List (Requirement Fault)) (value : Value)
    (computation : Except Fault Value) : Prop :=
  ∃ found, Verdict requirements found ∧ computation = found.elim (.ok value) .error

namespace Checks

variable {requirements later : List (Requirement Fault)} {value : Value} {result : Result}
  {computation : Except Fault Value}

theorem eq_ok_iff (checks : Checks requirements value computation) {returned : Value} :
    computation = .ok returned ↔
      (∀ requirement ∈ requirements, requirement.holds) ∧ returned = value := by
  obtain ⟨found, verdict, rfl⟩ := checks
  rw [← verdict.eq_none_iff]
  cases found with
  | none =>
    rw [Option.elim_none, Except.ok.injEq, and_iff_right rfl]
    exact eq_comm
  | some fault => exact iff_of_false nofun fun accepted => nomatch accepted.1

theorem eq_error_iff (checks : Checks requirements value computation) {fault : Fault} :
    computation = .error fault ↔ FirstViolated requirements fault := by
  obtain ⟨found, verdict, rfl⟩ := checks
  rw [← verdict.eq_some_iff]
  cases found with
  | none => exact iff_of_false nofun nofun
  | some other => rw [Option.elim_some, Except.error.injEq, Option.some_inj]

/-- Nothing is required. -/
theorem ok (value : Value) : Checks ([] : List (Requirement Fault)) value (.ok value) :=
  ⟨none, .nil, rfl⟩

/-- A single requirement is checked by deciding it. -/
theorem singleton (condition : Prop) [Decidable condition] (fault : Fault) :
    Checks [⟨condition, fault⟩] () (if condition then .ok () else .error fault) := by
  refine ⟨_, .singleton fault, ?_⟩
  split <;> rfl

/-- What follows a computation checks its own requirements after those of the computation. -/
theorem bind {next : Value → Except Fault Result} (first : Checks requirements value computation)
    (second : Checks later result (next value)) :
    Checks (requirements ++ later) result (computation >>= next) := by
  obtain ⟨found, verdict, rfl⟩ := first
  obtain ⟨other, following, outcome⟩ := second
  refine ⟨found.or other, verdict.append following, ?_⟩
  cases found with
  | none => exact outcome
  | some fault => rfl

/-- Many parts are checked one after the other, and what comes of them keeps their order. -/
theorem mapM {requirementsOf : Part → List (Requirement Fault)} {valueOf : Part → Value}
    {check : Part → Except Fault Value}
    (each : ∀ part, Checks (requirementsOf part) (valueOf part) (check part)) (parts : List Part) :
    Checks (parts.flatMap requirementsOf) (parts.map valueOf) (parts.mapM check) := by
  induction parts with
  | nil => exact .ok []
  | cons part others inductionHypothesis =>
    rw [List.mapM_cons, List.flatMap_cons, List.map_cons,
      ← List.append_nil (others.flatMap requirementsOf)]
    exact (each part).bind (inductionHypothesis.bind (.ok _))

end Checks

end

/-! ### The requirements on settings -/

/-- A number is positive and finite. -/
def positiveRequirement (name : String) (value : Float) : Requirement ConfigurationError :=
  ⟨value.isFinite = true ∧ 0.0 < value, .setting name (.notPositiveNumber value)⟩

/-- A number of milliseconds is not zero. -/
def nonZeroRequirement (name : String) (millis : Nat) : Requirement ConfigurationError :=
  ⟨1 ≤ millis, .setting name .zero⟩

namespace SelectionSettings

def requirements : SelectionSettings → List (Requirement ConfigurationError)
  | static => []
  | dynamic settings => [
      ⟨settings.headingThresholdDegrees.isFinite = true ∧
          0.0 ≤ settings.headingThresholdDegrees ∧ settings.headingThresholdDegrees ≤ 180.0,
        .setting "generation.heading_threshold_deg"
          (.outsideHalfTurn settings.headingThresholdDegrees)⟩,
      positiveRequirement "generation.distance_threshold" settings.distanceThreshold,
      positiveRequirement "generation.speed_threshold" settings.speedThreshold,
      nonZeroRequirement "generation.time_threshold_ms" settings.timeThresholdMillis]

/-- The rule that the settings describe. -/
def rule : SelectionSettings → SelectionRule
  | static => .static
  | dynamic settings => .dynamic
      { distance := settings.distanceThreshold
        speed := settings.speedThreshold
        heading := .ofDegrees settings.headingThresholdDegrees
        time := .ofMillis settings.timeThresholdMillis
        dynamicPrediction := settings.dynamicPrediction
        predictionInterval := .ofMillis settings.predictionIntervalMillis }

end SelectionSettings

namespace RedundancySettings

def requirements : RedundancySettings → List (Requirement ConfigurationError)
  | distance windowMillis reach => [
      nonZeroRequirement "redundancy.distance.window_ms" windowMillis,
      positiveRequirement "redundancy.distance.distance" reach]
  | dynamics reach tolerance => [
      positiveRequirement "redundancy.dynamics.distance" reach,
      positiveRequirement "redundancy.dynamics.speed" tolerance]
  | frequency windowMillis _ => [nonZeroRequirement "redundancy.frequency.window_ms" windowMillis]
  | selfAnnouncement => []

/-- The rule that the settings describe. -/
def rule : RedundancySettings → RedundancyRule
  | distance windowMillis reach => .distance (.ofMillis windowMillis) reach
  | dynamics reach tolerance => .dynamics reach tolerance
  | frequency windowMillis number => .frequency (.ofMillis windowMillis) number
  | selfAnnouncement => .selfAnnouncement

end RedundancySettings

/-- The requirements on the settings of a service apart from those of its rules. -/
def ServiceSettings.requirements (settings : ServiceSettings) :
    List (Requirement ConfigurationError) := [
  nonZeroRequirement "gen_cpm_min_ms" settings.minimumIntervalMillis,
  ⟨settings.minimumIntervalMillis ≤ settings.maximumIntervalMillis,
    .setting "gen_cpm_max_ms"
      (.belowMinimum settings.maximumIntervalMillis settings.minimumIntervalMillis)⟩,
  nonZeroRequirement "add_sensor_information_ms" settings.sensorIntervalMillis,
  nonZeroRequirement "mtu" settings.sizeLimit,
  ⟨settings.redundancyLoad.isFinite = true ∧ 0.0 ≤ settings.redundancyLoad ∧
      settings.redundancyLoad ≤ 1.0,
    .setting "redundancy_load" (.outsideUnitInterval settings.redundancyLoad)⟩,
  ⟨settings.trackedCategory ≠ .awareness ∧ settings.trackedCategory ≠ .perception,
    .setting "local_tracking_category" (.notOnBoard settings.trackedCategory)⟩]

/-- Congestion control answers for the interval if it may stretch it, and the channel's load is
measured if taking out redundant objects depends on it. -/
def Facilities.requirements (facilities : Facilities) (settings : ServiceSettings) :
    List (Requirement ConfigurationError) := [
  ⟨settings.restricted = true → facilities.hasThrottle = true, .missing .throttle⟩,
  ⟨settings.loadDependent = true → facilities.hasProbe = true, .missing .channelProbe⟩]

namespace Service

/-- All requirements on a new service, in the order in which they are checked. -/
def requirements (settings : ServiceSettings) (facilities : Facilities) :
    List (Requirement ConfigurationError) :=
  settings.requirements ++ facilities.requirements settings ++ settings.selection.requirements ++
    settings.redundancy.flatMap RedundancySettings.requirements

/-- The new service that the settings describe. -/
def configured (settings : ServiceSettings) (facilities : Facilities) (now : Instant) :
    Service where
  settings := settings
  facilities := facilities
  rule := settings.selection.rule
  chain := settings.redundancy.map RedundancySettings.rule
  clock := ⟨settings.epochOffset⟩
  tracking := .empty
  remote := .empty
  lastSent := now
  lastDescribed := now.before settings.sensorInterval

end Service

/-! ### The checks of the parts -/

theorem checks_requireSetting {condition : Prop} {test : Bool} (same : test = true ↔ condition)
    (name : String) (fault : SettingFault) :
    Checks [⟨condition, .setting name fault⟩] () (requireSetting test name fault) := by
  rw [← propext same]
  exact .singleton _ _

theorem checks_requirePositive (name : String) (value : Float) :
    Checks [positiveRequirement name value] () (requirePositive name value) :=
  checks_requireSetting (by rw [isPositive, Bool.and_eq_true, decide_eq_true_iff]) name _

theorem checks_requireNonZero (name : String) (millis : Nat) :
    Checks [nonZeroRequirement name millis] () (requireNonZero name millis) :=
  checks_requireSetting (by rw [bne_iff_ne, Nat.one_le_iff_ne_zero]) name _

/-- A number is tested to be finite and to lie between two bounds. -/
theorem isFinite_and_between_iff {value least greatest : Float} :
    (value.isFinite && decide (least ≤ value) && decide (value ≤ greatest)) = true ↔
      value.isFinite = true ∧ least ≤ value ∧ value ≤ greatest := by
  rw [Bool.and_eq_true, Bool.and_eq_true, decide_eq_true_iff, decide_eq_true_iff, and_assoc]

theorem SelectionSettings.checks_build (settings : SelectionSettings) :
    Checks settings.requirements settings.rule settings.build := by
  cases settings with
  | static => exact .ok _
  | dynamic settings =>
    exact (checks_requireSetting isFinite_and_between_iff _ _).bind <|
      (checks_requirePositive _ settings.distanceThreshold).bind <|
      (checks_requirePositive _ settings.speedThreshold).bind <|
      (checks_requireNonZero _ settings.timeThresholdMillis).bind (.ok _)

theorem RedundancySettings.checks_build (settings : RedundancySettings) :
    Checks settings.requirements settings.rule settings.build := by
  cases settings with
  | distance windowMillis reach =>
    exact (checks_requireNonZero _ windowMillis).bind <|
      (checks_requirePositive _ reach).bind (.ok _)
  | dynamics reach tolerance =>
    exact (checks_requirePositive _ reach).bind <|
      (checks_requirePositive _ tolerance).bind (.ok _)
  | frequency windowMillis number =>
    exact (checks_requireNonZero _ windowMillis).bind (.ok _)
  | selfAnnouncement => exact .ok _

theorem ServiceSettings.checks_validate (settings : ServiceSettings) :
    Checks settings.requirements () settings.validate := by
  have category : settings.trackedCategory.isOnBoard = true ↔
      settings.trackedCategory ≠ .awareness ∧ settings.trackedCategory ≠ .perception := by
    cases settings.trackedCategory <;> decide
  exact (checks_requireNonZero _ settings.minimumIntervalMillis).bind <|
    (checks_requireSetting decide_eq_true_iff _ _).bind <|
    (checks_requireNonZero _ settings.sensorIntervalMillis).bind <|
    (checks_requireNonZero _ settings.sizeLimit).bind <|
    (checks_requireSetting isFinite_and_between_iff _ _).bind <|
    checks_requireSetting category _ _

theorem Service.checks_requireFacility (required present : Bool) (facility : Facility) :
    Checks [⟨required = true → present = true, .missing facility⟩] ()
      (requireFacility required present facility) := by
  cases required <;> cases present
  · exact .singleton (false = true → false = true) _
  · exact .singleton (false = true → true = true) _
  · exact .singleton (true = true → false = true) _
  · exact .singleton (true = true → true = true) _

/-! ### Creation -/

namespace Service

/-- A service is created exactly if its settings and facilities meet all requirements, and then it
is the service that the settings describe, with a rule in its chain for each of the list, in the
order of the list. If they do not, the cause is that of the first requirement, in the order of
checking, that is not met. -/
theorem create_checks_requirements (settings : ServiceSettings) (facilities : Facilities)
    (now : Instant) :
    ((∃ service, create settings facilities now = .ok service) ↔
        ∀ requirement ∈ requirements settings facilities, requirement.holds) ∧
      (∀ service, create settings facilities now = .ok service ↔
        (∀ requirement ∈ requirements settings facilities, requirement.holds) ∧
          service = configured settings facilities now) ∧
      ∀ cause, create settings facilities now = .error cause ↔
        FirstViolated (requirements settings facilities) cause := by
  have checks : Checks (requirements settings facilities) (configured settings facilities now)
      (create settings facilities now) := by
    have order : requirements settings facilities =
        settings.requirements ++ (facilities.requirements settings ++
          (settings.selection.requirements ++
            (settings.redundancy.flatMap RedundancySettings.requirements ++ []))) := by
      simp only [requirements, List.append_assoc, List.append_nil]
    rw [order]
    exact settings.checks_validate.bind <|
      (checks_requireFacility settings.restricted facilities.hasThrottle .throttle).bind <|
      (checks_requireFacility settings.loadDependent facilities.hasProbe .channelProbe).bind <|
      settings.selection.checks_build.bind <|
      (Checks.mapM RedundancySettings.checks_build settings.redundancy).bind <|
      .ok (configured settings facilities now)
  refine ⟨?_, fun service => checks.eq_ok_iff, fun cause => checks.eq_error_iff⟩
  simp only [checks.eq_ok_iff, exists_and_left, exists_eq, and_true]

end Service

end CollectivePerception
