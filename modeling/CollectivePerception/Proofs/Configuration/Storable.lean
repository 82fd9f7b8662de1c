/-
This file proves that the document of settings can be written, and that it still describes the
settings when it has been read again, in whatever order of its entries
(`SimulationSettings.Storable.stores`). The settings must have no undefined number, and their
integers must fit into 64 bits with a sign.
-/

import CollectivePerception.Proofs.Configuration.Description
import CollectivePerception.Proofs.Document.Format
import CollectivePerception.Proofs.Document.Table
import Mathlib.Algebra.Ring.Int.Defs
import Mathlib.Data.List.Basic

namespace CollectivePerception

open Document (Fields Same Table)
open Toml (IsBare Writable WritableTable WritableValue)

/-! ### Documents of values -/

namespace Document

/-- A document can be written, and describes a value in any order of its entries. -/
structure Stores {Value : Type} (inner : Table → Prop) (describes : Document → Value → Prop)
    (document : Document) (value : Value) : Prop where
  writable : WritableValue inner document
  described : ∀ again, Same document again → describes again value

/-- So does a document that is a table. -/
def StoresTable {Value : Type} (inner : Table → Prop) (describes : Document → Value → Prop)
    (document : Document) (value : Value) : Prop :=
  ∃ table, document = .table table ∧ inner table ∧
    ∀ again, Same (.table table) again → describes again value

section

variable {Value : Type} {inner : Table → Prop} {describes : Document → Value → Prop}
  {document : Document} {table again : Table} {position : Nat} {name : String}
  {standard value : Value}

variable (inner) in
theorem stores_natural {bits value : Nat} (small : value < 2 ^ bits)
    (fits : value ≤ 2 ^ 63 - 1) : Stores inner (IsNatural bits) (.natural value) value where
  writable := .plain (.integer (by unfold Binary64.leastInt64; omega)
    (by unfold Binary64.greatestInt64; omega))
  described := fun | _, .value _ => ⟨rfl, small⟩

variable (inner) in
theorem stores_long {value : Nat} (fits : value ≤ 2 ^ 63 - 1) :
    Stores inner (IsNatural 64) (.natural value) value :=
  stores_natural inner (by omega) fits

variable (inner) in
theorem stores_signed {value : Int} (least : -2 ^ 63 ≤ value) (greatest : value ≤ 2 ^ 63 - 1) :
    Stores inner (IsSigned 64) (.integer value) value where
  writable := .plain (.integer (by unfold Binary64.leastInt64; omega)
    (by unfold Binary64.greatestInt64; omega))
  described := fun | _, .value _ => ⟨rfl, by omega⟩

variable (inner) in
theorem stores_number {value : Float} (number : value.isNaN = false) :
    Stores inner IsNumber (.float value) value where
  writable := .plain (.float number)
  described := fun | _, .value _ => .inl rfl

variable (inner) in
theorem stores_truth (value : Bool) : Stores inner IsTruth (.boolean value) value where
  writable := .plain (.boolean value)
  described := fun | _, .value _ => rfl

variable (inner) in
theorem stores_name [Named Value]
    (known : IsBare (Named.name value) ∧ Named.ofName? (Named.name value) = some value) :
    Stores inner IsName (.named value) value where
  writable := .plain (.text known.1)
  described := fun | _, .value _ => ⟨_, known.2, .inl rfl⟩

variable (inner) in
/-- The name of a kind. -/
theorem stores_kind {kind : String} (bare : IsBare kind) :
    Stores inner (fun document kind => document = .text kind) (.text kind) kind where
  writable := .plain (.text bare)
  described := fun | _, .value _ => rfl

theorem StoresTable.stores (stores : StoresTable inner describes document value) :
    Stores inner describes document value := by
  obtain ⟨table, rfl, writable, described⟩ := stores
  exact ⟨.table writable, described⟩

/-- The items of a list describe its values in any order of their entries. -/
theorem forall₂_of_same {write : Value → Document} {values : List Value} {items : List Document}
    (each : ∀ value ∈ values, ∀ again, Same (write value) again → describes again value)
    (same : List.Forall₂ Same (values.map write) items) : List.Forall₂ describes items values := by
  induction values generalizing items with
  | nil =>
    cases same
    exact .nil
  | cons value values inductionHypothesis =>
    cases same with
    | cons first rest =>
      exact .cons (each value (.head _) _ first)
        (inductionHypothesis (fun value member => each value (.tail _ member)) rest)

/-- A list of tables. -/
theorem stores_list {write : Value → Document} {values : List Value}
    (each : ∀ value ∈ values, StoresTable inner describes (write value) value) :
    Stores inner (IsList describes) (.list (values.map write)) values := by
  obtain ⟨tables, written, writable⟩ : ∃ tables : List Table,
      values.map write = tables.map .table ∧ ∀ table ∈ tables, inner table := by
    induction values with
    | nil => exact ⟨[], rfl, nofun⟩
    | cons value values inductionHypothesis =>
      obtain ⟨table, written, writable, -⟩ := each value (.head _)
      obtain ⟨tables, others, writableOthers⟩ :=
        inductionHypothesis fun value member => each value (.tail _ member)
      refine ⟨table :: tables, ?_, List.forall_mem_cons.mpr ⟨writable, writableOthers⟩⟩
      rw [List.map_cons, written, others, List.map_cons]
  constructor
  · rw [written]
    cases tables with
    | nil => exact .plain .empty
    | cons first others => exact .tables writable
  · intro again same
    obtain ⟨items, rfl, every⟩ := same.of_list
    exact ⟨items, rfl, forall₂_of_same (fun value member => (each value member).stores.described)
      every⟩

/-- Names that a table can have when it is written. -/
def AreKeys (names : List String) : Prop :=
  names.Nodup ∧ ∀ name ∈ names, IsBare name

instance (names : List String) : Decidable (AreKeys names) :=
  inferInstanceAs (Decidable (_ ∧ _))

/-- A table can be written if its names and values can be. -/
theorem AreKeys.writableTable (keys : AreKeys (table.map Prod.fst))
    (each : (table.map Prod.snd).Forall (WritableValue inner)) : WritableTable inner table where
  distinct := keys.1
  bare entry member := keys.2 entry.1 (List.mem_map_of_mem member)
  each entry member := List.forall_iff_forall_mem.mp each entry.2 (List.mem_map_of_mem member)

variable (position) in
/-- A value of a table in any order of its entries. -/
theorem Stores.has (stores : Stores inner describes document value)
    (same : ∀ name, Option.Rel Same (table.get? name) (again.get? name))
    (entry : table.get? name = some document) :
    (Fields.named again).Has position name describes value := by
  have found := same name
  rw [entry] at found
  cases present : again.get? name with
  | none =>
    rw [present] at found
    cases found
  | some other =>
    rw [present] at found
    cases found with
    | some same => exact ⟨other, present, stores.described other same⟩

theorem Stores.gives (stores : Stores inner describes document value)
    (same : ∀ name, Option.Rel Same (table.get? name) (again.get? name))
    (entry : table.get? name = some document) :
    (Fields.named again).Gives position name describes standard value :=
  .inl (stores.has position same entry)

theorem Stores.tagged {kind : String}
    (stores : Stores inner (fun document kind => document = .text kind) document kind)
    (same : ∀ name, Option.Rel Same (table.get? name) (again.get? name))
    (entry : table.get? name = some document) :
    (Document.table again).IsTagged name kind (.named again) := by
  obtain ⟨found, present, rfl⟩ := stores.has 0 same entry
  exact .table present

end

end Document

open Document (StoresTable AreKeys stores_natural stores_long stores_signed stores_number
  stores_truth stores_name stores_kind stores_list)

/-! ### The settings of the rules -/

/-- Settings of a rule that can be stored. -/
structure DriftSettings.Storable (settings : DriftSettings) : Prop where
  distanceThreshold : settings.distanceThreshold.isNaN = false
  speedThreshold : settings.speedThreshold.isNaN = false
  headingThresholdDegrees : settings.headingThresholdDegrees.isNaN = false
  timeThresholdMillis : settings.timeThresholdMillis ≤ 2 ^ 63 - 1
  predictionIntervalMillis : settings.predictionIntervalMillis ≤ 2 ^ 63 - 1

def SelectionSettings.Storable : SelectionSettings → Prop
  | static => True
  | dynamic settings => settings.Storable

def RedundancySettings.Storable : RedundancySettings → Prop
  | distance windowMillis reach => windowMillis ≤ 2 ^ 63 - 1 ∧ reach.isNaN = false
  | dynamics reach tolerance => reach.isNaN = false ∧ tolerance.isNaN = false
  | frequency windowMillis number => windowMillis ≤ 2 ^ 63 - 1 ∧ number ≤ 2 ^ 63 - 1
  | selfAnnouncement => True

theorem SelectionSettings.Storable.stores {settings : SelectionSettings}
    (storable : settings.Storable) :
    StoresTable (Writable 1) Describes settings.toDocument settings := by
  cases settings with
  | static =>
    have keys : AreKeys ["type"] := by decide
    have kind := stores_kind (Writable 0) (show IsBare "static" by decide)
    refine ⟨_, rfl, AreKeys.writableTable keys kind.writable, fun again same => ?_⟩
    obtain ⟨others, rfl, each⟩ := same.of_table
    exact .static (kind.tagged each rfl) trivial
  | dynamic settings =>
    have keys : AreKeys ["type", "distance_threshold", "speed_threshold",
      "heading_threshold_deg", "time_threshold_ms", "dynamic_prediction",
      "prediction_interval_ms"] := by decide
    have kind := stores_kind (Writable 0) (show IsBare "dynamic" by decide)
    have distance := stores_number (Writable 0) storable.distanceThreshold
    have speed := stores_number (Writable 0) storable.speedThreshold
    have heading := stores_number (Writable 0) storable.headingThresholdDegrees
    have time := stores_long (Writable 0) storable.timeThresholdMillis
    have prediction := stores_truth (Writable 0) settings.dynamicPrediction
    have interval := stores_long (Writable 0) storable.predictionIntervalMillis
    refine ⟨_, rfl, AreKeys.writableTable keys ⟨kind.writable, distance.writable, speed.writable,
      heading.writable, time.writable, prediction.writable, interval.writable⟩,
      fun again same => ?_⟩
    obtain ⟨others, rfl, each⟩ := same.of_table
    refine .dynamic (kind.tagged each rfl) ?_ trivial
    exact {
        distanceThreshold := distance.gives each rfl
        speedThreshold := speed.gives each rfl
        headingThresholdDegrees := heading.gives each rfl
        timeThresholdMillis := time.gives each rfl
        dynamicPrediction := prediction.gives each rfl
        predictionIntervalMillis := interval.gives each rfl }

theorem RedundancySettings.Storable.stores {settings : RedundancySettings}
    (storable : settings.Storable) :
    StoresTable (Writable 1) Describes settings.toDocument settings := by
  cases settings with
  | distance windowMillis reach =>
    have keys : AreKeys ["type", "window_ms", "distance"] := by decide
    have kind := stores_kind (Writable 0) (show IsBare "distance" by decide)
    have window := stores_long (Writable 0) storable.1
    have distance := stores_number (Writable 0) storable.2
    refine ⟨_, rfl, AreKeys.writableTable keys ⟨kind.writable, window.writable, distance.writable⟩,
      fun again same => ?_⟩
    obtain ⟨others, rfl, each⟩ := same.of_table
    exact .distance (kind.tagged each rfl) (window.gives each rfl) (distance.gives each rfl) trivial
  | dynamics reach tolerance =>
    have keys : AreKeys ["type", "distance", "speed"] := by decide
    have kind := stores_kind (Writable 0) (show IsBare "dynamics" by decide)
    have distance := stores_number (Writable 0) storable.1
    have speed := stores_number (Writable 0) storable.2
    refine ⟨_, rfl, AreKeys.writableTable keys ⟨kind.writable, distance.writable, speed.writable⟩,
      fun again same => ?_⟩
    obtain ⟨others, rfl, each⟩ := same.of_table
    exact .dynamics (kind.tagged each rfl) (distance.gives each rfl) (speed.gives each rfl) trivial
  | frequency windowMillis number =>
    have keys : AreKeys ["type", "window_ms", "number"] := by decide
    have kind := stores_kind (Writable 0) (show IsBare "frequency" by decide)
    have window := stores_long (Writable 0) storable.1
    have number := stores_long (Writable 0) storable.2
    refine ⟨_, rfl, AreKeys.writableTable keys ⟨kind.writable, window.writable, number.writable⟩,
      fun again same => ?_⟩
    obtain ⟨others, rfl, each⟩ := same.of_table
    exact .frequency (kind.tagged each rfl) (window.gives each rfl) (number.gives each rfl) trivial
  | selfAnnouncement =>
    have keys : AreKeys ["type"] := by decide
    have kind := stores_kind (Writable 0) (show IsBare "self_announcement" by decide)
    refine ⟨_, rfl, AreKeys.writableTable keys kind.writable, fun again same => ?_⟩
    obtain ⟨others, rfl, each⟩ := same.of_table
    exact .selfAnnouncement (kind.tagged each rfl) trivial

/-! ### The settings of a service -/

/-- Settings of a service that can be stored. A traffic class has eight bits. -/
structure ServiceSettings.Storable (settings : ServiceSettings) : Prop where
  minimumIntervalMillis : settings.minimumIntervalMillis ≤ 2 ^ 63 - 1
  maximumIntervalMillis : settings.maximumIntervalMillis ≤ 2 ^ 63 - 1
  sensorIntervalMillis : settings.sensorIntervalMillis ≤ 2 ^ 63 - 1
  sizeLimit : settings.sizeLimit ≤ 2 ^ 63 - 1
  trafficClass : settings.trafficClass < 2 ^ 8
  redundancyLoad : settings.redundancyLoad.isNaN = false
  leastEpochOffset : -2 ^ 63 ≤ settings.epochOffset
  greatestEpochOffset : settings.epochOffset ≤ 2 ^ 63 - 1
  selection : settings.selection.Storable
  redundancy : ∀ rule ∈ settings.redundancy, rule.Storable

theorem SensorCategory.isName (category : SensorCategory) :
    IsBare (Named.name category) ∧ Named.ofName? (Named.name category) = some category := by
  cases category <;> decide

theorem Remote.DuplicatePolicy.isName (policy : Remote.DuplicatePolicy) :
    IsBare (Named.name policy) ∧ Named.ofName? (Named.name policy) = some policy := by
  cases policy <;> decide

theorem ServiceSettings.Storable.stores {settings : ServiceSettings}
    (storable : settings.Storable) :
    StoresTable (Writable 2) Describes settings.toDocument settings := by
  have keys : AreKeys ["gen_cpm_min_ms", "gen_cpm_max_ms", "add_sensor_information_ms", "mtu",
    "traffic_class", "with_dcc_restriction", "dynamic_redundancy_mitigation", "redundancy_load",
    "local_tracking_category", "duplicate_policy", "its_epoch_offset_ms", "generation",
    "redundancy"] := by decide
  have minimum := stores_long (Writable 1) storable.minimumIntervalMillis
  have maximum := stores_long (Writable 1) storable.maximumIntervalMillis
  have sensor := stores_long (Writable 1) storable.sensorIntervalMillis
  have size := stores_long (Writable 1) storable.sizeLimit
  have trafficClass := storable.trafficClass
  have traffic := stores_natural (Writable 1) trafficClass (by omega)
  have restricted := stores_truth (Writable 1) settings.restricted
  have loadDependent := stores_truth (Writable 1) settings.loadDependent
  have load := stores_number (Writable 1) storable.redundancyLoad
  have category := stores_name (Writable 1) settings.trackedCategory.isName
  have policy := stores_name (Writable 1) settings.duplicatePolicy.isName
  have epoch := stores_signed (Writable 1) storable.leastEpochOffset storable.greatestEpochOffset
  have selection := storable.selection.stores.stores
  have redundancy := stores_list fun rule member => (storable.redundancy rule member).stores
  refine ⟨_, rfl,
    AreKeys.writableTable keys ⟨minimum.writable, maximum.writable, sensor.writable,
      size.writable, traffic.writable, restricted.writable, loadDependent.writable,
      load.writable, category.writable, policy.writable, epoch.writable, selection.writable,
      redundancy.writable⟩, fun again same => ?_⟩
  obtain ⟨others, rfl, each⟩ := same.of_table
  exact ⟨_, .table others, {
      minimumIntervalMillis := minimum.gives each rfl
      maximumIntervalMillis := maximum.gives each rfl
      sensorIntervalMillis := sensor.gives each rfl
      sizeLimit := size.gives each rfl
      trafficClass := traffic.gives each rfl
      restricted := restricted.gives each rfl
      loadDependent := loadDependent.gives each rfl
      redundancyLoad := load.gives each rfl
      trackedCategory := category.gives each rfl
      duplicatePolicy := policy.gives each rfl
      epochOffset := epoch.gives each rfl
      selection := selection.gives each rfl
      redundancy := redundancy.gives each rfl }⟩

/-! ### The settings of a simulation -/

/-- A position that can be stored. -/
structure GeoPoint.Storable (position : GeoPoint) : Prop where
  latitude : position.latitude.isNaN = false
  longitude : position.longitude.isNaN = false

theorem GeoPoint.Storable.stores {position : GeoPoint} (storable : position.Storable) :
    StoresTable (Writable 1) Describes position.toDocument position := by
  have keys : AreKeys ["latitude", "longitude"] := by decide
  have latitude := stores_number (Writable 0) storable.latitude
  have longitude := stores_number (Writable 0) storable.longitude
  refine ⟨_, rfl, AreKeys.writableTable keys ⟨latitude.writable, longitude.writable⟩,
    fun again same => ?_⟩
  obtain ⟨others, rfl, each⟩ := same.of_table
  exact ⟨_, .table others, latitude.has 0 each rfl, longitude.has 1 each rfl⟩

/-- Settings of a road that can be stored. -/
structure ScenarioSettings.Storable (settings : ScenarioSettings) : Prop where
  vehicles : settings.vehicles ≤ 2 ^ 63 - 1
  spacing : settings.spacing.isNaN = false
  baseSpeed : settings.baseSpeed.isNaN = false
  speedStep : settings.speedStep.isNaN = false
  radarRange : settings.radarRange.isNaN = false
  radioRange : settings.radioRange.isNaN = false
  latencyMillis : settings.latencyMillis ≤ 2 ^ 63 - 1
  stepMillis : settings.stepMillis ≤ 2 ^ 63 - 1
  durationMillis : settings.durationMillis ≤ 2 ^ 63 - 1
  origin : settings.origin.Storable

theorem ScenarioSettings.Storable.stores {settings : ScenarioSettings}
    (storable : settings.Storable) :
    StoresTable (Writable 2) Describes settings.toDocument settings := by
  have keys : AreKeys ["vehicles", "spacing", "base_speed", "speed_step", "radar_range",
    "radio_range", "latency_ms", "step_ms", "duration_ms", "origin"] := by decide
  have vehicles := stores_long (Writable 1) storable.vehicles
  have spacing := stores_number (Writable 1) storable.spacing
  have base := stores_number (Writable 1) storable.baseSpeed
  have increment := stores_number (Writable 1) storable.speedStep
  have radar := stores_number (Writable 1) storable.radarRange
  have radio := stores_number (Writable 1) storable.radioRange
  have latency := stores_long (Writable 1) storable.latencyMillis
  have step := stores_long (Writable 1) storable.stepMillis
  have duration := stores_long (Writable 1) storable.durationMillis
  have origin := storable.origin.stores.stores
  refine ⟨_, rfl,
    AreKeys.writableTable keys ⟨vehicles.writable, spacing.writable, base.writable,
      increment.writable, radar.writable, radio.writable, latency.writable, step.writable,
      duration.writable, origin.writable⟩, fun again same => ?_⟩
  obtain ⟨others, rfl, each⟩ := same.of_table
  exact ⟨_, .table others, {
      vehicles := vehicles.gives each rfl
      spacing := spacing.gives each rfl
      baseSpeed := base.gives each rfl
      speedStep := increment.gives each rfl
      radarRange := radar.gives each rfl
      radioRange := radio.gives each rfl
      latencyMillis := latency.gives each rfl
      stepMillis := step.gives each rfl
      durationMillis := duration.gives each rfl
      origin := origin.gives each rfl }⟩

/-- Settings of a simulation that can be stored. -/
structure SimulationSettings.Storable (settings : SimulationSettings) : Prop where
  service : settings.service.Storable
  scenario : settings.scenario.Storable

/-- The document of settings can be written, and describes them when it has been read again. -/
theorem SimulationSettings.Storable.stores {settings : SimulationSettings}
    (storable : settings.Storable) :
    StoresTable (Writable 3) Describes settings.toDocument settings := by
  have keys : AreKeys ["service", "scenario"] := by decide
  have service := storable.service.stores.stores
  have scenario := storable.scenario.stores.stores
  refine ⟨_, rfl, AreKeys.writableTable keys ⟨service.writable, scenario.writable⟩,
    fun again same => ?_⟩
  obtain ⟨others, rfl, each⟩ := same.of_table
  exact ⟨_, .table others, service.gives each rfl, scenario.gives each rfl⟩

end CollectivePerception
