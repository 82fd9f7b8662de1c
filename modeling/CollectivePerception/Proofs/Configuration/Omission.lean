/-
This file proves that entries with standard values may be left out of a document. An entry has its
standard value if a document with nothing else describes the standard settings. Leaving out one
such entry, of the whole or of any table in it, does not change the settings that the document
describes (`SimulationSettings.Lighter.describes`), and neither does leaving out any number of
them.
-/

import CollectivePerception.Proofs.Configuration.Description
import CollectivePerception.Proofs.Document.Table
import Mathlib.Logic.Relation

namespace CollectivePerception

open Document (Table Fields Reader)

namespace Document

/-! ### Entries that may be left out -/

variable {Value Settings : Type} {table : Table} {position : Nat} {name other : String}
  {document lighter : Document} {describes : Document → Value → Prop} {standard value : Value}

/-- Of a list, one item may be exchanged for another one that describes what it does. -/
theorem forall₂_exchange {before after : List Document} {values : List Value}
    (keeps : ∀ value, describes document value → describes lighter value)
    (each : List.Forall₂ describes (before ++ document :: after) values) :
    List.Forall₂ describes (before ++ lighter :: after) values := by
  induction before generalizing values with
  | nil =>
    cases each with
    | cons first rest => exact .cons (keeps _ first) rest
  | cons head tail inductionHypothesis =>
    cases each with
    | cons first rest => exact .cons first (inductionHypothesis rest)

theorem isRecord_table {fields : Fields} :
    (Document.table table).IsRecord fields ↔ Fields.named table = fields :=
  ⟨fun | .table _ => rfl, fun same => same ▸ .table table⟩

theorem isTagged_table {tag kind : String} {fields : Fields} :
    (Document.table table).IsTagged tag kind fields ↔
      table.get? tag = some (.text kind) ∧ Fields.named table = fields :=
  ⟨fun | .table named => ⟨named, rfl⟩, fun ⟨named, same⟩ => same ▸ .table named⟩

/-- A document describes one value at most. -/
theorem Reader.Reads.unique {reader : Reader Value} (reads : reader.Reads describes)
    {first second : Value} (one : describes document first) (two : describes document second) :
    first = second := by
  rw [← reads] at one two
  exact Except.ok.inj (one.symm.trans two)

/-- A table still gives a value if an entry is left out with which a table gives the standard
value. -/
theorem Fields.Gives.without {reader : Reader Value} (reads : reader.Reads describes)
    {alone : Table} (same : alone.get? other = some document)
    (gives : (named table).Gives position name describes standard value)
    (entry : table.get? other = some document)
    (givesStandard : (named alone).Gives position name describes standard standard) :
    (named (table.without other)).Gives position name describes standard value := by
  by_cases own : name = other
  · subst own
    refine .inr ⟨Table.get?_without_self, ?_⟩
    obtain ⟨found, present, described⟩ | ⟨absent, _⟩ := gives
    · obtain ⟨first, also, standardDescribed⟩ | ⟨none, _⟩ := givesStandard
      · rw [get?, entry, Option.some_inj] at present
        rw [get?, same, Option.some_inj] at also
        exact reads.unique (present ▸ described) (also ▸ standardDescribed)
      · rw [get?, same] at none
        cases none
    · rw [get?, entry] at absent
      cases absent
  · rwa [Gives, Has, get?, Table.get?_without_of_ne own]

/-- A table still gives a value if another entry is changed. -/
theorem Fields.Gives.set_of_ne (different : name ≠ other)
    (gives : (named table).Gives position name describes standard value) :
    (named (table.set other lighter)).Gives position name describes standard value := by
  rwa [Gives, Has, get?, Table.get?_set_of_ne different]

/-- A table still gives a value if its entry is changed into another one that describes it. -/
theorem Fields.Gives.set_self (entry : table.get? name = some document)
    (keeps : describes document value → describes lighter value)
    (gives : (named table).Gives position name describes standard value) :
    (named (table.set name lighter)).Gives position name describes standard value := by
  obtain ⟨found, present, described⟩ | ⟨absent, _⟩ := gives
  · rw [get?, entry, Option.some_inj] at present
    subst present
    exact .inl ⟨lighter, Table.get?_set_self, keeps described⟩
  · rw [get?, entry] at absent
    cases absent

/-- An entry is left out that has its standard value: together with the entries that say what kind
of settings they are, if there are kinds, it describes the standard settings. -/
def Table.Omits (describes : Document → Settings → Prop) (kind : Table) (standard : Settings)
    (table lighter : Table) : Prop :=
  ∃ name document, table.get? name = some document ∧ kind.get? name = none ∧
    describes (.table (kind ++ [(name, document)])) standard ∧ lighter = table.without name

/-- The entry alone is found beside those that say the kind. -/
theorem Table.get?_beside {kind : Table} (document : Document) (free : kind.get? name = none) :
    (kind ++ [(name, document)]).get? name = some document := by
  rw [get?_append, free, Option.none_or, get?_cons, if_pos rfl]

end Document

/-! ### The settings of the rules -/

namespace SelectionSettings

/-- The standard settings of a kind of rule. -/
def standardOf? : String → Option SelectionSettings
  | "static" => some static
  | "dynamic" => some standard
  | _ => none

/-- An entry with its standard value is left out of the settings of a rule. -/
inductive Lighter : Document → Document → Prop
  | entry {kind : String} {standard : SelectionSettings} {table lighter : Table}
      (known : standardOf? kind = some standard)
      (named : table.get? "type" = some (.text kind))
      (omits : Table.Omits Describes [("type", .text kind)] standard table lighter) :
      Lighter (.table table) (.table lighter)

theorem Lighter.describes {document lighter : Document} {settings : SelectionSettings}
    (change : Lighter document lighter) (described : Describes document settings) :
    Describes lighter settings := by
  obtain ⟨known, named, name, entry, present, free, alone, rfl⟩ := change
  have different : "type" ≠ name := by
    rintro rfl
    cases free
  have kept := Document.isTagged_table.mpr
    ⟨(Table.get?_without_of_ne different).trans named, rfl⟩
  cases described with
  | static tagged =>
    obtain ⟨kind, rfl⟩ := Document.isTagged_table.mp tagged
    rw [kind, Option.some_inj] at named
    cases named
    exact .static kept trivial
  | dynamic tagged thresholds =>
    obtain ⟨kind, rfl⟩ := Document.isTagged_table.mp tagged
    rw [kind, Option.some_inj] at named
    cases named
    cases known
    cases alone with
    | dynamic tagged standardThresholds =>
      obtain ⟨_, rfl⟩ := Document.isTagged_table.mp tagged
      have same := Table.get?_beside entry free
      obtain ⟨distance, speed, heading, time, prediction, interval⟩ := thresholds
      obtain ⟨distance', speed', heading', time', prediction', interval'⟩ := standardThresholds
      refine .dynamic kept ?_ trivial
      exact {
        distanceThreshold := distance.without Document.float_reads same present distance'
        speedThreshold := speed.without Document.float_reads same present speed'
        headingThresholdDegrees := heading.without Document.float_reads same present heading'
        timeThresholdMillis := time.without (Document.natural_reads 64) same present time'
        dynamicPrediction := prediction.without Document.boolean_reads same present prediction'
        predictionIntervalMillis :=
          interval.without (Document.natural_reads 64) same present interval' }

end SelectionSettings

namespace RedundancySettings

/-- The standard settings of a kind of rule. -/
def standardOf? : String → Option RedundancySettings
  | "distance" => some (distance standardWindowMillis standardReach)
  | "dynamics" =>
    some (dynamics DriftSettings.standard.distanceThreshold DriftSettings.standard.speedThreshold)
  | "frequency" => some (frequency standardWindowMillis standardNumber)
  | "self_announcement" => some selfAnnouncement
  | _ => none

/-- An entry with its standard value is left out of the settings of a rule. -/
inductive Lighter : Document → Document → Prop
  | entry {kind : String} {standard : RedundancySettings} {table lighter : Table}
      (known : standardOf? kind = some standard)
      (named : table.get? "type" = some (.text kind))
      (omits : Table.Omits Describes [("type", .text kind)] standard table lighter) :
      Lighter (.table table) (.table lighter)

theorem Lighter.describes {document lighter : Document} {settings : RedundancySettings}
    (change : Lighter document lighter) (described : Describes document settings) :
    Describes lighter settings := by
  obtain ⟨known, named, name, entry, present, free, alone, rfl⟩ := change
  have different : "type" ≠ name := by
    rintro rfl
    cases free
  have kept := Document.isTagged_table.mpr
    ⟨(Table.get?_without_of_ne different).trans named, rfl⟩
  have same := Table.get?_beside entry free
  cases described with
  | distance tagged window reach =>
    obtain ⟨kind, rfl⟩ := Document.isTagged_table.mp tagged
    rw [kind, Option.some_inj] at named
    cases named
    cases known
    cases alone with
    | distance tagged standardWindow standardReach =>
      obtain ⟨_, rfl⟩ := Document.isTagged_table.mp tagged
      exact .distance kept
        (window.without (Document.natural_reads 64) same present standardWindow)
        (reach.without Document.float_reads same present standardReach) trivial
  | dynamics tagged reach tolerance =>
    obtain ⟨kind, rfl⟩ := Document.isTagged_table.mp tagged
    rw [kind, Option.some_inj] at named
    cases named
    cases known
    cases alone with
    | dynamics tagged standardReach standardTolerance =>
      obtain ⟨_, rfl⟩ := Document.isTagged_table.mp tagged
      exact .dynamics kept
        (reach.without Document.float_reads same present standardReach)
        (tolerance.without Document.float_reads same present standardTolerance) trivial
  | frequency tagged window number =>
    obtain ⟨kind, rfl⟩ := Document.isTagged_table.mp tagged
    rw [kind, Option.some_inj] at named
    cases named
    cases known
    cases alone with
    | frequency tagged standardWindow standardNumber =>
      obtain ⟨_, rfl⟩ := Document.isTagged_table.mp tagged
      exact .frequency kept
        (window.without (Document.natural_reads 64) same present standardWindow)
        (number.without (Document.natural_reads 64) same present standardNumber) trivial
  | selfAnnouncement tagged =>
    obtain ⟨kind, rfl⟩ := Document.isTagged_table.mp tagged
    rw [kind, Option.some_inj] at named
    cases named
    exact .selfAnnouncement kept trivial

/-- Of a list of rules, the settings of one become lighter. -/
inductive LighterList : Document → Document → Prop
  | item {before after : List Document} {document lighter : Document}
      (change : Lighter document lighter) :
      LighterList (.list (before ++ document :: after)) (.list (before ++ lighter :: after))

theorem LighterList.describes {document lighter : Document} {settings : List RedundancySettings}
    (change : LighterList document lighter) (described : document.IsList Describes settings) :
    lighter.IsList Describes settings := by
  obtain ⟨change⟩ := change
  obtain ⟨items, same, each⟩ := described
  cases same
  exact ⟨_, rfl, Document.forall₂_exchange (fun _ => change.describes) each⟩

end RedundancySettings

/-! ### The settings of a service -/

namespace ServiceSettings

/-- An entry with its standard value is left out of the settings of a service or of a rule. -/
inductive Lighter : Document → Document → Prop
  | entry {table lighter : Table} (omits : Table.Omits Describes [] standard table lighter) :
      Lighter (.table table) (.table lighter)
  | selection {table : Table} {document lighter : Document}
      (present : table.get? "generation" = some document)
      (change : SelectionSettings.Lighter document lighter) :
      Lighter (.table table) (.table (table.set "generation" lighter))
  | redundancy {table : Table} {document lighter : Document}
      (present : table.get? "redundancy" = some document)
      (change : RedundancySettings.LighterList document lighter) :
      Lighter (.table table) (.table (table.set "redundancy" lighter))

/-- A table still describes the settings of a service if the settings of the rules in it change
into others that describe the same rules. -/
theorem DescribedIn.set {settings : ServiceSettings} {table : Table} {rules : String}
    {lighter : Document} (described : settings.DescribedIn (.named table))
    (named : rules = "generation" ∨ rules = "redundancy")
    (selection : (Fields.named (table.set rules lighter)).Gives 11 "generation"
      SelectionSettings.Describes standard.selection settings.selection)
    (redundancy : (Fields.named (table.set rules lighter)).Gives 12 "redundancy"
      (Document.IsList RedundancySettings.Describes) standard.redundancy settings.redundancy) :
    settings.DescribedIn (.named (table.set rules lighter)) := by
  have other {name : String} (different : name ≠ "generation" ∧ name ≠ "redundancy") :
      name ≠ rules := by
    obtain rfl | rfl := named
    · exact different.1
    · exact different.2
  exact {
    minimumIntervalMillis := described.minimumIntervalMillis.set_of_ne (other (by decide))
    maximumIntervalMillis := described.maximumIntervalMillis.set_of_ne (other (by decide))
    sensorIntervalMillis := described.sensorIntervalMillis.set_of_ne (other (by decide))
    sizeLimit := described.sizeLimit.set_of_ne (other (by decide))
    trafficClass := described.trafficClass.set_of_ne (other (by decide))
    restricted := described.restricted.set_of_ne (other (by decide))
    loadDependent := described.loadDependent.set_of_ne (other (by decide))
    redundancyLoad := described.redundancyLoad.set_of_ne (other (by decide))
    trackedCategory := described.trackedCategory.set_of_ne (other (by decide))
    duplicatePolicy := described.duplicatePolicy.set_of_ne (other (by decide))
    epochOffset := described.epochOffset.set_of_ne (other (by decide))
    selection := selection
    redundancy := redundancy }

theorem Lighter.describes {document lighter : Document} {settings : ServiceSettings}
    (change : Lighter document lighter) (described : Describes document settings) :
    Describes lighter settings := by
  obtain ⟨fields, table, described⟩ := described
  cases change with
  | entry omits =>
    obtain rfl := Document.isRecord_table.mp table
    obtain ⟨minimum, maximum, sensor, size, traffic, restricted, loadDependent, load, category,
      policy, epoch, selection, redundancy⟩ := described
    obtain ⟨name, entry, present, free, ⟨_, same, minimum', maximum', sensor', size', traffic',
      restricted', loadDependent', load', category', policy', epoch', selection', redundancy'⟩,
      rfl⟩ := omits
    obtain rfl := Document.isRecord_table.mp same
    have same := Table.get?_beside entry free
    exact ⟨_, .table _, {
      minimumIntervalMillis := minimum.without (Document.natural_reads 64) same present minimum'
      maximumIntervalMillis := maximum.without (Document.natural_reads 64) same present maximum'
      sensorIntervalMillis := sensor.without (Document.natural_reads 64) same present sensor'
      sizeLimit := size.without (Document.natural_reads 64) same present size'
      trafficClass := traffic.without (Document.natural_reads 8) same present traffic'
      restricted := restricted.without Document.boolean_reads same present restricted'
      loadDependent := loadDependent.without Document.boolean_reads same present loadDependent'
      redundancyLoad := load.without Document.float_reads same present load'
      trackedCategory := category.without Document.named_reads same present category'
      duplicatePolicy := policy.without Document.named_reads same present policy'
      epochOffset := epoch.without (Document.signed_reads 64) same present epoch'
      selection := selection.without SelectionSettings.ofDocument_reads same present selection'
      redundancy := redundancy.without (Document.list_reads RedundancySettings.ofDocument_reads)
        same present redundancy' }⟩
  | selection present change =>
    obtain rfl := Document.isRecord_table.mp table
    exact ⟨_, .table _, described.set (.inl rfl)
      (described.selection.set_self present change.describes)
      (described.redundancy.set_of_ne (by decide))⟩
  | redundancy present change =>
    obtain rfl := Document.isRecord_table.mp table
    exact ⟨_, .table _, described.set (.inr rfl) (described.selection.set_of_ne (by decide))
      (described.redundancy.set_self present change.describes)⟩

end ServiceSettings

/-! ### The settings of a simulation -/

namespace ScenarioSettings

/-- An entry with its standard value is left out of the settings of a road. -/
inductive Lighter : Document → Document → Prop
  | entry {table lighter : Table} (omits : Table.Omits Describes [] standard table lighter) :
      Lighter (.table table) (.table lighter)

theorem Lighter.describes {document lighter : Document} {settings : ScenarioSettings}
    (change : Lighter document lighter) (described : Describes document settings) :
    Describes lighter settings := by
  obtain ⟨fields, table, vehicles, spacing, base, increment, radar, radio, latency, step, duration,
    origin⟩ := described
  obtain ⟨name, entry, present, free, ⟨_, same, vehicles', spacing', base', increment', radar',
    radio', latency', step', duration', origin'⟩, rfl⟩ := change
  obtain rfl := Document.isRecord_table.mp table
  obtain rfl := Document.isRecord_table.mp same
  have same := Table.get?_beside entry free
  exact ⟨_, .table _, {
    vehicles := vehicles.without (Document.natural_reads 64) same present vehicles'
    spacing := spacing.without Document.float_reads same present spacing'
    baseSpeed := base.without Document.float_reads same present base'
    speedStep := increment.without Document.float_reads same present increment'
    radarRange := radar.without Document.float_reads same present radar'
    radioRange := radio.without Document.float_reads same present radio'
    latencyMillis := latency.without (Document.natural_reads 64) same present latency'
    stepMillis := step.without (Document.natural_reads 64) same present step'
    durationMillis := duration.without (Document.natural_reads 64) same present duration'
    origin := origin.without GeoPoint.ofDocument_reads same present origin' }⟩

end ScenarioSettings

namespace SimulationSettings

/-- An entry with its standard value is left out of the settings, at any level. -/
inductive Lighter : Document → Document → Prop
  | entry {table lighter : Table} (omits : Table.Omits Describes [] standard table lighter) :
      Lighter (.table table) (.table lighter)
  | service {table : Table} {document lighter : Document}
      (present : table.get? "service" = some document)
      (change : ServiceSettings.Lighter document lighter) :
      Lighter (.table table) (.table (table.set "service" lighter))
  | scenario {table : Table} {document lighter : Document}
      (present : table.get? "scenario" = some document)
      (change : ScenarioSettings.Lighter document lighter) :
      Lighter (.table table) (.table (table.set "scenario" lighter))

/-- Leaving out an entry with its standard value does not change what a document describes. -/
theorem Lighter.describes {document lighter : Document} {settings : SimulationSettings}
    (change : Lighter document lighter) (described : Describes document settings) :
    Describes lighter settings := by
  obtain ⟨fields, table, service, scenario⟩ := described
  cases change with
  | entry omits =>
    obtain rfl := Document.isRecord_table.mp table
    obtain ⟨name, entry, present, free, ⟨_, same, service', scenario'⟩, rfl⟩ := omits
    obtain rfl := Document.isRecord_table.mp same
    have same := Table.get?_beside entry free
    exact ⟨_, .table _, service.without ServiceSettings.ofDocument_reads same present service',
      scenario.without ScenarioSettings.ofDocument_reads same present scenario'⟩
  | service present change =>
    obtain rfl := Document.isRecord_table.mp table
    exact ⟨_, .table _, service.set_self present change.describes,
      scenario.set_of_ne (by decide)⟩
  | scenario present change =>
    obtain rfl := Document.isRecord_table.mp table
    exact ⟨_, .table _, service.set_of_ne (by decide),
      scenario.set_self present change.describes⟩

/-- Leaving out any number of entries with their standard values does not change what a document
describes. -/
theorem describes_of_lighter {document lighter : Document} {settings : SimulationSettings}
    (changes : Relation.ReflTransGen Lighter document lighter)
    (described : Describes document settings) : Describes lighter settings := by
  induction changes with
  | refl => exact described
  | tail _ change inductionHypothesis => exact change.describes inductionHypothesis

end SimulationSettings

end CollectivePerception
