/-
This file says which documents describe which settings. At every level, from the whole down to
the thresholds of a rule, a setting has the value that the document gives it, under its name or in
its place, and its standard value if the document leaves it out (`Document.Fields.Gives`). Reading
a document returns settings exactly if the document describes them
(`SimulationSettings.ofDocument_reads`).
-/

import CollectivePerception.Configuration.Scenario
import CollectivePerception.Proofs.Service.Creation
import Mathlib.Algebra.Ring.Nat
import Mathlib.Data.List.Forall2

namespace CollectivePerception

open Document (Table Fields Reader Mismatch)

/-! ### Values -/

namespace Document

variable {Value : Type}

/-- A natural number of a number of bits. -/
def IsNatural (bits : Nat) (document : Document) (value : Nat) : Prop :=
  document = .integer value ∧ value < 2 ^ bits

/-- An integer of a number of bits, one of them for the sign. -/
def IsSigned (bits : Nat) (document : Document) (value : Int) : Prop :=
  document = .integer value ∧ -(2 ^ (bits - 1) : Nat) ≤ value ∧ value < (2 ^ (bits - 1) : Nat)

/-- A number, which may be written as an integer. -/
def IsNumber (document : Document) (value : Float) : Prop :=
  document = .float value ∨ ∃ whole, document = .integer whole ∧ Float.ofInt whole = value

def IsTruth (document : Document) (value : Bool) : Prop := document = .boolean value

/-- The name of a value, which may stand alone in a table, with nothing under it. -/
def IsName [Named Value] (document : Document) (value : Value) : Prop :=
  ∃ name, Named.ofName? name = some value ∧ (document = .text name ∨
    ∃ content, content.isEmpty = true ∧ document = .table [(name, content)])

/-- A list of the descriptions of values. -/
def IsList (describes : Document → Value → Prop) (document : Document) (values : List Value) :
    Prop :=
  ∃ items, document = .list items ∧ List.Forall₂ describes items values

/-- What the fields of a record are read from. A moment counts as a table without entries. -/
inductive IsRecord : Document → Fields → Prop
  | table (entries : Table) : IsRecord (.table entries) (.named entries)
  | moment (text : String) : IsRecord (.moment text) (.named [])
  | list (items : List Document) : IsRecord (.list items) (.inOrder items)

/-- A record names a kind, and has other fields: a table names it in an entry of its own, a list in
its first item. -/
inductive IsTagged (tag kind : String) : Document → Fields → Prop
  | table {entries : Table} (named : entries.get? tag = some (.text kind)) :
    IsTagged tag kind (.table entries) (.named entries)
  | list (others : List Document) :
    IsTagged tag kind (.list (.text kind :: others)) (.inOrder others)

/-! ### Fields -/

/-- A record has a field that describes a value. -/
def Fields.Has (fields : Fields) (position : Nat) (name : String)
    (describes : Document → Value → Prop) (value : Value) : Prop :=
  ∃ document, fields.get? position name = some document ∧ describes document value

/-- A record has a field that describes a value, or it has no such field and the value is the
standard one. -/
def Fields.Gives (fields : Fields) (position : Nat) (name : String)
    (describes : Document → Value → Prop) (standard value : Value) : Prop :=
  fields.Has position name describes value ∨
    fields.get? position name = none ∧ value = standard

/-- A list of fields has no more than a number of them. -/
def Fields.EndsBy (count : Nat) : Fields → Prop
  | named _ => True
  | inOrder items => items.length ≤ count

/-! ### Readers -/

/-- A reader returns the values that a document describes. -/
def Reader.Reads (reader : Reader Value) (describes : Document → Value → Prop) : Prop :=
  ∀ document value, reader document = .ok value ↔ describes document value

/-- A reader returns what it returns, whatever is said of a mismatch. -/
theorem mapError_eq_ok_iff {Problem : Type} {result : Except Mismatch Value} {value : Value}
    {place : Mismatch → Problem} : result.mapError place = .ok value ↔ result = .ok value := by
  cases result with
  | error cause => exact iff_of_false nofun nofun
  | ok found => simp [Except.mapError]

theorem integer_eq_ok_iff {least greatest value : Int} {document : Document} :
    Reader.integer least greatest document = .ok value ↔
      document = .integer value ∧ least ≤ value ∧ value ≤ greatest := by
  cases document with
  | integer found =>
    rw [Reader.integer, Document.integer.injEq]
    split
    · rename_i inside
      rw [Except.ok.injEq]
      exact ⟨fun same => ⟨same, same ▸ inside⟩, fun same => same.1⟩
    · rename_i outside
      exact iff_of_false nofun fun same => outside (same.1 ▸ same.2)
  | _ => exact iff_of_false nofun nofun

theorem natural_reads (bits : Nat) : (Reader.natural bits).Reads (IsNatural bits) := by
  intro document value
  have positive : 0 < Nat.pow 2 bits := Nat.two_pow_pos bits
  rw [Reader.natural]
  cases read : Reader.integer 0 (Nat.pow 2 bits - 1 : Nat) document with
  | error cause =>
    refine iff_of_false nofun fun described => ?_
    obtain ⟨rfl, small⟩ := described
    have accepted : Reader.integer 0 (Nat.pow 2 bits - 1 : Nat) (.integer value) =
        .ok (value : Int) :=
      integer_eq_ok_iff.mpr ⟨rfl, Int.natCast_nonneg value, by
        rw [Nat.pow_eq] at *; omega⟩
    rw [accepted] at read
    cases read
  | ok found =>
    obtain ⟨rfl, nonneg, small⟩ := integer_eq_ok_iff.mp read
    obtain ⟨number, rfl⟩ := Int.eq_ofNat_of_zero_le nonneg
    rw [Except.map, Int.toNat_natCast, Except.ok.injEq, IsNatural, Document.integer.injEq,
      Int.natCast_inj]
    refine ⟨fun same => ⟨same, ?_⟩, fun same => same.1⟩
    rw [Nat.pow_eq] at *
    omega

theorem signed_reads (bits : Nat) : (Reader.signed bits).Reads (IsSigned bits) := by
  intro document value
  have positive : 0 < Nat.pow 2 (bits - 1) := Nat.two_pow_pos _
  rw [Reader.signed, integer_eq_ok_iff, IsSigned, Nat.pow_eq] at *
  refine and_congr_right fun _ => and_congr_right fun _ => ?_
  omega

theorem float_reads : Reader.float.Reads IsNumber := by
  intro document value
  cases document with
  | float found => simp [Reader.float, IsNumber]
  | integer whole => simp [Reader.float, IsNumber]
  | _ => exact iff_of_false nofun (by rintro (same | ⟨whole, same, _⟩) <;> cases same)

theorem boolean_reads : Reader.boolean.Reads IsTruth := by
  intro document value
  cases document with
  | boolean found => simp [Reader.boolean, IsTruth]
  | _ => exact iff_of_false nofun nofun

theorem ofName_eq_ok_iff [Named Value] {name : String} {value : Value} :
    Reader.ofName name = .ok value ↔ Named.ofName? name = some value := by
  rw [Reader.ofName]
  cases Named.ofName? (α := Value) name <;> simp

theorem named_reads [Named Value] :
    (Reader.named isEmpty).Reads (IsName : Document → Value → Prop) := by
  intro document value
  unfold Reader.named
  split
  · rename_i name
    simp [ofName_eq_ok_iff, IsName]
  · rename_i name content
    split
    · rename_i empty
      rw [ofName_eq_ok_iff]
      constructor
      · exact fun known => ⟨name, known, .inr ⟨content, empty, rfl⟩⟩
      · rintro ⟨_, known, same | ⟨_, _, same⟩⟩ <;> cases same
        exact known
    · rename_i full
      refine iff_of_false nofun ?_
      rintro ⟨_, _, same | ⟨_, empty, same⟩⟩ <;> cases same
      exact full empty
  · rename_i noText noTable
    refine iff_of_false nofun ?_
    rintro ⟨name, _, same | ⟨content, _, same⟩⟩
    · exact noText name same
    · exact noTable name content same

theorem items_eq_ok_iff {reader : Reader Value} {describes : Document → Value → Prop}
    (reads : reader.Reads describes) {position : Nat} {items : List Document}
    {values : List Value} :
    Reader.items reader position items = .ok values ↔ List.Forall₂ describes items values := by
  induction items generalizing position values with
  | nil =>
    rw [Reader.items, Except.ok.injEq, List.forall₂_nil_left_iff]
    exact eq_comm
  | cons first rest inductionHypothesis =>
    simp only [Reader.items, Except.bind_eq_ok_iff, mapError_eq_ok_iff, reads _ _,
      inductionHypothesis, List.forall₂_cons_left_iff, pure, Except.pure, Except.ok.injEq]
    constructor
    · rintro ⟨value, described, others, rest, rfl⟩
      exact ⟨value, others, described, rest, rfl⟩
    · rintro ⟨value, others, described, rest, rfl⟩
      exact ⟨value, described, others, rest, rfl⟩

theorem list_reads {reader : Reader Value} {describes : Document → Value → Prop}
    (reads : reader.Reads describes) : (Reader.list reader).Reads (IsList describes) := by
  intro document values
  cases document with
  | list items => simp [Reader.list, IsList, items_eq_ok_iff reads]
  | _ => exact iff_of_false nofun fun described => nomatch described.choose_spec.1

theorem fields_reads : Reader.fields.Reads IsRecord := by
  intro document fields
  cases document with
  | table entries =>
    rw [Reader.fields, Except.ok.injEq]
    exact ⟨fun same => same ▸ .table entries, fun | .table _ => rfl⟩
  | moment text =>
    rw [Reader.fields, Except.ok.injEq]
    exact ⟨fun same => same ▸ .moment text, fun | .moment _ => rfl⟩
  | list items =>
    rw [Reader.fields, Except.ok.injEq]
    exact ⟨fun same => same ▸ .list items, fun | .list _ => rfl⟩
  | _ => exact iff_of_false nofun nofun

theorem required_eq_ok_iff {reader : Reader Value} {describes : Document → Value → Prop}
    (reads : reader.Reads describes) {fields : Fields} {position : Nat} {name : String}
    {value : Value} :
    fields.required position name reader = .ok value ↔
      fields.Has position name describes value := by
  rw [Fields.required, Fields.Has]
  cases fields.get? position name with
  | none => exact iff_of_false nofun nofun
  | some document => simp [mapError_eq_ok_iff, reads document value]

theorem withStandard_eq_ok_iff {reader : Reader Value} {describes : Document → Value → Prop}
    (reads : reader.Reads describes) {fields : Fields} {position : Nat} {name : String}
    {standard value : Value} :
    fields.withStandard position name standard reader = .ok value ↔
      fields.Gives position name describes standard value := by
  rw [Fields.withStandard, Fields.Gives, Fields.Has]
  cases fields.get? position name with
  | none => simp [eq_comm]
  | some document => simp [mapError_eq_ok_iff, reads document value]

theorem refuseMore_eq_ok_iff {fields : Fields} {count : Nat} {accepted : Unit} :
    fields.refuseMore count = .ok accepted ↔ fields.EndsBy count := by
  cases fields with
  | named => exact iff_of_true rfl trivial
  | inOrder items =>
    rw [Fields.refuseMore, Fields.EndsBy]
    split
    · rename_i short
      exact iff_of_true rfl short
    · rename_i long
      refine iff_of_false (fun accepted => ?_) long
      cases accepted

/-- A field that says what reads the other fields. -/
theorem required_chosen_eq_ok_iff {choice : String → Option Value} {fields : Fields}
    {position : Nat} {name : String} {value : Value} :
    fields.required position name (.chosen choice) = .ok value ↔
      ∃ kind, fields.get? position name = some (.text kind) ∧ choice kind = some value := by
  rw [Fields.required]
  cases fields.get? position name with
  | none => exact iff_of_false nofun nofun
  | some document =>
    rw [mapError_eq_ok_iff]
    cases document with
    | text kind =>
      rw [Reader.chosen]
      cases found : choice kind <;> simp [found]
    | _ => exact iff_of_false nofun nofun

/-- A value of several kinds is read as the named kind is. -/
theorem tagged_eq_ok_iff {tag : String}
    {kindReader? : String → Option (Fields → Except Mismatch Value)} {document : Document}
    {value : Value} :
    Reader.tagged tag kindReader? document = .ok value ↔
      ∃ kind others read, document.IsTagged tag kind others ∧ kindReader? kind = some read ∧
        read others = .ok value := by
  simp only [Reader.tagged, Except.bind_eq_ok_iff, fields_reads _ _, required_chosen_eq_ok_iff]
  constructor
  · rintro ⟨fields, record, read, ⟨kind, named, chosen⟩, accepted⟩
    refine ⟨kind, _, read, ?_, chosen, accepted⟩
    cases record with
    | table entries => exact .table named
    | moment text => cases named
    | list items =>
      cases items with
      | nil => cases named
      | cons first others =>
        cases named
        exact .list others
  · rintro ⟨kind, others, read, tagged, chosen, accepted⟩
    cases tagged with
    | table named => exact ⟨_, .table _, read, ⟨kind, named, chosen⟩, accepted⟩
    | list others => exact ⟨_, .list _, read, ⟨kind, rfl, chosen⟩, accepted⟩

end Document

/-! ### The settings of the rules -/

/-- The fields of a record describe the thresholds of the dynamic selection rule. -/
structure DriftSettings.DescribedIn (fields : Fields) (settings : DriftSettings) : Prop where
  distanceThreshold : fields.Gives 0 "distance_threshold" Document.IsNumber
    DriftSettings.standard.distanceThreshold settings.distanceThreshold
  speedThreshold : fields.Gives 1 "speed_threshold" Document.IsNumber
    DriftSettings.standard.speedThreshold settings.speedThreshold
  headingThresholdDegrees : fields.Gives 2 "heading_threshold_deg" Document.IsNumber
    DriftSettings.standard.headingThresholdDegrees settings.headingThresholdDegrees
  timeThresholdMillis : fields.Gives 3 "time_threshold_ms" (Document.IsNatural 64)
    DriftSettings.standard.timeThresholdMillis settings.timeThresholdMillis
  dynamicPrediction : fields.Gives 4 "dynamic_prediction" Document.IsTruth
    DriftSettings.standard.dynamicPrediction settings.dynamicPrediction
  predictionIntervalMillis : fields.Gives 5 "prediction_interval_ms" (Document.IsNatural 64)
    DriftSettings.standard.predictionIntervalMillis settings.predictionIntervalMillis

theorem DriftSettings.ofFields_eq_ok_iff {fields : Fields} {settings : DriftSettings} :
    ofFields fields = .ok settings ↔ settings.DescribedIn fields := by
  simp only [ofFields, Except.bind_eq_ok_iff,
    Document.withStandard_eq_ok_iff Document.float_reads,
    Document.withStandard_eq_ok_iff (Document.natural_reads 64),
    Document.withStandard_eq_ok_iff Document.boolean_reads, pure, Except.pure, Except.ok.injEq]
  constructor
  · rintro ⟨_, distance, _, speed, _, heading, _, time, _, prediction, _, interval, rfl⟩
    exact ⟨distance, speed, heading, time, prediction, interval⟩
  · intro ⟨distance, speed, heading, time, prediction, interval⟩
    exact ⟨_, distance, _, speed, _, heading, _, time, _, prediction, _, interval, rfl⟩

/-- A record with a kind describes a selection rule of that kind. -/
inductive SelectionSettings.Describes (document : Document) : SelectionSettings → Prop
  | static {fields : Fields} (tagged : document.IsTagged "type" "static" fields)
      (ends : fields.EndsBy 0) : Describes document .static
  | dynamic {fields : Fields} {settings : DriftSettings}
      (tagged : document.IsTagged "type" "dynamic" fields)
      (thresholds : settings.DescribedIn fields) (ends : fields.EndsBy 6) :
      Describes document (.dynamic settings)

theorem SelectionSettings.ofDocument_reads :
    Reader.Reads ofDocument SelectionSettings.Describes := by
  intro document settings
  rw [ofDocument, Document.tagged_eq_ok_iff]
  constructor
  · rintro ⟨kind, fields, read, tagged, chosen, accepted⟩
    unfold kindReader? at chosen
    split at chosen <;> cases chosen <;>
      simp only [Except.bind_eq_ok_iff, DriftSettings.ofFields_eq_ok_iff,
        Document.refuseMore_eq_ok_iff, pure, Except.pure, Except.ok.injEq] at accepted
    · obtain ⟨_, ends, rfl⟩ := accepted
      exact .static tagged ends
    · obtain ⟨_, thresholds, _, ends, rfl⟩ := accepted
      exact .dynamic tagged thresholds ends
  · rintro (⟨tagged, ends⟩ | ⟨tagged, thresholds, ends⟩)
    all_goals
      refine ⟨_, _, _, tagged, rfl, ?_⟩
      simp only [Except.bind_eq_ok_iff, DriftSettings.ofFields_eq_ok_iff,
        Document.refuseMore_eq_ok_iff, pure, Except.pure, Except.ok.injEq]
    · exact ⟨(), ends, trivial⟩
    · exact ⟨_, thresholds, (), ends, rfl⟩

/-- A record with a kind describes a redundancy rule of that kind, and what it leaves out is
standard for that kind. -/
inductive RedundancySettings.Describes (document : Document) : RedundancySettings → Prop
  | distance {fields : Fields} {windowMillis : Nat} {reach : Float}
      (tagged : document.IsTagged "type" "distance" fields)
      (window : fields.Gives 0 "window_ms" (Document.IsNatural 64) standardWindowMillis
        windowMillis)
      (distance : fields.Gives 1 "distance" Document.IsNumber standardReach reach)
      (ends : fields.EndsBy 2) : Describes document (.distance windowMillis reach)
  | dynamics {fields : Fields} {reach tolerance : Float}
      (tagged : document.IsTagged "type" "dynamics" fields)
      (distance : fields.Gives 0 "distance" Document.IsNumber
        DriftSettings.standard.distanceThreshold reach)
      (speed : fields.Gives 1 "speed" Document.IsNumber
        DriftSettings.standard.speedThreshold tolerance)
      (ends : fields.EndsBy 2) : Describes document (.dynamics reach tolerance)
  | frequency {fields : Fields} {windowMillis count : Nat}
      (tagged : document.IsTagged "type" "frequency" fields)
      (window : fields.Gives 0 "window_ms" (Document.IsNatural 64) standardWindowMillis
        windowMillis)
      (number : fields.Gives 1 "number" (Document.IsNatural 64) standardNumber count)
      (ends : fields.EndsBy 2) : Describes document (.frequency windowMillis count)
  | selfAnnouncement {fields : Fields}
      (tagged : document.IsTagged "type" "self_announcement" fields)
      (ends : fields.EndsBy 0) : Describes document .selfAnnouncement

theorem RedundancySettings.ofDocument_reads :
    Reader.Reads ofDocument RedundancySettings.Describes := by
  intro document settings
  rw [ofDocument, Document.tagged_eq_ok_iff]
  constructor
  · rintro ⟨kind, fields, read, tagged, chosen, accepted⟩
    unfold kindReader? at chosen
    split at chosen <;> cases chosen <;>
      simp only [Except.bind_eq_ok_iff, Document.withStandard_eq_ok_iff Document.float_reads,
        Document.withStandard_eq_ok_iff (Document.natural_reads 64),
        Document.refuseMore_eq_ok_iff, pure, Except.pure, Except.ok.injEq] at accepted
    · obtain ⟨_, window, _, distance, _, ends, rfl⟩ := accepted
      exact .distance tagged window distance ends
    · obtain ⟨_, distance, _, speed, _, ends, rfl⟩ := accepted
      exact .dynamics tagged distance speed ends
    · obtain ⟨_, window, _, number, _, ends, rfl⟩ := accepted
      exact .frequency tagged window number ends
    · obtain ⟨_, ends, rfl⟩ := accepted
      exact .selfAnnouncement tagged ends
  · rintro (⟨tagged, window, distance, ends⟩ | ⟨tagged, distance, speed, ends⟩ |
      ⟨tagged, window, number, ends⟩ | ⟨tagged, ends⟩)
    all_goals
      refine ⟨_, _, _, tagged, rfl, ?_⟩
      simp only [Except.bind_eq_ok_iff, Document.withStandard_eq_ok_iff Document.float_reads,
        Document.withStandard_eq_ok_iff (Document.natural_reads 64),
        Document.refuseMore_eq_ok_iff, pure, Except.pure, Except.ok.injEq]
    · exact ⟨_, window, _, distance, (), ends, rfl⟩
    · exact ⟨_, distance, _, speed, (), ends, rfl⟩
    · exact ⟨_, window, _, number, (), ends, rfl⟩
    · exact ⟨(), ends, trivial⟩

/-- In a list, the fields of a rule come after its kind. -/
example : RedundancySettings.ofDocument (.list [.text "frequency", .integer 500]) =
    .ok (.frequency 500 5) := rfl

/-! ### The settings of a service -/

/-- The fields of a record describe the settings of a service. -/
structure ServiceSettings.DescribedIn (fields : Fields) (settings : ServiceSettings) : Prop where
  minimumIntervalMillis : fields.Gives 0 "gen_cpm_min_ms" (Document.IsNatural 64)
    ServiceSettings.standard.minimumIntervalMillis settings.minimumIntervalMillis
  maximumIntervalMillis : fields.Gives 1 "gen_cpm_max_ms" (Document.IsNatural 64)
    ServiceSettings.standard.maximumIntervalMillis settings.maximumIntervalMillis
  sensorIntervalMillis : fields.Gives 2 "add_sensor_information_ms" (Document.IsNatural 64)
    ServiceSettings.standard.sensorIntervalMillis settings.sensorIntervalMillis
  sizeLimit : fields.Gives 3 "mtu" (Document.IsNatural 64)
    ServiceSettings.standard.sizeLimit settings.sizeLimit
  trafficClass : fields.Gives 4 "traffic_class" (Document.IsNatural 8)
    ServiceSettings.standard.trafficClass settings.trafficClass
  restricted : fields.Gives 5 "with_dcc_restriction" Document.IsTruth
    ServiceSettings.standard.restricted settings.restricted
  loadDependent : fields.Gives 6 "dynamic_redundancy_mitigation" Document.IsTruth
    ServiceSettings.standard.loadDependent settings.loadDependent
  redundancyLoad : fields.Gives 7 "redundancy_load" Document.IsNumber
    ServiceSettings.standard.redundancyLoad settings.redundancyLoad
  trackedCategory : fields.Gives 8 "local_tracking_category" Document.IsName
    ServiceSettings.standard.trackedCategory settings.trackedCategory
  duplicatePolicy : fields.Gives 9 "duplicate_policy" Document.IsName
    ServiceSettings.standard.duplicatePolicy settings.duplicatePolicy
  epochOffset : fields.Gives 10 "its_epoch_offset_ms" (Document.IsSigned 64)
    ServiceSettings.standard.epochOffset settings.epochOffset
  selection : fields.Gives 11 "generation" SelectionSettings.Describes
    ServiceSettings.standard.selection settings.selection
  redundancy : fields.Gives 12 "redundancy" (Document.IsList RedundancySettings.Describes)
    ServiceSettings.standard.redundancy settings.redundancy

/-- A record whose fields do so describes the settings of a service. -/
def ServiceSettings.Describes (document : Document) (settings : ServiceSettings) : Prop :=
  ∃ fields, document.IsRecord fields ∧ settings.DescribedIn fields

theorem ServiceSettings.ofDocument_reads :
    Reader.Reads ofDocument ServiceSettings.Describes := by
  intro document settings
  simp only [ofDocument, Except.bind_eq_ok_iff, Document.fields_reads _ _,
    Document.withStandard_eq_ok_iff Document.float_reads,
    Document.withStandard_eq_ok_iff Document.boolean_reads,
    Document.withStandard_eq_ok_iff Document.named_reads,
    Document.withStandard_eq_ok_iff (Document.natural_reads _),
    Document.withStandard_eq_ok_iff (Document.signed_reads _),
    Document.withStandard_eq_ok_iff SelectionSettings.ofDocument_reads,
    Document.withStandard_eq_ok_iff (Document.list_reads RedundancySettings.ofDocument_reads),
    pure, Except.pure, Except.ok.injEq]
  constructor
  · rintro ⟨fields, record, _, minimum, _, maximum, _, sensor, _, size, _, traffic, _, restricted,
      _, loadDependent, _, load, _, category, _, policy, _, epoch, _, selection, _, redundancy,
      rfl⟩
    exact ⟨fields, record, minimum, maximum, sensor, size, traffic, restricted, loadDependent,
      load, category, policy, epoch, selection, redundancy⟩
  · rintro ⟨fields, record, minimum, maximum, sensor, size, traffic, restricted, loadDependent,
      load, category, policy, epoch, selection, redundancy⟩
    exact ⟨fields, record, _, minimum, _, maximum, _, sensor, _, size, _, traffic, _, restricted,
      _, loadDependent, _, load, _, category, _, policy, _, epoch, _, selection, _, redundancy,
      rfl⟩

/-! ### The settings of a simulation -/

/-- A geodetic position, of which no part may be left out. -/
def GeoPoint.Describes (document : Document) (position : GeoPoint) : Prop :=
  ∃ fields, document.IsRecord fields ∧
    fields.Has 0 "latitude" Document.IsNumber position.latitude ∧
    fields.Has 1 "longitude" Document.IsNumber position.longitude

theorem GeoPoint.ofDocument_reads : Reader.Reads ofDocument GeoPoint.Describes := by
  intro document position
  simp only [ofDocument, Except.bind_eq_ok_iff, Document.fields_reads _ _,
    Document.required_eq_ok_iff Document.float_reads, pure, Except.pure, Except.ok.injEq]
  constructor
  · rintro ⟨fields, record, _, latitude, _, longitude, rfl⟩
    exact ⟨fields, record, latitude, longitude⟩
  · rintro ⟨fields, record, latitude, longitude⟩
    exact ⟨fields, record, _, latitude, _, longitude, rfl⟩

/-- The fields of a record describe the settings of a road. -/
structure ScenarioSettings.DescribedIn (fields : Fields) (settings : ScenarioSettings) : Prop where
  vehicles : fields.Gives 0 "vehicles" (Document.IsNatural 64)
    ScenarioSettings.standard.vehicles settings.vehicles
  spacing : fields.Gives 1 "spacing" Document.IsNumber
    ScenarioSettings.standard.spacing settings.spacing
  baseSpeed : fields.Gives 2 "base_speed" Document.IsNumber
    ScenarioSettings.standard.baseSpeed settings.baseSpeed
  speedStep : fields.Gives 3 "speed_step" Document.IsNumber
    ScenarioSettings.standard.speedStep settings.speedStep
  radarRange : fields.Gives 4 "radar_range" Document.IsNumber
    ScenarioSettings.standard.radarRange settings.radarRange
  radioRange : fields.Gives 5 "radio_range" Document.IsNumber
    ScenarioSettings.standard.radioRange settings.radioRange
  latencyMillis : fields.Gives 6 "latency_ms" (Document.IsNatural 64)
    ScenarioSettings.standard.latencyMillis settings.latencyMillis
  stepMillis : fields.Gives 7 "step_ms" (Document.IsNatural 64)
    ScenarioSettings.standard.stepMillis settings.stepMillis
  durationMillis : fields.Gives 8 "duration_ms" (Document.IsNatural 64)
    ScenarioSettings.standard.durationMillis settings.durationMillis
  origin : fields.Gives 9 "origin" GeoPoint.Describes
    ScenarioSettings.standard.origin settings.origin

/-- A record whose fields do so describes the settings of a road. -/
def ScenarioSettings.Describes (document : Document) (settings : ScenarioSettings) : Prop :=
  ∃ fields, document.IsRecord fields ∧ settings.DescribedIn fields

theorem ScenarioSettings.ofDocument_reads :
    Reader.Reads ofDocument ScenarioSettings.Describes := by
  intro document settings
  simp only [ofDocument, Except.bind_eq_ok_iff, Document.fields_reads _ _,
    Document.withStandard_eq_ok_iff Document.float_reads,
    Document.withStandard_eq_ok_iff (Document.natural_reads 64),
    Document.withStandard_eq_ok_iff GeoPoint.ofDocument_reads, pure, Except.pure,
    Except.ok.injEq]
  constructor
  · rintro ⟨fields, record, _, vehicles, _, spacing, _, base, _, increment, _, radar, _, radio,
      _, latency, _, step, _, duration, _, origin, rfl⟩
    exact ⟨fields, record, vehicles, spacing, base, increment, radar, radio, latency, step,
      duration, origin⟩
  · rintro ⟨fields, record, vehicles, spacing, base, increment, radar, radio, latency, step,
      duration, origin⟩
    exact ⟨fields, record, _, vehicles, _, spacing, _, base, _, increment, _, radar, _, radio,
      _, latency, _, step, _, duration, _, origin, rfl⟩

/-- The items of a list are the first settings of a road, and the others are standard. -/
example : ScenarioSettings.ofDocument (.list [.integer 3]) =
    .ok { ScenarioSettings.standard with vehicles := 3 } := rfl

/-- A record describes the settings of a simulation by those of the service and of the road. -/
def SimulationSettings.Describes (document : Document) (settings : SimulationSettings) : Prop :=
  ∃ fields, document.IsRecord fields ∧
    fields.Gives 0 "service" ServiceSettings.Describes SimulationSettings.standard.service
      settings.service ∧
    fields.Gives 1 "scenario" ScenarioSettings.Describes SimulationSettings.standard.scenario
      settings.scenario

/-- Reading a document returns the settings that it describes. -/
theorem SimulationSettings.ofDocument_reads :
    Reader.Reads ofDocument SimulationSettings.Describes := by
  intro document settings
  simp only [ofDocument, Except.bind_eq_ok_iff, Document.fields_reads _ _,
    Document.withStandard_eq_ok_iff ServiceSettings.ofDocument_reads,
    Document.withStandard_eq_ok_iff ScenarioSettings.ofDocument_reads, pure, Except.pure,
    Except.ok.injEq]
  constructor
  · rintro ⟨fields, record, _, service, _, scenario, rfl⟩
    exact ⟨fields, record, service, scenario⟩
  · rintro ⟨fields, record, service, scenario⟩
    exact ⟨fields, record, _, service, _, scenario, rfl⟩

end CollectivePerception
