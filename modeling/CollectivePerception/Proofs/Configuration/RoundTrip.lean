/-
This file proves that settings survive being saved and loaded, and says what loading makes of other
documents (`SimulationSettings.save_load`). A document that parses gives every setting the value
that it has in the document, and the standard value if it is left out, so that entries with standard
values may be left out of a file that has been saved. The format of the file is any that keeps
simple tables, and the file system any that keeps what is written.
-/

import CollectivePerception.Configuration.Storage
import CollectivePerception.Proofs.Configuration.Omission
import CollectivePerception.Proofs.Configuration.Storable
import CollectivePerception.Proofs.Document.Toml.RoundTrip
import CollectivePerception.Proofs.Storage.Writing

namespace CollectivePerception.SimulationSettings

open Storage (Files Tree)

variable {settings : SimulationSettings} {format : Document.Format}

/-! ### Texts -/

/-- A text is parsed as the settings that its document describes. -/
theorem parse_eq_ok_iff {text : String} :
    parse format text = .ok settings ↔
      ∃ table, format.read text = .ok table ∧ Describes (.table table) settings := by
  rw [parse]
  cases format.read text with
  | error cause => exact iff_of_false nofun nofun
  | ok table => simp [Document.mapError_eq_ok_iff, ofDocument_reads _ _]

/-- Settings are parsed as they were rendered. -/
theorem Storable.parse_render (storable : settings.Storable) (keeps : format.KeepsTables 3) :
    ∃ text, settings.render format = .ok text ∧ parse format text = .ok settings := by
  obtain ⟨table, document, writable, described⟩ := storable.stores
  obtain ⟨text, again, written, read, same⟩ := keeps table writable
  cases document
  exact ⟨text, written, parse_eq_ok_iff.mpr ⟨again, read, described _ same⟩⟩

/-- A text is parsed as before if entries with standard values are left out of its document. -/
theorem parse_lighter {text lighterText : String} {table lighter : Document.Table}
    (read : format.read text = .ok table) (readLighter : format.read lighterText = .ok lighter)
    (changes : Relation.ReflTransGen Lighter (.table table) (.table lighter))
    (parsed : parse format text = .ok settings) : parse format lighterText = .ok settings := by
  obtain ⟨found, same, described⟩ := parse_eq_ok_iff.mp parsed
  cases read.symm.trans same
  exact parse_eq_ok_iff.mpr ⟨lighter, readLighter, describes_of_lighter changes described⟩

/-! ### Files -/

/-- Without variables, no setting is replaced. -/
theorem override_of_unset {lookup : String → Option String}
    (unset : ∀ name ∈ variableNames, lookup name = none) : settings.override lookup = settings := by
  simp only [variableNames, List.forall_mem_cons] at unset
  obtain ⟨size, minimum, restricted, vehicles, duration, -⟩ := unset
  simp only [override, size, minimum, restricted, vehicles, duration]
  rfl

section

variable {State : Type} {files : Files (StateM State)} {lookup : String → Option String}
  {path text : String} {state ready : State}

/-- The settings in a text are loaded from a file that holds the text. -/
theorem load_of_holds (unset : ∀ name ∈ variableNames, lookup name = none)
    (holds : files.Holds path text state) (parsed : parse format text = .ok settings) :
    load format files lookup path state = (.ok (some settings), state) := by
  simp only [load, bind, StateT.bind, holds.isPresent, Bool.not_true, Bool.false_eq_true, if_false,
    holds.read, parsed, override_of_unset unset]
  rfl

/-- The directory of a file has been made, if its path has one. -/
inductive DirectoryMade (files : Files (StateM State)) (path : String) (state : State) :
    State → Prop
  | none (parent : Storage.parent? path = none) : DirectoryMade files path state state
  | made {directory : String} {ready : State} (parent : Storage.parent? path = some directory)
      (created : files.createDirectories directory state = (.ok (), ready)) :
      DirectoryMade files path state ready

theorem DirectoryMade.prepare_eq (made : DirectoryMade files path state ready) :
    prepare files path state = (.ok (), ready) := by
  cases made with
  | none parent =>
    rw [prepare, parent]
    rfl
  | made parent created =>
    rw [prepare, parent]
    exact created

/-- Saving settings succeeds if the directory of the file can be made and the file be written, and
then the settings are loaded as they were. Otherwise it fails for the cause that one of the two
failed for. -/
structure IsSaved (format : Document.Format) (files : Files (StateM State))
    (lookup : String → Option String) (path : String) (settings : SimulationSettings)
    (text : String) (state : State) : Prop where
  noDirectory : ∀ directory cause after, Storage.parent? path = some directory →
    files.createDirectories directory state = (.error cause, after) →
    save format files settings path state = (.error (.noDirectory cause), after)
  unwritten : ∀ ready cause after, DirectoryMade files path state ready →
    files.write path text ready = (.error cause, after) →
    save format files settings path state = (.error (.unwritten path cause), after)
  saved : ∀ ready saved, DirectoryMade files path state ready →
    files.write path text ready = (.ok (), saved) →
    save format files settings path state = (.ok (), saved) ∧
      load format files lookup path saved = (.ok (some settings), saved)

theorem isSaved_of_parse (keeps : files.KeepsWrites)
    (unset : ∀ name ∈ variableNames, lookup name = none)
    (rendered : settings.render format = .ok text) (parsed : parse format text = .ok settings)
    (state : State) : IsSaved format files lookup path settings text state where
  noDirectory directory cause after parent failed := by
    have prepared : prepare files path state = (.error cause, after) := by
      rw [prepare, parent]
      exact failed
    simp only [save, bind, StateT.bind, prepared]
    rfl
  unwritten ready cause after made failed := by
    simp only [save, bind, StateT.bind, made.prepare_eq, rendered, failed]
    rfl
  saved ready saved made written := by
    refine ⟨?_, load_of_holds unset (keeps path text ready saved written) parsed⟩
    simp only [save, bind, StateT.bind, made.prepare_eq, rendered, written]
    rfl

end

/-- Settings that have been saved are loaded as they were, by any format that keeps simple tables:
saving succeeds if the directory can be made and the file be written. A text that parses gives each
setting, at every level, the value that it has in the document, and the standard value if it has
none there. Where entries with standard values are left out, the same settings are loaded. -/
theorem save_load {State : Type} {files : Files (StateM State)} {lookup : String → Option String}
    (keepsTables : format.KeepsTables 3) (keepsWrites : files.KeepsWrites)
    (unset : ∀ name ∈ variableNames, lookup name = none) (path : String) :
    (∀ settings : SimulationSettings, settings.Storable →
      ∃ text, settings.render format = .ok text ∧
        ∀ state, IsSaved format files lookup path settings text state) ∧
    (∀ text settings, parse format text = .ok settings ↔
      ∃ table, format.read text = .ok table ∧ Describes (.table table) settings) ∧
    ∀ text table settings lighter lighterText state,
      format.read text = .ok table → parse format text = .ok settings →
      Relation.ReflTransGen Lighter (.table table) (.table lighter) →
      format.read lighterText = .ok lighter → files.Holds path lighterText state →
      load format files lookup path state = (.ok (some settings), state) := by
  refine ⟨fun settings storable => ?_, fun text settings => parse_eq_ok_iff,
    fun text table settings lighter lighterText state read parsed changes readLighter holds =>
      load_of_holds unset holds (parse_lighter read readLighter changes parsed)⟩
  obtain ⟨text, rendered, parsed⟩ := storable.parse_render keepsTables
  exact ⟨text, rendered, isSaved_of_parse keepsWrites unset rendered parsed⟩

/-- The standard settings can be stored. -/
theorem standard_storable : standard.Storable where
  service := {
    minimumIntervalMillis := by decide
    maximumIntervalMillis := by decide
    sensorIntervalMillis := by decide
    sizeLimit := by decide
    trafficClass := by decide
    redundancyLoad := by decide +kernel
    leastEpochOffset := by decide
    greatestEpochOffset := by decide
    selection := {
      distanceThreshold := by decide +kernel
      speedThreshold := by decide +kernel
      headingThresholdDegrees := by decide +kernel
      timeThresholdMillis := by decide
      predictionIntervalMillis := by decide }
    redundancy := nofun }
  scenario := {
    vehicles := by decide
    spacing := by decide +kernel
    baseSpeed := by decide +kernel
    speedStep := by decide +kernel
    radarRange := by decide +kernel
    radioRange := by decide +kernel
    latencyMillis := by decide
    stepMillis := by decide
    durationMillis := by decide
    origin := {
      latitude := by decide +kernel
      longitude := by decide +kernel } }

/-- A document that only names the table of the road describes the standard settings. -/
theorem standard_describes : Describes (.table [("scenario", .table [])]) standard := by
  have scenario : ScenarioSettings.Describes (.table []) .standard :=
    ⟨_, .table [], .inr ⟨rfl, rfl⟩, .inr ⟨rfl, rfl⟩, .inr ⟨rfl, rfl⟩, .inr ⟨rfl, rfl⟩,
      .inr ⟨rfl, rfl⟩, .inr ⟨rfl, rfl⟩, .inr ⟨rfl, rfl⟩, .inr ⟨rfl, rfl⟩, .inr ⟨rfl, rfl⟩,
      .inr ⟨rfl, rfl⟩⟩
  exact ⟨_, .table _, .inr ⟨rfl, rfl⟩, .inl ⟨.table [], rfl, scenario⟩⟩

/-- In a fresh home, saving the standard settings at their standard place makes the directory of
the file, and the settings are loaded again. An empty file, from which the table of the road has
been left out, stands for them as well. -/
theorem save_load_standard :
    standardPath "/home" = "/home/.cpm/config.toml" ∧
    (Tree.empty ["home"]).isPresent "/home/.cpm" = false ∧
    (∃ saved, save Toml.format Tree.files standard (standardPath "/home") (Tree.empty ["home"]) =
        (.ok (), saved) ∧ saved.isDirectory "/home/.cpm" = true ∧
      load Toml.format Tree.files (fun _ => none) (standardPath "/home") saved =
        (.ok (some standard), saved)) ∧
    ∃ state, Tree.files.Holds (standardPath "/home") "" state ∧
      load Toml.format Tree.files (fun _ => none) (standardPath "/home") state =
        (.ok (some standard), state) := by
  have place : standardPath "/home" = "/home/.cpm/config.toml" := by decide
  have unset : ∀ name ∈ variableNames, (fun _ : String => (none : Option String)) name = none :=
    fun _ _ => rfl
  obtain ⟨saves, parses, omits⟩ := save_load (Toml.format_keepsTables (by decide))
    Tree.files_keepsWrites unset (standardPath "/home")
  -- The directory is made, and whatever is written, the file system accepts it.
  have made : DirectoryMade Tree.files (standardPath "/home") (Tree.empty ["home"])
      ((Tree.empty ["home"]).put ["home", ".cpm"] .directory) := .made rfl rfl
  have write (text : String) : Tree.files.write (standardPath "/home") text
      ((Tree.empty ["home"]).put ["home", ".cpm"] .directory) =
      (.ok (), ((Tree.empty ["home"]).put ["home", ".cpm"] .directory).put
        ["home", ".cpm", "config.toml"] (.file text)) := rfl
  refine ⟨place, rfl, ?_, ?_⟩
  · obtain ⟨text, -, isSaved⟩ := saves standard standard_storable
    obtain ⟨done, loaded⟩ := (isSaved _).saved _ _ made (write text)
    exact ⟨_, done, rfl, loaded⟩
  · have holds := Tree.files_keepsWrites _ _ _ _ (write "")
    have writable : Toml.Writable 2 [("scenario", .table [])] :=
      ⟨by decide, by decide, List.forall_mem_singleton.mpr (.table Toml.writableTable_nil)⟩
    obtain ⟨text, -, read⟩ := Toml.read?_render writable (by decide)
    have lighter : Lighter (.table [("scenario", .table [])]) (.table []) :=
      .entry ⟨"scenario", .table [], rfl, rfl, standard_describes, rfl⟩
    have table : Toml.format.read text = .ok [("scenario", .table [])] := by
      simp only [Toml.format, read]
      rfl
    have parsed := (parses text standard).mpr ⟨_, table, standard_describes⟩
    exact ⟨_, holds, omits text _ standard [] "" _ table parsed (.single lighter) rfl holds⟩

end CollectivePerception.SimulationSettings
