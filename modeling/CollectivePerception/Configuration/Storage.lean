/-
This file defines how the settings of a simulation are kept in a file: loading reads a
document and lets variables replace settings, saving makes the directory of the file and
writes a document that loading reads back. The text of a document is left to a format.
-/

import CollectivePerception.Configuration.Scenario
import CollectivePerception.Document.Format
import CollectivePerception.Storage.Files

namespace CollectivePerception

open Storage (Files FileError)

/-- Why settings could not be loaded or saved. -/
inductive SettingsFileError
  | unread (path : String) (cause : FileError)
  | rejected (cause : ConfigurationError)
  | noDirectory (cause : FileError)
  | unwritable (cause : String)
  | unwritten (path : String) (cause : FileError)

def SettingsFileError.message : SettingsFileError → String
  | unread path cause => s!"Failed to read config at {path}: " ++ cause.message
  | rejected cause => cause.message
  | noDirectory cause => "Failed to create config directory: " ++ cause.message
  | unwritable cause => "Failed to serialize config: " ++ cause
  | unwritten path cause => s!"Failed to write config at {path}: " ++ cause.message

namespace SimulationSettings

/-- The settings that the document of a text describes. -/
def parse (format : Document.Format) (text : String) :
    Except ConfigurationError SimulationSettings :=
  match format.read text with
  | .error cause => .error (.unreadable cause)
  | .ok table =>
    (ofDocument (.table table)).mapError fun cause => .unreadable (format.explain text cause)

/-- The text of the document of settings. -/
def render (format : Document.Format) (settings : SimulationSettings) : Except String String :=
  format.write settings.entries

/-- Where the settings are kept, given a home directory. -/
def standardPath (home : String) : String :=
  Storage.child (Storage.child home ".cpm") "config.toml"

variable {m : Type → Type} [Monad m]

/-- The settings in a file with the variables applied, none if there is no such file. -/
def load (format : Document.Format) (files : Files m) (lookup : String → Option String)
    (path : String) : m (Except SettingsFileError (Option SimulationSettings)) := do
  if !(← files.isPresent path) then return .ok none
  match ← files.read path with
  | .error cause => return .error (.unread path cause)
  | .ok text =>
    match parse format text with
    | .error cause => return .error (.rejected cause)
    | .ok settings => return .ok (some (settings.override lookup))

/-- Makes the directory of a file, if the path has one. -/
def prepare (files : Files m) (path : String) : m (Except FileError Unit) :=
  match Storage.parent? path with
  | none => return .ok ()
  | some directory => files.createDirectories directory

/-- Writes settings to a file, and makes its directory before. -/
def save (format : Document.Format) (files : Files m) (settings : SimulationSettings)
    (path : String) : m (Except SettingsFileError Unit) := do
  match ← prepare files path with
  | .error cause => return .error (.noDirectory cause)
  | .ok _ =>
    match settings.render format with
    | .error cause => return .error (.unwritable cause)
    | .ok text =>
      match ← files.write path text with
      | .error cause => return .error (.unwritten path cause)
      | .ok _ => return .ok ()

end SimulationSettings

end CollectivePerception
