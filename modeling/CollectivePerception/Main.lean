/-
This file connects the program to the system that it runs on.
-/

import CollectivePerception.CommandLine.Program
import CollectivePerception.Document.Json
import CollectivePerception.Document.Schema
import CollectivePerception.Document.Toml.Format

namespace CollectivePerception

open Storage (FileError Files)

/-- The cause of a failed operation. -/
def fileError : IO.Error → FileError
  | .noFileOrDirectory .. => .notFound
  | .alreadyExists .. => .alreadyExists
  | .inappropriateType _ code details =>
    if code == 21 then .isDirectory else if code == 20 then .notDirectory else .other details
  | other => .other (toString other)

/-- An operation whose failure is a value. -/
def attempt {α : Type} (action : IO α) : IO (Except FileError α) := do
  match ← action.toBaseIO with
  | .ok value => return .ok value
  | .error cause => return .error (fileError cause)

/-- The files of the system. A directory shows itself by refusing to be read. -/
def systemFiles : Files IO where
  isPresent path := return (← attempt (IO.FS.realPath path)).isOk
  isDirectory path := do
    match ← attempt (IO.FS.readFile path) with
    | .error .isDirectory => return true
    | _ => return false
  read path := attempt (IO.FS.readFile path)
  write path content := attempt (IO.FS.writeFile path content)
  createDirectory path := attempt (IO.FS.createDir path)

/-- The system that the program runs on. -/
def system : CommandLine.Host IO where
  files := systemFiles
  lookup := (IO.getEnv ·)
  print := IO.println
  complain := IO.eprintln
  toml := Toml.format
  json := Json.write
  schema := Json.write SimulationSettings.standard.toDocument.schema

end CollectivePerception

def main (arguments : List String) : IO UInt32 :=
  CollectivePerception.CommandLine.Host.run CollectivePerception.system arguments
