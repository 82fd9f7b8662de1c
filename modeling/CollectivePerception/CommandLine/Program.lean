/-
This file defines the program: it loads the settings, runs the simulation and prints a
line for every step, then a summary, and writes the measurements to a file if asked to.
Everything outside, namely files, variables, the two outputs and the formats that libraries
write, comes in as a record of operations.
-/

import CollectivePerception.CommandLine.Arguments
import CollectivePerception.CommandLine.Report
import CollectivePerception.Configuration.Storage

namespace CollectivePerception.CommandLine

open Storage (FileError Files)

/-- What the program needs from outside. -/
structure Host (m : Type → Type) where
  files : Files m
  /-- The value of a variable, if it is set. -/
  lookup : String → m (Option String)
  /-- Prints a line of output. -/
  print : String → m Unit
  /-- Prints a line to the output for errors. -/
  complain : String → m Unit
  /-- The format of the file of the settings. -/
  toml : Document.Format
  /-- Writes a document on a line of the file of the measurements. -/
  json : Document → String
  /-- The schema of the settings, which is printed on request. -/
  schema : String

namespace Host

variable {m : Type → Type} [Monad m]

def printAll (host : Host m) : List String → m Unit
  | [] => return ()
  | line :: rest => do
    host.print line
    host.printAll rest

/-- The variables that may replace settings. -/
def overrides (host : Host m) : m (String → Option String) := do
  let values ← SimulationSettings.variableNames.mapM fun name => do
    return (name, ← host.lookup name)
  return fun name => ((values.find? fun entry => entry.1 == name).map (·.2)).join

/-- The path of the settings that is taken if none is given. -/
def standardPath (host : Host m) : m String := do
  let home ← host.lookup "HOME"
  let profile ← host.lookup "USERPROFILE"
  return SimulationSettings.standardPath ((home.or profile).getD ".")

/-! ### The parts of a run -/

/-- Saves the standard settings. -/
def saveStandard (host : Host m) (path : String) : m Unit := do
  match ← SimulationSettings.standard.save host.toml host.files path with
  | .ok _ => host.print s!"  ✓ Config saved to {path}"
  | .error cause => host.print ("Error saving config: " ++ cause.message)

/-- Loads the settings and says where they come from; fails if they are unusable. -/
def loadSettings (host : Host m) (path : String) : m (Option SimulationSettings) := do
  let lookup ← host.overrides
  match ← SimulationSettings.load host.toml host.files lookup path with
  | .ok (some settings) =>
    host.print s!"  Config loaded from {path}"
    return some settings
  | .ok none =>
    host.print s!"  No config at {path}; using defaults."
    return some (SimulationSettings.standard.override lookup)
  | .error cause =>
    host.print ("Config error: " ++ cause.message)
    return none

/-- Runs a simulation to its end, at most for a number of steps, and prints each of
them. -/
def runSteps (host : Host m) :
    (limit : Nat) → Simulation → StepSummary → m (Simulation × StepSummary)
  | 0, simulation, total => return (simulation, total)
  | limit + 1, simulation, total => do
    if simulation.isFinished then return (simulation, total)
    let (next, trace) := simulation.step
    host.print (stepLine trace.summary)
    host.runSteps limit next (total.add trace.summary)

/-- Writes the measurements of a simulation to a file. -/
def writeStatistics (host : Host m) (simulation : Simulation) (path : String) : m Unit := do
  let lines := events host.json simulation.takeStatistics.2
  match ← host.files.write path (Storage.ofLines lines) with
  | .ok _ => host.print s!"  ✓ {lines.length} statistics written to {path}"
  | .error cause =>
    host.print (s!"Error writing statistics: Failed to create {path}: " ++ cause.message)

/-- Runs a simulation and reports on it. A step takes at least a millisecond, so a run
that ends has no more steps than milliseconds to go. -/
def simulate (host : Host m) (settings : SimulationSettings) (simulation : Simulation)
    (statistics : Option String) : m Unit := do
  host.printAll ["", titles]
  let (final, total) ←
    host.runSteps settings.scenario.durationMillis simulation StepSummary.zero
  host.printAll (summary total final.now.millis)
  match statistics with
  | none => return ()
  | some path => host.writeStatistics final path

/-! ### The whole -/

/-- Runs the program with understood arguments and returns its exit code. -/
def runWith (host : Host m) (arguments : Arguments) : m UInt32 := do
  if arguments.printSchema then
    host.print host.schema
    return 0
  let path ← match arguments.settings with
    | some path => pure path
    | none => host.standardPath
  if arguments.saveStandard then
    host.saveStandard path
    return 0
  host.printAll banner
  match ← host.loadSettings path with
  | none => return 1
  | some settings =>
    match Simulation.create settings with
    | .error cause =>
      host.print ("Invalid configuration: " ++ cause.message)
      return 1
    | .ok simulation =>
      host.simulate settings simulation arguments.statistics
      return 0

/-- Runs the program and returns its exit code. -/
def run (host : Host m) (arguments : List String) : m UInt32 := do
  match Arguments.ofList arguments with
  | .error cause =>
    host.complain ("Usage error: " ++ cause.message)
    host.complain usageLine
    return 2
  | .ok understood => host.runWith understood

end Host

end CollectivePerception.CommandLine
