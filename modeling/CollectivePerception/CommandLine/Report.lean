/-
This file words what the program prints: a banner, a line for every step with its totals
in columns, a summary of all steps, and the measurements of all stations, each on a line
of its own.
-/

import CollectivePerception.Simulation
import CollectivePerception.Statistic.Document

namespace CollectivePerception.CommandLine

/-! ### Columns -/

/-- A text moved to the right end of a column. -/
def column (width : Nat) (text : String) : String :=
  "".pushn ' ' (width - text.length) ++ text

def banner : List String := [
  "",
  "  ╔══════════════════════════════════════╗",
  "  ║   Collective Perception Simulator    ║",
  "  ╚══════════════════════════════════════╝",
  "  cpm-sim v0.1.0",
  ""]

/-- The titles of the columns. -/
def titles : String :=
  "  ".intercalate ["", column 8 "time", column 4 "trig", column 4 "msgs", column 4 "segs",
    column 5 "objs", column 6 "recv", column 5 "cbr"]

/-- The load of the channel as a share with three places. -/
def ratio (value : Float) : String := Decimal.fixed 3 value

/-- The columns of one step. -/
def stepColumns (step : StepSummary) : String :=
  "  ".intercalate ["", column 6 (toString step.timeMillis) ++ "ms",
    column 4 (toString step.triggered), column 4 (toString step.messages),
    column 4 (toString step.segments), column 5 (toString step.objectsSent),
    column 6 (toString step.receptions), column 5 (ratio step.busyRatio)]

/-- The line of one step. -/
def stepLine (step : StepSummary) : String :=
  if 0 < step.errors then stepColumns step ++ s!"  {step.errors} error(s)" else stepColumns step

/-! ### Summary -/

/-- The summary of all steps. -/
def summary (total : StepSummary) (elapsedMillis : Int) : List String := [
  "",
  s!"  Summary after {elapsedMillis} ms",
  s!"    cycles triggered   {total.triggered}",
  s!"    messages sent      {total.messages} ({total.segments} segments)",
  s!"    objects            {total.selected} selected, {total.mitigated} after mitigation, " ++
    s!"{total.objectsSent} sent",
  s!"    receptions         {total.receptions}",
  "    peak channel load  " ++ ratio total.busyRatio,
  if 0 < total.errors then
    s!"    {total.errors} error(s); run with RUST_LOG=warn for details"
  else
    "    no errors",
  ""]

/-! ### Measurements -/

/-- A measurement of a station. -/
def event (station : StationId) (statistic : Statistic) : Document :=
  .table [("event", statistic.toDocument), ("station", .natural station)]

/-- The lines of the measurements of all stations, given how a document is written on one. -/
def events (write : Document → String) (stations : List (StationId × List Statistic)) :
    List String :=
  stations.flatMap fun (station, statistics) =>
    statistics.map fun statistic => write (event station statistic)

end CollectivePerception.CommandLine
