/-
This file defines what a station remembers about one other station: the latest report
in which that station announced itself, and for each station that reported it the last
few reports. The newest report of all is kept apart, with the position and the speed
that it gave.
-/

import CollectivePerception.Awareness
import CollectivePerception.Total

namespace CollectivePerception.Remote

/-! ### Reports -/

/-- What happens to a report that arrives at the same instant as the newest one of the
same reporter. -/
inductive DuplicatePolicy
  | none
  | replaceOnDuplicate
  | dropOnDuplicate
deriving DecidableEq, Repr, Inhabited

instance : Named DuplicatePolicy where
  name
    | .none => "none"
    | .replaceOnDuplicate => "replace_on_duplicate"
    | .dropOnDuplicate => "drop_on_duplicate"
  all := [.none, .replaceOnDuplicate, .dropOnDuplicate]

/-- What became of a report. -/
inductive InsertResult
  /-- It was added. -/
  | ok
  /-- It was added, and the reporter's oldest report was given up for it. -/
  | historyReplace
  /-- It replaced the reporter's newest report. -/
  | duplicateReplace
  /-- It was dropped. -/
  | duplicateDrop
deriving DecidableEq, Repr, Inhabited

/-- A stored report: when it arrived and where the reporter was. -/
structure HistoryEntry where
  received : Instant
  reporterPosition : Point
deriving Inhabited

/-- A report about an object as it arrives. -/
structure Report where
  received : Instant
  reporterPosition : Point
  /-- The object's state as the reporter describes it. -/
  motion : Motion
deriving Inhabited

/-- What is stored of a report. -/
def Report.entry (report : Report) : HistoryEntry :=
  ⟨report.received, report.reporterPosition⟩

/-- The newest report of all reporters, with what it said about the object. -/
structure Newest where
  reporter : StationId
  entry : HistoryEntry
  position : Point
  speed : Float
deriving Inhabited

/-- Where an object is and how fast, by the newest report about it. -/
structure Aggregate where
  position : Point
  speed : Float
deriving Inhabited

/-- How many reports of one reporter are kept. -/
def capacity : Nat := 12

/-- For how long a report is kept. -/
def lifetime : Duration := Duration.ofMillis 1100

/-- Whether a stored report has reached its lifetime. -/
def HistoryEntry.isExpired (entry : HistoryEntry) (now : Instant) : Bool :=
  entry.received.after lifetime ≤ now

/-! ### One station -/

/-- Everything known about one other station. -/
structure Knowledge where
  awareness : Option AwarenessReport
  /-- The reports of each reporter, oldest first. -/
  history : OrderedMap StationId (List HistoryEntry)
  newest : Option Newest

namespace Knowledge

def empty : Knowledge := ⟨none, OrderedMap.empty, none⟩

instance : Inhabited Knowledge := ⟨empty⟩

/-- The reports of one reporter, oldest first. -/
def historyOf (known : Knowledge) (reporter : StationId) : List HistoryEntry :=
  (known.history.get? reporter).getD []

/-- All stored reports. -/
def stored (known : Knowledge) : List HistoryEntry := known.history.values.flatten

def hasHistory (known : Knowledge) : Bool := !known.history.isEmpty

/-- How many stations have reported the object. -/
def reporterCount (known : Knowledge) : Nat := known.history.size

/-- How many reports are stored. -/
def storedCount (known : Knowledge) : Nat := totalOf (known.history.values.map List.length)

/-- Whether nothing is known. -/
def isExpired (known : Knowledge) : Bool := known.awareness.isNone && known.history.isEmpty

/-- The newest report as far as it is remembered: the heading is not, and the state is
dated to its arrival. -/
def newestReport (known : Knowledge) : Option Report :=
  known.newest.map fun newest =>
    ⟨newest.entry.received, newest.entry.reporterPosition,
      ⟨newest.entry.received, newest.position, newest.speed, Angle.zero⟩⟩

/-- What the newest report says about the object. -/
def aggregate (known : Knowledge) : Option Aggregate :=
  known.newest.map fun newest => ⟨newest.position, newest.speed⟩

/-! ### Adding and forgetting reports -/

/-- Whether the newest report of a list arrived at an instant. -/
def endsAt (reports : List HistoryEntry) (received : Instant) : Bool :=
  reports.getLast?.any fun entry => entry.received == received

/-- A reporter's reports after one more, and what became of it. -/
def append (reports : List HistoryEntry) (entry : HistoryEntry) (policy : DuplicatePolicy) :
    List HistoryEntry × InsertResult :=
  match endsAt reports entry.received, policy with
  | true, .dropOnDuplicate => (reports, .duplicateDrop)
  | true, .replaceOnDuplicate => (reports.dropLast ++ [entry], .duplicateReplace)
  | _, _ =>
    if capacity ≤ reports.length then (reports.tail ++ [entry], .historyReplace)
    else (reports ++ [entry], .ok)

/-- Whether a report takes the place of the newest one: it arrived later, or it
replaces just that report, or there is none. -/
def supersedes (newest : Option Newest) (reporter : StationId) (received : Instant)
    (result : InsertResult) : Bool :=
  match newest with
  | none => true
  | some newest =>
    (result == .duplicateReplace && newest.reporter == reporter &&
        newest.entry.received == received) ||
      newest.entry.received < received

/-- Adds a report of one reporter. A dropped report changes nothing. -/
def add (known : Knowledge) (reporter : StationId) (report : Report)
    (policy : DuplicatePolicy) : Knowledge × InsertResult :=
  match append (known.historyOf reporter) report.entry policy with
  | (_, .duplicateDrop) => (known, .duplicateDrop)
  | (reports, result) =>
    let newest :=
      if supersedes known.newest reporter report.received result then
        some ⟨reporter, report.entry, report.motion.position, report.motion.speed⟩
      else
        known.newest
    ({ known with history := known.history.insert reporter reports, newest := newest }, result)

/-- Forgets the expired reports at the front of each reporter's list, the reporters
without reports, and with the last of them the newest report. -/
def clearExpired (known : Knowledge) (now : Instant) : Knowledge :=
  let history := known.history.filterMap fun _ reports =>
    match reports.dropWhile (·.isExpired now) with
    | [] => none
    | left => some left
  { known with history := history, newest := if history.isEmpty then none else known.newest }

end Knowledge

end CollectivePerception.Remote
