/-
This file defines what a station remembers about all other stations. It follows the
store of awareness reports: one walk over both ascending lists adds the stations that
announce themselves for the first time, renews or takes away the link to a report,
forgets expired history, and removes the stations of which nothing is left.
-/

import CollectivePerception.Remote.History

namespace CollectivePerception.Remote

open OrderedKey

/-- The knowledge about each other station. -/
structure Tracking where
  objects : OrderedMap StationId Knowledge

namespace Tracking

def empty : Tracking := ⟨OrderedMap.empty⟩

instance : Inhabited Tracking := ⟨empty⟩

def size (tracking : Tracking) : Nat := tracking.objects.size

def stations (tracking : Tracking) : List StationId := tracking.objects.keys

def get? (tracking : Tracking) (station : StationId) : Option Knowledge :=
  tracking.objects.get? station

/-- The knowledge about a station, empty if there is none. -/
def knowledge (tracking : Tracking) (station : StationId) : Knowledge :=
  (tracking.get? station).getD Knowledge.empty

/-- Replaces the knowledge about a station. -/
def set (tracking : Tracking) (station : StationId) (known : Knowledge) : Tracking :=
  ⟨tracking.objects.insert station known⟩

/-- How many stations are linked to an awareness report. -/
def seenByAwareness (tracking : Tracking) : Nat :=
  tracking.objects.values.countP fun known => known.awareness.isSome

/-- How many stations have been reported by others. -/
def seenByPerception (tracking : Tracking) : Nat :=
  tracking.objects.values.countP (·.hasHistory)

/-! ### Synchronisation -/

/-- How many stations a synchronisation added, took a link from, and removed. -/
structure Changes where
  inserted : Nat
  detached : Nat
  removed : Nat
deriving DecidableEq, Repr, Inhabited

/-- The entries that a walk leaves, and its counts. -/
structure Walk where
  kept : List (StationId × Knowledge)
  changes : Changes
deriving Inhabited

/-- The walk with one more station in front if anything about it is still worth
remembering. -/
def Walk.keep (walk : Walk) (now : Instant) (station : StationId) (known : Knowledge) : Walk :=
  let cleared := known.clearExpired now
  if cleared.isExpired then
    { walk with changes := { walk.changes with removed := walk.changes.removed + 1 } }
  else
    { walk with kept := (station, cleared) :: walk.kept }

/-- The walk with one more new station in front. -/
def Walk.add (walk : Walk) (station : StationId) (report : AwarenessReport) : Walk where
  kept := (station, { Knowledge.empty with awareness := some report }) :: walk.kept
  changes := { walk.changes with inserted := walk.changes.inserted + 1 }

/-- The walk with one more station in front whose link is taken away. -/
def Walk.detach (walk : Walk) (now : Instant) (station : StationId) (known : Knowledge) : Walk :=
  let lost := if known.awareness.isSome then 1 else 0
  let counted := { walk with
    changes := { walk.changes with detached := walk.changes.detached + lost } }
  counted.keep now station { known with awareness := none }

/-- Walks over the awareness reports and the tracked stations. -/
def walk (now : Instant) :
    List (StationId × AwarenessReport) → List (StationId × Knowledge) → Walk
  | [], [] => ⟨[], ⟨0, 0, 0⟩⟩
  | (announced, report) :: reports, [] => (walk now reports []).add announced report
  | [], (station, known) :: rest => (walk now [] rest).detach now station known
  | (announced, report) :: reports, (station, known) :: rest =>
    if precedes announced station then
      (walk now reports ((station, known) :: rest)).add announced report
    else if precedes station announced then
      (walk now ((announced, report) :: reports) rest).detach now station known
    else
      (walk now reports rest).keep now station { known with awareness := some report }
termination_by reports tracked => reports.length + tracked.length

/-- Brings the links to awareness reports up to date and forgets what has expired. -/
def synchronize (tracking : Tracking) (awareness : AwarenessStore) (now : Instant) :
    Tracking × Changes :=
  let result := walk now awareness.reports.entries tracking.objects.entries
  (⟨OrderedMap.ofList result.kept⟩, result.changes)

end Tracking

end CollectivePerception.Remote
