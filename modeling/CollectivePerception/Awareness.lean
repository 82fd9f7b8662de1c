/-
This file defines the store of awareness reports, in which every station in radio
range announces itself. The store keeps the latest report of each station and forgets
it after a fixed lifetime.
-/

import CollectivePerception.OrderedMap
import CollectivePerception.Station

namespace CollectivePerception

/-- What the engine uses of a station's announcement of itself. -/
structure AwarenessReport where
  station : StationId
  received : Instant
  position : Point
  speed : Float
deriving Inhabited

/-- The latest report of each station. -/
structure AwarenessStore where
  reports : OrderedMap StationId AwarenessReport

namespace AwarenessStore

/-- For how long a report is remembered. -/
def lifetime : Duration := Duration.ofMillis 1100

def empty : AwarenessStore := ⟨OrderedMap.empty⟩

instance : Inhabited AwarenessStore := ⟨empty⟩

def get? (store : AwarenessStore) (station : StationId) : Option AwarenessReport :=
  store.reports.get? station

/-- Stores a report in the place of an older one of the same station. -/
def update (store : AwarenessStore) (report : AwarenessReport) : AwarenessStore :=
  ⟨store.reports.insert report.station report⟩

/-- Forgets the reports that have reached their lifetime. -/
def expire (store : AwarenessStore) (now : Instant) : AwarenessStore :=
  ⟨store.reports.filter fun _ report => now < report.received.after lifetime⟩

end AwarenessStore

end CollectivePerception
