/-
This file says what it means that the picture of the other stations is current, and how it
comes about. A synchronisation makes a picture current if the reports in it have arrived in
order and none of them lies ahead (`Settled.isCurrent_synchronize`); a report that arrives now
keeps it current, whether it is stored or dropped (`IsCurrent.noted`). That the reports are in
order and none lies ahead is kept by both, so it holds for good.
-/

import CollectivePerception.Proofs.Remote.Tracking

namespace CollectivePerception.Remote.Tracking

/-! ### Reports that have arrived in order -/

/-- The reports of each reporter about each station are in order, and none of them lies
ahead. -/
structure Settled (tracking : Tracking) (now : Instant) : Prop where
  coherent : ∀ station, (tracking.knowledge station).Coherent
  arrived : ∀ station, ∀ entry ∈ (tracking.knowledge station).stored, entry.received ≤ now

theorem settled_empty (now : Instant) : empty.Settled now :=
  ⟨fun _ => Knowledge.coherent_empty, fun _ _ absent => absurd absent List.not_mem_nil⟩

theorem Settled.later {tracking : Tracking} {before now : Instant}
    (settled : tracking.Settled before) (order : before ≤ now) : tracking.Settled now :=
  ⟨settled.coherent, fun station entry member =>
    Int.le_trans (settled.arrived station entry member) order⟩

theorem Settled.synchronize {tracking : Tracking} {now : Instant}
    (settled : tracking.Settled now) (awareness : AwarenessStore) :
    (tracking.synchronize awareness now).1.Settled now where
  coherent station := by
    rw [knowledge_synchronize]
    exact (settled.coherent station).renewed _ now
  arrived station entry member := by
    rw [knowledge_synchronize] at member
    exact settled.arrived station entry (Knowledge.mem_stored_of_clearExpired member)

theorem Settled.noted {tracking : Tracking} {now : Instant} (settled : tracking.Settled now)
    (station reporter : StationId) {report : Report} (arrives : report.received = now)
    (policy : DuplicatePolicy) :
    (tracking.noted station reporter report policy).Settled now where
  coherent other := by
    rw [knowledge_noted]
    split
    · refine (settled.coherent station).add policy fun entry member => ?_
      rw [arrives]
      exact settled.arrived station entry (Knowledge.mem_stored_iff.mpr ⟨reporter, member⟩)
    · exact settled.coherent other
  arrived other entry member := by
    rw [knowledge_noted] at member
    split at member
    · rcases Knowledge.mem_stored_of_add member with rfl | before
      · exact Int.le_of_eq (congrArg Instant.micros arrives)
      · exact settled.arrived station entry before
    · exact settled.arrived other entry member

/-! ### Current pictures -/

/-- A picture of the other stations that agrees with the awareness reports and holds nothing
that has expired. -/
structure IsCurrent (tracking : Tracking) (awareness : AwarenessStore) (now : Instant) :
    Prop where
  /-- Of each station in it there is a link to an awareness report or a report by another. -/
  something : ∀ station known, tracking.get? station = some known →
    known.awareness ≠ none ∨ known.stored ≠ []
  /-- The link leads to the station's present awareness report, if there is one. -/
  linked : ∀ station, (tracking.knowledge station).awareness = awareness.get? station
  /-- The stations are those that announce themselves and those that others still report. -/
  mem_stations_iff : ∀ station, station ∈ tracking.stations ↔
    awareness.get? station ≠ none ∨ (tracking.knowledge station).stored ≠ []
  /-- No stored report has reached its lifetime. -/
  fresh : ∀ station, ∀ entry ∈ (tracking.knowledge station).stored,
    now.micros < entry.received.micros + lifetime.micros
  /-- Neither has the report that counts as the newest one. -/
  newest_fresh : ∀ station, ∀ newest ∈ (tracking.knowledge station).newest,
    now.micros < newest.entry.received.micros + lifetime.micros

/-- Where the links are right, what is left of the stations says that there is something of
each. -/
theorem something_of_linked {tracking : Tracking} {awareness : AwarenessStore}
    (linked : ∀ station, (tracking.knowledge station).awareness = awareness.get? station)
    (left : ∀ station, station ∈ tracking.stations ↔
      awareness.get? station ≠ none ∨ (tracking.knowledge station).stored ≠ [])
    (station : StationId) (known : Knowledge) (found : tracking.get? station = some known) :
    known.awareness ≠ none ∨ known.stored ≠ [] := by
  rw [← knowledge_of_get? found, linked]
  exact (left station).mp (mem_stations_iff.mpr ⟨known, found⟩)

/-- A station stays after a synchronisation if anything is left of it. -/
theorem mem_stations_synchronize_iff {tracking : Tracking}
    {awareness : AwarenessStore} {now : Instant} {station : StationId} :
    station ∈ (tracking.synchronize awareness now).1.stations ↔
      awareness.get? station ≠ none ∨
        ((tracking.synchronize awareness now).1.knowledge station).stored ≠ [] := by
  rw [mem_stations_iff, ← Option.isSome_iff_exists, get?_synchronize,
    Knowledge.isSome_unlessExpired_iff, Knowledge.isExpired_iff, not_and_or, knowledge_synchronize,
    Knowledge.renewed, ← Knowledge.stored_eq_nil_iff (Knowledge.filled_clearExpired _ now)]
  rfl

/-- Bringing a settled picture up to date makes it current. -/
theorem Settled.isCurrent_synchronize {tracking : Tracking} {now : Instant}
    (settled : tracking.Settled now) (awareness : AwarenessStore) :
    (tracking.synchronize awareness now).1.IsCurrent awareness now := by
  have linked (station : StationId) :
      ((tracking.synchronize awareness now).1.knowledge station).awareness =
        awareness.get? station := by
    rw [knowledge_synchronize, Knowledge.awareness_renewed]
  refine ⟨something_of_linked linked fun _ => mem_stations_synchronize_iff, linked,
    fun _ => mem_stations_synchronize_iff, fun station entry member => ?_,
    fun station newest remembered => ?_⟩
  · rw [knowledge_synchronize] at member
    exact ((settled.coherent station).linked (awareness.get? station)).lt_add_lifetime member
  · rw [knowledge_synchronize] at remembered
    exact ((settled.coherent station).linked (awareness.get? station)).newest_lt_add_lifetime
      remembered

section

variable {tracking : Tracking} {awareness : AwarenessStore} {now : Instant}
  (current : tracking.IsCurrent awareness now) {station reporter : StationId} {report : Report}
  {policy : DuplicatePolicy}

include current

theorem IsCurrent.awareness_noted (other : StationId) :
    ((tracking.noted station reporter report policy).knowledge other).awareness =
      awareness.get? other := by
  rw [knowledge_noted]
  split
  · rename_i same
    rw [Knowledge.awareness_add, same, current.linked]
  · exact current.linked other

/-- A report adds its station, unless it is dropped, and then the station is there already. -/
theorem IsCurrent.mem_noted_iff (other : StationId) :
    other ∈ (tracking.noted station reporter report policy).stations ↔
      awareness.get? other ≠ none ∨
        ((tracking.noted station reporter report policy).knowledge other).stored ≠ [] := by
  constructor
  · intro member
    rw [mem_stations_noted_iff, current.mem_stations_iff, or_assoc] at member
    refine member.imp_right fun reported => ?_
    rw [knowledge_noted]
    split
    · rename_i same
      rw [same] at reported
      exact Knowledge.stored_add_ne_nil (reported.imp_right And.right)
    · rename_i apart
      exact reported.resolve_right fun added => apart added.1
  · rintro (announced | reported)
    · have known := (current.mem_stations_iff other).mpr (.inl announced)
      exact mem_stations_noted_iff.mpr (.inl known)
    · exact mem_stations_of_stored reported

end

/-- A report that arrives now keeps a current picture current. -/
theorem IsCurrent.noted {tracking : Tracking} {awareness : AwarenessStore} {now : Instant}
    (current : tracking.IsCurrent awareness now) (station reporter : StationId)
    {report : Report} (arrives : report.received = now) (policy : DuplicatePolicy) :
    (tracking.noted station reporter report policy).IsCurrent awareness now := by
  have arrivesFresh : now.micros < report.entry.received.micros + lifetime.micros := by
    rw [Report.entry, arrives]
    exact Int.lt_add_of_pos_right _ (by decide)
  refine ⟨something_of_linked current.awareness_noted current.mem_noted_iff,
    current.awareness_noted, current.mem_noted_iff, fun other entry member => ?_,
    fun other newest remembered => ?_⟩
  · rw [knowledge_noted] at member
    split at member
    · rcases Knowledge.mem_stored_of_add member with rfl | before
      · exact arrivesFresh
      · exact current.fresh station entry before
    · exact current.fresh other entry member
  · rw [knowledge_noted] at remembered
    split at remembered
    · rcases Knowledge.mem_newest_of_add remembered with same | before
      · rw [same]
        exact arrivesFresh
      · exact current.newest_fresh station newest before
    · exact current.newest_fresh other newest remembered

end CollectivePerception.Remote.Tracking
