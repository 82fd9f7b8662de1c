/-
This file says what a synchronisation and a report leave of the picture of the other
stations. The walk over the awareness reports and the tracked stations goes through both
lists by the same keys, and what it leaves of a station depends on nothing but the station's
awareness report and what was known of it (`Renews`). So a synchronisation can be read off
station by station (`get?_synchronize`, `knowledge_synchronize`), and so can the reports that
are noted afterwards (`knowledge_noted`).
-/

import CollectivePerception.Proofs.Remote.History
import CollectivePerception.Remote.Tracking

namespace CollectivePerception.Remote

open OrderedKey

/-! ### One station -/

namespace Knowledge

/-- What is known with another link to an awareness report and without what has expired. -/
def renewed (known : Knowledge) (link : Option AwarenessReport) (now : Instant) : Knowledge :=
  { known with awareness := link }.clearExpired now

/-- What is known, if there is anything. -/
def unlessExpired (known : Knowledge) : Option Knowledge :=
  if known.isExpired then none else some known

@[simp] theorem awareness_renewed (known : Knowledge) (link : Option AwarenessReport)
    (now : Instant) : (known.renewed link now).awareness = link := rfl

theorem historyOf_renewed (known : Knowledge) (link : Option AwarenessReport) (now : Instant)
    (reporter : StationId) :
    (known.renewed link now).historyOf reporter =
      (known.historyOf reporter).dropWhile (·.isExpired now) :=
  historyOf_clearExpired { known with awareness := link } now reporter

theorem Coherent.linked {known : Knowledge} (coherent : known.Coherent)
    (link : Option AwarenessReport) : ({ known with awareness := link } : Knowledge).Coherent :=
  ⟨coherent.filled, coherent.inOrder, coherent.newest_eq_none_iff, coherent.le_newest⟩

theorem Coherent.renewed {known : Knowledge} (coherent : known.Coherent)
    (link : Option AwarenessReport) (now : Instant) : (known.renewed link now).Coherent :=
  (coherent.linked link).clearExpired now

theorem isExpired_iff {known : Knowledge} :
    known.isExpired = true ↔ known.awareness = none ∧ known.history.isEmpty = true := by
  rw [isExpired, Bool.and_eq_true, Option.isNone_iff_eq_none]

/-- Knowledge with nothing left in it is empty. -/
theorem renewed_eq_empty {known : Knowledge} {link : Option AwarenessReport} {now : Instant}
    (expired : (known.renewed link now).isExpired = true) : known.renewed link now = empty := by
  obtain ⟨unlinked, nothing⟩ := isExpired_iff.mp expired
  have forgotten : (known.renewed link now).newest = none :=
    (newest_clearExpired _ now).trans (if_pos nothing)
  have history : (known.renewed link now).history = OrderedMap.empty :=
    OrderedMap.ext (List.isEmpty_iff.mp nothing)
  generalize known.renewed link now = left at unlinked forgotten history
  cases left
  simp_all [empty]

theorem isSome_unlessExpired_iff {known : Knowledge} :
    known.unlessExpired.isSome = true ↔ ¬known.isExpired = true := by
  rw [unlessExpired]
  split
  · rename_i expired
    exact iff_of_false nofun (not_not_intro expired)
  · rename_i left
    exact iff_of_true rfl left

theorem getD_unlessExpired_renewed (known : Knowledge) (link : Option AwarenessReport)
    (now : Instant) :
    (known.renewed link now).unlessExpired.getD empty = known.renewed link now := by
  rw [unlessExpired]
  split
  · rename_i expired
    exact (renewed_eq_empty expired).symm
  · rfl

end Knowledge

/-! ### The walk -/

namespace Tracking

/-- What is left of a station of which this much was known. -/
def renewal (now : Instant) (link : Option AwarenessReport) (known : Option Knowledge) :
    Option Knowledge :=
  ((known.getD Knowledge.empty).renewed link now).unlessExpired

/-- The entries that a walk leaves are in order, and each station is renewed by its own
awareness report. -/
structure Renews (now : Instant) (reports : List (StationId × AwarenessReport))
    (tracked kept : List (StationId × Knowledge)) : Prop where
  ascending : kept.Pairwise fun first second => precedes first.1 second.1 = true
  lookup_eq : ∀ station, OrderedMap.lookup station kept =
    renewal now (OrderedMap.lookup station reports) (OrderedMap.lookup station tracked)

section

variable {now : Instant} {reports : List (StationId × AwarenessReport)}
  {tracked kept : List (StationId × Knowledge)}

/-- A station that precedes all that go in precedes all that are left. -/
theorem Renews.beyond (renews : Renews now reports tracked kept) {station : StationId}
    (beforeReports : ∀ entry ∈ reports, precedes station entry.1 = true)
    (beforeTracked : ∀ entry ∈ tracked, precedes station entry.1 = true) :
    ∀ entry ∈ kept, precedes station entry.1 = true := by
  intro entry member
  have found := renews.lookup_eq entry.1
  rw [(OrderedMap.lookup_eq_some_iff renews.ascending).mpr member] at found
  cases announced : OrderedMap.lookup entry.1 reports with
  | some report =>
    exact beforeReports (entry.1, report) (OrderedMap.mem_of_lookup_eq_some announced)
  | none =>
    cases before : OrderedMap.lookup entry.1 tracked with
    | some known => exact beforeTracked (entry.1, known) (OrderedMap.mem_of_lookup_eq_some before)
    | none =>
      rw [announced, before] at found
      cases found

/-- One more station in front is renewed by itself. -/
theorem Renews.front (renews : Renews now reports tracked kept) {station : StationId}
    (beforeReports : ∀ entry ∈ reports, precedes station entry.1 = true)
    (beforeTracked : ∀ entry ∈ tracked, precedes station entry.1 = true)
    (link : Option AwarenessReport) (known : Option Knowledge) :
    Renews now ((link.map (station, ·)).toList ++ reports)
      ((known.map (station, ·)).toList ++ tracked)
      (((renewal now link known).map (station, ·)).toList ++ kept) where
  ascending := by
    have beforeKept := renews.beyond beforeReports beforeTracked
    cases renewal now link known with
    | none => exact renews.ascending
    | some left => exact List.pairwise_cons.mpr ⟨beforeKept, renews.ascending⟩
  lookup_eq := by
    intro other
    rw [OrderedMap.lookup_append_of_beyond _ (renews.beyond beforeReports beforeTracked),
      OrderedMap.lookup_append_of_beyond _ beforeReports,
      OrderedMap.lookup_append_of_beyond _ beforeTracked]
    split
    · rfl
    · exact renews.lookup_eq other

theorem kept_keep (walk : Walk) (now : Instant) (station : StationId) (known : Knowledge) :
    (walk.keep now station known).kept =
      ((known.clearExpired now).unlessExpired.map (station, ·)).toList ++ walk.kept := by
  rw [Walk.keep, Knowledge.unlessExpired]
  dsimp only
  split <;> rfl

/-- A walk over ascending lists renews every station. -/
theorem walk_renews
    (reportsAscending : reports.Pairwise fun first second => precedes first.1 second.1 = true)
    (trackedAscending : tracked.Pairwise fun first second => precedes first.1 second.1 = true) :
    Renews now reports tracked (walk now reports tracked).kept := by
  induction reports, tracked using walk.induct with
  | case1 =>
    rw [walk]
    exact ⟨List.Pairwise.nil, fun _ => rfl⟩
  | case2 announced report reports inductionHypothesis =>
    obtain ⟨beyond, later⟩ := List.pairwise_cons.mp reportsAscending
    rw [walk]
    exact (inductionHypothesis later trackedAscending).front beyond nofun (some report) none
  | case3 station known rest inductionHypothesis =>
    obtain ⟨beyond, later⟩ := List.pairwise_cons.mp trackedAscending
    rw [walk, Walk.detach, kept_keep]
    exact (inductionHypothesis reportsAscending later).front nofun beyond none (some known)
  | case4 announced report reports station known rest before inductionHypothesis =>
    obtain ⟨beyond, later⟩ := List.pairwise_cons.mp reportsAscending
    rw [walk, if_pos before]
    refine (inductionHypothesis later trackedAscending).front beyond ?_ (some report) none
    exact List.forall_mem_cons.mpr ⟨before, fun entry member => transitive _ _ _ before
      ((List.pairwise_cons.mp trackedAscending).1 entry member)⟩
  | case5 announced report reports station known rest notBefore after inductionHypothesis =>
    obtain ⟨beyond, later⟩ := List.pairwise_cons.mp trackedAscending
    rw [walk, if_neg notBefore, if_pos after, Walk.detach, kept_keep]
    refine (inductionHypothesis reportsAscending later).front ?_ beyond none (some known)
    exact List.forall_mem_cons.mpr ⟨after, fun entry member => transitive _ _ _ after
      ((List.pairwise_cons.mp reportsAscending).1 entry member)⟩
  | case6 announced report reports station known rest notBefore notAfter inductionHypothesis =>
    obtain ⟨beyondReports, laterReports⟩ := List.pairwise_cons.mp reportsAscending
    obtain ⟨beyondTracked, laterTracked⟩ := List.pairwise_cons.mp trackedAscending
    obtain rfl : announced = station :=
      connected _ _ (by simpa using notBefore) (by simpa using notAfter)
    rw [walk, if_neg notBefore, if_neg notBefore, kept_keep]
    exact (inductionHypothesis laterReports laterTracked).front beyondReports beyondTracked
      (some report) (some known)

end

/-! ### After a synchronisation -/

/-- A synchronisation renews each station by its own awareness report. -/
theorem get?_synchronize (tracking : Tracking) (awareness : AwarenessStore) (now : Instant)
    (station : StationId) :
    (tracking.synchronize awareness now).1.get? station =
      ((tracking.knowledge station).renewed (awareness.get? station) now).unlessExpired := by
  have renews : Renews now awareness.reports.entries tracking.objects.entries _ :=
    walk_renews awareness.reports.ascending tracking.objects.ascending
  show OrderedMap.lookup station (OrderedMap.ofList _).entries = _
  rw [OrderedMap.entries_ofList renews.ascending]
  exact renews.lookup_eq station

theorem knowledge_synchronize (tracking : Tracking) (awareness : AwarenessStore)
    (now : Instant) (station : StationId) :
    (tracking.synchronize awareness now).1.knowledge station =
      (tracking.knowledge station).renewed (awareness.get? station) now := by
  rw [knowledge, get?_synchronize, Knowledge.getD_unlessExpired_renewed]

theorem mem_stations_iff {tracking : Tracking} {station : StationId} :
    station ∈ tracking.stations ↔ ∃ known, tracking.get? station = some known :=
  OrderedMap.mem_keys_iff

theorem knowledge_of_get? {tracking : Tracking} {station : StationId} {known : Knowledge}
    (found : tracking.get? station = some known) : tracking.knowledge station = known := by
  rw [knowledge, found]
  rfl

/-! ### After a report -/

/-- The picture after a report about a station. A duplicate that is dropped changes nothing. -/
def noted (tracking : Tracking) (station reporter : StationId) (report : Report)
    (policy : DuplicatePolicy) : Tracking :=
  match (tracking.knowledge station).add reporter report policy with
  | (_, .duplicateDrop) => tracking
  | (known, _) => tracking.set station known

theorem get?_set (tracking : Tracking) (station other : StationId) (known : Knowledge) :
    (tracking.set station known).get? other =
      if other = station then some known else tracking.get? other :=
  OrderedMap.get?_insert tracking.objects station other known

theorem knowledge_set (tracking : Tracking) (station other : StationId) (known : Knowledge) :
    (tracking.set station known).knowledge other =
      if other = station then known else tracking.knowledge other := by
  rw [knowledge, get?_set]
  split <;> rfl

section

variable (tracking : Tracking) (station reporter : StationId) (report : Report)
  (policy : DuplicatePolicy)

/-- A report is added to what is known of its station, unless it is dropped. -/
theorem noted_eq :
    tracking.noted station reporter report policy =
      if (tracking.knowledge station).Drops reporter report.received policy then
        tracking
      else
        tracking.set station ((tracking.knowledge station).add reporter report policy).1 := by
  rw [noted]
  rcases (tracking.knowledge station).add_cases reporter report policy with
    ⟨drops, dropped⟩ | ⟨adds, _, result, _, notDropped, added⟩
  · rw [dropped, if_pos drops]
  · rw [added, if_neg adds]
    cases result with
    | duplicateDrop => exact absurd rfl notDropped
    | _ => rfl

theorem knowledge_noted (other : StationId) :
    (tracking.noted station reporter report policy).knowledge other =
      if other = station then ((tracking.knowledge station).add reporter report policy).1
      else tracking.knowledge other := by
  rw [noted_eq]
  split
  · rename_i drops
    rw [Knowledge.add_of_drops drops]
    split
    · rename_i same
      rw [same]
    · rfl
  · exact knowledge_set _ _ _ _

/-- A report joins those of its reporter about its station and leaves all others. -/
theorem historyOf_noted (other source : StationId) :
    ((tracking.noted station reporter report policy).knowledge other).historyOf source =
      if other = station ∧ source = reporter then
        (Knowledge.append ((tracking.knowledge station).historyOf reporter) report.entry policy).1
      else (tracking.knowledge other).historyOf source := by
  rw [knowledge_noted]
  by_cases same : other = station
  · rw [if_pos same, Knowledge.historyOf_add, same]
    simp only [true_and]
  · rw [if_neg same, if_neg fun both => same both.1]

end

theorem get?_noted_of_ne {tracking : Tracking} {station reporter other : StationId}
    {report : Report} {policy : DuplicatePolicy} (apart : other ≠ station) :
    (tracking.noted station reporter report policy).get? other = tracking.get? other := by
  rw [noted_eq]
  split
  · rfl
  · rw [get?_set, if_neg apart]

theorem mem_stations_noted_iff {tracking : Tracking} {station reporter other : StationId}
    {report : Report} {policy : DuplicatePolicy} :
    other ∈ (tracking.noted station reporter report policy).stations ↔
      other ∈ tracking.stations ∨
        other = station ∧ ¬(tracking.knowledge station).Drops reporter report.received policy := by
  rw [noted_eq]
  split
  · rename_i drops
    exact ⟨.inl, fun among => among.resolve_right fun added => added.2 drops⟩
  · rename_i adds
    rw [mem_stations_iff, mem_stations_iff, get?_set]
    split
    · rename_i same
      exact ⟨fun _ => .inr ⟨same, adds⟩, fun _ => ⟨_, rfl⟩⟩
    · rename_i apart
      exact ⟨.inl, fun among => among.resolve_right fun added => apart added.1⟩

theorem mem_stations_of_stored {tracking : Tracking} {station : StationId}
    (reported : (tracking.knowledge station).stored ≠ []) : station ∈ tracking.stations := by
  rw [mem_stations_iff]
  cases found : tracking.get? station with
  | some known => exact ⟨known, rfl⟩
  | none =>
    rw [knowledge, found] at reported
    exact absurd rfl reported

end Tracking

end CollectivePerception.Remote
