/-
This file states what a synchronisation with the awareness reports comes to as an operation on
sets. The stations afterwards are those that announce themselves and those of which a report is
left that has not expired; each is linked to its own awareness report or to none; and of the
reports by others exactly the expired ones are gone, if they were in order. What the walk counts
is read off step by step (`Accounts`): a step adds a new station, takes a link away, or renews
one, and it concerns a station that precedes all those that are still to come.
-/

import CollectivePerception.Proofs.OrderedMap.Difference
import CollectivePerception.Proofs.Remote.Currency

namespace CollectivePerception.Remote.Tracking

open OrderedKey

/-! ### The counts of a walk -/

/-- The counts of a walk over awareness reports and tracked stations. -/
structure Accounts (reports : List (StationId × AwarenessReport))
    (tracked : List (StationId × Knowledge)) (walk : Walk) : Prop where
  inserted : walk.changes.inserted = reports.countP fun entry => entry.1 ∉ tracked.map (·.1)
  detached : walk.changes.detached =
    tracked.countP fun entry => entry.2.awareness.isSome ∧ entry.1 ∉ reports.map (·.1)
  balance : walk.kept.length + walk.changes.removed = tracked.length + walk.changes.inserted

theorem keep_cases (walk : Walk) (now : Instant) (station : StationId) (known : Knowledge) :
    (walk.keep now station known).changes.inserted = walk.changes.inserted ∧
      (walk.keep now station known).changes.detached = walk.changes.detached ∧
      (walk.keep now station known).kept.length + (walk.keep now station known).changes.removed =
        walk.kept.length + walk.changes.removed + 1 := by
  rw [Walk.keep]
  dsimp only
  split
  · exact ⟨rfl, rfl, rfl⟩
  · exact ⟨rfl, rfl, Nat.succ_add _ _⟩

section

variable {reports : List (StationId × AwarenessReport)} {tracked : List (StationId × Knowledge)}
  {walk : Walk} {now : Instant} {station : StationId}

/-- A station that precedes those that announce themselves is none of them. -/
theorem countP_new_cons (beyond : ∀ entry ∈ reports, precedes station entry.1 = true)
    (others : List StationId) :
    (reports.countP fun entry => entry.1 ∉ station :: others) =
      reports.countP fun entry => entry.1 ∉ others := by
  refine List.countP_congr fun entry member => ?_
  rw [decide_eq_true_iff, decide_eq_true_iff,
    OrderedMap.not_mem_cons_iff_of_precedes (beyond entry member)]

/-- A station that precedes the tracked ones takes the link of none of them. -/
theorem countP_lost_cons (beyond : ∀ entry ∈ tracked, precedes station entry.1 = true)
    (others : List StationId) :
    (tracked.countP fun entry => entry.2.awareness.isSome ∧ entry.1 ∉ station :: others) =
      tracked.countP fun entry => entry.2.awareness.isSome ∧ entry.1 ∉ others := by
  refine List.countP_congr fun entry member => ?_
  rw [decide_eq_true_iff, decide_eq_true_iff,
    OrderedMap.not_mem_cons_iff_of_precedes (beyond entry member)]

/-- One more new station in front. -/
theorem Accounts.add (accounts : Accounts reports tracked walk)
    (beforeTracked : ∀ entry ∈ tracked, precedes station entry.1 = true)
    (report : AwarenessReport) :
    Accounts ((station, report) :: reports) tracked (walk.add station report) where
  inserted := by
    have absent := OrderedMap.not_mem_map_of_precedes beforeTracked
    show walk.changes.inserted + 1 = _
    rw [accounts.inserted, List.countP_cons, if_pos (decide_eq_true absent)]
  detached := by
    show walk.changes.detached = _
    rw [accounts.detached, List.map_cons, countP_lost_cons beforeTracked]
  balance := by
    have balance := accounts.balance
    show walk.kept.length + 1 + walk.changes.removed = tracked.length + (walk.changes.inserted + 1)
    omega

/-- One more station in front that loses its link, if it has one. -/
theorem Accounts.detach (accounts : Accounts reports tracked walk)
    (beforeReports : ∀ entry ∈ reports, precedes station entry.1 = true) (known : Knowledge) :
    Accounts reports ((station, known) :: tracked) (walk.detach now station known) := by
  have absent := OrderedMap.not_mem_map_of_precedes beforeReports
  rw [Walk.detach]
  obtain ⟨inserted, detached, balance⟩ := keep_cases
    { walk with changes :=
        { walk.changes with
          detached := walk.changes.detached + if known.awareness.isSome then 1 else 0 } }
    now station { known with awareness := none }
  constructor
  · rw [inserted]
    show walk.changes.inserted = _
    rw [accounts.inserted, List.map_cons, countP_new_cons beforeReports]
  · rw [detached, accounts.detached, List.countP_cons]
    simp only [absent, not_false_eq_true, and_true, decide_eq_true_eq]
  · rw [balance, inserted, List.length_cons]
    have balance := accounts.balance
    show walk.kept.length + walk.changes.removed + 1 = _ + walk.changes.inserted
    omega

/-- One more station in front whose link is renewed. -/
theorem Accounts.link (accounts : Accounts reports tracked walk)
    (beforeReports : ∀ entry ∈ reports, precedes station entry.1 = true)
    (beforeTracked : ∀ entry ∈ tracked, precedes station entry.1 = true)
    (report : AwarenessReport) (known linked : Knowledge) :
    Accounts ((station, report) :: reports) ((station, known) :: tracked)
      (walk.keep now station linked) := by
  obtain ⟨inserted, detached, balance⟩ := keep_cases walk now station linked
  constructor
  · rw [inserted, accounts.inserted, List.countP_cons_of_neg (by simp), List.map_cons,
      countP_new_cons beforeReports]
  · rw [detached, accounts.detached, List.countP_cons_of_neg (by simp), List.map_cons,
      countP_lost_cons beforeTracked]
  · have balanced := accounts.balance
    rw [balance, inserted, List.length_cons]
    omega

/-- A walk over ascending lists accounts for every station. -/
theorem walk_accounts
    (reportsAscending : reports.Pairwise fun first second => precedes first.1 second.1 = true)
    (trackedAscending : tracked.Pairwise fun first second => precedes first.1 second.1 = true) :
    Accounts reports tracked (Tracking.walk now reports tracked) := by
  induction reports, tracked using Tracking.walk.induct with
  | case1 =>
    rw [Tracking.walk]
    exact ⟨rfl, rfl, rfl⟩
  | case2 announced report reports inductionHypothesis =>
    rw [Tracking.walk]
    exact (inductionHypothesis reportsAscending.tail trackedAscending).add
      (List.forall_mem_nil _) report
  | case3 station known rest inductionHypothesis =>
    rw [Tracking.walk]
    exact (inductionHypothesis reportsAscending trackedAscending.tail).detach
      (List.forall_mem_nil _) known
  | case4 announced report reports station known rest before inductionHypothesis =>
    rw [Tracking.walk, if_pos before]
    refine (inductionHypothesis reportsAscending.tail trackedAscending).add ?_ report
    exact List.forall_mem_cons.mpr ⟨before, fun entry member => transitive _ _ _ before
      ((List.pairwise_cons.mp trackedAscending).1 entry member)⟩
  | case5 announced report reports station known rest notBefore after inductionHypothesis =>
    rw [Tracking.walk, if_neg notBefore, if_pos after]
    refine (inductionHypothesis reportsAscending trackedAscending.tail).detach ?_ known
    exact List.forall_mem_cons.mpr ⟨after, fun entry member => transitive _ _ _ after
      ((List.pairwise_cons.mp reportsAscending).1 entry member)⟩
  | case6 announced report reports station known rest notBefore notAfter inductionHypothesis =>
    obtain ⟨beyondReports, laterReports⟩ := List.pairwise_cons.mp reportsAscending
    obtain ⟨beyondTracked, laterTracked⟩ := List.pairwise_cons.mp trackedAscending
    obtain rfl : announced = station :=
      connected _ _ (by simpa using notBefore) (by simpa using notAfter)
    rw [Tracking.walk, if_neg notBefore, if_neg notBefore]
    exact (inductionHypothesis laterReports laterTracked).link beyondReports beyondTracked report
      known _

end

/-! ### The whole -/

section

variable {tracking : Tracking} {awareness : AwarenessStore} {now : Instant}

/-- The reports of a store are in order if each list in it is. -/
theorem inOrder_of_values
    (ordered : ∀ known ∈ tracking.objects.values, ∀ reports ∈ known.history.values,
      InOrder reports) (station reporter : StationId) :
    InOrder ((tracking.knowledge station).historyOf reporter) := by
  cases found : tracking.get? station with
  | none =>
    rw [knowledge, found]
    exact List.Pairwise.nil
  | some known =>
    rw [knowledge_of_get? found, Knowledge.historyOf]
    cases among : known.history.get? reporter with
    | none => exact List.Pairwise.nil
    | some reports =>
      exact ordered known (OrderedMap.mem_values_iff.mpr ⟨station, found⟩) reports
        (OrderedMap.mem_values_iff.mpr ⟨reporter, among⟩)

/-- Of reports in order a synchronisation leaves those that have not expired. -/
theorem historyOf_synchronize {station reporter : StationId}
    (inOrder : InOrder ((tracking.knowledge station).historyOf reporter)) :
    ((tracking.synchronize awareness now).1.knowledge station).historyOf reporter =
      ((tracking.knowledge station).historyOf reporter).filter
        fun entry => now < entry.received.after lifetime := by
  rw [knowledge_synchronize, Knowledge.historyOf_renewed, inOrder.dropWhile_eq_filter]

/-- A report is left of a station if one of them has not expired. -/
theorem stored_synchronize_ne_nil_iff {station : StationId}
    (inOrder : ∀ reporter, InOrder ((tracking.knowledge station).historyOf reporter)) :
    ((tracking.synchronize awareness now).1.knowledge station).stored ≠ [] ↔
      ∃ entry ∈ (tracking.knowledge station).stored, now < entry.received.after lifetime := by
  constructor
  · intro something
    obtain ⟨entry, left⟩ := List.exists_mem_of_ne_nil _ something
    obtain ⟨reporter, inside⟩ := Knowledge.mem_stored_iff.mp left
    rw [historyOf_synchronize (inOrder reporter), List.mem_filter, decide_eq_true_iff] at inside
    exact ⟨entry, Knowledge.mem_stored_iff.mpr ⟨reporter, inside.1⟩, inside.2⟩
  · rintro ⟨entry, before, fresh⟩
    obtain ⟨reporter, inside⟩ := Knowledge.mem_stored_iff.mp before
    refine List.ne_nil_of_mem (a := entry) (Knowledge.mem_stored_iff.mpr ⟨reporter, ?_⟩)
    rw [historyOf_synchronize (inOrder reporter)]
    exact List.mem_filter.mpr ⟨inside, decide_eq_true fresh⟩

/-- The entries afterwards are those that the walk leaves. -/
theorem entries_synchronize (tracking : Tracking) (awareness : AwarenessStore) (now : Instant) :
    (tracking.synchronize awareness now).1.objects.entries =
      (walk now awareness.reports.entries tracking.objects.entries).kept :=
  OrderedMap.entries_ofList
    (walk_renews awareness.reports.ascending tracking.objects.ascending).ascending

theorem get?_ne_none_iff {awareness : AwarenessStore} {station : StationId} :
    awareness.get? station ≠ none ↔ station ∈ awareness.reports.keys := by
  rw [Option.ne_none_iff_exists', OrderedMap.mem_keys_iff]
  rfl

theorem stored_of_stored_synchronize {station : StationId}
    (left : ((tracking.synchronize awareness now).1.knowledge station).stored ≠ []) :
    (tracking.knowledge station).stored ≠ [] := by
  obtain ⟨entry, member⟩ := List.exists_mem_of_ne_nil _ left
  rw [knowledge_synchronize] at member
  exact List.ne_nil_of_mem (Knowledge.mem_stored_of_clearExpired member)

/-- The new stations are those that announce themselves and were not tracked. -/
theorem countP_stations_synchronize (tracking : Tracking) (awareness : AwarenessStore)
    (now : Instant) :
    (tracking.synchronize awareness now).1.stations.countP (· ∉ tracking.stations) =
      awareness.reports.keys.countP (· ∉ tracking.stations) := by
  refine OrderedMap.countP_congr_of_nodup (OrderedMap.keys_nodup _) (OrderedMap.keys_nodup _)
    fun station => ?_
  rw [decide_eq_true_iff]
  refine and_congr_left fun absent => ?_
  have unreported : ¬((tracking.synchronize awareness now).1.knowledge station).stored ≠ [] :=
    fun left => absent (mem_stations_of_stored (stored_of_stored_synchronize left))
  exact mem_stations_synchronize_iff.trans ((or_iff_left unreported).trans get?_ne_none_iff)

/-- The links that are lost are those of the stations that have stopped announcing
themselves. -/
theorem countP_lost_links (tracking : Tracking) (awareness : AwarenessStore) (now : Instant) :
    (tracking.stations.countP fun station =>
        (tracking.knowledge station).awareness.isSome ∧
          ((tracking.synchronize awareness now).1.knowledge station).awareness.isNone) =
      tracking.objects.entries.countP fun entry =>
        entry.2.awareness.isSome ∧ entry.1 ∉ awareness.reports.keys := by
  rw [stations, OrderedMap.keys, List.countP_map]
  refine List.countP_congr fun entry member => ?_
  have found : tracking.get? entry.1 = some entry.2 := OrderedMap.get?_eq_some_iff.mpr member
  rw [Function.comp_apply, decide_eq_true_iff, decide_eq_true_iff, knowledge_of_get? found,
    knowledge_synchronize, Knowledge.awareness_renewed, Option.isNone_iff_eq_none,
    ← get?_ne_none_iff, not_not]

/-- A synchronisation leaves the stations that announce themselves and those of which a report
has not expired. Each is linked to its awareness report, if there is one, and of the reports by
others just the expired ones are gone. The counts are those of the stations that are new, of
those that lose a link, and of those that are gone. -/
theorem synchronize_reconciles_stations (tracking : Tracking) (awareness : AwarenessStore)
    (now : Instant)
    (inOrder : ∀ station reporter, InOrder ((tracking.knowledge station).historyOf reporter)) :
    let after := (tracking.synchronize awareness now).1
    let changes := (tracking.synchronize awareness now).2
    (∀ station, station ∈ after.stations ↔
      station ∈ awareness.reports.keys ∨ station ∈ tracking.stations ∧
        ∃ entry ∈ (tracking.knowledge station).stored, now < entry.received.after lifetime) ∧
      (∀ station known, after.get? station = some known →
        known.awareness = awareness.get? station) ∧
      (∀ station reporter, (after.knowledge station).historyOf reporter =
        ((tracking.knowledge station).historyOf reporter).filter
          fun entry => now < entry.received.after lifetime) ∧
      changes.inserted = awareness.reports.keys.countP (· ∉ tracking.stations) ∧
      changes.detached = tracking.stations.countP (fun station =>
        (tracking.knowledge station).awareness.isSome ∧
          (after.knowledge station).awareness.isNone) ∧
      changes.removed = tracking.stations.countP (· ∉ after.stations) := by
  intro after changes
  have accounts : Accounts awareness.reports.entries tracking.objects.entries
      (walk now awareness.reports.entries tracking.objects.entries) :=
    walk_accounts awareness.reports.ascending tracking.objects.ascending
  have inserted : changes.inserted = awareness.reports.keys.countP (· ∉ tracking.stations) := by
    rw [OrderedMap.keys, List.countP_map]
    exact accounts.inserted
  refine ⟨fun station => ?_, fun station known found => ?_,
    fun station reporter => historyOf_synchronize (inOrder station reporter), inserted, ?_, ?_⟩
  · rw [mem_stations_synchronize_iff, get?_ne_none_iff, stored_synchronize_ne_nil_iff (inOrder _)]
    refine or_congr_right (iff_and_self.mpr fun ⟨entry, stored, _⟩ => ?_)
    exact mem_stations_of_stored (List.ne_nil_of_mem stored)
  · rw [← knowledge_of_get? found, knowledge_synchronize, Knowledge.awareness_renewed]
  · rw [countP_lost_links]
    exact accounts.detached
  · refine OrderedMap.removed_eq_countP ?_
      (inserted.trans (countP_stations_synchronize tracking awareness now).symm)
    rw [OrderedMap.size, entries_synchronize]
    exact accounts.balance

end

/-! ### Four stations -/

/-- The stored reports that arrived at these instants. -/
def arrivals (millis : List Int) : List HistoryEntry :=
  millis.map fun received => ⟨.ofMillis received, Point.origin⟩

/-- Four stations are tracked: 2 and 5 announced themselves, and only of 3 and 5 there is a
report that is less than 1.1 s old at 1.2 s. -/
def fourTracked : Tracking :=
  let linked (station : StationId) := some ⟨station, .ofMillis 0, Point.origin, 0.0⟩
  let known (link : Option AwarenessReport) (history : List (StationId × List HistoryEntry)) :
      Knowledge := ⟨link, .ofList history, none⟩
  ⟨.ofList [
    (2, known (linked 2) [(7, arrivals [0, 50])]),
    (3, known none [(7, arrivals [100, 500]), (8, arrivals [0])]),
    (5, known (linked 5) [(7, arrivals [1000])]),
    (6, known none [(9, arrivals [0])])]⟩

/-- Stations 1 and 3 announce themselves. -/
def twoAnnounced : AwarenessStore :=
  let report (station : StationId) : AwarenessReport := ⟨station, .ofMillis 1000, Point.origin, 0.0⟩
  ⟨.ofList [(1, report 1), (3, report 3)]⟩

/-- At 1.2 s station 1 is new, 2 and 5 lose their links, and 2 and 6 are gone. Of station 3 one
report of one reporter is left; the one that arrived at 0.1 s has just expired. -/
theorem fourTracked_reconciles :
    let after := (fourTracked.synchronize twoAnnounced (.ofMillis 1200)).1
    let changes := (fourTracked.synchronize twoAnnounced (.ofMillis 1200)).2
    (1 ∈ after.stations ∧ 5 ∈ after.stations ∧ 2 ∉ after.stations ∧ 6 ∉ after.stations) ∧
      (after.knowledge 3).historyOf 7 = arrivals [500] ∧
      (after.knowledge 3).historyOf 8 = [] ∧
      changes.inserted = 1 ∧ changes.detached = 2 ∧ changes.removed = 2 := by
  intro after changes
  obtain ⟨mem_iff, _, histories, inserted, detached, removed⟩ :=
    synchronize_reconciles_stations fourTracked twoAnnounced (.ofMillis 1200)
      (inOrder_of_values (by decide))
  refine ⟨⟨?_, ?_, ?_, ?_⟩, histories 3 7, histories 3 8, inserted, ?_, ?_⟩
  · exact (mem_iff 1).mpr (by decide)
  · exact (mem_iff 5).mpr (by decide)
  · exact (mem_iff 2).not.mpr (by decide)
  · exact (mem_iff 6).not.mpr (by decide)
  · exact detached.trans (by decide +kernel)
  · exact removed.trans (by decide +kernel)

end CollectivePerception.Remote.Tracking
