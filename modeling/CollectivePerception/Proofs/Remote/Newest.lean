/-
This file proves that what is remembered as the newest report about a station does not go
stale. It is kept apart from the lists of reports, it is only overtaken by a later one, and it
is forgotten with the last report of all; meanwhile reports leave the lists because they have
expired, because there are too many by one reporter, or because another one takes their place.
As long as each reporter's reports arrive in order, a report has always arrived at the same
instant as the newest one (`Accurate.attained`). One that gives way to a later report of its
reporter leaves that one behind, which is not older; and if it expires, all others have.
-/

import CollectivePerception.Proofs.Remote.History
import Mathlib.Data.List.Induction
import Mathlib.Order.Bounds.Defs

namespace CollectivePerception.Remote

/-! ### Runs -/

/-- Something that changes what is known of a station: a report about it arrives, or the
expired reports are forgotten. -/
inductive Update
  | add (reporter : StationId) (report : Report) (policy : DuplicatePolicy)
  | clearExpired (now : Instant)

/-- Two reports by one reporter arrive in order. -/
def Update.Precedes : Update → Update → Prop
  | .add reporter earlier _, .add source later _ =>
    source = reporter → earlier.received ≤ later.received
  | _, _ => True

instance : DecidableRel Update.Precedes
  | .add reporter earlier _, .add source later _ =>
    inferInstanceAs (Decidable (source = reporter → earlier.received ≤ later.received))
  | .add _ _ _, .clearExpired _ | .clearExpired _, _ => instDecidableTrue

/-- The reports of each reporter arrive in order. -/
def Chronological (updates : List Update) : Prop := updates.Pairwise Update.Precedes

instance : DecidablePred Chronological := fun _ => inferInstanceAs (Decidable (List.Pairwise _ _))

namespace Knowledge

/-- What is known after an update. -/
def updated (known : Knowledge) : Update → Knowledge
  | .add reporter report policy => (known.add reporter report policy).1
  | .clearExpired now => known.clearExpired now

/-- What is known after updates, if nothing was known before. -/
def ofUpdates (updates : List Update) : Knowledge := updates.foldl updated empty

theorem ofUpdates_concat (updates : List Update) (update : Update) :
    ofUpdates (updates ++ [update]) = (ofUpdates updates).updated update :=
  List.foldl_concat ..

/-- What is stored after an update has arrived with it, or it was stored before. -/
theorem mem_historyOf_updated {known : Knowledge} {update : Update} {reporter : StationId}
    {entry : HistoryEntry} (member : entry ∈ (known.updated update).historyOf reporter) :
    (∃ report policy, update = .add reporter report policy ∧ report.entry = entry) ∨
      entry ∈ known.historyOf reporter := by
  cases update with
  | add source report policy =>
    rw [updated, historyOf_add] at member
    split at member
    · rename_i same
      obtain rfl := same
      rcases List.mem_append.mp ((fst_append_sublist _ _ _).subset member) with before | last
      · exact .inr before
      · exact .inl ⟨report, policy, rfl, (List.mem_singleton.mp last).symm⟩
    · exact .inr member
  | clearExpired now =>
    rw [updated, historyOf_clearExpired] at member
    exact .inr ((List.dropWhile_sublist _).subset member)

/-- What is stored has arrived with one of the updates. -/
theorem exists_of_mem_historyOf {updates : List Update} {reporter : StationId}
    {entry : HistoryEntry} (member : entry ∈ (ofUpdates updates).historyOf reporter) :
    ∃ report policy, Update.add reporter report policy ∈ updates ∧ report.entry = entry := by
  induction updates using List.reverseRecOn with
  | nil => cases member
  | append_singleton updates update inductionHypothesis =>
    rw [ofUpdates_concat] at member
    rcases mem_historyOf_updated member with ⟨report, policy, rfl, same⟩ | before
    · exact ⟨report, policy, List.mem_append_right _ List.mem_cons_self, same⟩
    · obtain ⟨report, policy, inside, same⟩ := inductionHypothesis before
      exact ⟨report, policy, List.mem_append_left _ inside, same⟩

/-! ### The invariant -/

/-- What holds of the knowledge about a station whose reports arrived in order and were stored
one by one. -/
structure Accurate (known : Knowledge) : Prop extends known.Coherent where
  bounded : ∀ reporter, (known.historyOf reporter).length ≤ capacity
  /-- A stored report has arrived when the newest one has. -/
  attained : ∀ newest ∈ known.newest, ∃ entry ∈ known.stored,
    entry.received = newest.entry.received

theorem accurate_empty : empty.Accurate where
  toCoherent := coherent_empty
  bounded _ := Nat.zero_le _
  attained _ absent := nomatch absent

/-- A list that is not too long is not too long after one more report. -/
theorem length_append_le {reports : List HistoryEntry} (few : reports.length ≤ capacity)
    (entry : HistoryEntry) (policy : DuplicatePolicy) :
    (append reports entry policy).1.length ≤ capacity := by
  have positive : 0 < capacity := by decide
  unfold append
  split
  · exact few
  · rw [List.length_append, List.length_dropLast, List.length_singleton]
    omega
  · split
    · rw [List.length_append, List.length_tail, List.length_singleton]
      omega
    · rename_i room
      rw [List.length_append, List.length_singleton]
      omega

section

variable {known : Knowledge} {reporter : StationId} {report : Report} {policy : DuplicatePolicy}

/-- A stored report is still there after one more, or it has given way to that one. -/
theorem mem_stored_add_or {entry : HistoryEntry} (member : entry ∈ known.stored) :
    entry ∈ (known.add reporter report policy).1.stored ∨
      entry ∈ known.historyOf reporter := by
  obtain ⟨other, inside⟩ := mem_stored_iff.mp member
  by_cases same : other = reporter
  · exact .inr (same ▸ inside)
  · refine .inl (mem_stored_iff.mpr ⟨other, ?_⟩)
    rwa [historyOf_add, if_neg same]

/-- The newest report after one more is that one, or it is the newest before and the other one
was dropped or does not take its place. -/
theorem newest_add_cases {newest : Newest}
    (remembered : newest ∈ (known.add reporter report policy).1.newest) :
    known.Drops reporter report.received policy ∧ newest ∈ known.newest ∨
      ¬known.Drops reporter report.received policy ∧
        (newest = ⟨reporter, report.entry, report.motion.position, report.motion.speed⟩ ∨
          newest ∈ known.newest ∧
            ¬supersedes (some newest) reporter report.received
              (known.add reporter report policy).2 = true) := by
  rcases known.add_cases reporter report policy with
    ⟨drops, dropped⟩ | ⟨adds, kept, result, _, _, added⟩
  · rw [dropped] at remembered
    exact .inl ⟨drops, remembered⟩
  · rw [added] at remembered ⊢
    have remembered : newest ∈ known.newestAfter reporter report result := remembered
    refine .inr ⟨adds, ?_⟩
    rw [newestAfter] at remembered
    split at remembered
    · cases remembered
      exact .inl rfl
    · rename_i stays
      have same : known.newest = some newest := remembered
      exact .inr ⟨remembered, same ▸ stays⟩

/-- A report that arrives after its reporter's others keeps the newest one backed. -/
theorem Accurate.add (accurate : known.Accurate) (policy : DuplicatePolicy)
    (late : ∀ entry ∈ known.historyOf reporter, entry.received ≤ report.received) :
    (known.add reporter report policy).1.Accurate where
  toCoherent := accurate.toCoherent.add policy late
  bounded other := by
    rw [historyOf_add]
    split
    · exact length_append_le (accurate.bounded reporter) report.entry policy
    · exact accurate.bounded other
  attained newest remembered := by
    rcases newest_add_cases remembered with ⟨drops, before⟩ | ⟨adds, rfl | ⟨before, stays⟩⟩
    · rw [add_of_drops drops]
      exact accurate.attained newest before
    · exact ⟨report.entry, entry_mem_stored_add adds, rfl⟩
    · obtain ⟨_, same, notLater⟩ := le_of_not_supersedes stays
      cases same
      obtain ⟨entry, stored, arrived⟩ := accurate.attained newest before
      rcases mem_stored_add_or stored with left | given
      · exact ⟨entry, left, arrived⟩
      · -- The report that it gave way to has arrived at the same instant.
        have notEarlier := late entry given
        rw [arrived] at notEarlier
        exact ⟨report.entry, entry_mem_stored_add adds,
          congrArg Instant.mk (Int.le_antisymm notLater notEarlier)⟩

/-- As long as something is left after forgetting, what arrived with the newest report is. -/
theorem Accurate.clearExpired (accurate : known.Accurate) (now : Instant) :
    (known.clearExpired now).Accurate where
  toCoherent := accurate.toCoherent.clearExpired now
  bounded other := by
    rw [historyOf_clearExpired]
    exact (List.dropWhile_sublist _).length_le.trans (accurate.bounded other)
  attained newest remembered := by
    have fresh := accurate.toCoherent.not_isExpired_newest remembered
    rw [newest_clearExpired] at remembered
    split at remembered
    · cases remembered
    · obtain ⟨entry, stored, arrived⟩ := accurate.attained newest remembered
      obtain ⟨other, before⟩ := mem_stored_iff.mp stored
      have stays : ¬entry.isExpired now = true := fun expired =>
        fresh (HistoryEntry.isExpired_of_le (Int.le_of_eq (congrArg _ arrived.symm)) expired)
      refine ⟨entry, mem_stored_iff.mpr ⟨other, ?_⟩, arrived⟩
      rw [historyOf_clearExpired]
      exact mem_dropWhile_of_not_isExpired before stays

end

/-- Updates in which each reporter's reports arrive in order keep the newest report backed. -/
theorem accurate_ofUpdates {updates : List Update} (chronological : Chronological updates) :
    (ofUpdates updates).Accurate := by
  induction updates using List.reverseRecOn with
  | nil => exact accurate_empty
  | append_singleton updates update inductionHypothesis =>
    obtain ⟨earlier, _, before⟩ := List.pairwise_append.mp chronological
    have accurate := inductionHypothesis earlier
    rw [ofUpdates_concat]
    cases update with
    | add reporter report policy =>
      refine accurate.add policy fun entry member => ?_
      obtain ⟨arrival, _, inside, rfl⟩ := exists_of_mem_historyOf member
      exact before _ inside _ List.mem_cons_self rfl
    | clearExpired now => exact accurate.clearExpired now

/-! ### The whole -/

theorem isSome_newestReport {known : Knowledge} :
    known.newestReport.isSome = true ↔ known.newest ≠ none := by
  rw [newestReport, Option.isSome_map, Option.isSome_iff_ne_none]

theorem isSome_aggregate {known : Knowledge} :
    known.aggregate.isSome = true ↔ known.newest ≠ none := by
  rw [aggregate, Option.isSome_map, Option.isSome_iff_ne_none]

/-- However reports by any number of reporters arrive, each reporter's in order, and whenever
the expired ones are forgotten: no list of reports is empty, too long or out of order, the
newest report is remembered as long as there are any, none arrived later and one arrived just
then, and forgetting takes exactly what has expired. -/
theorem newest_isGreatest (updates : List Update) (chronological : Chronological updates) :
    let known := ofUpdates updates
    (∀ reporter reports, known.history.get? reporter = some reports →
      reports ≠ [] ∧ reports.length ≤ capacity ∧ InOrder reports) ∧
      (known.newestReport.isSome ↔ known.stored ≠ []) ∧
      (known.aggregate.isSome ↔ known.stored ≠ []) ∧
      (∀ newest ∈ known.newestReport,
        IsGreatest {received | ∃ entry ∈ known.stored, entry.received = received}
          newest.received) ∧
      ∀ now reporter, (known.clearExpired now).historyOf reporter =
        (known.historyOf reporter).filter fun entry => now < entry.received.after lifetime := by
  intro known
  have accurate : known.Accurate := accurate_ofUpdates chronological
  have remembered : known.newest ≠ none ↔ known.stored ≠ [] := accurate.newest_eq_none_iff.not
  refine ⟨fun reporter reports found => ?_, isSome_newestReport.trans remembered,
    isSome_aggregate.trans remembered, fun newest among => ?_, fun now reporter => ?_⟩
  · have bounded := accurate.bounded reporter
    have inOrder := accurate.inOrder reporter
    rw [historyOf, found] at bounded inOrder
    exact ⟨accurate.filled reporter reports found, bounded, inOrder⟩
  · obtain ⟨cached, same, rfl⟩ := Option.map_eq_some_iff.mp among
    refine ⟨accurate.attained cached same, ?_⟩
    rintro _ ⟨entry, stored, rfl⟩
    exact accurate.le_newest cached same entry stored
  · rw [historyOf_clearExpired, (accurate.inOrder reporter).dropWhile_eq_filter]

/-- A report that arrives after so many milliseconds. -/
def reportAt (millis : Int) : Report :=
  ⟨.ofMillis millis, Point.origin, ⟨.ofMillis millis, Point.origin, 0.0, Angle.zero⟩⟩

/-- Station 1 reports every 0.1 s, and once too often for all reports to be kept. Station 2
reports three times at 1.2 s, of which the second report is dropped and the third takes the
place of the first. What has expired at 2.25 s is forgotten, and station 1 reports again. -/
def mixedUpdates : List Update :=
  (List.range 13).map (fun (count : Nat) => .add 1 (reportAt (100 * count)) .none) ++
    [.add 2 (reportAt 1200) .none, .add 2 (reportAt 1200) .dropOnDuplicate,
      .add 2 (reportAt 1200) .replaceOnDuplicate, .clearExpired (.ofMillis 2250),
      .add 1 (reportAt 1300) .none]

/-- Three reports are left, of which the one at 1.3 s is the newest; it alone has not expired
at 2.35 s. -/
theorem mixedUpdates_newest :
    let known := ofUpdates mixedUpdates
    let later := known.clearExpired (.ofMillis 2350)
    known.stored.length = 3 ∧
      known.newestReport.map (·.received) = some (.ofMillis 1300) ∧
      IsGreatest {received | ∃ entry ∈ known.stored, entry.received = received}
        (.ofMillis 1300) ∧
      (later.historyOf 1).map (·.received) = [.ofMillis 1300] ∧ later.historyOf 2 = [] := by
  intro known later
  obtain ⟨_, _, _, greatest, cleared⟩ := newest_isGreatest mixedUpdates (by decide +kernel)
  have received : known.newestReport.map (·.received) = some (.ofMillis 1300) := by
    decide +kernel
  obtain ⟨newest, remembered, arrived⟩ := Option.map_eq_some_iff.mp received
  refine ⟨by decide +kernel, received, arrived ▸ greatest newest remembered, ?_, ?_⟩
  · rw [cleared]
    decide +kernel
  · rw [cleared, ← List.length_eq_zero_iff]
    decide +kernel

end Knowledge

end CollectivePerception.Remote
