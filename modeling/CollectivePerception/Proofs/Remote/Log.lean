/-
This file compares what is kept of the reports about a station with a log that gives up
nothing. The log takes every report that is not a duplicate to drop; what is kept loses the
oldest report of a reporter who has made too many, and the expired ones. From an instant on of
which no report has expired yet, the two still agree, reporter by reporter: either as many
recent reports are kept as are in the log, or there are as many as are kept at all in both
(`Mirrors`). One report keeps that, because the reports of a reporter come in order, so that
an older recent report is only given up where all that are kept are recent; and forgetting
keeps it, because it takes none of the recent ones.
-/

import CollectivePerception.Proofs.Remote.Tracking
import Mathlib.Data.List.Induction

namespace CollectivePerception.Remote

/-! ### The log -/

/-- The reports about one station that were not dropped, newest first, with the reporter of
each. -/
abbrev Log := List (StationId × HistoryEntry)

namespace Log

/-- Whether a logged report is by a reporter. -/
def isBy (reporter : StationId) (logged : StationId × HistoryEntry) : Bool :=
  logged.1 == reporter

/-- The reports of one reporter, newest first. -/
def of (log : Log) (reporter : StationId) : List HistoryEntry :=
  (log.filter (isBy reporter)).map (·.2)

/-- The log after one more report. A duplicate is dropped, or it takes the place of its
reporter's newest report, as the policy says. -/
def add (log : Log) (reporter : StationId) (entry : HistoryEntry) (policy : DuplicatePolicy) :
    Log :=
  match (log.of reporter).head?.any (·.received == entry.received), policy with
  | true, .dropOnDuplicate => log
  | true, .replaceOnDuplicate => (reporter, entry) :: log.eraseP (isBy reporter)
  | _, _ => (reporter, entry) :: log

/-- A reporter's reports after one more. -/
def extended (reports : List HistoryEntry) (entry : HistoryEntry) (policy : DuplicatePolicy) :
    List HistoryEntry :=
  match reports.head?.any (·.received == entry.received), policy with
  | true, .dropOnDuplicate => reports
  | true, .replaceOnDuplicate => entry :: reports.tail
  | _, _ => entry :: reports

theorem isBy_iff {reporter : StationId} {logged : StationId × HistoryEntry} :
    isBy reporter logged = true ↔ logged.1 = reporter :=
  beq_iff_eq

theorem mem_of_extended {reports : List HistoryEntry} {entry other : HistoryEntry}
    {policy : DuplicatePolicy} (member : other ∈ extended reports entry policy) :
    other = entry ∨ other ∈ reports := by
  unfold extended at member
  split at member
  · exact .inr member
  · exact (List.mem_cons.mp member).imp_right List.mem_of_mem_tail
  · exact List.mem_cons.mp member

theorem of_cons (logged : StationId × HistoryEntry) (log : Log) (reporter : StationId) :
    of (logged :: log) reporter =
      if logged.1 = reporter then logged.2 :: log.of reporter else log.of reporter := by
  rw [of]
  by_cases hit : logged.1 = reporter
  · rw [List.filter_cons_of_pos (isBy_iff.mpr hit), if_pos hit]
    rfl
  · rw [List.filter_cons_of_neg (isBy_iff.not.mpr hit), if_neg hit]
    rfl

theorem of_eraseP (log : Log) (reporter other : StationId) :
    of (log.eraseP (isBy reporter)) other =
      if other = reporter then (log.of reporter).tail else log.of other := by
  induction log with
  | nil => split <;> rfl
  | cons logged log inductionHypothesis =>
    rw [of_cons, of_cons]
    by_cases hit : logged.1 = reporter
    · rw [List.eraseP_cons_of_pos (isBy_iff.mpr hit), if_pos hit, List.tail_cons]
      split
      · rename_i same
        rw [same]
      · rename_i apart
        rw [if_neg fun same => apart (same.symm.trans hit)]
    · rw [List.eraseP_cons_of_neg (isBy_iff.not.mpr hit), if_neg hit, of_cons,
        inductionHypothesis]
      by_cases same : logged.1 = other
      · have apart : ¬other = reporter := fun equal => hit (same.trans equal)
        simp only [if_pos same, if_neg apart]
      · simp only [if_neg same]

/-- A report joins those of its reporter and leaves all others. -/
theorem of_add (log : Log) (reporter other : StationId) (entry : HistoryEntry)
    (policy : DuplicatePolicy) :
    (log.add reporter entry policy).of other =
      if other = reporter then extended (log.of reporter) entry policy else log.of other := by
  unfold add extended
  by_cases same : other = reporter
  · rw [same, if_pos rfl]
    split
    · rfl
    · rw [of_cons, if_pos rfl, of_eraseP, if_pos rfl]
    · rw [of_cons, if_pos rfl]
  · rw [if_neg same]
    split
    · rfl
    · rw [of_cons, if_neg fun equal => same equal.symm, of_eraseP, if_neg same]
    · rw [of_cons, if_neg fun equal => same equal.symm]

end Log

/-! ### Recent reports -/

/-- Whether a report arrived at an instant or later. -/
def HistoryEntry.isSince (instant : Instant) (entry : HistoryEntry) : Bool :=
  instant ≤ entry.received

theorem HistoryEntry.isSince_iff {instant : Instant} {entry : HistoryEntry} :
    entry.isSince instant = true ↔ instant ≤ entry.received :=
  decide_eq_true_iff

/-- How many of a list of reports arrived at an instant or later. -/
def countSince (instant : Instant) (reports : List HistoryEntry) : Nat :=
  reports.countP (·.isSince instant)

section

variable {instant : Instant} {entry : HistoryEntry} {reports : List HistoryEntry}

theorem countSince_cons :
    countSince instant (entry :: reports) =
      countSince instant reports + if entry.isSince instant then 1 else 0 :=
  List.countP_cons

theorem countSince_concat :
    countSince instant (reports ++ [entry]) =
      countSince instant reports + if entry.isSince instant then 1 else 0 := by
  rw [countSince, List.countP_append, List.countP_singleton]
  rfl

theorem countSince_eq_zero (old : ∀ entry ∈ reports, ¬entry.isSince instant = true) :
    countSince instant reports = 0 :=
  List.countP_eq_zero.mpr old

end

/-- From an instant on, what is kept of a reporter's reports agrees with what is logged. -/
structure Mirrors (instant : Instant) (logged kept : List HistoryEntry) : Prop where
  /-- If one of the newest reports is recent, both lists have the same instant there. -/
  last_iff : ∀ received, instant ≤ received →
    (Knowledge.endsAt kept received = true ↔
      logged.head?.any (·.received == received) = true)
  /-- As many recent reports are kept as are logged, or as many as are kept at all. -/
  count : countSince instant kept = countSince instant logged ∨
    capacity ≤ countSince instant kept ∧ capacity ≤ countSince instant logged

section

variable {instant : Instant} {logged kept : List HistoryEntry}

/-- Lists without recent reports agree. -/
theorem mirrors_of_old (oldLogged : ∀ entry ∈ logged, ¬entry.isSince instant = true)
    (oldKept : ∀ entry ∈ kept, ¬entry.isSince instant = true) : Mirrors instant logged kept where
  last_iff received recent := by
    refine iff_of_false (fun ends => ?_) fun ends => ?_
    · obtain ⟨entry, member, arrived⟩ := Knowledge.exists_mem_of_endsAt ends
      exact oldKept entry member (HistoryEntry.isSince_iff.mpr (arrived ▸ recent))
    · obtain ⟨entry, first, arrived⟩ := (Option.any_eq_true _ _).mp ends
      exact oldLogged entry (List.mem_of_mem_head? first)
        (HistoryEntry.isSince_iff.mpr (beq_iff_eq.mp arrived ▸ recent))
  count := .inl ((countSince_eq_zero oldKept).trans (countSince_eq_zero oldLogged).symm)

theorem mirrors_nil : Mirrors instant [] [] :=
  mirrors_of_old nofun nofun

/-- After the same report at the end of both lists they have the same instant there. -/
theorem mirrors_concat {entry : HistoryEntry}
    (count : countSince instant (kept ++ [entry]) = countSince instant (entry :: logged) ∨
      capacity ≤ countSince instant (kept ++ [entry]) ∧
        capacity ≤ countSince instant (entry :: logged)) :
    Mirrors instant (entry :: logged) (kept ++ [entry]) where
  last_iff received _ := by
    rw [Knowledge.endsAt, List.getLast?_concat]
    rfl
  count := count

/-- Where the oldest of the reports that are kept is recent, all are. -/
theorem countSince_of_first {first : HistoryEntry} {later : List HistoryEntry}
    (inOrder : InOrder (first :: later)) (recent : first.isSince instant = true) :
    countSince instant later = later.length := by
  refine List.countP_eq_length.mpr fun entry member => ?_
  rw [HistoryEntry.isSince_iff] at *
  exact Int.le_trans recent ((List.pairwise_cons.mp inOrder).1 entry member)

/-- One more report counts on both sides, unless the reporter's oldest recent report is given
up for it. -/
theorem Mirrors.push (mirrors : Mirrors instant logged kept) (inOrder : InOrder kept)
    {entry : HistoryEntry} (recent : entry.isSince instant = true) :
    Mirrors instant (entry :: logged)
      (if capacity ≤ kept.length then kept.tail ++ [entry] else kept ++ [entry]) := by
  have counts := mirrors.count
  split
  · rename_i full
    refine mirrors_concat ?_
    rw [countSince_cons, countSince_concat, if_pos recent]
    cases kept with
    | nil => exact absurd full (by decide)
    | cons first later =>
      rw [List.tail_cons]
      rw [List.length_cons] at full
      rw [countSince_cons] at counts
      split at counts
      · rename_i recentFirst
        have all := countSince_of_first inOrder recentFirst
        omega
      · omega
  · refine mirrors_concat ?_
    rw [countSince_cons, countSince_concat, if_pos recent]
    omega

/-- A duplicate counts for the report that it replaces. -/
theorem Mirrors.replace (mirrors : Mirrors instant logged kept) {entry : HistoryEntry}
    (ends : Knowledge.endsAt kept entry.received = true)
    (begins : logged.head?.any (·.received == entry.received) = true) :
    Mirrors instant (entry :: logged.tail) (kept.dropLast ++ [entry]) := by
  obtain ⟨last, atEnd, lastArrived⟩ := Knowledge.endsAt_iff.mp ends
  obtain ⟨first, atFront, firstArrived⟩ := (Option.any_eq_true _ _).mp begins
  have sameKept : countSince instant (kept.dropLast ++ [entry]) = countSince instant kept := by
    conv_rhs => rw [← List.dropLast_append_getLast? last atEnd]
    rw [countSince_concat, countSince_concat, HistoryEntry.isSince, HistoryEntry.isSince,
      lastArrived]
  have sameLogged : countSince instant (entry :: logged.tail) = countSince instant logged := by
    conv_rhs => rw [List.eq_cons_of_mem_head? atFront]
    rw [countSince_cons, countSince_cons, HistoryEntry.isSince, HistoryEntry.isSince,
      beq_iff_eq.mp firstArrived]
  refine mirrors_concat ?_
  rw [sameKept, sameLogged]
  exact mirrors.count

/-- One more report keeps the agreement, if it is not older than those before it. -/
theorem Mirrors.append (mirrors : Mirrors instant logged kept) (inOrder : InOrder kept)
    {entry : HistoryEntry} (lateKept : ∀ before ∈ kept, before.received ≤ entry.received)
    (lateLogged : ∀ before ∈ logged, before.received ≤ entry.received)
    (policy : DuplicatePolicy) :
    Mirrors instant (Log.extended logged entry policy)
      (Knowledge.append kept entry policy).1 := by
  by_cases recent : entry.isSince instant = true
  · have agree := mirrors.last_iff entry.received (HistoryEntry.isSince_iff.mp recent)
    have pushed := mirrors.push inOrder recent
    unfold Knowledge.append Log.extended
    rw [← Bool.eq_iff_iff.mpr agree]
    cases ends : Knowledge.endsAt kept entry.received with
    | false =>
      dsimp only
      rw [apply_ite Prod.fst]
      exact pushed
    | true =>
      cases policy with
      | none =>
        dsimp only
        rw [apply_ite Prod.fst]
        exact pushed
      | dropOnDuplicate => exact mirrors
      | replaceOnDuplicate => exact mirrors.replace ends (agree.mp ends)
  · have old {before : HistoryEntry} (late : before.received ≤ entry.received) :
        ¬before.isSince instant = true := fun recentBefore =>
      recent (HistoryEntry.isSince_iff.mpr
        (Int.le_trans (HistoryEntry.isSince_iff.mp recentBefore) late))
    refine mirrors_of_old (fun before member => ?_) fun before member => ?_
    · rcases Log.mem_of_extended member with rfl | among
      · exact recent
      · exact old (lateLogged before among)
    · rcases List.mem_append.mp ((Knowledge.fst_append_sublist kept entry policy).subset member)
        with among | last
      · exact old (lateKept before among)
      · rwa [List.mem_singleton.mp last]

/-- Forgetting keeps the agreement, if no recent report has expired. -/
theorem Mirrors.forget (mirrors : Mirrors instant logged kept) {now : Instant}
    (fresh : ∀ entry ∈ kept, entry.isSince instant = true → ¬entry.isExpired now = true) :
    Mirrors instant logged (kept.dropWhile (·.isExpired now)) where
  last_iff received recent := by
    rw [← mirrors.last_iff received recent]
    refine Knowledge.endsAt_dropWhile_iff fun entry member arrived => ?_
    exact fresh entry member (HistoryEntry.isSince_iff.mpr (arrived ▸ recent))
  count := by
    have forgotten : countSince instant (kept.takeWhile (·.isExpired now)) = 0 := by
      refine countSince_eq_zero fun entry taken recent => ?_
      have expired : entry.isExpired now = true := by simpa using List.mem_takeWhile_imp taken
      exact fresh entry ((List.takeWhile_sublist _).subset taken) recent expired
    have apart : countSince instant kept = countSince instant (kept.takeWhile (·.isExpired now)) +
        countSince instant (kept.dropWhile (·.isExpired now)) := by
      rw [countSince, countSince, countSince, ← List.countP_append,
        List.takeWhile_append_dropWhile]
    have counts := mirrors.count
    omega

end

/-! ### All reporters -/

/-- All stored reports, with their reporters. -/
def Knowledge.log (known : Knowledge) : Log :=
  known.history.entries.flatMap fun entry => entry.2.map (entry.1, ·)

theorem Knowledge.map_snd_log (known : Knowledge) : known.log.map (·.2) = known.stored := by
  rw [log, List.map_flatMap, stored, OrderedMap.values, List.flatMap_def]
  simp only [List.map_map, Function.comp_def, List.map_id']

theorem Log.of_append (first second : Log) (reporter : StationId) :
    Log.of (first ++ second) reporter = first.of reporter ++ second.of reporter := by
  rw [of, List.filter_append, List.map_append]
  rfl

theorem Log.of_map (source reporter : StationId) (reports : List HistoryEntry) :
    Log.of (reports.map (source, ·)) reporter = if source = reporter then reports else [] := by
  induction reports with
  | nil => split <;> rfl
  | cons first later inductionHypothesis =>
    rw [List.map_cons, of_cons, inductionHypothesis]
    split <;> rfl

theorem Knowledge.of_log (known : Knowledge) (reporter : StationId) :
    known.log.of reporter = known.historyOf reporter := by
  obtain ⟨_, ⟨entries, ascending⟩, _⟩ := known
  show Log.of (entries.flatMap _) reporter = (OrderedMap.lookup reporter entries).getD []
  induction entries with
  | nil => rfl
  | cons entry rest inductionHypothesis =>
    obtain ⟨source, reports⟩ := entry
    obtain ⟨beyond, tail⟩ := List.pairwise_cons.mp ascending
    have found := OrderedMap.lookup_append_of_beyond (some reports) beyond reporter
    rw [List.flatMap_cons, Log.of_append, Log.of_map, inductionHypothesis tail]
    rw [Option.map_some, Option.toList_some, List.singleton_append] at found
    rw [found]
    by_cases same : source = reporter
    · rw [if_pos same, if_pos same.symm, ← same, OrderedMap.lookup_eq_none beyond]
      exact List.append_nil reports
    · rw [if_neg same, if_neg fun equal => same equal.symm, List.nil_append]

theorem Log.count_reporters (log : Log) (condition : HistoryEntry → Bool) (reporter : StationId) :
    ((log.filter fun logged => condition logged.2).map (·.1)).count reporter =
      (log.of reporter).countP condition := by
  rw [List.count, List.countP_map, List.countP_filter, of, List.countP_map, List.countP_filter]
  exact List.countP_congr fun logged _ => by
    simp only [Function.comp_apply, Bool.and_eq_true, isBy, and_comm]

/-- Logs that agree in number for each reporter agree in number. -/
theorem Log.countP_eq_of_forall_of {first second : Log} (condition : HistoryEntry → Bool)
    (same : ∀ reporter, (first.of reporter).countP condition =
      (second.of reporter).countP condition) :
    (first.countP fun logged => condition logged.2) =
      second.countP fun logged => condition logged.2 := by
  have reporters : ((first.filter fun logged => condition logged.2).map (·.1)).Perm
      ((second.filter fun logged => condition logged.2).map (·.1)) :=
    List.perm_iff_count.mpr fun reporter => by
      rw [count_reporters, count_reporters, same reporter]
  have lengths := reporters.length_eq
  rwa [List.length_map, List.length_map, ← List.countP_eq_length_filter,
    ← List.countP_eq_length_filter] at lengths

theorem Log.countP_of_le (log : Log) (condition : HistoryEntry → Bool) (reporter : StationId) :
    (log.of reporter).countP condition ≤ log.countP fun logged => condition logged.2 := by
  rw [of, List.countP_map, List.countP_filter]
  exact List.countP_mono_left fun logged _ holds => (Bool.and_eq_true_iff.mp holds).1

/-- A number of reports that is less than what is kept of one reporter is exceeded on both sides
or on none. -/
theorem Log.lt_countP_iff {instant : Instant} {kept logged : Log} {number : Nat}
    (few : number < capacity)
    (agree : ∀ reporter, countSince instant (kept.of reporter) =
        countSince instant (logged.of reporter) ∨
      capacity ≤ countSince instant (kept.of reporter) ∧
        capacity ≤ countSince instant (logged.of reporter)) :
    (number < kept.countP fun report => report.2.isSince instant) ↔
      number < logged.countP fun report => report.2.isSince instant := by
  by_cases all : ∀ reporter, countSince instant (kept.of reporter) =
      countSince instant (logged.of reporter)
  · rw [countP_eq_of_forall_of (·.isSince instant) all]
  · obtain ⟨reporter, differ⟩ := not_forall.mp all
    obtain ⟨manyKept, manyLogged⟩ := (agree reporter).resolve_left differ
    have atMostKept := kept.countP_of_le (·.isSince instant) reporter
    have atMostLogged := logged.countP_of_le (·.isSince instant) reporter
    rw [countSince] at manyKept manyLogged
    omega

end CollectivePerception.Remote
