/-
This file proves that the reports that are kept of a reporter are the newest ones of a log
that gives up nothing, whatever the times at which they arrive and the policies for
duplicates. One more report has the same effect on both sides (`Knowledge.append_take`): what
is kept ends with the newest report of the log, so a duplicate is one on both sides, and where
the log has more reports than are kept, the oldest of these is just the one that drops out.
-/

import CollectivePerception.Proofs.Remote.Log
import CollectivePerception.Proofs.Remote.Newest

namespace CollectivePerception.Remote

/-- A report as it arrives: by whom it is, and what happens to it if it is a duplicate. -/
structure Arrival where
  reporter : StationId
  report : Report
  policy : DuplicatePolicy

/-- The log of reports that arrived, newest first. -/
def Log.ofArrivals (arrivals : List Arrival) : Log :=
  arrivals.foldl
    (fun log arrival => log.add arrival.reporter arrival.report.entry arrival.policy) []

namespace Knowledge

/-- What is known after reports, if nothing was known before. -/
def ofArrivals (arrivals : List Arrival) : Knowledge :=
  arrivals.foldl
    (fun known arrival => (known.add arrival.reporter arrival.report arrival.policy).1) empty

/-! ### What becomes of a report -/

section

variable {reports : List HistoryEntry} {entry : HistoryEntry} {policy : DuplicatePolicy}

theorem snd_append_eq_drop_iff :
    (append reports entry policy).2 = .duplicateDrop ↔
      endsAt reports entry.received = true ∧ policy = .dropOnDuplicate := by
  rcases append_cases reports entry policy with
    ⟨drops, dropped⟩ | ⟨adds, kept, result, _, notDropped, added⟩
  · rw [dropped]
    exact iff_of_true rfl drops
  · rw [added]
    exact iff_of_false notDropped adds

theorem append_of_replaces (ends : endsAt reports entry.received = true) :
    append reports entry .replaceOnDuplicate =
      (reports.dropLast ++ [entry], .duplicateReplace) := by
  unfold append
  rw [ends]

/-- A report that is no duplicate, or one that is treated like any other, is added; for it the
oldest one is given up if there are too many. -/
theorem append_of_adds (adds : ¬(endsAt reports entry.received = true ∧ policy ≠ .none)) :
    append reports entry policy =
      if capacity ≤ reports.length then (reports.tail ++ [entry], .historyReplace)
      else (reports ++ [entry], .ok) := by
  unfold append
  split
  · rename_i ends
    exact absurd ⟨ends, nofun⟩ adds
  · rename_i ends
    exact absurd ⟨ends, nofun⟩ adds
  · rfl

theorem snd_append_eq_replace_iff :
    (append reports entry policy).2 = .duplicateReplace ↔
      endsAt reports entry.received = true ∧ policy = .replaceOnDuplicate := by
  by_cases duplicate : endsAt reports entry.received = true ∧ policy ≠ .none
  · obtain ⟨ends, special⟩ := duplicate
    cases policy with
    | none => exact absurd rfl special
    | replaceOnDuplicate =>
      rw [append_of_replaces ends]
      exact iff_of_true rfl ⟨ends, rfl⟩
    | dropOnDuplicate =>
      rw [snd_append_eq_drop_iff.mpr ⟨ends, rfl⟩]
      exact iff_of_false nofun fun replaces => nomatch replaces.2
  · rw [append_of_adds duplicate]
    refine iff_of_false (fun replaced => ?_) fun ⟨ends, replaces⟩ => ?_
    · split at replaced <;> cases replaced
    · rw [replaces] at duplicate
      exact duplicate ⟨ends, nofun⟩

end

/-! ### The newest reports of a log -/

section

variable {log : List HistoryEntry} {entry : HistoryEntry} {policy : DuplicatePolicy}

/-- The newest reports end when the log does. -/
theorem endsAt_take (log : List HistoryEntry) (received : Instant) :
    endsAt (log.take capacity).reverse received =
      log.head?.any (·.received == received) := by
  rw [endsAt, List.getLast?_reverse, List.head?_take, if_neg (by decide)]

/-- So many reports are kept as there are, up to the limit. -/
theorem capacity_le_length_take :
    capacity ≤ (log.take capacity).reverse.length ↔ capacity ≤ log.length := by
  rw [List.length_reverse, List.length_take, Nat.le_min, and_iff_right (Nat.le_refl _)]

/-- With one more report in front, the newest reports are that one and all before but the
oldest of them, if there are too many. -/
theorem reverse_take_cons (log : List HistoryEntry) (entry : HistoryEntry) :
    ((entry :: log).take capacity).reverse =
      if capacity ≤ log.length then (log.take capacity).reverse.tail ++ [entry]
      else (log.take capacity).reverse ++ [entry] := by
  have positive : capacity = 11 + 1 := rfl
  rw [positive, List.take_succ_cons, List.reverse_cons]
  split
  · have others : min ((log.take (11 + 1)).length - 1) (11 + 1) = 11 := by
      rw [List.length_take]
      omega
    rw [List.tail_reverse, List.dropLast_eq_take, List.take_take, others]
  · have few : log.length ≤ 11 := by omega
    rw [List.take_of_length_le few, List.take_of_length_le (Nat.le_succ_of_le few)]

theorem extended_of_adds
    (adds : ¬(log.head?.any (·.received == entry.received) = true ∧ policy ≠ .none)) :
    Log.extended log entry policy = entry :: log := by
  unfold Log.extended
  split
  · rename_i repeats
    exact absurd ⟨repeats, nofun⟩ adds
  · rename_i repeats
    exact absurd ⟨repeats, nofun⟩ adds
  · rfl

/-- One more report has the same effect on the newest reports of a log as on the log. -/
theorem append_take (log : List HistoryEntry) (entry : HistoryEntry) (policy : DuplicatePolicy) :
    (append (log.take capacity).reverse entry policy).1 =
      ((Log.extended log entry policy).take capacity).reverse := by
  have ends := endsAt_take log entry.received
  by_cases duplicate :
    endsAt (log.take capacity).reverse entry.received = true ∧ policy ≠ .none
  · obtain ⟨repeats, special⟩ := duplicate
    unfold append Log.extended
    rw [← ends, repeats]
    cases policy with
    | none => exact absurd rfl special
    | dropOnDuplicate => rfl
    | replaceOnDuplicate =>
      cases log with
      | nil => cases repeats
      | cons first rest =>
        show ((first :: rest).take (11 + 1)).reverse.dropLast ++ [entry] =
          ((entry :: rest).take (11 + 1)).reverse
        rw [List.take_succ_cons, List.take_succ_cons, List.reverse_cons, List.reverse_cons,
          List.dropLast_concat]
  · rw [append_of_adds duplicate, apply_ite Prod.fst, extended_of_adds (ends ▸ duplicate),
      reverse_take_cons]
    simp only [capacity_le_length_take]

end

/-! ### A run of reports -/

theorem ofArrivals_concat (arrivals : List Arrival) (arrival : Arrival) :
    ofArrivals (arrivals ++ [arrival]) =
      ((ofArrivals arrivals).add arrival.reporter arrival.report arrival.policy).1 :=
  List.foldl_concat ..

theorem log_ofArrivals_concat (arrivals : List Arrival) (arrival : Arrival) :
    Log.ofArrivals (arrivals ++ [arrival]) =
      (Log.ofArrivals arrivals).add arrival.reporter arrival.report.entry arrival.policy :=
  List.foldl_concat ..

/-- What is kept of a reporter's reports are the newest ones of the log. -/
theorem historyOf_ofArrivals (arrivals : List Arrival) (reporter : StationId) :
    (ofArrivals arrivals).historyOf reporter =
      (((Log.ofArrivals arrivals).of reporter).take capacity).reverse := by
  induction arrivals using List.reverseRecOn with
  | nil => rfl
  | append_singleton earlier arrival inductionHypothesis =>
    rw [ofArrivals_concat, log_ofArrivals_concat, historyOf_add, Log.of_add]
    split
    · rename_i same
      rw [← same, inductionHypothesis, append_take]
    · exact inductionHypothesis

/-- However many reports arrive, at whatever times and under whatever policies, the reports that
are kept of each reporter are the newest ones of its log, oldest first. The next report leaves
those of all other reporters. If it arrives when the last one in its reporter's log did and the
policy says so, it is dropped, or it replaces that one; otherwise it is added, at the cost of an
older one if the log has as many as are kept. -/
theorem history_refines_log (arrivals : List Arrival) :
    let known := ofArrivals arrivals
    let log := Log.ofArrivals arrivals
    (∀ reporter, known.historyOf reporter = ((log.of reporter).take capacity).reverse) ∧
      ∀ reporter report policy,
        let added := known.add reporter report policy
        let repeats := ∃ last ∈ (log.of reporter).head?, last.received = report.received
        (∀ other, other ≠ reporter → added.1.historyOf other = known.historyOf other) ∧
          (added.2 = .duplicateDrop ↔ repeats ∧ policy = .dropOnDuplicate) ∧
          (added.2 = .duplicateReplace ↔ repeats ∧ policy = .replaceOnDuplicate) ∧
          (¬(repeats ∧ policy ≠ .none) →
            added.2 = if capacity ≤ (log.of reporter).length then .historyReplace else .ok) := by
  intro known log
  refine ⟨historyOf_ofArrivals arrivals, fun reporter report policy => ?_⟩
  intro added repeats
  have kept : known.historyOf reporter = ((log.of reporter).take capacity).reverse :=
    historyOf_ofArrivals arrivals reporter
  have ends : endsAt (known.historyOf reporter) report.entry.received = true ↔ repeats := by
    rw [kept, endsAt_take, Option.any_eq_true]
    simp only [beq_iff_eq]
    rfl
  have result : added.2 = (append (known.historyOf reporter) report.entry policy).2 := snd_add
  rw [result, ← ends]
  refine ⟨fun other apart => ?_, snd_append_eq_drop_iff, snd_append_eq_replace_iff,
    fun adds => ?_⟩
  · rw [historyOf_add, if_neg apart]
  · rw [append_of_adds adds, apply_ite Prod.snd, kept]
    simp only [capacity_le_length_take]

/-- Station 1 reports every 0.1 s, and once too often for all reports to be kept. A late report
of 0.7 s follows, whose first duplicate replaces it and whose second one is dropped. Station 2
reports once in between. -/
def unorderedArrivals : List Arrival :=
  (List.range 13).map (fun (count : Nat) => ⟨1, reportAt (100 * count), .none⟩) ++
    [⟨2, reportAt 50, .none⟩, ⟨1, reportAt 700, .none⟩, ⟨1, reportAt 700, .replaceOnDuplicate⟩,
      ⟨1, reportAt 700, .dropOnDuplicate⟩]

/-- Of fourteen reports in the log of station 1 the last twelve are kept. A further report of
0.7 s is dropped, replaces the last one or is added, as the policy says, and is no duplicate for
station 2. -/
theorem unorderedArrivals_history :
    let known := ofArrivals unorderedArrivals
    ((Log.ofArrivals unorderedArrivals).of 1).length = 14 ∧
      (known.historyOf 1).map (·.received.micros / 1000) =
        [200, 300, 400, 500, 600, 700, 800, 900, 1000, 1100, 1200, 700] ∧
      (known.add 1 (reportAt 700) .dropOnDuplicate).2 = .duplicateDrop ∧
      (known.add 1 (reportAt 700) .replaceOnDuplicate).2 = .duplicateReplace ∧
      (known.add 1 (reportAt 700) .none).2 = .historyReplace ∧
      (known.add 2 (reportAt 700) .dropOnDuplicate).2 = .ok ∧
      (known.add 1 (reportAt 700) .none).1.historyOf 2 = known.historyOf 2 := by
  intro known
  obtain ⟨kept, next⟩ := history_refines_log unorderedArrivals
  refine ⟨by decide +kernel, ?_, ?_, ?_, ?_, ?_, ?_⟩
  · rw [kept]
    decide +kernel
  · exact (next 1 (reportAt 700) .dropOnDuplicate).2.1.mpr ⟨by decide +kernel, rfl⟩
  · exact (next 1 (reportAt 700) .replaceOnDuplicate).2.2.1.mpr ⟨by decide +kernel, rfl⟩
  · exact ((next 1 (reportAt 700) .none).2.2.2 (by decide)).trans (by decide +kernel)
  · exact ((next 2 (reportAt 700) .dropOnDuplicate).2.2.2 (by decide +kernel)).trans
      (by decide +kernel)
  · exact (next 1 (reportAt 700) .none).1 2 (by decide)

end Knowledge

end CollectivePerception.Remote
