/-
This file says what is kept of the reports about one station. A report that arrives is
dropped as a duplicate, or it becomes the last of its reporter's reports, of which some
earlier ones stay (`append_cases`). Forgetting takes the expired reports at the front of each
list. As long as the reports of each reporter arrive in order, the lists are in order, so
forgetting leaves no expired report (`Knowledge.Coherent.lt_add_lifetime`), and the newest
report is not older than any other one.
-/

import CollectivePerception.Proofs.OrderedMap.Entries
import CollectivePerception.Remote.History
import Mathlib.Data.List.Basic
import Mathlib.Data.List.TakeWhile

namespace CollectivePerception.Remote

/-! ### Expired reports -/

theorem HistoryEntry.isExpired_iff {entry : HistoryEntry} {now : Instant} :
    entry.isExpired now = true ↔
      min Binary64.greatestInt64 (entry.received.micros + lifetime.micros) ≤ now.micros :=
  decide_eq_true_iff

theorem HistoryEntry.not_isExpired_iff {entry : HistoryEntry} {now : Instant} :
    ¬entry.isExpired now = true ↔ now < entry.received.after lifetime := by
  rw [isExpired, decide_eq_true_iff, Instant.le_def, Instant.lt_def, Int.not_le]

/-- A report that has not expired is younger than its lifetime. -/
theorem HistoryEntry.lt_add_lifetime {entry : HistoryEntry} {now : Instant}
    (fresh : ¬entry.isExpired now = true) :
    now.micros < entry.received.micros + lifetime.micros := by
  rw [isExpired_iff] at fresh
  omega

/-- A report that arrives does not expire at once, before time comes to its end. -/
theorem HistoryEntry.not_isExpired {entry : HistoryEntry} {now : Instant}
    (early : now.micros < Binary64.greatestInt64) (arrived : now ≤ entry.received) :
    ¬entry.isExpired now = true := by
  rw [Instant.le_def] at arrived
  rw [isExpired_iff]
  have positive : 0 < lifetime.micros := by decide
  omega

/-- What arrived before an expired report has expired too. -/
theorem HistoryEntry.isExpired_of_le {earlier later : HistoryEntry} {now : Instant}
    (order : earlier.received ≤ later.received) (expired : later.isExpired now = true) :
    earlier.isExpired now = true := by
  rw [Instant.le_def] at order
  rw [isExpired_iff] at *
  omega

/-- Reports in the order in which they arrived. -/
def InOrder (reports : List HistoryEntry) : Prop :=
  reports.Pairwise fun earlier later => earlier.received ≤ later.received

instance : DecidablePred InOrder := fun _ => inferInstanceAs (Decidable (List.Pairwise _ _))

/-- Of reports in order none is left that has expired. -/
theorem InOrder.not_isExpired_of_mem {reports : List HistoryEntry} (inOrder : InOrder reports)
    {now : Instant} {entry : HistoryEntry}
    (left : entry ∈ reports.dropWhile (·.isExpired now)) : ¬entry.isExpired now = true := by
  induction reports with
  | nil => cases left
  | cons first later inductionHypothesis =>
    obtain ⟨before, ordered⟩ := List.pairwise_cons.mp inOrder
    rw [List.dropWhile_cons] at left
    split at left
    · exact inductionHypothesis ordered left
    · rename_i fresh
      rcases List.mem_cons.mp left with rfl | member
      · exact fresh
      · exact fun expired => fresh (HistoryEntry.isExpired_of_le (before entry member) expired)

/-- Of reports in order forgetting takes exactly the expired ones. -/
theorem InOrder.dropWhile_eq_filter {reports : List HistoryEntry} (inOrder : InOrder reports)
    (now : Instant) :
    reports.dropWhile (·.isExpired now) =
      reports.filter fun entry => now < entry.received.after lifetime := by
  have taken : (reports.takeWhile (·.isExpired now)).filter
      (fun entry => now < entry.received.after lifetime) = [] := by
    refine List.filter_eq_nil_iff.mpr fun entry member fresh => ?_
    have expired : entry.isExpired now = true := by simpa using List.mem_takeWhile_imp member
    exact HistoryEntry.not_isExpired_iff.mpr (of_decide_eq_true fresh) expired
  have left : (reports.dropWhile (·.isExpired now)).filter
      (fun entry => now < entry.received.after lifetime) =
        reports.dropWhile (·.isExpired now) :=
    List.filter_eq_self.mpr fun entry member => decide_eq_true
      (HistoryEntry.not_isExpired_iff.mp (inOrder.not_isExpired_of_mem member))
  conv_rhs => rw [← List.takeWhile_append_dropWhile (p := (·.isExpired now)) (l := reports)]
  rw [List.filter_append, taken, left, List.nil_append]

/-- A report that has not expired is left. -/
theorem mem_dropWhile_of_not_isExpired {reports : List HistoryEntry} {now : Instant}
    {entry : HistoryEntry} (member : entry ∈ reports) (fresh : ¬entry.isExpired now = true) :
    entry ∈ reports.dropWhile (·.isExpired now) := by
  rw [← List.takeWhile_append_dropWhile (p := (·.isExpired now)) (l := reports)] at member
  rcases List.mem_append.mp member with taken | left
  · exact absurd (List.mem_takeWhile_imp taken) fresh
  · exact left

namespace Knowledge

/-! ### The instant of the last report -/

theorem endsAt_iff {reports : List HistoryEntry} {received : Instant} :
    endsAt reports received = true ↔
      ∃ entry ∈ reports.getLast?, entry.received = received := by
  rw [endsAt, Option.any_eq_true]
  simp only [beq_iff_eq, Option.mem_def]

theorem exists_mem_of_endsAt {reports : List HistoryEntry} {received : Instant}
    (ends : endsAt reports received = true) : ∃ entry ∈ reports, entry.received = received := by
  obtain ⟨entry, last, arrived⟩ := endsAt_iff.mp ends
  exact ⟨entry, List.mem_of_getLast? last, arrived⟩

theorem endsAt_append (kept : List HistoryEntry) (entry : HistoryEntry) :
    endsAt (kept ++ [entry]) entry.received = true :=
  endsAt_iff.mpr ⟨entry, List.getLast?_concat, rfl⟩

/-- Where a report is left after forgetting, the last one is. -/
theorem getLast?_dropWhile {reports : List HistoryEntry} {now : Instant} {entry : HistoryEntry}
    (left : entry ∈ reports.dropWhile (·.isExpired now)) :
    (reports.dropWhile (·.isExpired now)).getLast? = reports.getLast? := by
  conv_rhs =>
    rw [← List.takeWhile_append_dropWhile (p := (·.isExpired now)) (l := reports),
      List.getLast?_append_of_ne_nil _ (List.ne_nil_of_mem left)]

/-- The instant of the last report stays if that report has not expired. -/
theorem endsAt_dropWhile_iff {reports : List HistoryEntry} {now received : Instant}
    (fresh : ∀ entry ∈ reports, entry.received = received → ¬entry.isExpired now = true) :
    endsAt (reports.dropWhile (·.isExpired now)) received = true ↔
      endsAt reports received = true := by
  rw [endsAt_iff, endsAt_iff]
  constructor
  · rintro ⟨entry, last, arrived⟩
    rw [getLast?_dropWhile (List.mem_of_getLast? last)] at last
    exact ⟨entry, last, arrived⟩
  · rintro ⟨entry, last, arrived⟩
    have member := List.mem_of_getLast? last
    rw [getLast?_dropWhile (mem_dropWhile_of_not_isExpired member (fresh entry member arrived))]
    exact ⟨entry, last, arrived⟩

/-- The last report stays when the expired ones are forgotten, if it has just arrived. -/
theorem endsAt_dropWhile {reports : List HistoryEntry} {now : Instant}
    (early : now.micros < Binary64.greatestInt64) (ends : endsAt reports now = true) :
    endsAt (reports.dropWhile (·.isExpired now)) now = true :=
  (endsAt_dropWhile_iff fun entry _ arrived =>
    entry.not_isExpired early (Int.le_of_eq (congrArg Instant.micros arrived.symm))).mpr ends

/-! ### Adding a report -/

/-- A report of this reporter is dropped as a duplicate: its last one arrived at the same
instant, and the policy is to drop the later one. -/
def Drops (known : Knowledge) (reporter : StationId) (received : Instant)
    (policy : DuplicatePolicy) : Prop :=
  endsAt (known.historyOf reporter) received = true ∧ policy = .dropOnDuplicate

instance (known : Knowledge) (reporter : StationId) (received : Instant)
    (policy : DuplicatePolicy) : Decidable (known.Drops reporter received policy) :=
  inferInstanceAs (Decidable (_ ∧ _))

/-- A report is dropped as a duplicate, or it becomes the last one of its reporter. -/
theorem append_cases (reports : List HistoryEntry) (entry : HistoryEntry)
    (policy : DuplicatePolicy) :
    (endsAt reports entry.received = true ∧ policy = .dropOnDuplicate) ∧
        append reports entry policy = (reports, .duplicateDrop) ∨
      ¬(endsAt reports entry.received = true ∧ policy = .dropOnDuplicate) ∧
        ∃ kept result, kept.Sublist reports ∧ result ≠ .duplicateDrop ∧
          append reports entry policy = (kept ++ [entry], result) := by
  unfold append
  split
  · rename_i duplicate
    exact .inl ⟨⟨duplicate, rfl⟩, rfl⟩
  · rename_i duplicate
    exact .inr ⟨nofun, reports.dropLast, .duplicateReplace, List.dropLast_sublist reports,
      nofun, rfl⟩
  · rename_i notDropped notReplaced
    refine .inr ⟨fun ⟨duplicate, drops⟩ => notDropped duplicate drops, ?_⟩
    split
    · exact ⟨reports.tail, .historyReplace, List.tail_sublist reports, nofun, rfl⟩
    · exact ⟨reports, .ok, List.Sublist.refl reports, nofun, rfl⟩

/-- What a report leaves of the reports of its reporter is in their order, with itself at the
end. -/
theorem fst_append_sublist (reports : List HistoryEntry) (entry : HistoryEntry)
    (policy : DuplicatePolicy) :
    (append reports entry policy).1.Sublist (reports ++ [entry]) := by
  rcases append_cases reports entry policy with
    ⟨_, appended⟩ | ⟨_, kept, result, earlier, _, appended⟩
  · rw [appended]
    exact List.sublist_append_left reports [entry]
  · rw [appended]
    exact earlier.append (List.Sublist.refl [entry])

/-- The newest report of all after a report that was not dropped. -/
def newestAfter (known : Knowledge) (reporter : StationId) (report : Report)
    (result : InsertResult) : Option Newest :=
  if supersedes known.newest reporter report.received result then
    some ⟨reporter, report.entry, report.motion.position, report.motion.speed⟩
  else
    known.newest

/-- A report changes nothing, or it becomes the last one of its reporter and possibly the
newest of all. -/
theorem add_cases (known : Knowledge) (reporter : StationId) (report : Report)
    (policy : DuplicatePolicy) :
    known.Drops reporter report.received policy ∧
        known.add reporter report policy = (known, .duplicateDrop) ∨
      ¬known.Drops reporter report.received policy ∧
        ∃ kept result, kept.Sublist (known.historyOf reporter) ∧ result ≠ .duplicateDrop ∧
          known.add reporter report policy =
            ({ known with
              history := known.history.insert reporter (kept ++ [report.entry])
              newest := known.newestAfter reporter report result }, result) := by
  unfold add
  rcases append_cases (known.historyOf reporter) report.entry policy with
    ⟨drops, result⟩ | ⟨adds, kept, result, earlier, notDropped, appended⟩
  · rw [result]
    exact .inl ⟨drops, rfl⟩
  · rw [appended]
    refine .inr ⟨adds, kept, result, earlier, notDropped, ?_⟩
    cases result with
    | duplicateDrop => exact absurd rfl notDropped
    | _ => rfl

/-! ### The reports of one reporter -/

theorem historyOf_insert (known : Knowledge) (reporter other : StationId)
    (reports : List HistoryEntry) (newest : Option Newest) :
    ({ known with
        history := known.history.insert reporter reports
        newest := newest } : Knowledge).historyOf other =
      if other = reporter then reports else known.historyOf other := by
  rw [historyOf, OrderedMap.get?_insert]
  split <;> rfl

theorem historyOf_clearExpired (known : Knowledge) (now : Instant) (reporter : StationId) :
    (known.clearExpired now).historyOf reporter =
      (known.historyOf reporter).dropWhile (·.isExpired now) := by
  rw [historyOf, clearExpired, OrderedMap.get?_filterMap, historyOf]
  cases known.history.get? reporter with
  | none => rfl
  | some reports =>
    dsimp only [Option.bind_some, Option.getD_some]
    split
    · rename_i nothing
      rw [nothing]
      rfl
    · rfl

theorem mem_stored_iff {known : Knowledge} {entry : HistoryEntry} :
    entry ∈ known.stored ↔ ∃ reporter, entry ∈ known.historyOf reporter := by
  rw [stored, List.mem_flatten]
  constructor
  · rintro ⟨reports, member, inside⟩
    obtain ⟨reporter, found⟩ := OrderedMap.mem_values_iff.mp member
    exact ⟨reporter, by rwa [historyOf, found]⟩
  · rintro ⟨reporter, inside⟩
    rw [historyOf] at inside
    cases found : known.history.get? reporter with
    | none =>
      rw [found] at inside
      cases inside
    | some reports =>
      rw [found] at inside
      exact ⟨reports, OrderedMap.mem_values_iff.mpr ⟨reporter, found⟩, inside⟩

theorem mem_stored_of_clearExpired {known : Knowledge} {now : Instant} {entry : HistoryEntry}
    (member : entry ∈ (known.clearExpired now).stored) : entry ∈ known.stored := by
  obtain ⟨reporter, inside⟩ := mem_stored_iff.mp member
  rw [historyOf_clearExpired] at inside
  exact mem_stored_iff.mpr ⟨reporter, (List.dropWhile_sublist _).subset inside⟩

/-! ### What a report adds -/

theorem mem_stored_of_insert {known : Knowledge} {reporter : StationId}
    {kept : List HistoryEntry} {added entry : HistoryEntry} {newest : Option Newest}
    (earlier : kept.Sublist (known.historyOf reporter))
    (member : entry ∈ ({ known with
      history := known.history.insert reporter (kept ++ [added])
      newest := newest } : Knowledge).stored) : entry = added ∨ entry ∈ known.stored := by
  obtain ⟨other, inside⟩ := mem_stored_iff.mp member
  rw [historyOf_insert] at inside
  split at inside
  · rcases List.mem_append.mp inside with before | last
    · exact .inr (mem_stored_iff.mpr ⟨reporter, earlier.subset before⟩)
    · exact .inl (List.mem_singleton.mp last)
  · exact .inr (mem_stored_iff.mpr ⟨other, inside⟩)

theorem newestAfter_cases {known : Knowledge} {reporter : StationId} {report : Report}
    {result : InsertResult} {newest : Newest}
    (remembered : newest ∈ known.newestAfter reporter report result) :
    newest.entry = report.entry ∨ newest ∈ known.newest := by
  rw [newestAfter] at remembered
  split at remembered
  · cases remembered
    exact .inl rfl
  · exact .inr remembered

section

variable {known : Knowledge} {reporter : StationId} {report : Report} {policy : DuplicatePolicy}

/-- What becomes of a report is decided by the reports of its reporter. -/
theorem snd_add :
    (known.add reporter report policy).2 =
      (append (known.historyOf reporter) report.entry policy).2 := by
  rw [add]
  rcases append (known.historyOf reporter) report.entry policy with ⟨reports, _ | _ | _ | _⟩ <;>
    rfl

/-- A report joins those of its reporter and leaves all others. -/
theorem historyOf_add (other : StationId) :
    (known.add reporter report policy).1.historyOf other =
      if other = reporter then (append (known.historyOf reporter) report.entry policy).1
      else known.historyOf other := by
  rcases append_cases (known.historyOf reporter) report.entry policy with
    ⟨_, appended⟩ | ⟨_, kept, result, _, notDropped, appended⟩
  · rw [add, appended]
    by_cases same : other = reporter
    · rw [if_pos same, same]
    · rw [if_neg same]
  · rw [add, appended]
    cases result with
    | duplicateDrop => exact absurd rfl notDropped
    | _ => exact historyOf_insert known reporter other _ _

theorem awareness_add : (known.add reporter report policy).1.awareness = known.awareness := by
  rcases known.add_cases reporter report policy with
    ⟨_, dropped⟩ | ⟨_, _, _, _, _, added⟩
  · rw [dropped]
  · rw [added]

theorem add_of_drops (drops : known.Drops reporter report.received policy) :
    known.add reporter report policy = (known, .duplicateDrop) := by
  rcases known.add_cases reporter report policy with ⟨_, dropped⟩ | ⟨adds, _⟩
  · exact dropped
  · exact absurd drops adds

/-- A report that is not dropped is the last one of its reporter. -/
theorem exists_historyOf_add (adds : ¬known.Drops reporter report.received policy) :
    ∃ kept, kept.Sublist (known.historyOf reporter) ∧
      (known.add reporter report policy).1.historyOf reporter = kept ++ [report.entry] := by
  rcases known.add_cases reporter report policy with
    ⟨drops, _⟩ | ⟨_, kept, _, earlier, _, added⟩
  · exact absurd drops adds
  · refine ⟨kept, earlier, ?_⟩
    rw [added, historyOf_insert, if_pos rfl]

/-- After a report the last one of its reporter has arrived when it did, even if it was
dropped. -/
theorem endsAt_historyOf_add :
    endsAt ((known.add reporter report policy).1.historyOf reporter) report.received = true := by
  by_cases drops : known.Drops reporter report.received policy
  · rw [add_of_drops drops]
    exact drops.1
  · obtain ⟨kept, _, left⟩ := exists_historyOf_add drops
    rw [left]
    exact endsAt_append kept report.entry

theorem entry_mem_stored_add (adds : ¬known.Drops reporter report.received policy) :
    report.entry ∈ (known.add reporter report policy).1.stored := by
  obtain ⟨kept, _, left⟩ := exists_historyOf_add adds
  refine mem_stored_iff.mpr ⟨reporter, ?_⟩
  rw [left]
  exact List.mem_append_right kept List.mem_cons_self

theorem stored_add_ne_nil
    (something : known.stored ≠ [] ∨ ¬known.Drops reporter report.received policy) :
    (known.add reporter report policy).1.stored ≠ [] := by
  by_cases drops : known.Drops reporter report.received policy
  · rw [add_of_drops drops]
    exact something.resolve_right (not_not_intro drops)
  · exact List.ne_nil_of_mem (entry_mem_stored_add drops)

/-- A stored report was stored before, or it is the one that has arrived. -/
theorem mem_stored_of_add {entry : HistoryEntry}
    (member : entry ∈ (known.add reporter report policy).1.stored) :
    entry = report.entry ∨ entry ∈ known.stored := by
  rcases known.add_cases reporter report policy with
    ⟨_, dropped⟩ | ⟨_, _, _, earlier, _, added⟩
  · rw [dropped] at member
    exact .inr member
  · rw [added] at member
    exact mem_stored_of_insert earlier member

theorem mem_newest_of_add {newest : Newest}
    (remembered : newest ∈ (known.add reporter report policy).1.newest) :
    newest.entry = report.entry ∨ newest ∈ known.newest := by
  rcases known.add_cases reporter report policy with
    ⟨_, dropped⟩ | ⟨_, _, _, _, _, added⟩
  · rw [dropped] at remembered
    exact .inr remembered
  · rw [added] at remembered
    exact newestAfter_cases remembered

end

/-! ### Coherent knowledge -/

/-- What holds of the knowledge about a station whose reports arrived in order. -/
structure Coherent (known : Knowledge) : Prop where
  /-- No reporter is kept without a report. -/
  filled : ∀ reporter reports, known.history.get? reporter = some reports → reports ≠ []
  inOrder : ∀ reporter, InOrder (known.historyOf reporter)
  /-- The newest report is remembered as long as there are reports. -/
  newest_eq_none_iff : known.newest = none ↔ known.stored = []
  le_newest : ∀ newest ∈ known.newest, ∀ entry ∈ known.stored,
    entry.received ≤ newest.entry.received

theorem Coherent.exists_mem_of_newest {known : Knowledge} (coherent : known.Coherent)
    {newest : Newest} (remembered : newest ∈ known.newest) : ∃ entry, entry ∈ known.stored :=
  List.exists_mem_of_ne_nil _ fun nothing =>
    nomatch (coherent.newest_eq_none_iff.mpr nothing).symm.trans remembered

theorem coherent_empty : empty.Coherent where
  filled _ _ found := nomatch found
  inOrder _ := List.Pairwise.nil
  newest_eq_none_iff := iff_of_true rfl rfl
  le_newest _ absent := nomatch absent

/-- Where no reporter is kept without a report, there are no reports if there is no
reporter. -/
theorem stored_eq_nil_iff {known : Knowledge}
    (filled : ∀ reporter reports, known.history.get? reporter = some reports → reports ≠ []) :
    known.stored = [] ↔ known.history.isEmpty = true := by
  rw [OrderedMap.isEmpty_iff]
  constructor
  · intro nothing reporter
    cases found : known.history.get? reporter with
    | none => rfl
    | some reports =>
      obtain ⟨entry, inside⟩ := List.exists_mem_of_ne_nil _ (filled _ _ found)
      have among : entry ∈ known.stored :=
        List.mem_flatten.mpr ⟨reports, OrderedMap.mem_values_iff.mpr ⟨reporter, found⟩, inside⟩
      rw [nothing] at among
      cases among
  · intro absent
    refine List.eq_nil_iff_forall_not_mem.mpr fun entry member => ?_
    obtain ⟨reporter, inside⟩ := mem_stored_iff.mp member
    rw [historyOf, absent] at inside
    cases inside

/-! ### Forgetting -/

theorem filled_clearExpired (known : Knowledge) (now : Instant) (reporter : StationId)
    (reports : List HistoryEntry)
    (found : (known.clearExpired now).history.get? reporter = some reports) : reports ≠ [] := by
  rw [clearExpired, OrderedMap.get?_filterMap] at found
  obtain ⟨before, _, kept⟩ := Option.bind_eq_some_iff.mp found
  split at kept
  · cases kept
  · rename_i notNil
    cases kept
    exact notNil

theorem newest_clearExpired (known : Knowledge) (now : Instant) :
    (known.clearExpired now).newest =
      if (known.clearExpired now).history.isEmpty then none else known.newest := rfl

theorem Coherent.clearExpired {known : Knowledge} (coherent : known.Coherent) (now : Instant) :
    (known.clearExpired now).Coherent where
  filled := known.filled_clearExpired now
  inOrder reporter := by
    rw [historyOf_clearExpired]
    exact (coherent.inOrder reporter).sublist (List.dropWhile_sublist _)
  newest_eq_none_iff := by
    rw [newest_clearExpired, stored_eq_nil_iff (known.filled_clearExpired now)]
    split
    · rename_i nothing
      exact iff_of_true rfl nothing
    · rename_i something
      refine iff_of_false (fun forgotten => ?_) something
      rw [← stored_eq_nil_iff (known.filled_clearExpired now)] at something
      obtain ⟨entry, left⟩ := List.exists_mem_of_ne_nil _ something
      have before := mem_stored_of_clearExpired left
      rw [coherent.newest_eq_none_iff.mp forgotten] at before
      cases before
  le_newest newest remembered entry left := by
    rw [newest_clearExpired] at remembered
    split at remembered
    · cases remembered
    · exact coherent.le_newest newest remembered entry (mem_stored_of_clearExpired left)

/-- What is left after forgetting has not reached its lifetime. -/
theorem Coherent.lt_add_lifetime {known : Knowledge} (coherent : known.Coherent) {now : Instant}
    {entry : HistoryEntry} (left : entry ∈ (known.clearExpired now).stored) :
    now.micros < entry.received.micros + lifetime.micros := by
  obtain ⟨reporter, inside⟩ := mem_stored_iff.mp left
  rw [historyOf_clearExpired] at inside
  exact HistoryEntry.lt_add_lifetime ((coherent.inOrder reporter).not_isExpired_of_mem inside)

/-- Neither has the newest report, if it is still remembered. -/
theorem Coherent.not_isExpired_newest {known : Knowledge} (coherent : known.Coherent)
    {now : Instant} {newest : Newest} (remembered : newest ∈ (known.clearExpired now).newest) :
    ¬newest.entry.isExpired now = true := by
  have cleared := coherent.clearExpired now
  obtain ⟨entry, left⟩ := cleared.exists_mem_of_newest remembered
  have order := cleared.le_newest newest remembered entry left
  obtain ⟨reporter, inside⟩ := mem_stored_iff.mp left
  rw [historyOf_clearExpired] at inside
  exact fun expired => (coherent.inOrder reporter).not_isExpired_of_mem inside
    (HistoryEntry.isExpired_of_le order expired)

theorem Coherent.newest_lt_add_lifetime {known : Knowledge} (coherent : known.Coherent)
    {now : Instant} {newest : Newest} (remembered : newest ∈ (known.clearExpired now).newest) :
    now.micros < newest.entry.received.micros + lifetime.micros :=
  HistoryEntry.lt_add_lifetime (coherent.not_isExpired_newest remembered)

/-! ### Adding -/

theorem le_of_supersedes {before : Newest} {reporter : StationId} {received : Instant}
    {result : InsertResult} (overtakes : supersedes (some before) reporter received result = true) :
    before.entry.received ≤ received := by
  simp only [supersedes, Bool.or_eq_true, Bool.and_eq_true, beq_iff_eq, decide_eq_true_eq]
    at overtakes
  rcases overtakes with ⟨_, same⟩ | earlier
  · exact Int.le_of_eq (congrArg Instant.micros same)
  · exact Int.le_of_lt earlier

/-- A report that does not become the newest one of all arrived no later than that one. -/
theorem le_of_not_supersedes {newest : Option Newest} {reporter : StationId} {received : Instant}
    {result : InsertResult} (stays : ¬supersedes newest reporter received result = true) :
    ∃ before, newest = some before ∧ received ≤ before.entry.received := by
  cases newest with
  | none => exact absurd rfl stays
  | some before =>
    simp only [supersedes, Bool.or_eq_true, decide_eq_true_eq, not_or] at stays
    exact ⟨before, rfl, Int.not_lt.mp stays.2⟩

/-- Nor has it replaced that one. -/
theorem ne_duplicateReplace_of_not_supersedes {before : Newest} {received : Instant}
    {result : InsertResult}
    (stays : ¬supersedes (some before) before.reporter received result = true)
    (arrived : before.entry.received = received) : result ≠ .duplicateReplace := by
  rintro rfl
  simp [supersedes, arrived] at stays

theorem newestAfter_ne_none (known : Knowledge) (reporter : StationId) (report : Report)
    (result : InsertResult) : known.newestAfter reporter report result ≠ none := by
  intro forgotten
  rw [newestAfter] at forgotten
  split at forgotten
  · cases forgotten
  · rename_i stays
    obtain ⟨before, remembered, _⟩ := le_of_not_supersedes stays
    cases remembered.symm.trans forgotten

/-- The newest report after one more is older neither than that one nor than any other. -/
theorem Coherent.le_newestAfter {known : Knowledge} (coherent : known.Coherent)
    {reporter : StationId} {report : Report} {result : InsertResult} {newest : Newest}
    (remembered : newest ∈ known.newestAfter reporter report result) :
    report.received ≤ newest.entry.received ∧
      ∀ entry ∈ known.stored, entry.received ≤ newest.entry.received := by
  rw [newestAfter] at remembered
  split at remembered
  · rename_i overtakes
    cases remembered
    refine ⟨Int.le_refl _, fun entry before => ?_⟩
    cases former : known.newest with
    | none =>
      rw [coherent.newest_eq_none_iff.mp former] at before
      cases before
    | some newest =>
      rw [former] at overtakes
      exact Int.le_trans (coherent.le_newest newest former entry before)
        (le_of_supersedes overtakes)
  · rename_i stays
    obtain ⟨former, same, notLater⟩ := le_of_not_supersedes stays
    cases same.symm.trans remembered
    exact ⟨notLater, coherent.le_newest newest remembered⟩

/-- The knowledge stays coherent if the reporter's reports still arrive in order. -/
theorem Coherent.add {known : Knowledge} (coherent : known.Coherent) {reporter : StationId}
    {report : Report} (policy : DuplicatePolicy)
    (late : ∀ entry ∈ known.historyOf reporter, entry.received ≤ report.received) :
    (known.add reporter report policy).1.Coherent := by
  rcases known.add_cases reporter report policy with
    ⟨_, dropped⟩ | ⟨adds, kept, result, earlier, _, added⟩
  · rw [dropped]
    exact coherent
  · have stores := entry_mem_stored_add adds
    rw [added] at stores ⊢
    constructor
    · intro other reports found
      rw [OrderedMap.get?_insert] at found
      split at found
      · cases found
        exact List.append_ne_nil_of_right_ne_nil kept (List.cons_ne_nil _ _)
      · exact coherent.filled other reports found
    · intro other
      rw [historyOf_insert]
      split
      · refine List.pairwise_append.mpr ⟨(coherent.inOrder reporter).sublist earlier,
          List.pairwise_singleton _ _, fun before inside last same => ?_⟩
        rw [List.mem_singleton.mp same]
        exact late before (earlier.subset inside)
      · exact coherent.inOrder other
    · exact iff_of_false (newestAfter_ne_none _ _ _ _) (List.ne_nil_of_mem stores)
    · intro newest remembered entry member
      obtain ⟨notBefore, notOlder⟩ := coherent.le_newestAfter remembered
      rcases mem_stored_of_insert earlier member with rfl | before
      · exact notBefore
      · exact notOlder entry before

end Knowledge

end CollectivePerception.Remote
