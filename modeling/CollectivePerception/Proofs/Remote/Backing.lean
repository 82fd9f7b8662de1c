/-
This file says when the newest report about a station is still among those that are stored. A
report that arrives at the same instant as the newest one does not take its place, unless it
replaces it, but it is stored after it. So others can crowd around the newest report in the
list of its reporter (`Trailed`), and as many of them as a list can hold push it out, although
it is still remembered as the newest. Nothing else parts the two: a later report takes its
place, and it does not expire before the reports that arrived with it.
-/

import CollectivePerception.Proofs.Remote.Newest
import CollectivePerception.Proofs.Remote.Retention

namespace CollectivePerception.Remote

/-- The report that an update adds to a reporter's list even beside a duplicate. -/
def Update.beside (reporter : StationId) : Update → Option HistoryEntry
  | .add source report .none => if source = reporter then some report.entry else none
  | .add _ _ _ | .clearExpired _ => none

namespace Knowledge

/-- The reports that updates add to a reporter's list even beside duplicates, oldest first. -/
def crowd (reporter : StationId) (updates : List Update) : List HistoryEntry :=
  updates.filterMap (Update.beside reporter)

theorem crowd_concat (reporter : StationId) (updates : List Update) (update : Update) :
    crowd reporter (updates ++ [update]) =
      crowd reporter updates ++ (update.beside reporter).toList := by
  rw [crowd, List.filterMap_append]
  cases found : update.beside reporter <;> simp [crowd, found]

/-- In the list of its reporter the newest report is followed by a crowd that arrived with it.
Of all these and some earlier reports as many are kept as there is room for. -/
structure Trailed (known : Knowledge) (newest : Newest) (crowd : List HistoryEntry) : Prop where
  simultaneous : ∀ entry ∈ crowd, entry.received = newest.entry.received
  kept : ∃ earlier, known.historyOf newest.reporter =
    ((crowd.reverse ++ newest.entry :: earlier).take capacity).reverse

section

variable {known : Knowledge} {newest : Newest} {crowd : List HistoryEntry}

/-- The reporter's last report arrived with the newest one. -/
theorem Trailed.endsAt_historyOf (trailed : known.Trailed newest crowd) :
    endsAt (known.historyOf newest.reporter) newest.entry.received = true := by
  obtain ⟨earlier, kept⟩ := trailed.kept
  rw [kept, endsAt_take]
  cases last : crowd.reverse with
  | nil => simp
  | cons first rest =>
    have member : first ∈ crowd := List.mem_reverse.mp (last ▸ List.mem_cons_self)
    simp [trailed.simultaneous first member]

/-- With fewer followers than there is room for, the newest report is in the list. -/
theorem Trailed.exists_append (trailed : known.Trailed newest crowd)
    (few : crowd.length < capacity) :
    ∃ earlier : List HistoryEntry, earlier.length + crowd.length < capacity ∧
      known.historyOf newest.reporter = earlier ++ newest.entry :: crowd := by
  obtain ⟨earlier, kept⟩ := trailed.kept
  obtain ⟨room, rest⟩ := Nat.exists_eq_add_of_lt few
  have left : capacity - crowd.length = room + 1 := by omega
  refine ⟨(earlier.take room).reverse, ?_, ?_⟩
  · rw [List.length_reverse, List.length_take]
    omega
  · rw [kept, List.take_append, List.length_reverse, left, List.take_succ_cons,
      List.take_of_length_le (by rw [List.length_reverse]; omega), List.reverse_append,
      List.reverse_reverse, List.reverse_cons, List.append_assoc, List.singleton_append]

theorem Trailed.mem_stored (trailed : known.Trailed newest crowd)
    (few : crowd.length < capacity) : newest.entry ∈ known.stored := by
  obtain ⟨earlier, _, kept⟩ := trailed.exists_append few
  refine mem_stored_iff.mpr ⟨newest.reporter, ?_⟩
  rw [kept]
  exact List.mem_append_right earlier List.mem_cons_self

/-- Where all reports have room, the newest one is in the list. -/
theorem trailed_of_append (earlier : List HistoryEntry)
    (simultaneous : ∀ entry ∈ crowd, entry.received = newest.entry.received)
    (room : earlier.length + crowd.length < capacity)
    (kept : known.historyOf newest.reporter = earlier ++ newest.entry :: crowd) :
    known.Trailed newest crowd where
  simultaneous := simultaneous
  kept := by
    refine ⟨earlier.reverse, ?_⟩
    rw [kept, List.take_of_length_le]
    · simp
    · simp only [List.length_append, List.length_reverse, List.length_cons]
      omega

/-- Otherwise nothing but the last of the followers is left of its reporter. -/
theorem Trailed.historyOf_eq (trailed : known.Trailed newest crowd)
    (many : capacity ≤ crowd.length) :
    known.historyOf newest.reporter = crowd.drop (crowd.length - capacity) := by
  obtain ⟨earlier, kept⟩ := trailed.kept
  rw [kept, List.take_append_of_le_length (by rwa [List.length_reverse]), List.reverse_take,
    List.reverse_reverse, List.length_reverse]

/-! ### Updates -/

/-- Forgetting leaves the newest report and all that arrived with it, if they have not
expired. -/
theorem Trailed.clearExpired (trailed : known.Trailed newest crowd) {now : Instant}
    (fresh : ¬newest.entry.isExpired now = true) :
    (known.clearExpired now).Trailed newest crowd := by
  rcases Nat.lt_or_ge crowd.length capacity with few | many
  · obtain ⟨earlier, room, kept⟩ := trailed.exists_append few
    refine trailed_of_append (earlier.dropWhile (·.isExpired now)) trailed.simultaneous ?_ ?_
    · have shorter := (List.dropWhile_sublist (l := earlier) (·.isExpired now)).length_le
      omega
    · have stays : (newest.entry :: crowd).dropWhile (·.isExpired now) = newest.entry :: crowd :=
        List.dropWhile_cons_of_neg fresh
      rw [historyOf_clearExpired, kept, List.dropWhile_append, stays]
      split
      · rename_i nothing
        rw [List.isEmpty_iff.mp nothing, List.nil_append]
      · rfl
  · have unchanged : (known.clearExpired now).historyOf newest.reporter =
        known.historyOf newest.reporter := by
      rw [historyOf_clearExpired, trailed.historyOf_eq many]
      cases left : crowd.drop (crowd.length - capacity) with
      | nil => rfl
      | cons first rest =>
        have member : first ∈ crowd := List.mem_of_mem_drop (left ▸ List.mem_cons_self)
        refine List.dropWhile_cons_of_neg fun expired => fresh ?_
        exact HistoryEntry.isExpired_of_le
          (Int.le_of_eq (congrArg _ (trailed.simultaneous first member).symm)) expired
    exact ⟨trailed.simultaneous, unchanged ▸ trailed.kept⟩

/-- A report that is added beside the newest one of its reporter follows it. -/
theorem Trailed.follow (trailed : known.Trailed newest crowd) {report : Report}
    (arrived : report.received = newest.entry.received) :
    (known.add newest.reporter report .none).1.Trailed newest (crowd ++ [report.entry]) where
  simultaneous := List.forall_mem_append.mpr
    ⟨trailed.simultaneous, List.forall_mem_singleton.mpr arrived⟩
  kept := by
    obtain ⟨earlier, kept⟩ := trailed.kept
    refine ⟨earlier, ?_⟩
    rw [historyOf_add, if_pos rfl, kept, append_take, extended_of_adds fun both => both.2 rfl,
      List.reverse_append]
    rfl

/-- A report that does not become the newest one follows it, or it is left out or by another
reporter. -/
theorem Trailed.add (trailed : known.Trailed newest crowd) {reporter : StationId}
    {report : Report} {policy : DuplicatePolicy}
    (late : ∀ entry ∈ known.historyOf reporter, entry.received ≤ report.received)
    (stays : known.Drops reporter report.received policy ∨
      ¬supersedes (some newest) reporter report.received
        (known.add reporter report policy).2 = true) :
    (known.add reporter report policy).1.Trailed newest
      (crowd ++ ((Update.add reporter report policy).beside newest.reporter).toList) := by
  by_cases same : reporter = newest.reporter
  · obtain rfl := same
    rcases stays with drops | stays
    · rw [add_of_drops drops, drops.2]
      exact (List.append_nil crowd).symm ▸ trailed
    · have arrived : report.received = newest.entry.received := by
        obtain ⟨entry, member, before⟩ := exists_mem_of_endsAt trailed.endsAt_historyOf
        obtain ⟨_, same, notLater⟩ := le_of_not_supersedes stays
        cases same
        have notEarlier := late entry member
        rw [before] at notEarlier
        exact congrArg Instant.mk (Int.le_antisymm notLater notEarlier)
      have ends : endsAt (known.historyOf newest.reporter) report.entry.received = true :=
        (congrArg _ arrived).trans trailed.endsAt_historyOf
      cases policy with
      | none =>
        rw [Update.beside, if_pos rfl]
        exact trailed.follow arrived
      | dropOnDuplicate =>
        rw [add_of_drops ⟨ends, rfl⟩]
        exact (List.append_nil crowd).symm ▸ trailed
      | replaceOnDuplicate =>
        refine absurd ?_ (ne_duplicateReplace_of_not_supersedes stays arrived.symm)
        rw [snd_add]
        exact snd_append_eq_replace_iff.mpr ⟨ends, rfl⟩
  · have apart : (Update.add reporter report policy).beside newest.reporter = none := by
      cases policy with
      | none => exact if_neg same
      | _ => rfl
    rw [apart, Option.toList_none, List.append_nil]
    obtain ⟨earlier, kept⟩ := trailed.kept
    refine ⟨trailed.simultaneous, earlier, ?_⟩
    rw [historyOf_add, if_neg fun equal => same equal.symm, kept]

end

/-! ### Runs -/

/-- The newest report is one of those that arrived, and the reports that its reporter has made
beside it since then follow it. -/
def Traced (updates : List Update) (newest : Newest) : Prop :=
  ∃ before report policy after,
    updates = before ++ .add newest.reporter report policy :: after ∧
      newest = ⟨newest.reporter, report.entry, report.motion.position, report.motion.speed⟩ ∧
      (ofUpdates updates).Trailed newest (crowd newest.reporter after)

/-- An update that leaves the newest report extends what follows it. -/
theorem Traced.concat {updates : List Update} {newest : Newest}
    (traced : Traced updates newest) {update : Update}
    (grows : ∀ crowd, (ofUpdates updates).Trailed newest crowd →
      ((ofUpdates updates).updated update).Trailed newest
        (crowd ++ (update.beside newest.reporter).toList)) :
    Traced (updates ++ [update]) newest := by
  obtain ⟨before, report, policy, after, rfl, same, trailed⟩ := traced
  refine ⟨before, report, policy, after ++ [update], ?_, same, ?_⟩
  · rw [List.append_assoc, List.cons_append]
  · rw [ofUpdates_concat, crowd_concat]
    exact grows _ trailed

/-- Updates in which each reporter's reports arrive in order leave a newest report that can be
traced. -/
theorem traced_of_mem_newest {updates : List Update} (chronological : Chronological updates)
    {newest : Newest} (remembered : newest ∈ (ofUpdates updates).newest) :
    Traced updates newest := by
  induction updates using List.reverseRecOn with
  | nil => cases remembered
  | append_singleton updates update inductionHypothesis =>
    obtain ⟨earlier, _, ordered⟩ := List.pairwise_append.mp chronological
    have accurate := accurate_ofUpdates earlier
    rw [ofUpdates_concat] at remembered
    cases update with
    | clearExpired now =>
      have fresh := accurate.toCoherent.not_isExpired_newest remembered
      rw [updated, newest_clearExpired] at remembered
      split at remembered
      · cases remembered
      · refine (inductionHypothesis earlier remembered).concat fun crowd trailed => ?_
        exact (List.append_nil crowd).symm ▸ trailed.clearExpired fresh
    | add reporter report policy =>
      have late : ∀ entry ∈ (ofUpdates updates).historyOf reporter,
          entry.received ≤ report.received := by
        intro entry member
        obtain ⟨arrival, _, inside, rfl⟩ := exists_of_mem_historyOf member
        exact ordered _ inside _ List.mem_cons_self rfl
      rcases newest_add_cases remembered with ⟨drops, remains⟩ | ⟨adds, rfl | ⟨remains, stays⟩⟩
      · exact (inductionHypothesis earlier remains).concat fun crowd trailed =>
          trailed.add late (.inl drops)
      · refine ⟨updates, report, policy, [], rfl, rfl, ?_⟩
        obtain ⟨kept, _, left⟩ := exists_historyOf_add adds
        have room := (accurate.add policy late).bounded reporter
        rw [left, List.length_append, List.length_singleton] at room
        rw [ofUpdates_concat]
        exact trailed_of_append _ (List.forall_mem_nil _) room left
      · exact (inductionHypothesis earlier remains).concat fun crowd trailed =>
          trailed.add late (.inr stays)

/-! ### The whole -/

/-- However reports by any number of reporters arrive, each reporter's in order, and whenever
the expired ones are forgotten: the newest report that is remembered, with the position and the
speed that it gave, is one of those that arrived. It is stored as long as its reporter has not
added as many reports beside it, all at the same instant, as are kept; otherwise these have
pushed it out, and its reporter's list holds nothing but the last of them. -/
theorem newest_stored_unless_crowded_out (updates : List Update)
    (chronological : Chronological updates) {newest : Report}
    (remembered : newest ∈ (ofUpdates updates).newestReport) :
    let known := ofUpdates updates
    ∃ before reporter report policy after,
      updates = before ++ .add reporter report policy :: after ∧
        newest.entry = report.entry ∧
        known.aggregate = some ⟨report.motion.position, report.motion.speed⟩ ∧
        let followers := crowd reporter after
        (∀ entry ∈ followers, entry.received = newest.received) ∧
          (followers.length < capacity → newest.entry ∈ known.stored) ∧
          (capacity ≤ followers.length →
            known.historyOf reporter = followers.drop (followers.length - capacity)) := by
  intro known
  obtain ⟨cached, among, rfl⟩ := Option.map_eq_some_iff.mp remembered
  obtain ⟨before, report, policy, after, same, describes, trailed⟩ :=
    traced_of_mem_newest chronological among
  refine ⟨before, cached.reporter, report, policy, after, same, ?_, ?_, trailed.simultaneous,
    trailed.mem_stored, trailed.historyOf_eq⟩
  · exact congrArg Newest.entry describes
  · rw [aggregate, among, describes]
    rfl

/-- A report that arrives at 0.1 s from a place on the road. -/
def reportFrom (place : Float) : Report :=
  ⟨.ofMillis 100, ⟨place, 0.0⟩, ⟨.ofMillis 100, ⟨place, 1.0⟩, place, Angle.zero⟩⟩

/-- A report is followed by others that its reporter makes at the same instant, but from another
place. -/
def followedBy (followers : Nat) : List Update :=
  .add 1 (reportFrom 0.0) .none :: List.replicate followers (.add 1 (reportFrom 1.0) .none)

/-- With eleven reports behind it the newest one is still stored. -/
theorem followedBy_eleven_stored :
    Chronological (followedBy 11) ∧
      ∃ newest ∈ (ofUpdates (followedBy 11)).newestReport,
        newest.reporterPosition = ⟨0.0, 0.0⟩ ∧
          newest.entry ∈ (ofUpdates (followedBy 11)).stored := by
  have chronological : Chronological (followedBy 11) := by decide
  refine ⟨chronological, reportFrom 0.0, rfl, rfl, ?_⟩
  obtain ⟨before, reporter, report, policy, after, same, _, _, _, stored, _⟩ :=
    newest_stored_unless_crowded_out (followedBy 11) chronological
      (rfl : reportFrom 0.0 ∈ (ofUpdates (followedBy 11)).newestReport)
  refine stored ?_
  have fewer : (crowd reporter after).length ≤ after.length := List.length_filterMap_le ..
  have all : (followedBy 11).length = before.length + (after.length + 1) := by
    rw [same, List.length_append, List.length_cons]
  have twelve : (followedBy 11).length = capacity := rfl
  omega

/-- With twelve reports behind it the newest one is remembered, but no stored report is from
where its reporter was. -/
theorem followedBy_twelve_lose_newest :
    Chronological (followedBy 12) ∧
      ∃ newest ∈ (ofUpdates (followedBy 12)).newestReport,
        ¬∃ entry ∈ (ofUpdates (followedBy 12)).stored,
          entry.received = newest.received ∧
            entry.reporterPosition = newest.reporterPosition := by
  refine ⟨by decide, reportFrom 0.0, rfl, ?_⟩
  have stored : (ofUpdates (followedBy 12)).stored = List.replicate 12 (reportFrom 1.0).entry :=
    rfl
  rintro ⟨entry, member, _, same⟩
  rw [stored] at member
  rw [List.eq_of_mem_replicate member] at same
  exact absurd (congrArg Point.x same) (by decide)

end Knowledge

end CollectivePerception.Remote
