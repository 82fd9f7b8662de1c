/-
This file says when a reporter's list has room for one more report. Reports that are at least
a tenth of a second apart are few within the lifetime of a report, so once the expired ones
are forgotten, there is room (`Spaced.hasRoom_dropWhile`); and where there is room, a report
is added under every policy and no other one is given up for it (`HasRoom.append_eq`).
-/

import CollectivePerception.Proofs.Remote.Tracking

namespace CollectivePerception.Remote

/-! ### Room for a report -/

/-- A list of reports takes one more that arrives at an instant as a new one, and keeps all. -/
structure HasRoom (reports : List HistoryEntry) (received : Instant) : Prop where
  few : reports.length < capacity
  apart : ¬Knowledge.endsAt reports received = true

section

variable {tracking : Tracking} {station reporter : StationId} {reports : List HistoryEntry}
  {report : Report}

theorem HasRoom.append_eq (entry : HistoryEntry) (room : HasRoom reports entry.received)
    (policy : DuplicatePolicy) :
    Knowledge.append reports entry policy = (reports ++ [entry], .ok) := by
  unfold Knowledge.append
  rw [Bool.eq_false_iff.mpr room.apart]
  exact if_neg (Nat.not_le.mpr room.few)

theorem HasRoom.snd_add {known : Knowledge}
    (room : HasRoom (known.historyOf reporter) report.received) (policy : DuplicatePolicy) :
    (known.add reporter report policy).2 = .ok := by
  rw [Knowledge.snd_add]
  exact congrArg Prod.snd (room.append_eq report.entry policy)

/-- A report for which there is room joins those of its reporter about its station. -/
theorem HasRoom.historyOf_noted
    (room : HasRoom ((tracking.knowledge station).historyOf reporter) report.received)
    (policy : DuplicatePolicy) (other source : StationId) :
    ((tracking.noted station reporter report policy).knowledge other).historyOf source =
      if other = station ∧ source = reporter then
        (tracking.knowledge other).historyOf source ++ [report.entry]
      else (tracking.knowledge other).historyOf source := by
  rw [Tracking.historyOf_noted]
  split
  · rename_i same
    rw [same.1, same.2]
    exact congrArg Prod.fst (room.append_eq report.entry policy)
  · rfl

end

/-! ### Reports that are apart -/

/-- How far apart the reports of one reporter are at least. -/
def spacing : Duration := Duration.ofMillis 100

/-- An instant is later than another by the spacing at least. -/
def Apart (earlier later : Instant) : Prop :=
  earlier.micros + (spacing.micros : Int) ≤ later.micros

instance : DecidableRel Apart := fun _ _ => inferInstanceAs (Decidable (_ ≤ _))

theorem Apart.lt {earlier later : Instant} (apart : Apart earlier later) : earlier < later := by
  have positive : 0 < spacing.micros := by decide
  rw [Apart] at apart
  rw [Instant.lt_def]
  omega

/-- Each report is apart from the ones before it. -/
def Spaced (reports : List HistoryEntry) : Prop :=
  reports.Pairwise fun earlier later => Apart earlier.received later.received

section

variable {reports : List HistoryEntry}

theorem Spaced.inOrder (spaced : Spaced reports) : InOrder reports :=
  spaced.imp fun apart => Int.le_of_lt apart.lt

theorem Spaced.concat (spaced : Spaced reports) {entry : HistoryEntry}
    (late : ∀ before ∈ reports, Apart before.received entry.received) :
    Spaced (reports ++ [entry]) :=
  List.pairwise_append.mpr ⟨spaced, List.pairwise_singleton _ _, fun before member _ same =>
    List.mem_singleton.mp same ▸ late before member⟩

/-- Between two instants there are no more reports than their distance has room for. -/
theorem Spaced.length_le (spaced : Spaced reports) {least greatest : Int}
    (order : least ≤ greatest + spacing.micros)
    (between : ∀ entry ∈ reports,
      least ≤ entry.received.micros ∧ entry.received.micros ≤ greatest) :
    least + spacing.micros * reports.length ≤ greatest + spacing.micros := by
  induction reports generalizing least with
  | nil => simpa using order
  | cons first later inductionHypothesis =>
    obtain ⟨apart, rest⟩ := List.pairwise_cons.mp spaced
    obtain ⟨⟨early, notLate⟩, others⟩ := List.forall_mem_cons.mp between
    have bound : first.received.micros + spacing.micros + spacing.micros * later.length ≤
        greatest + spacing.micros :=
      inductionHypothesis rest (Int.add_le_add_right notLate _) fun entry member =>
        ⟨apart entry member, (others entry member).2⟩
    rw [List.length_cons, Int.natCast_add, Int.mul_add]
    omega

/-- After forgetting there is room for a report that is apart from all others. -/
theorem Spaced.hasRoom_dropWhile (spaced : Spaced reports) {now : Instant}
    (past : ∀ entry ∈ reports, Apart entry.received now) :
    HasRoom (reports.dropWhile (·.isExpired now)) now where
  few := by
    have left : (reports.dropWhile (·.isExpired now)).Sublist reports := List.dropWhile_sublist _
    have between : ∀ entry ∈ reports.dropWhile (·.isExpired now),
        now.micros - lifetime.micros + 1 ≤ entry.received.micros ∧
          entry.received.micros ≤ now.micros - spacing.micros := fun entry member => by
      have young := HistoryEntry.lt_add_lifetime (spaced.inOrder.not_isExpired_of_mem member)
      have apart := past entry (left.subset member)
      rw [Apart] at apart
      omega
    have lifetimeMicros : lifetime.micros = 1100000 := rfl
    have spacingMicros : spacing.micros = 100000 := rfl
    have bound := Spaced.length_le (spaced.sublist left) (by omega) between
    rw [lifetimeMicros, spacingMicros] at bound
    rw [capacity]
    omega
  apart ends := by
    obtain ⟨entry, member, arrived⟩ := Knowledge.exists_mem_of_endsAt ends
    have earlier := (past entry ((List.dropWhile_sublist _).subset member)).lt
    rw [arrived] at earlier
    exact Int.lt_irrefl _ earlier

end

end CollectivePerception.Remote
