/-
This file proves that the frequency rule judges an object as if no report about it were ever
given up. What is kept of the reports is limited for each reporter, and it expires. But a rule
that asks for fewer reports than are kept of one reporter, within less than their lifetime,
decides as the log of all reports does that were not dropped (`frequency_iff_logAbout`).

Whatever changes the picture of the other stations adds a report to one list, or it forgets
reports of some lists. So the agreement of a reporter's list with the log is kept by each kind
of step, and by any run (`agrees_of_orderly`). If all lists agree in number, so do the totals;
and a reporter whose list does not agree has made enough reports alone, both in the log and
among those that are kept (`Log.lt_countP_iff`).
-/

import CollectivePerception.Proofs.Redundancy.Chain
import CollectivePerception.Proofs.Remote.Log

namespace CollectivePerception.Remote

/-! ### Runs -/

/-- Something that changes the picture of the other stations. -/
inductive Step
  | note (station reporter : StationId) (report : Report) (policy : DuplicatePolicy)
  | forget (station : StationId) (now : Instant)
  | synchronize (awareness : AwarenessStore) (now : Instant)

/-- The picture after a step. -/
def Tracking.after (tracking : Tracking) : Step → Tracking
  | .note station reporter report policy => tracking.noted station reporter report policy
  | .forget station now => tracking.set station ((tracking.knowledge station).clearExpired now)
  | .synchronize awareness now => (tracking.synchronize awareness now).1

/-- The picture that steps make of nothing. -/
def Tracking.run (steps : List Step) : Tracking := steps.foldl Tracking.after Tracking.empty

/-- The log about a station after a step. -/
def Log.after (station : StationId) (log : Log) : Step → Log
  | .note about reporter report policy =>
    if about = station then log.add reporter report.entry policy else log
  | .forget _ _ | .synchronize _ _ => log

/-- The log about a station that steps leave. -/
def logAbout (station : StationId) (steps : List Step) : Log :=
  steps.foldl (Log.after station) []

/-! ### The order of the reports -/

namespace Step

/-- Two reports by one reporter about one station arrive in order. -/
def Precedes : Step → Step → Prop
  | .note station reporter earlier _, .note about source later _ =>
    about = station → source = reporter → earlier.received ≤ later.received
  | _, _ => True

instance : DecidableRel Precedes
  | .note station reporter earlier _, .note about source later _ =>
    inferInstanceAs
      (Decidable (about = station → source = reporter → earlier.received ≤ later.received))
  | .note _ _ _ _, .forget _ _ | .note _ _ _ _, .synchronize _ _ | .forget _ _, _
  | .synchronize _ _, _ => instDecidableTrue

/-- A report does not outlast time itself, and forgetting does not look ahead of an instant. -/
def InTime (now : Instant) : Step → Prop
  | .note _ _ report _ =>
    report.received.micros + lifetime.micros ≤ Binary64.greatestInt64
  | .forget _ moment | .synchronize _ moment => moment ≤ now

instance (now : Instant) : DecidablePred (InTime now)
  | .note _ _ report _ =>
    inferInstanceAs (Decidable (report.received.micros + lifetime.micros ≤ Binary64.greatestInt64))
  | .forget _ moment => inferInstanceAs (Decidable (moment ≤ now))
  | .synchronize _ moment => inferInstanceAs (Decidable (moment ≤ now))

/-- What is stored of a step that is a report by a reporter about a station. -/
def stored (station reporter : StationId) : Step → Option HistoryEntry
  | .note about source report _ =>
    if about = station ∧ source = reporter then some report.entry else none
  | .forget _ _ | .synchronize _ _ => none

end Step

/-- Steps in which the reports of each reporter about each station arrive in order, and which
forget nothing ahead of an instant. -/
structure Orderly (steps : List Step) (now : Instant) : Prop where
  inOrder : steps.Pairwise Step.Precedes
  inTime : ∀ step ∈ steps, step.InTime now

/-- All reports by a reporter about a station, oldest first. -/
def reportsBy (station reporter : StationId) (steps : List Step) : List HistoryEntry :=
  steps.filterMap (Step.stored station reporter)

section

variable {station reporter : StationId} {steps : List Step} {now : Instant}

theorem Step.stored_eq_some_iff {step : Step} {entry : HistoryEntry} :
    step.stored station reporter = some entry ↔
      ∃ report policy, step = .note station reporter report policy ∧ report.entry = entry := by
  cases step with
  | note about source report policy =>
    rw [stored]
    split
    · rename_i same
      obtain ⟨rfl, rfl⟩ := same
      constructor
      · intro found
        exact ⟨report, policy, rfl, Option.some.inj found⟩
      · rintro ⟨_, _, same, rfl⟩
        cases same
        rfl
    · rename_i apart
      refine iff_of_false nofun ?_
      rintro ⟨_, _, same, _⟩
      cases same
      exact apart ⟨rfl, rfl⟩
  | forget about moment => exact iff_of_false nofun nofun
  | synchronize awareness moment => exact iff_of_false nofun nofun

theorem Orderly.inOrder_reportsBy (orderly : Orderly steps now) :
    InOrder (reportsBy station reporter steps) := by
  refine orderly.inOrder.filterMap _ fun earlier later before entry found other found' => ?_
  obtain ⟨report, policy, rfl, rfl⟩ := Step.stored_eq_some_iff.mp found
  obtain ⟨report', policy', rfl, rfl⟩ := Step.stored_eq_some_iff.mp found'
  exact before rfl rfl

/-- A report that is recent has not expired at a step of forgetting. -/
theorem Orderly.not_isExpired (orderly : Orderly steps now) {instant moment : Instant}
    (young : now.micros < instant.micros + lifetime.micros) (past : moment ≤ now)
    {entry : HistoryEntry} (member : entry ∈ reportsBy station reporter steps)
    (recent : entry.isSince instant = true) : ¬entry.isExpired moment = true := by
  obtain ⟨step, inside, found⟩ := List.mem_filterMap.mp member
  obtain ⟨report, policy, rfl, rfl⟩ := Step.stored_eq_some_iff.mp found
  have inTime : report.received.micros + lifetime.micros ≤ Binary64.greatestInt64 :=
    orderly.inTime _ inside
  have arrived : instant.micros ≤ report.received.micros := HistoryEntry.isSince_iff.mp recent
  rw [Instant.le_def] at past
  rw [HistoryEntry.isExpired_iff]
  show ¬min Binary64.greatestInt64 (report.received.micros + lifetime.micros) ≤ moment.micros
  omega

end

/-! ### One reporter -/

/-- What is kept and what is logged of a reporter's reports, against all that were made. -/
structure Reflects (instant : Instant) (made logged kept : List HistoryEntry) : Prop
    extends Mirrors instant logged kept where
  kept_sublist : kept.Sublist made
  logged_subset : logged ⊆ made

section

variable {instant : Instant} {made logged kept : List HistoryEntry}

/-- One more report is made after all others. -/
theorem Reflects.note (reflects : Reflects instant made logged kept) {entry : HistoryEntry}
    (inOrder : InOrder (made ++ [entry])) (policy : DuplicatePolicy) :
    Reflects instant (made ++ [entry]) (Log.extended logged entry policy)
      (Knowledge.append kept entry policy).1 where
  toMirrors := by
    obtain ⟨before, _, apart⟩ := List.pairwise_append.mp inOrder
    have late {earlier : HistoryEntry} (member : earlier ∈ made) :
        earlier.received ≤ entry.received := apart earlier member entry List.mem_cons_self
    exact reflects.toMirrors.append (before.sublist reflects.kept_sublist)
      (fun earlier member => late (reflects.kept_sublist.subset member))
      (fun earlier member => late (reflects.logged_subset member)) policy
  kept_sublist :=
    (Knowledge.fst_append_sublist kept entry policy).trans
      (reflects.kept_sublist.append_right [entry])
  logged_subset other member := by
    rcases Log.mem_of_extended member with rfl | before
    · exact List.mem_append_right made List.mem_cons_self
    · exact List.mem_append_left [entry] (reflects.logged_subset before)

theorem Reflects.forget (reflects : Reflects instant made logged kept) {now : Instant}
    (fresh : ∀ entry ∈ made, entry.isSince instant = true → ¬entry.isExpired now = true) :
    Reflects instant made logged (kept.dropWhile (·.isExpired now)) where
  toMirrors := reflects.toMirrors.forget fun entry member =>
    fresh entry (reflects.kept_sublist.subset member)
  kept_sublist := (List.dropWhile_sublist _).trans reflects.kept_sublist
  logged_subset := reflects.logged_subset

end

/-! ### Steps -/

/-- What a run of steps has left agrees with the log, for one reporter about one station. -/
def Agrees (instant : Instant) (station reporter : StationId) (steps : List Step) : Prop :=
  Reflects instant (reportsBy station reporter steps)
    ((logAbout station steps).of reporter)
    (((Tracking.run steps).knowledge station).historyOf reporter)

section

variable {instant : Instant} {station reporter : StationId} {steps : List Step}

theorem run_concat (steps : List Step) (step : Step) :
    Tracking.run (steps ++ [step]) = (Tracking.run steps).after step :=
  List.foldl_concat ..

theorem logAbout_concat (steps : List Step) (step : Step) :
    logAbout station (steps ++ [step]) = (logAbout station steps).after station step :=
  List.foldl_concat ..

theorem reportsBy_concat (steps : List Step) (step : Step) :
    reportsBy station reporter (steps ++ [step]) =
      reportsBy station reporter steps ++ (step.stored station reporter).toList := by
  rw [reportsBy, List.filterMap_append]
  cases found : step.stored station reporter <;> simp [reportsBy, found]

/-- A report by this reporter about this station joins its list, and all others leave it. -/
theorem Agrees.note (agrees : Agrees instant station reporter steps) {about source : StationId}
    {report : Report} {policy : DuplicatePolicy}
    (inOrder : InOrder (reportsBy station reporter (steps ++ [.note about source report policy]))) :
    Agrees instant station reporter (steps ++ [.note about source report policy]) := by
  rw [reportsBy_concat] at inOrder
  rw [Agrees, run_concat, logAbout_concat, reportsBy_concat, Tracking.after, Log.after,
    Tracking.historyOf_noted]
  rw [Step.stored] at inOrder ⊢
  by_cases same : about = station ∧ source = reporter
  · obtain ⟨rfl, rfl⟩ := same
    rw [if_pos ⟨rfl, rfl⟩] at inOrder
    rw [if_pos ⟨rfl, rfl⟩, if_pos rfl, if_pos ⟨rfl, rfl⟩, Log.of_add, if_pos rfl]
    exact Reflects.note agrees inOrder policy
  · have apart : ¬(station = about ∧ reporter = source) := fun both =>
      same ⟨both.1.symm, both.2.symm⟩
    rw [if_neg same, if_neg apart, Option.toList_none, List.append_nil]
    split
    · rename_i here
      rw [Log.of_add, if_neg fun by_ => same ⟨here, by_.symm⟩]
      exact agrees
    · exact agrees

/-- Forgetting takes none of the recent reports. -/
theorem Agrees.forget (agrees : Agrees instant station reporter steps) {about : StationId}
    {moment : Instant}
    (fresh : ∀ entry ∈ reportsBy station reporter steps, entry.isSince instant = true →
      ¬entry.isExpired moment = true) :
    Agrees instant station reporter (steps ++ [.forget about moment]) := by
  rw [Agrees, run_concat, logAbout_concat, reportsBy_concat, Tracking.after, Log.after,
    Step.stored, Option.toList_none, List.append_nil, Tracking.knowledge_set]
  split
  · rename_i same
    rw [← same, Knowledge.historyOf_clearExpired]
    exact Reflects.forget agrees fresh
  · exact agrees

theorem Agrees.synchronize (agrees : Agrees instant station reporter steps)
    {awareness : AwarenessStore} {moment : Instant}
    (fresh : ∀ entry ∈ reportsBy station reporter steps, entry.isSince instant = true →
      ¬entry.isExpired moment = true) :
    Agrees instant station reporter (steps ++ [.synchronize awareness moment]) := by
  rw [Agrees, run_concat, logAbout_concat, reportsBy_concat, Tracking.after, Log.after,
    Step.stored, Option.toList_none, List.append_nil, Tracking.knowledge_synchronize,
    Knowledge.historyOf_renewed]
  exact Reflects.forget agrees fresh

/-- Orderly steps keep the agreement from an instant on that is younger than the lifetime of a
report. -/
theorem agrees_of_orderly {now : Instant} (orderly : Orderly steps now)
    (young : now.micros < instant.micros + lifetime.micros) :
    Agrees instant station reporter steps := by
  induction steps using List.reverseRecOn with
  | nil => exact ⟨mirrors_nil, List.Sublist.refl [], List.Subset.refl []⟩
  | append_singleton before last inductionHypothesis =>
    have earlier : Orderly before now :=
      ⟨(List.pairwise_append.mp orderly.inOrder).1,
        fun step member => orderly.inTime step (List.mem_append_left [last] member)⟩
    have agrees := inductionHypothesis earlier
    have inTime := orderly.inTime last (List.mem_append_right before List.mem_cons_self)
    cases last with
    | note about source report policy => exact agrees.note orderly.inOrder_reportsBy
    | forget about moment =>
      exact agrees.forget fun entry member => earlier.not_isExpired young inTime member
    | synchronize awareness moment =>
      exact agrees.synchronize fun entry member => earlier.not_isExpired young inTime member

end

/-! ### All reporters -/

/-- The stored reports exceed a number if the logged ones do. -/
theorem lt_countP_stored_iff {steps : List Step} {now instant : Instant} {number : Nat}
    (orderly : Orderly steps now) (young : now.micros < instant.micros + lifetime.micros)
    (few : number < capacity) (station : StationId) :
    number < ((Tracking.run steps).knowledge station).stored.countP (·.isSince instant) ↔
      number < (logAbout station steps).countP fun logged => logged.2.isSince instant := by
  rw [← Knowledge.map_snd_log, List.countP_map]
  refine Log.lt_countP_iff few fun reporter => ?_
  rw [Knowledge.of_log]
  exact (agrees_of_orderly orderly young).count

end CollectivePerception.Remote

namespace CollectivePerception.RedundancyRule

open Remote (Step Tracking Orderly lifetime logAbout)

/-! ### The verdict -/

/-- What is not older than a window that is shorter than a lifetime has not expired. -/
theorem lt_add_lifetime {window : Duration} (short : window < lifetime) (now : Instant) :
    now.micros < (now.before window).micros + lifetime.micros := by
  rw [Duration.lt_def] at short
  show now.micros < max Binary64.leastInt64
    (now.micros - min (window.micros : Int) Binary64.greatestInt64) + lifetime.micros
  omega

/-- A candidate that is alive goes exactly if the rule covers its object. -/
theorem not_mem_filter_iff {rule : RedundancyRule} {context : RedundancyContext}
    {candidates : List Handle} {candidate : Handle} {object : SceneObject}
    (listed : candidate ∈ candidates) (alive : context.scene candidate = some object) :
    candidate ∉ rule.filter context candidates ↔ rule.Covers context object := by
  rw [filter, List.mem_filter, and_iff_right listed, keeps_iff, alive]
  simp

/-- The rule counts what is known of the object's station. -/
theorem not_mem_filter_frequency_iff {window : Duration} {number : Nat}
    {context : RedundancyContext} {candidates : List Handle} {candidate : Handle}
    {object : SceneObject} (listed : candidate ∈ candidates)
    (alive : context.scene candidate = some object) :
    candidate ∉ (frequency window number).filter context candidates ↔
      number < (context.remote.knowledge object.station).stored.countP
        (isRecent context window) := by
  rw [not_mem_filter_iff listed alive, Covers, List.countP_eq_length_filter]
  rfl

/-- After orderly steps, a frequency rule with a window shorter than the lifetime of a report,
and with a number below what is kept of one reporter, takes out a candidate that is alive
exactly if the log about its station has more than that number of reports in the window. -/
theorem frequency_iff_logAbout {steps : List Step} {now : Instant} (orderly : Orderly steps now)
    {window : Duration} (short : window < lifetime) {number : Nat} (few : number ≤ 11)
    (scene : Scene) (own : OwnState) {candidates : List Handle} {candidate : Handle}
    (listed : candidate ∈ candidates) {object : SceneObject}
    (alive : scene candidate = some object) :
    candidate ∉ (frequency window number).filter ⟨Tracking.run steps, scene, own, now⟩
        candidates ↔
      number < (logAbout object.station steps).countP
        fun logged => now.before window ≤ logged.2.received :=
  (not_mem_filter_frequency_iff listed alive).trans
    (Remote.lt_countP_stored_iff orderly (lt_add_lifetime short now) (Nat.lt_succ_of_le few)
      object.station)

/-- A report about station 7. -/
def noteAt (reporter : StationId) (millis : Int) (policy : Remote.DuplicatePolicy) : Step :=
  .note 7 reporter
    ⟨.ofMillis millis, Point.origin, ⟨.ofMillis millis, Point.origin, 0.0, Angle.zero⟩⟩ policy

/-- Fifteen reports by station 8, the last one a duplicate to drop, and three by station 9, of
which the first expires and the last replaces the second. -/
def busySteps : List Step :=
  noteAt 9 0 .none :: (List.range 14).map (fun count => noteAt 8 (100 + 50 * count) .none) ++
    [noteAt 8 750 .dropOnDuplicate, noteAt 9 800 .none, noteAt 9 800 .replaceOnDuplicate,
      .synchronize .empty (.ofMillis 1150)]

/-- Of the sixteen reports in the log thirteen are kept. The object goes as long as more than
eleven reports are in the window, in which at last there are five. -/
theorem busySteps_verdicts :
    (logAbout 7 busySteps).length = 16 ∧
      ((Tracking.run busySteps).knowledge 7).storedCount = 13 ∧
      ⟨0, 0⟩ ∉ (frequency (.ofMillis 1000) 11).filter
        ⟨Tracking.run busySteps, fun _ => some (.initial 7 .passengerCar),
          .initial 1 .passengerCar, .ofMillis 1150⟩ [⟨0, 0⟩] ∧
      ⟨0, 0⟩ ∈ (frequency (.ofMillis 1000) 11).filter
        ⟨Tracking.run busySteps, fun _ => some (.initial 7 .passengerCar),
          .initial 1 .passengerCar, .ofMillis 1600⟩ [⟨0, 0⟩] := by
  have inOrder : busySteps.Pairwise Step.Precedes := by decide +kernel
  have soon : Orderly busySteps (.ofMillis 1150) := ⟨inOrder, by decide +kernel⟩
  have late : Orderly busySteps (.ofMillis 1600) := ⟨inOrder, by decide +kernel⟩
  refine ⟨by decide +kernel, by decide +kernel, ?_, ?_⟩
  · exact (frequency_iff_logAbout soon (by decide) (by decide) _ _ List.mem_cons_self rfl).mpr
      (by decide +kernel)
  · exact not_not.mp <| mt (frequency_iff_logAbout late (by decide) (by decide) _ _
      List.mem_cons_self rfl).mp (by decide +kernel)

end CollectivePerception.RedundancyRule
