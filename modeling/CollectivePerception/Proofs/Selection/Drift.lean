/-
This file proves what the dynamic rule selects: the objects that are due and behind them, if
there are any, those that are predicted to become due, either part in the order of the tracked
objects. An object is selected for the one reason or for the other, and whether it is due does
not depend on how far the rule predicts. So a prediction only ever appends objects to a
selection: it removes none, moves none, and does not make an empty selection a non-empty one
(`prediction_only_appends`).
-/

import CollectivePerception.Proofs.Selection.Candidates

namespace CollectivePerception

open OrderedKey

namespace Selection.Judge

variable {judge : Judge} {tracking : LocalTracking} {scene : Scene} {now : Instant}

/-! ### Reasons -/

/-- An object that was last reported in the given state, if ever, is selected for a reason: it
was never reported or has drifted, or it has not drifted but is expected to. -/
def Justifies (judge : Judge) (object : SceneObject) (now : Instant) (reported : Option Motion) :
    Reason → Prop
  | .now => ∀ last ∈ reported, judge.drifted (object.motion now) last = true
  | .predicted => ∃ expected ∈ judge.expected, ∃ last ∈ reported,
      judge.drifted (object.motion now) last = false ∧
        judge.drifted (expected object (object.motion now)) last = true

theorem reason?_eq_some_iff {tracked : Handle × Option Motion} {reason : Reason} :
    judge.reason? scene now tracked = some reason ↔
      ∃ object ∈ scene tracked.1, judge.Justifies object now tracked.2 reason := by
  unfold reason?
  cases scene tracked.1 with
  | none => simp
  | some object =>
    cases tracked.2 with
    | none => cases reason <;> simp [Justifies]
    | some last =>
      dsimp only
      cases drifted : judge.drifted (object.motion now) last with
      | true => cases reason <;> simp [Justifies, drifted]
      | false =>
        cases expected : judge.expected <;> cases reason <;> simp [Justifies, drifted, expected]

/-! ### The objects selected for one reason -/

/-- The objects that are selected for a reason are tracked and alive, and it is theirs. -/
theorem mem_selectedFor_iff_justifies {reason : Reason} {handle : Handle} :
    handle ∈ judge.selectedFor reason tracking scene now ↔
      handle ∈ tracking.handles ∧
        ∃ object ∈ scene handle,
          judge.Justifies object now (tracking.lastReported handle) reason := by
  rw [mem_selectedFor_iff, LocalTracking.handles, OrderedMap.mem_keys_iff,
    LocalTracking.lastReported]
  cases tracking.objects.get? handle with
  | none => simp
  | some reported =>
    simp only [Option.some.injEq, exists_eq_left', exists_eq', true_and, Option.join_some]
    exact reason?_eq_some_iff

theorem selectedFor_ascending (judge : Judge) (reason : Reason) (tracking : LocalTracking)
    (scene : Scene) (now : Instant) :
    (judge.selectedFor reason tracking scene now).Pairwise
      fun first second => precedes first second = true :=
  tracking.objects.keys_ascending.sublist (List.filter_sublist.map _)

/-- What is selected now does not depend on what is expected. -/
theorem selectedFor_now_congr {other : Judge} (same : judge.drifted = other.drifted) :
    judge.selectedFor .now tracking scene now = other.selectedFor .now tracking scene now := by
  unfold selectedFor
  refine congrArg (List.map _) (List.filter_congr fun tracked _ => ?_)
  rw [Bool.eq_iff_iff, beq_iff_eq, beq_iff_eq, reason?_eq_some_iff, reason?_eq_some_iff]
  simp only [Justifies, same]

/-- What is predicted has not drifted yet, so only objects that are not selected now are to be
looked at. -/
theorem mem_selectedFor_predicted_iff_remaining {handle : Handle} :
    handle ∈ judge.selectedFor .predicted tracking scene now ↔
      handle ∈ tracking.handles ∧ handle ∉ judge.selectedFor .now tracking scene now ∧
        ∃ expected ∈ judge.expected, ∃ object ∈ scene handle,
          ∃ last ∈ tracking.lastReported handle,
            judge.drifted (expected object (object.motion now)) last = true := by
  rw [mem_selectedFor_iff_justifies, mem_selectedFor_iff_justifies]
  constructor
  · rintro ⟨tracked, object, present, expected, given, last, reported, unchanged, drifts⟩
    refine ⟨tracked, ?_, expected, given, object, present, last, reported, drifts⟩
    rintro ⟨_, found, again, drifted⟩
    cases Option.mem_unique present again
    cases (drifted last reported).symm.trans unchanged
  · rintro ⟨tracked, remaining, expected, given, object, present, last, reported, drifts⟩
    refine ⟨tracked, object, present, expected, given, last, reported, ?_, drifts⟩
    refine Bool.eq_false_iff.mpr fun drifted => remaining ⟨tracked, object, present, ?_⟩
    intro recent again
    cases Option.mem_unique reported again
    exact drifted

/-! ### The two parts of a selection -/

/-- Predicted objects are selected only behind one that is selected now. -/
theorem select_cases (judge : Judge) (tracking : LocalTracking) (scene : Scene) (now : Instant) :
    judge.selectedFor .now tracking scene now = [] ∧
        judge.select tracking scene now = ⟨[], false⟩ ∨
      judge.selectedFor .now tracking scene now ≠ [] ∧
        judge.select tracking scene now =
          ⟨judge.selectedFor .now tracking scene now ++
            judge.selectedFor .predicted tracking scene now, false⟩ := by
  unfold select
  cases judge.selectedFor .now tracking scene now with
  | nil => exact .inl ⟨rfl, rfl⟩
  | cons first rest => exact .inr ⟨List.cons_ne_nil first rest, rfl⟩

/-- A selection is what is selected now and an ascending rest, which is empty or what is
predicted. -/
theorem exists_select_eq (judge : Judge) (tracking : LocalTracking) (scene : Scene)
    (now : Instant) :
    ∃ appended : List Handle,
      judge.select tracking scene now =
          ⟨judge.selectedFor .now tracking scene now ++ appended, false⟩ ∧
        (appended.Pairwise fun first second => precedes first second = true) ∧
        ∀ handle, handle ∈ appended ↔
          judge.selectedFor .now tracking scene now ≠ [] ∧
            handle ∈ judge.selectedFor .predicted tracking scene now := by
  rcases judge.select_cases tracking scene now with ⟨nothing, selected⟩ | ⟨something, selected⟩
  · refine ⟨[], ?_, List.Pairwise.nil, fun handle => ?_⟩
    · rw [selected, nothing, List.append_nil]
    · exact iff_of_false List.not_mem_nil fun behind => behind.1 nothing
  · exact ⟨_, selected, judge.selectedFor_ascending .predicted tracking scene now,
      fun handle => (and_iff_right something).symm⟩

end Selection.Judge

/-! ### The dynamic rule -/

/-- A report that is too old has drifted, wherever the object is. -/
theorem DriftThresholds.exceeded_of_elapsed {thresholds : DriftThresholds}
    {current reported : Motion}
    (late : thresholds.time < current.time.elapsedSince reported.time) :
    thresholds.exceeded current reported = true := by
  rw [exceeded, Bool.or_eq_true]
  exact .inr (decide_eq_true late)

/-- The expected state of an object is the predicted one, provided that there is something to
predict. -/
theorem DriftThresholds.mem_expected_iff {thresholds : DriftThresholds} {nextCycle : Duration}
    {expected : SceneObject → Motion → Motion} :
    expected ∈ (thresholds.judge nextCycle).expected ↔
      thresholds.horizon nextCycle ≠ Duration.zero ∧
        expected = fun object current =>
          current.predict (thresholds.horizon nextCycle) object.acceleration := by
  rw [DriftThresholds.judge]
  dsimp only
  split
  · rename_i none
    exact iff_of_false nofun fun ahead => ahead.1 none
  · rename_i ahead
    rw [Option.mem_some_iff]
    exact ⟨fun same => ⟨ahead, same.symm⟩, fun given => given.2.symm⟩

namespace SelectionRule

/-- However far the dynamic rule predicts, its selection starts with the same objects: those
that are tracked and alive and were never reported or have drifted since, in ascending order.
Behind them, provided that there are any and that the rule predicts at all, stand those of the
other objects whose predicted state has drifted, in ascending order, and nothing else. -/
theorem prediction_only_appends (thresholds : DriftThresholds) (tracking : LocalTracking)
    (scene : Scene) (now : Instant) :
    ∃ due : List Handle,
      (due.Pairwise fun first second => precedes first second = true) ∧
        (∀ handle, handle ∈ due ↔
          handle ∈ tracking.handles ∧
            ∃ object ∈ scene handle, ∀ last ∈ tracking.lastReported handle,
              thresholds.exceeded (object.motion now) last = true) ∧
        ∀ (dynamicPrediction : Bool) (predictionInterval nextCycle : Duration),
          let adjusted : DriftThresholds :=
            { thresholds with
              dynamicPrediction := dynamicPrediction
              predictionInterval := predictionInterval }
          let horizon := adjusted.horizon nextCycle
          ∃ appended : List Handle,
            (dynamic adjusted).select tracking scene now nextCycle = ⟨due ++ appended, false⟩ ∧
              (due ++ appended).Nodup ∧
              (due ++ appended = [] ↔ due = []) ∧
              (appended.Pairwise fun first second => precedes first second = true) ∧
              ∀ handle, handle ∈ appended ↔
                due ≠ [] ∧ horizon ≠ Duration.zero ∧ handle ∈ tracking.handles ∧ handle ∉ due ∧
                  ∃ object ∈ scene handle, ∃ last ∈ tracking.lastReported handle,
                    thresholds.exceeded
                      ((object.motion now).predict horizon object.acceleration) last = true := by
  refine ⟨(thresholds.judge .zero).selectedFor .now tracking scene now,
    Selection.Judge.selectedFor_ascending _ _ _ _ _,
    fun handle => Selection.Judge.mem_selectedFor_iff_justifies,
    fun dynamicPrediction predictionInterval nextCycle => ?_⟩
  intro adjusted horizon
  have due : (adjusted.judge nextCycle).selectedFor .now tracking scene now =
      (thresholds.judge .zero).selectedFor .now tracking scene now :=
    Selection.Judge.selectedFor_now_congr rfl
  obtain ⟨appended, selected, ascending, members⟩ :=
    (adjusted.judge nextCycle).exists_select_eq tracking scene now
  have nodup := (adjusted.judge nextCycle).select_nodup tracking scene now
  rw [selected, due] at nodup
  rw [due] at selected members
  refine ⟨appended, selected, nodup, ?_, ascending, fun handle => ?_⟩
  · rw [List.append_eq_nil_iff]
    refine and_iff_left_of_imp fun nothing => ?_
    exact List.eq_nil_iff_forall_not_mem.mpr fun handle member =>
      ((members handle).mp member).1 nothing
  · rw [members, Selection.Judge.mem_selectedFor_predicted_iff_remaining, due]
    refine and_congr_right fun _ => ?_
    constructor
    · rintro ⟨tracked, remaining, expected, given, drifts⟩
      obtain ⟨ahead, rfl⟩ := DriftThresholds.mem_expected_iff.mp given
      exact ⟨ahead, tracked, remaining, drifts⟩
    · rintro ⟨ahead, tracked, remaining, drifts⟩
      exact ⟨tracked, remaining, _, DriftThresholds.mem_expected_iff.mpr ⟨ahead, rfl⟩, drifts⟩

end SelectionRule

end CollectivePerception
