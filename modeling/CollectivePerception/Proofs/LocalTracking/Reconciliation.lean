/-
This file states what a synchronisation of the tracked objects comes to as an operation on
sets, whatever is sensed and in whatever order. Of the sensed handles those count that lie
beyond all handles before them (`Surpasses`), and of these the ones that are alive are tracked
afterwards, each with the state that it had before. The counts of the walk are those of the
handles that are new and of those that are gone.
-/

import CollectivePerception.Proofs.LocalTracking.Synchronization
import CollectivePerception.Proofs.OrderedMap.Difference

namespace CollectivePerception.LocalTracking

open OrderedKey

/-! ### Handles beyond all before them -/

/-- A handle of a list lies beyond all handles before it, at some place where it occurs. -/
def Surpasses (sensed : List Handle) (handle : Handle) : Prop :=
  ∃ before after, sensed = before ++ handle :: after ∧
    ∀ earlier ∈ before, precedes earlier handle = true

theorem surpasses_cons {head handle : Handle} {later : List Handle} :
    Surpasses (head :: later) handle ↔
      handle = head ∨ precedes head handle = true ∧ Surpasses later handle := by
  constructor
  · rintro ⟨before, after, apart, beyond⟩
    cases before with
    | nil =>
      cases apart
      exact .inl rfl
    | cons first rest =>
      cases apart
      obtain ⟨first, others⟩ := List.forall_mem_cons.mp beyond
      exact .inr ⟨first, rest, after, rfl, others⟩
  · rintro (rfl | ⟨first, before, after, rfl, beyond⟩)
    · exact ⟨[], later, rfl, nofun⟩
    · exact ⟨head :: before, after, rfl, List.forall_mem_cons.mpr ⟨first, beyond⟩⟩

theorem not_surpasses_nil (handle : Handle) : ¬Surpasses [] handle := by
  rintro ⟨before, after, apart, _⟩
  cases before <;> cases apart

instance decidableSurpasses (handle : Handle) :
    (sensed : List Handle) → Decidable (Surpasses sensed handle)
  | [] => isFalse (not_surpasses_nil handle)
  | _ :: later =>
    have := decidableSurpasses handle later
    decidable_of_iff' _ surpasses_cons

/-- A walk takes the handles that surpass all before them and the last one that was taken. -/
theorem mem_ascents_iff {last : Option Handle} {sensed : List Handle} {handle : Handle} :
    handle ∈ ascents last sensed ↔
      (∀ taken ∈ last, precedes taken handle = true) ∧ Surpasses sensed handle := by
  induction sensed generalizing last with
  | nil => exact iff_of_false List.not_mem_nil fun ⟨_, surpasses⟩ => not_surpasses_nil _ surpasses
  | cons head later inductionHypothesis =>
    unfold ascents
    split
    · rename_i passed
      obtain ⟨taken, rfl, skipped⟩ := (Option.any_eq_true _ _).mp passed
      have notBeyond : ¬precedes taken head = true := by simpa using skipped
      rw [inductionHypothesis, surpasses_cons]
      refine and_congr_right fun beyond => ⟨fun surpasses => ?_, ?_⟩
      · exact .inr ⟨precedes_of_not_precedes notBeyond (beyond taken rfl), surpasses⟩
      · rintro (rfl | ⟨_, surpasses⟩)
        · exact absurd (beyond taken rfl) notBeyond
        · exact surpasses
    · rename_i taking
      have beyond : ∀ taken ∈ last, precedes taken head = true := by
        rintro taken rfl
        simpa using taking
      rw [List.mem_cons, inductionHypothesis, surpasses_cons]
      constructor
      · rintro (rfl | ⟨later, surpasses⟩)
        · exact ⟨beyond, .inl rfl⟩
        · have later := later head rfl
          exact ⟨fun taken same => transitive _ _ _ (beyond taken same) later,
            .inr ⟨later, surpasses⟩⟩
      · rintro ⟨_, rfl | ⟨later, surpasses⟩⟩
        · exact .inl rfl
        · refine .inr ⟨?_, surpasses⟩
          rintro taken ⟨⟩
          exact later

theorem mem_ascents_none_iff {sensed : List Handle} {handle : Handle} :
    handle ∈ ascents none sensed ↔ Surpasses sensed handle :=
  mem_ascents_iff.trans (and_iff_right fun _ absent => nomatch absent)

/-! ### The counts of a walk -/

theorem inserted_add (walk : Walk) (scene : Scene) (handle : Handle) :
    (walk.add scene handle).inserted =
      walk.inserted + if scene.isAlive handle = true then 1 else 0 := by
  unfold Walk.add
  split <;> rfl

theorem removed_add (walk : Walk) (scene : Scene) (handle : Handle) :
    (walk.add scene handle).removed = walk.removed := by
  unfold Walk.add
  split <;> rfl

section

variable {scene : Scene} {tracked : List (Handle × Option Motion)}

/-- A walk leaves as many entries as there were, and those that it has added, without those that
it has removed. -/
theorem walk_balance (last : Option Handle) (sensed : List Handle) :
    (walk scene last sensed tracked).kept.length + (walk scene last sensed tracked).removed =
      tracked.length + (walk scene last sensed tracked).inserted := by
  induction last, sensed, tracked using walk.induct scene with
  | case1 last tracked =>
    rw [walk]
    exact Nat.zero_add _
  | case2 last sensed later tracked passed inductionHypothesis =>
    rw [walk_of_passed later passed]
    exact inductionHypothesis
  | case3 last sensed later taking inductionHypothesis =>
    rw [walk, if_neg taking, kept_add, inserted_add, removed_add]
    split
    · rw [List.length_cons]
      omega
    · exact inductionHypothesis
  | case4 last sensed later taking known reported rest before inductionHypothesis =>
    rw [walk, if_neg taking, if_pos before, List.length_cons]
    simp only [Walk.drop]
    omega
  | case5 last sensed later taking known reported rest notBefore after inductionHypothesis =>
    rw [walk, if_neg taking, if_neg notBefore, if_pos after, kept_add, inserted_add, removed_add]
    split
    · rw [List.length_cons]
      omega
    · exact inductionHypothesis
  | case6 last sensed later taking known reported rest notBefore notAfter alive
      inductionHypothesis =>
    rw [walk, if_neg taking, if_neg notBefore, if_neg notAfter, if_pos alive]
    simp only [Walk.keep, List.length_cons]
    omega
  | case7 last sensed later taking known reported rest notBefore notAfter dead
      inductionHypothesis =>
    rw [walk, if_neg taking, if_neg notBefore, if_neg notAfter, if_neg dead, List.length_cons]
    simp only [Walk.drop]
    omega

/-- A handle that precedes all others is none of them. -/
theorem countP_not_mem_cons {known : Handle} {handles keys : List Handle}
    (beyond : ∀ handle ∈ handles, precedes known handle = true) :
    handles.countP (· ∉ known :: keys) = handles.countP (· ∉ keys) := by
  refine List.countP_congr fun handle member => ?_
  rw [decide_eq_true_iff, decide_eq_true_iff,
    OrderedMap.not_mem_cons_iff_of_precedes (beyond handle member)]

/-- A handle that is none of them counts if it is alive. -/
theorem countP_filter_cons_of_not_mem {sensed : Handle} {keys : List Handle}
    (absent : sensed ∉ keys) (later : List Handle) :
    ((sensed :: later).filter scene.isAlive).countP (· ∉ keys) =
      (later.filter scene.isAlive).countP (· ∉ keys) +
        if scene.isAlive sensed = true then 1 else 0 := by
  rw [List.filter_cons]
  split
  · exact List.countP_cons_of_pos (decide_eq_true absent)
  · rfl

/-- A walk counts as added what it leaves and what was not tracked before. -/
theorem walk_inserted (last : Option Handle) (sensed : List Handle)
    (ascending : tracked.Pairwise fun first second => precedes first.1 second.1 = true) :
    (walk scene last sensed tracked).inserted =
      ((ascents last sensed).filter scene.isAlive).countP (· ∉ tracked.map (·.1)) := by
  induction last, sensed, tracked using walk.induct scene with
  | case1 last tracked =>
    rw [walk, ascents]
    rfl
  | case2 last sensed later tracked passed inductionHypothesis =>
    rw [walk_of_passed later passed, ascents, if_pos passed, inductionHypothesis ascending]
  | case3 last sensed later taking inductionHypothesis =>
    rw [walk, if_neg taking, ascents, if_neg taking, inserted_add, inductionHypothesis ascending]
    exact (countP_filter_cons_of_not_mem List.not_mem_nil _).symm
  | case4 last sensed later taking known reported rest before inductionHypothesis =>
    rw [walk, if_neg taking, if_pos before]
    show (walk scene last (sensed :: later) rest).inserted = _
    rw [inductionHypothesis ascending.tail, List.map_cons, countP_not_mem_cons]
    intro handle member
    have taken := (List.mem_filter.mp member).1
    rw [ascents, if_neg taking] at taken
    rcases List.mem_cons.mp taken with rfl | inner
    · exact before
    · exact transitive _ _ _ before (precedes_of_mem_ascents inner)
  | case5 last sensed later taking known reported rest notBefore after inductionHypothesis =>
    have absent : sensed ∉ ((known, reported) :: rest).map (·.1) :=
      OrderedMap.not_mem_map_of_precedes <| List.forall_mem_cons.mpr ⟨after, fun entry member =>
        transitive _ _ _ after ((List.pairwise_cons.mp ascending).1 entry member)⟩
    rw [walk, if_neg taking, if_neg notBefore, if_pos after, ascents, if_neg taking, inserted_add,
      inductionHypothesis ascending, countP_filter_cons_of_not_mem absent]
  | case6 last sensed later taking known reported rest notBefore notAfter alive
      inductionHypothesis =>
    obtain rfl : known = sensed :=
      connected _ _ (by simpa using notBefore) (by simpa using notAfter)
    rw [walk, if_neg taking, if_neg notBefore, if_neg notAfter, if_pos alive, ascents,
      if_neg taking, List.filter_cons, if_pos alive, List.map_cons]
    show (walk scene (some known) later rest).inserted = _
    rw [List.countP_cons_of_neg (by simp), countP_not_mem_cons, inductionHypothesis ascending.tail]
    exact fun handle member => precedes_of_mem_ascents (List.mem_filter.mp member).1
  | case7 last sensed later taking known reported rest notBefore notAfter dead
      inductionHypothesis =>
    obtain rfl : known = sensed :=
      connected _ _ (by simpa using notBefore) (by simpa using notAfter)
    rw [walk, if_neg taking, if_neg notBefore, if_neg notAfter, if_neg dead, ascents,
      if_neg taking, List.filter_cons, if_neg dead, List.map_cons]
    show (walk scene (some known) later rest).inserted = _
    rw [countP_not_mem_cons, inductionHypothesis ascending.tail]
    exact fun handle member => precedes_of_mem_ascents (List.mem_filter.mp member).1

end

/-! ### The whole -/

/-- A synchronisation leaves the sensed handles that surpass all before them and are alive; of
handles that ascend these are all that are alive. A tracked object keeps the state in which it
was last reported, and a new one has none. The counts are those of the new handles and of those
that are gone. -/
theorem synchronize_reconciles (tracking : LocalTracking) (sensed : List Handle) (scene : Scene) :
    let after := (tracking.synchronize sensed scene).1
    let changes := (tracking.synchronize sensed scene).2
    (∀ handle, handle ∈ after.handles ↔ Surpasses sensed handle ∧ scene.isAlive handle = true) ∧
      (sensed.Pairwise (fun first second => precedes first second = true) →
        after.handles = sensed.filter scene.isAlive) ∧
      (∀ handle ∈ after.handles,
        after.objects.get? handle = some (tracking.lastReported handle)) ∧
      changes.inserted = after.handles.countP (· ∉ tracking.handles) ∧
      changes.removed = tracking.handles.countP (· ∉ after.handles) := by
  intro after changes
  have handles : after.handles = (ascents none sensed).filter scene.isAlive :=
    handles_synchronize tracking sensed scene
  have entries : after.objects.entries =
      ((ascents none sensed).filter scene.isAlive).map (carried tracking.objects.entries) :=
    entries_synchronize tracking sensed scene
  have inserted : changes.inserted = after.handles.countP (· ∉ tracking.handles) := by
    rw [handles]
    exact walk_inserted none sensed tracking.objects.ascending
  refine ⟨fun handle => ?_, fun ascending => ?_, fun handle member => ?_, inserted, ?_⟩
  · rw [handles, List.mem_filter, mem_ascents_none_iff]
  · have taken : ascents none sensed = sensed :=
      ascents_eq_self ascending fun _ absent => nomatch absent
    rw [handles, taken]
  · rw [handles] at member
    rw [OrderedMap.get?_eq_some_iff, entries]
    exact List.mem_map.mpr ⟨handle, member, rfl⟩
  · refine OrderedMap.removed_eq_countP ?_ inserted
    rw [OrderedMap.size, entries, ← walk_kept none sensed tracking.objects.ascending]
    exact walk_balance none sensed

/-- A scene in which every slot is taken but one. -/
def sceneWithout (index : Nat) : Scene := fun handle =>
  if handle.index = index then none else some (.initial handle.index .passengerCar)

/-- The object in slot 1 has been reported, the one in slot 4 has not. -/
def twoTracked : LocalTracking :=
  ⟨.ofList [(⟨1, 0⟩, some ⟨.ofMillis 100, Point.origin, 0.0, Angle.zero⟩), (⟨4, 0⟩, none)]⟩

/-- What is sensed in order replaces slot 4 by slot 3. Out of order, slot 5 is taken, and slot 1
comes too late to stay. -/
theorem twoTracked_reconciles :
    let ordered := twoTracked.synchronize [⟨1, 0⟩, ⟨3, 0⟩, ⟨6, 0⟩] (sceneWithout 6)
    let disordered :=
      twoTracked.synchronize [⟨2, 0⟩, ⟨1, 0⟩, ⟨2, 0⟩, ⟨5, 0⟩, ⟨3, 0⟩] (sceneWithout 6)
    ordered.1.handles = [⟨1, 0⟩, ⟨3, 0⟩] ∧ ordered.2 = ⟨1, 1⟩ ∧
      ordered.1.objects.get? ⟨1, 0⟩ =
        some (some ⟨.ofMillis 100, Point.origin, 0.0, Angle.zero⟩) ∧
      ⟨5, 0⟩ ∈ disordered.1.handles ∧ ⟨1, 0⟩ ∉ disordered.1.handles := by
  obtain ⟨_, inOrder, states, inserted, removed⟩ :=
    synchronize_reconciles twoTracked [⟨1, 0⟩, ⟨3, 0⟩, ⟨6, 0⟩] (sceneWithout 6)
  obtain ⟨mem_iff, _⟩ := synchronize_reconciles twoTracked
    [⟨2, 0⟩, ⟨1, 0⟩, ⟨2, 0⟩, ⟨5, 0⟩, ⟨3, 0⟩] (sceneWithout 6)
  have handles := inOrder (by decide)
  rw [handles] at states inserted removed
  refine ⟨handles, ?_, states ⟨1, 0⟩ List.mem_cons_self, (mem_iff _).mpr ?_,
    (mem_iff _).not.mpr ?_⟩
  · exact congrArg₂ Changes.mk inserted removed
  · decide
  · decide

end CollectivePerception.LocalTracking
