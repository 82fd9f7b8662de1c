/-
This file proves that a handle stands for one object and no other. What an edit does to the
objects behind handles is one equation for each kind of edit (`resolve_insert`,
`resolve_remove`, `resolve_modify`), as if the store were a map from handles to objects. The
handles that were handed out are those up to the present generation of each slot (`Issues`),
so a new one is none of them as long as no generation comes round. Both rest on an invariant
that every edit keeps: the free list holds the vacant slots, each once (`Sound`).
-/

import CollectivePerception.Proofs.Scene.Reuse
import Mathlib.Data.List.Nodup
import Mathlib.Data.List.Perm.Subperm

namespace CollectivePerception.Arena

variable {arena : Arena} {handle : Handle} {object : SceneObject}

/-! ### What is in a slot -/

theorem resolve_eq_some_iff :
    arena.resolve handle = some object ↔
      arena.slots[handle.index]? = some ⟨handle.generation, some object⟩ := by
  rw [resolve, slotOf?, Option.bind_eq_some_iff]
  constructor
  · rintro ⟨⟨generation, content⟩, found, occupied⟩
    rw [Option.filter_eq_some_iff, beq_iff_eq] at found
    obtain ⟨inside, rfl⟩ := found
    exact occupied ▸ inside
  · intro inside
    exact ⟨_, Option.filter_eq_some_iff.mpr ⟨inside, beq_self_eq_true _⟩, rfl⟩

/-- The slot of a handle is in the handle's generation or in a later one. -/
def HasIssued (arena : Arena) (handle : Handle) : Prop :=
  ∃ slot, arena.slots[handle.index]? = some slot ∧ handle.generation ≤ slot.generation

theorem hasIssued_of_resolve (resolved : arena.resolve handle = some object) :
    arena.HasIssued handle :=
  ⟨_, resolve_eq_some_iff.mp resolved, Nat.le_refl _⟩

theorem resolve_eq_none_of_not_hasIssued (unknown : ¬arena.HasIssued handle) :
    arena.resolve handle = none := by
  cases resolved : arena.resolve handle with
  | none => rfl
  | some object => exact absurd (hasIssued_of_resolve resolved) unknown

/-- What a slot holds for a handle of some generation. -/
theorem bind_filter_some (slot : Slot) (generation : Nat) :
    ((some slot).filter fun slot => slot.generation == generation).bind (·.object) =
      if generation = slot.generation then slot.object else none := by
  rw [Option.filter_some]
  simp only [beq_iff_eq, eq_comm (a := generation)]
  split <;> rfl

/-! ### The list of handles -/

theorem mem_handles_iff : handle ∈ arena.handles ↔ arena.resolve handle ≠ none := by
  obtain ⟨index, generation⟩ := handle
  rw [handles, List.mem_filterMap, Option.ne_none_iff_exists']
  simp only [resolve_eq_some_iff, Prod.exists, List.mem_zipIdx_iff_getElem?, Array.getElem?_toList,
    Option.map_eq_some_iff, Handle.mk.injEq]
  constructor
  · rintro ⟨⟨_, _⟩, _, inside, object, rfl, rfl, rfl⟩
    exact ⟨object, inside⟩
  · rintro ⟨object, inside⟩
    exact ⟨_, index, inside, object, rfl, rfl, rfl⟩

theorem handles_ascending (arena : Arena) :
    arena.handles.Pairwise fun first second => first.precedes second = true := by
  have indices : arena.slots.toList.zipIdx.Pairwise fun first second => first.2 < second.2 := by
    rw [← List.pairwise_map (f := Prod.snd), List.zipIdx_map_snd]
    exact List.pairwise_lt_range' 1
  refine List.pairwise_filterMap.mpr (indices.imp ?_)
  rintro ⟨_, index⟩ ⟨_, other⟩ before first isFirst second isSecond
  obtain ⟨_, _, rfl⟩ := Option.map_eq_some_iff.mp isFirst
  obtain ⟨_, _, rfl⟩ := Option.map_eq_some_iff.mp isSecond
  rw [Handle.precedes, Bool.or_eq_true, decide_eq_true_iff]
  exact .inl before

/-- There are as many handles as slots with an object. -/
theorem length_handles (arena : Arena) :
    arena.handles.length = arena.slots.toList.countP (·.object.isSome) := by
  rw [handles, List.length_filterMap_eq_countP]
  simp only [Option.isSome_map]
  conv_rhs => rw [← List.zipIdx_map_fst 0 arena.slots.toList, List.countP_map]
  rfl

/-- Rewriting one slot changes the number of objects by those that come and go. -/
theorem countP_setIfInBounds {slots : Array Slot} {index : Nat} {before : Slot}
    (found : slots[index]? = some before) (after : Slot) :
    (slots.setIfInBounds index after).toList.countP (·.object.isSome) +
        (if before.object.isSome then 1 else 0) =
      slots.toList.countP (·.object.isSome) + if after.object.isSome then 1 else 0 := by
  obtain ⟨inside, rfl⟩ := Array.getElem?_eq_some_iff.mp found
  have counted : slots[index].object.isSome = true →
      0 < slots.toList.countP (·.object.isSome) := fun occupied =>
    List.countP_pos_iff.mpr ⟨_, Array.getElem_mem_toList inside, occupied⟩
  rw [Array.toList_setIfInBounds, List.countP_set (by simpa using inside)]
  simp only [Array.getElem_toList]
  split
  · rename_i occupied
    have := counted occupied
    omega
  · omega

/-! ### Sound stores -/

/-- The free list holds the vacant slots, each once, and the objects are counted. -/
structure Sound (arena : Arena) : Prop where
  free_nodup : arena.free.Nodup
  mem_free_iff : ∀ index, index ∈ arena.free ↔
    ∃ slot, arena.slots[index]? = some slot ∧ slot.object = none
  count_eq : arena.count = arena.handles.length

theorem sound_empty : empty.Sound where
  free_nodup := List.nodup_nil
  mem_free_iff index := by
    refine iff_of_false List.not_mem_nil ?_
    rintro ⟨slot, found, _⟩
    exact nomatch found
  count_eq := rfl

theorem Sound.not_mem_free_of_resolve (sound : arena.Sound)
    (resolved : arena.resolve handle = some object) :
    handle.index ∉ arena.free := by
  rw [sound.mem_free_iff]
  rintro ⟨slot, found, vacant⟩
  cases (resolve_eq_some_iff.mp resolved).symm.trans found
  cases vacant

/-! ### Rewriting a slot -/

section

variable {index : Nat} {before : Slot}

theorem getElem?_rewritten (found : arena.slots[index]? = some before) (after : Slot)
    (other : Nat) :
    (arena.slots.setIfInBounds index after)[other]? =
      if other = index then some after else arena.slots[other]? := by
  rw [Array.getElem?_setIfInBounds, if_pos (Array.getElem?_eq_some_iff.mp found).1]
  exact if_congr eq_comm rfl rfl

theorem resolve_eq_none_of_vacant (found : arena.slots[index]? = some before)
    (vacant : before.object = none) (same : handle.index = index) :
    arena.resolve handle = none := by
  cases resolved : arena.resolve handle with
  | none => rfl
  | some object =>
    rw [resolve_eq_some_iff, same, found] at resolved
    cases resolved
    cases vacant

/-- A slot that is rewritten decides on the handles to it, and on no other. -/
theorem resolve_rewritten (found : arena.slots[index]? = some before) (after : Slot)
    (free : List Nat) (count : Nat) (handle : Handle) :
    (Arena.mk (arena.slots.setIfInBounds index after) free count).resolve handle =
      if handle.index = index then
        if handle.generation = after.generation then after.object else none
      else
        arena.resolve handle := by
  rw [resolve, slotOf?, getElem?_rewritten found]
  split
  · exact bind_filter_some after handle.generation
  · rfl

end

/-! ### Inserting -/

/-- An object is put into a vacant slot, which counts up its generation, or into a new slot if
there is none. -/
theorem insert_cases (sound : arena.Sound) (object : SceneObject) :
    (∃ index free before, arena.free = index :: free ∧ arena.slots[index]? = some before ∧
        before.object = none ∧
        arena.insert object =
          (⟨arena.slots.setIfInBounds index ⟨nextGeneration before.generation, some object⟩, free,
              arena.count + 1⟩,
            ⟨index, nextGeneration before.generation⟩)) ∨
      arena.free = [] ∧
        arena.insert object =
          (⟨arena.slots.push ⟨0, some object⟩, [], arena.count + 1⟩, ⟨arena.slots.size, 0⟩) := by
  unfold Arena.insert
  split
  · rename_i index free vacancies
    have vacant := (sound.mem_free_iff index).mp (vacancies ▸ List.mem_cons_self)
    obtain ⟨before, found, empty⟩ := vacant
    refine .inl ⟨index, free, before, vacancies, found, empty, ?_⟩
    rw [found]
    rfl
  · rename_i vacancies
    exact .inr ⟨vacancies, rfl⟩

theorem resolve_push (slot : Slot) (free : List Nat) (count : Nat) (handle : Handle) :
    (Arena.mk (arena.slots.push slot) free count).resolve handle =
      if handle.index = arena.slots.size then
        if handle.generation = slot.generation then slot.object else none
      else
        arena.resolve handle := by
  rw [resolve, slotOf?, Array.getElem?_push]
  split
  · exact bind_filter_some slot handle.generation
  · rfl

theorem resolve_eq_none_of_beyond (beyond : handle.index = arena.slots.size) :
    arena.resolve handle = none := by
  rw [resolve, slotOf?, beyond, Array.getElem?_eq_none (Nat.le_refl _)]
  rfl

/-- After an insertion the new handle refers to the object, and the others to what they
referred to before. -/
theorem resolve_insert (sound : arena.Sound) (object : SceneObject) (handle : Handle) :
    (arena.insert object).1.resolve handle =
      if handle = (arena.insert object).2 then some object else arena.resolve handle := by
  obtain ⟨index, generation⟩ := handle
  rcases arena.insert_cases sound object with
    ⟨slot, _, before, _, found, vacant, result⟩ | ⟨_, result⟩
  · rw [result, resolve_rewritten found]
    simp only [Handle.mk.injEq]
    by_cases same : index = slot
    · rw [if_pos same, resolve_eq_none_of_vacant found vacant same]
      exact if_congr (and_iff_right same).symm rfl rfl
    · rw [if_neg same, if_neg fun both => same both.1]
  · rw [result, resolve_push]
    simp only [Handle.mk.injEq]
    by_cases same : index = arena.slots.size
    · rw [if_pos same, resolve_eq_none_of_beyond same]
      exact if_congr (and_iff_right same).symm rfl rfl
    · rw [if_neg same, if_neg fun both => same both.1]

/-- The handle of an insertion refers to nothing before. -/
theorem resolve_snd_insert (sound : arena.Sound) (object : SceneObject) :
    arena.resolve (arena.insert object).2 = none := by
  rcases arena.insert_cases sound object with
    ⟨_, _, _, _, found, vacant, result⟩ | ⟨_, result⟩
  · rw [result]
    exact resolve_eq_none_of_vacant found vacant rfl
  · rw [result]
    exact resolve_eq_none_of_beyond rfl

/-- An insertion leaves every object where it is. -/
theorem resolve_insert_of_resolve (sound : arena.Sound) (added : SceneObject)
    (resolved : arena.resolve handle = some object) :
    (arena.insert added).1.resolve handle = some object := by
  have new := resolve_snd_insert sound added
  rw [resolve_insert sound, if_neg, resolved]
  rintro same
  rw [← same, resolved] at new
  cases new

theorem Sound.insert (sound : arena.Sound) (object : SceneObject) :
    (arena.insert object).1.Sound := by
  rcases arena.insert_cases sound object with
    ⟨slot, free, before, vacancies, found, vacant, result⟩ | ⟨vacancies, result⟩
  · have nodup := sound.free_nodup
    rw [vacancies, List.nodup_cons] at nodup
    rw [result]
    refine ⟨nodup.2, fun index => ?_, ?_⟩
    · rw [getElem?_rewritten found]
      by_cases same : index = slot
      · rw [if_pos same, same]
        exact iff_of_false nodup.1 (by rintro ⟨_, ⟨⟩, ⟨⟩⟩)
      · rw [if_neg same, ← sound.mem_free_iff, vacancies, List.mem_cons, or_iff_right same]
    · have counted := countP_setIfInBounds found ⟨nextGeneration before.generation, some object⟩
      rw [vacant] at counted
      rw [length_handles]
      exact (congrArg (· + 1) (sound.count_eq.trans (length_handles arena))).trans counted.symm
  · rw [result]
    refine ⟨List.nodup_nil, fun index => ?_, ?_⟩
    · have former := sound.mem_free_iff index
      rw [vacancies] at former
      rw [Array.getElem?_push, former]
      split
      · rename_i last
        rw [last, Array.getElem?_eq_none (Nat.le_refl _)]
        exact iff_of_false (by rintro ⟨_, ⟨⟩, _⟩) (by rintro ⟨_, ⟨⟩, ⟨⟩⟩)
      · exact Iff.rfl
    · rw [length_handles, Array.toList_push, List.countP_append]
      exact congrArg (· + 1) (sound.count_eq.trans (length_handles arena))

/-! ### Removing and changing -/

/-- Removing returns what the handle refers to, and changes nothing if that is nothing. -/
theorem remove_eq (arena : Arena) (handle : Handle) :
    (arena.remove handle).2 = arena.resolve handle ∧
      (arena.resolve handle = none → (arena.remove handle).1 = arena) := by
  unfold remove
  split
  · rename_i unresolved
    exact ⟨unresolved.symm, fun _ => rfl⟩
  · rename_i object resolved
    refine ⟨resolved.symm, fun unresolved => ?_⟩
    cases resolved.symm.trans unresolved

theorem remove_of_resolve (resolved : arena.resolve handle = some object) :
    (arena.remove handle).1 =
      ⟨arena.slots.setIfInBounds handle.index ⟨handle.generation, none⟩,
        handle.index :: arena.free, arena.count - 1⟩ := by
  unfold remove
  rw [resolved]

theorem modify_of_resolve_eq_none (unresolved : arena.resolve handle = none)
    (change : SceneObject → SceneObject) : arena.modify handle change = arena := by
  unfold modify
  rw [unresolved]

theorem modify_of_resolve (resolved : arena.resolve handle = some object)
    (change : SceneObject → SceneObject) :
    arena.modify handle change =
      { arena with
        slots := arena.slots.setIfInBounds handle.index
          ⟨handle.generation, some (change object)⟩ } := by
  unfold modify
  rw [resolved]

/-- Other handles to the slot of an object refer to nothing. -/
theorem resolve_eq_none_of_generation_ne (resolved : arena.resolve handle = some object)
    {other : Handle} (same : other.index = handle.index)
    (apart : other.generation ≠ handle.generation) : arena.resolve other = none := by
  cases found : arena.resolve other with
  | none => rfl
  | some content =>
    rw [resolve_eq_some_iff, same, resolve_eq_some_iff.mp resolved] at found
    exact absurd (congrArg Slot.generation (Option.some.inj found)).symm apart

/-- Rewriting the slot of an object without counting up its generation changes what the
object's handle refers to, and nothing else. -/
theorem resolve_replaced (resolved : arena.resolve handle = some object)
    (content : Option SceneObject) (free : List Nat) (count : Nat) (other : Handle) :
    (Arena.mk (arena.slots.setIfInBounds handle.index ⟨handle.generation, content⟩) free
        count).resolve other =
      if other = handle then content else arena.resolve other := by
  rw [resolve_rewritten (resolve_eq_some_iff.mp resolved)]
  by_cases same : other.index = handle.index
  · rw [if_pos same]
    by_cases generation : other.generation = handle.generation
    · have equal : other = handle := by
        show Handle.mk other.index other.generation = Handle.mk handle.index handle.generation
        rw [same, generation]
      rw [if_pos generation, if_pos equal]
    · rw [if_neg generation, if_neg fun equal => generation (congrArg Handle.generation equal),
        resolve_eq_none_of_generation_ne resolved same generation]
  · rw [if_neg same, if_neg fun equal => same (congrArg Handle.index equal)]

/-- After a removal the handle refers to nothing, and the others to what they referred to
before. -/
theorem resolve_remove (arena : Arena) (handle other : Handle) :
    (arena.remove handle).1.resolve other =
      if other = handle then none else arena.resolve other := by
  cases resolved : arena.resolve handle with
  | none =>
    rw [(arena.remove_eq handle).2 resolved]
    split
    · rename_i same
      rw [same, resolved]
    · rfl
  | some object =>
    rw [remove_of_resolve resolved, resolve_replaced resolved]

/-- A change is seen through the handle by which it was made, and through no other. -/
theorem resolve_modify (arena : Arena) (handle other : Handle)
    (change : SceneObject → SceneObject) :
    (arena.modify handle change).resolve other =
      if other = handle then (arena.resolve handle).map change else arena.resolve other := by
  cases resolved : arena.resolve handle with
  | none =>
    rw [modify_of_resolve_eq_none resolved]
    split
    · rename_i same
      rw [same, resolved]
      rfl
    · rfl
  | some object => exact modify_of_resolve resolved change ▸ resolve_replaced resolved _ _ _ _

theorem Sound.remove (sound : arena.Sound) (handle : Handle) :
    (arena.remove handle).1.Sound := by
  cases resolved : arena.resolve handle with
  | none =>
    rw [(arena.remove_eq handle).2 resolved]
    exact sound
  | some object =>
    have found := resolve_eq_some_iff.mp resolved
    rw [remove_of_resolve resolved]
    refine ⟨List.nodup_cons.mpr ⟨sound.not_mem_free_of_resolve resolved, sound.free_nodup⟩,
      fun index => ?_, ?_⟩
    · rw [getElem?_rewritten found, List.mem_cons]
      by_cases same : index = handle.index
      · rw [if_pos same]
        exact iff_of_true (.inl same) ⟨_, rfl, rfl⟩
      · rw [if_neg same, or_iff_right same, sound.mem_free_iff]
    · have counted := countP_setIfInBounds found ⟨handle.generation, none⟩
      have before := sound.count_eq
      rw [length_handles] at before ⊢
      simp only [Option.isSome_some, Option.isSome_none, if_true, Bool.false_eq_true, if_false]
        at counted
      dsimp only
      omega

theorem Sound.modify (sound : arena.Sound) (handle : Handle)
    (change : SceneObject → SceneObject) : (arena.modify handle change).Sound := by
  cases resolved : arena.resolve handle with
  | none =>
    rw [modify_of_resolve_eq_none resolved]
    exact sound
  | some object =>
    have found := resolve_eq_some_iff.mp resolved
    rw [modify_of_resolve resolved]
    refine ⟨sound.free_nodup, fun index => ?_, ?_⟩
    · rw [getElem?_rewritten found, sound.mem_free_iff]
      by_cases same : index = handle.index
      · rw [if_pos same, same, found]
        exact iff_of_false (by rintro ⟨_, ⟨⟩, ⟨⟩⟩) (by rintro ⟨_, ⟨⟩, ⟨⟩⟩)
      · rw [if_neg same]
    · have counted := countP_setIfInBounds found ⟨handle.generation, some (change object)⟩
      rw [length_handles]
      exact (sound.count_eq.trans (length_handles arena)).trans (Nat.add_right_cancel counted).symm

/-! ### One edit -/

theorem Sound.edited (sound : arena.Sound) (edit : Edit) : (arena.edited edit).Sound := by
  cases edit with
  | insert object => exact sound.insert object
  | remove handle => exact sound.remove handle
  | modify handle change => exact sound.modify handle change

/-- The handle that an edit hands out. -/
def handedOut (arena : Arena) : Edit → Option Handle
  | .insert object => some (arena.insert object).2
  | _ => none

/-- An edit removes the object behind a handle. -/
def Edit.removes (handle : Handle) : Edit → Bool
  | .remove other => other = handle
  | _ => false

/-- An object after a change that was made through its handle, if it was. -/
def Edit.updated (handle : Handle) (object : SceneObject) : Edit → SceneObject
  | .modify other change => if other = handle then change object else object
  | _ => object

/-- An edit that does not hand out a handle removes the object behind it, or changes it. -/
theorem resolve_edited (sound : arena.Sound) {edit : Edit}
    (other : arena.handedOut edit ≠ some handle) :
    (arena.edited edit).resolve handle =
      if edit.removes handle then none
      else (arena.resolve handle).map fun object => edit.updated handle object := by
  cases edit with
  | insert object =>
    have apart : handle ≠ (arena.insert object).2 := fun same => other (congrArg some same.symm)
    rw [edited, resolve_insert sound, if_neg apart]
    exact Option.map_id'.symm
  | remove removed =>
    rw [edited, resolve_remove, Edit.removes]
    simp only [decide_eq_true_eq, eq_comm (a := handle), Edit.updated, Option.map_id']
  | modify modified change =>
    rw [edited, resolve_modify]
    simp only [Edit.removes, Edit.updated, Bool.false_eq_true, if_false]
    by_cases same : handle = modified
    · rw [if_pos same, same]
      simp only [if_true]
    · rw [if_neg same]
      simp only [if_neg (Ne.symm same), Option.map_id']

/-! ### The handles that are handed out -/

/-- The handles that edits hand out, in their order. -/
def issued (arena : Arena) : List Edit → List Handle
  | [] => []
  | edit :: later => (arena.handedOut edit).toList ++ (arena.edited edit).issued later

theorem issued_append (arena : Arena) (edits later : List Edit) :
    arena.issued (edits ++ later) = arena.issued edits ++ (arena.editedBy edits).issued later := by
  induction edits generalizing arena with
  | nil => rfl
  | cons edit rest inductionHypothesis =>
    rw [List.cons_append, issued, inductionHypothesis, ← List.append_assoc]
    rfl

theorem editedBy_append (arena : Arena) (edits later : List Edit) :
    arena.editedBy (edits ++ later) = (arena.editedBy edits).editedBy later :=
  List.foldl_append

theorem Sound.editedBy (sound : arena.Sound) (edits : List Edit) :
    (arena.editedBy edits).Sound := by
  induction edits generalizing arena with
  | nil => exact sound
  | cons edit later inductionHypothesis => exact inductionHypothesis (sound.edited edit)

/-- Where all handles are different, the one of an insertion is not handed out again. -/
theorem mem_issued_of_insert {edits before after : List Edit} (nodup : (arena.issued edits).Nodup)
    (apart : edits = before ++ .insert object :: after) :
    ((arena.editedBy before).insert object).2 ∈ arena.issued edits ∧
      ((arena.editedBy before).insert object).2 ∉
        ((arena.editedBy before).insert object).1.issued after := by
  rw [apart, issued_append] at nodup ⊢
  exact ⟨List.mem_append_right _ List.mem_cons_self,
    (List.nodup_cons.mp (List.nodup_append.mp nodup).2.1).1⟩

theorem length_issued (arena : Arena) (edits : List Edit) :
    (arena.issued edits).length = edits.countP Edit.isInsertion := by
  induction edits generalizing arena with
  | nil => rfl
  | cons edit rest inductionHypothesis =>
    rw [issued, List.length_append, inductionHypothesis, List.countP_cons, Nat.add_comm]
    cases edit <;> rfl

/-- What is behind a handle after edits that follow the insertion of an object: nothing once
they have removed it, and before that the object with the changes made through the handle. -/
def fate (handle : Handle) (object : SceneObject) (edits : List Edit) : Option SceneObject :=
  if edits.any (·.removes handle) then none else some (edits.foldl (Edit.updated handle) object)

theorem fate_cons (handle : Handle) (object : SceneObject) (edit : Edit) (later : List Edit) :
    fate handle object (edit :: later) =
      if edit.removes handle then none else fate handle (edit.updated handle object) later := by
  rw [fate, List.any_cons, List.foldl_cons]
  cases edit.removes handle <;> rfl

/-- Edits that do not hand out a handle again leave behind it what they are meant to. -/
theorem resolve_editedBy (sound : arena.Sound) {edits : List Edit}
    (notAgain : handle ∉ arena.issued edits) :
    (arena.editedBy edits).resolve handle =
      (arena.resolve handle).bind fun object => fate handle object edits := by
  induction edits generalizing arena with
  | nil =>
    show arena.resolve handle = _
    cases arena.resolve handle <;> rfl
  | cons edit later inductionHypothesis =>
    rw [issued, List.mem_append, not_or, Option.mem_toList] at notAgain
    simp only [fate_cons]
    refine (inductionHypothesis (sound.edited edit) notAgain.2).trans ?_
    rw [resolve_edited sound notAgain.1]
    cases edit.removes handle <;> cases arena.resolve handle <;> rfl

/-! ### New handles -/

section

variable {index : Nat} {before : Slot}

theorem hasIssued_iff_of_found (found : arena.slots[index]? = some before)
    (same : handle.index = index) :
    arena.HasIssued handle ↔ handle.generation ≤ before.generation := by
  rw [HasIssued, same, found]
  simp only [Option.some.injEq, exists_eq_left']

theorem hasIssued_rewritten (found : arena.slots[index]? = some before) (after : Slot)
    (free : List Nat) (count : Nat) :
    (Arena.mk (arena.slots.setIfInBounds index after) free count).HasIssued handle ↔
      if handle.index = index then handle.generation ≤ after.generation
      else arena.HasIssued handle := by
  rw [HasIssued, getElem?_rewritten found]
  split
  · simp only [Option.some.injEq, exists_eq_left']
  · rfl

theorem hasIssued_push (slot : Slot) (free : List Nat) (count : Nat) :
    (Arena.mk (arena.slots.push slot) free count).HasIssued handle ↔
      if handle.index = arena.slots.size then handle.generation ≤ slot.generation
      else arena.HasIssued handle := by
  rw [HasIssued, Array.getElem?_push]
  split
  · simp only [Option.some.injEq, exists_eq_left']
  · rfl

theorem not_hasIssued_of_beyond (beyond : handle.index = arena.slots.size) :
    ¬arena.HasIssued handle := by
  rintro ⟨slot, found, _⟩
  rw [beyond, Array.getElem?_eq_none (Nat.le_refl _)] at found
  cases found

end

/-- Rewriting the slot of an object without counting up its generation hands out nothing. -/
theorem hasIssued_replaced {removed : Handle} (resolved : arena.resolve removed = some object)
    (content : Option SceneObject) (free : List Nat) (count : Nat) :
    (Arena.mk (arena.slots.setIfInBounds removed.index ⟨removed.generation, content⟩) free
        count).HasIssued handle ↔ arena.HasIssued handle := by
  have found := resolve_eq_some_iff.mp resolved
  rw [hasIssued_rewritten found]
  split
  · rename_i same
    exact (hasIssued_iff_of_found found same).symm
  · rfl

theorem hasIssued_remove {removed : Handle} :
    (arena.remove removed).1.HasIssued handle ↔ arena.HasIssued handle := by
  cases resolved : arena.resolve removed with
  | none => rw [(arena.remove_eq removed).2 resolved]
  | some object => rw [remove_of_resolve resolved, hasIssued_replaced resolved]

theorem hasIssued_modify {modified : Handle} {change : SceneObject → SceneObject} :
    (arena.modify modified change).HasIssued handle ↔ arena.HasIssued handle := by
  cases resolved : arena.resolve modified with
  | none => rw [modify_of_resolve_eq_none resolved]
  | some object => rw [modify_of_resolve resolved, hasIssued_replaced resolved]

/-- An insertion hands out a handle that was not handed out before, and no other, if the slot's
generation does not come round. -/
theorem hasIssued_insert (sound : arena.Sound) (object : SceneObject)
    (young : ∀ (index : Nat) (slot : Slot), arena.slots[index]? = some slot →
      slot.generation + 1 < 4294967296) :
    ¬arena.HasIssued (arena.insert object).2 ∧
      ∀ handle, (arena.insert object).1.HasIssued handle ↔
        arena.HasIssued handle ∨ handle = (arena.insert object).2 := by
  rcases arena.insert_cases sound object with ⟨index, _, before, _, found, _, result⟩ | ⟨_, result⟩
  · have next : nextGeneration before.generation = before.generation + 1 :=
      Nat.mod_eq_of_lt (young index before found)
    rw [result, next]
    refine ⟨?_, fun handle => ?_⟩
    · rw [hasIssued_iff_of_found found rfl]
      exact Nat.not_succ_le_self before.generation
    · obtain ⟨place, generation⟩ := handle
      simp only [hasIssued_rewritten found, Handle.mk.injEq]
      split
      · rename_i same
        rw [hasIssued_iff_of_found found same, and_iff_right same]
        exact Nat.le_succ_iff
      · rename_i apart
        exact (or_iff_left fun both => apart both.1).symm
  · rw [result]
    refine ⟨not_hasIssued_of_beyond rfl, fun handle => ?_⟩
    obtain ⟨place, generation⟩ := handle
    simp only [hasIssued_push, Handle.mk.injEq]
    split
    · rename_i same
      rw [or_iff_right (not_hasIssued_of_beyond same), and_iff_right same, Nat.le_zero]
    · rename_i apart
      exact (or_iff_left fun both => apart both.1).symm

/-- A store that has handed out just these handles: they are all different, and they are the
handles up to the present generation of each slot. -/
structure Issues (arena : Arena) (issued : List Handle) : Prop where
  sound : arena.Sound
  nodup : issued.Nodup
  mem_iff : ∀ handle, handle ∈ issued ↔ arena.HasIssued handle

theorem issues_empty : empty.Issues [] where
  sound := sound_empty
  nodup := List.nodup_nil
  mem_iff handle := by
    refine iff_of_false List.not_mem_nil ?_
    rintro ⟨slot, found, _⟩
    exact nomatch found

section

variable {issued : List Handle}

/-- Different handles that were all handed out are not more than there were. -/
theorem Issues.lt_length (issues : arena.Issues issued) {last : Nat} (name : Nat → Handle)
    (different : Function.Injective name)
    (handed : ∀ number ≤ last, arena.HasIssued (name number)) : last < issued.length := by
  have distinct : ((List.range (last + 1)).map name).Nodup :=
    List.Nodup.map different List.nodup_range
  have among : (List.range (last + 1)).map name ⊆ issued := by
    intro handle member
    obtain ⟨number, inside, rfl⟩ := List.mem_map.mp member
    exact (issues.mem_iff _).mpr (handed number (Nat.lt_succ_iff.mp (List.mem_range.mp inside)))
  have fewer := (List.subperm_of_subset distinct among).length_le
  rwa [List.length_map, List.length_range] at fewer

/-- A slot comes into a generation by as many insertions. -/
theorem Issues.generation_lt (issues : arena.Issues issued) {index : Nat} {slot : Slot}
    (found : arena.slots[index]? = some slot) : slot.generation < issued.length :=
  issues.lt_length (fun generation => ⟨index, generation⟩)
    (fun _ _ same => congrArg Handle.generation same)
    fun _ before => (hasIssued_iff_of_found found rfl).mpr before

/-- There are no more slots than insertions. -/
theorem Issues.index_lt (issues : arena.Issues issued) {index : Nat} {slot : Slot}
    (found : arena.slots[index]? = some slot) : index < issued.length := by
  refine issues.lt_length (fun place => ⟨place, 0⟩)
    (fun _ _ same => congrArg Handle.index same) fun place before => ?_
  have inside := Nat.lt_of_le_of_lt before (Array.getElem?_eq_some_iff.mp found).1
  exact ⟨_, Array.getElem?_eq_getElem inside, Nat.zero_le _⟩

theorem Issues.insert (issues : arena.Issues issued) (object : SceneObject)
    (few : issued.length + 1 < 4294967296) :
    (arena.insert object).1.Issues (issued ++ [(arena.insert object).2]) := by
  obtain ⟨new, only⟩ := hasIssued_insert issues.sound object fun index slot found =>
    Nat.lt_of_le_of_lt (issues.generation_lt found) (Nat.lt_of_succ_lt few)
  refine ⟨issues.sound.insert object, ?_, fun handle => ?_⟩
  · rw [← issues.mem_iff] at new
    rw [← List.concat_eq_append]
    exact List.Nodup.concat new issues.nodup
  · rw [List.mem_append, List.mem_singleton, issues.mem_iff, only]

theorem Issues.edited (issues : arena.Issues issued) (edit : Edit)
    (few : issued.length + (arena.handedOut edit).toList.length < 4294967296) :
    (arena.edited edit).Issues (issued ++ (arena.handedOut edit).toList) := by
  cases edit with
  | insert object => exact issues.insert object few
  | remove handle =>
    refine (List.append_nil issued).symm ▸
      ⟨issues.sound.remove handle, issues.nodup, fun other => ?_⟩
    exact (issues.mem_iff other).trans hasIssued_remove.symm
  | modify handle change =>
    refine (List.append_nil issued).symm ▸
      ⟨issues.sound.modify handle change, issues.nodup, fun other => ?_⟩
    exact (issues.mem_iff other).trans hasIssued_modify.symm

/-- Edits with fewer than `2 ^ 32` insertions in all leave a store that has handed out just what
they handed out. -/
theorem Issues.editedBy (issues : arena.Issues issued) (edits : List Edit)
    (few : issued.length + (arena.issued edits).length < 4294967296) :
    (arena.editedBy edits).Issues (issued ++ arena.issued edits) := by
  induction edits generalizing arena issued with
  | nil => exact (List.append_nil issued).symm ▸ issues
  | cons edit later inductionHypothesis =>
    rw [Arena.issued, List.length_append] at few
    rw [Arena.issued, ← List.append_assoc]
    refine inductionHypothesis (issues.edited edit (by omega)) ?_
    rw [List.length_append]
    omega

end

/-! ### Handles and objects -/

/-- In a store that was filled from nothing with fewer than `2 ^ 32` insertions, all handles
that were handed out are different, and a handle refers to the object that was inserted with
it, as changed through it, until it is removed through it. Handles that were not handed out
refer to nothing. Removing succeeds exactly through a handle that refers to something and
changes nothing otherwise. The count and the list of handles, in strictly ascending order, are
those of the objects, and the free list holds the vacant slots, each once. -/
theorem handles_identify_objects (edits : List Edit)
    (few : edits.countP Edit.isInsertion < 4294967296) :
    let arena := empty.editedBy edits
    let issued := empty.issued edits
    issued.Nodup ∧
      (∀ handle ∈ issued, handle.index < 4294967296 ∧ handle.generation < 4294967296) ∧
      (∀ before object after, edits = before ++ .insert object :: after →
        let handle := ((empty.editedBy before).insert object).2
        handle ∈ issued ∧ arena.resolve handle = fate handle object after) ∧
      (∀ handle ∉ issued, arena.resolve handle = none) ∧
      (∀ handle, (arena.remove handle).2 = arena.resolve handle ∧
        (arena.resolve handle = none → (arena.remove handle).1 = arena)) ∧
      arena.count = arena.handles.length ∧
      (∀ handle, handle ∈ arena.handles ↔ arena.resolve handle ≠ none) ∧
      (arena.handles.Pairwise fun first second => first.precedes second = true) ∧
      arena.free.Nodup ∧
      ∀ index, index ∈ arena.free ↔
        ∃ slot, arena.slots[index]? = some slot ∧ slot.object = none := by
  intro arena issued
  have counted : issued.length = edits.countP Edit.isInsertion := empty.length_issued edits
  have issues : arena.Issues issued :=
    issues_empty.editedBy edits (by rw [List.length_nil, Nat.zero_add]; exact counted ▸ few)
  refine ⟨issues.nodup, fun handle member => ?_, fun before object after apart => ?_,
    fun handle unknown => ?_, arena.remove_eq, issues.sound.count_eq, fun _ => mem_handles_iff,
    arena.handles_ascending, issues.sound.free_nodup, issues.sound.mem_free_iff⟩
  · obtain ⟨slot, found, notLater⟩ := (issues.mem_iff handle).mp member
    have index := issues.index_lt found
    have generation := issues.generation_lt found
    omega
  · obtain ⟨member, notAgain⟩ := mem_issued_of_insert issues.nodup apart
    refine ⟨member, ?_⟩
    have sound := (sound_empty.editedBy before).insert object
    have resolved := resolve_editedBy sound notAgain
    rw [resolve_insert (sound_empty.editedBy before), if_pos rfl] at resolved
    show (empty.editedBy edits).resolve _ = _
    rw [apart, editedBy_append]
    exact resolved
  · exact resolve_eq_none_of_not_hasIssued fun handed =>
      unknown ((issues.mem_iff handle).mpr handed)

/-- A car leaves, a tram takes its slot, and the handle of the car is used once more. -/
def reusingEdits : List Edit :=
  [.insert (.initial 7 .passengerCar), .insert (.initial 8 .bus), .remove ⟨0, 0⟩,
    .insert (.initial 9 .tram), .remove ⟨0, 0⟩,
    .modify ⟨0, 1⟩ fun object => { object with station := 10 }]

/-- The handle of the car refers to nothing any more, and that of the tram to the tram as it was
changed. -/
theorem reusingEdits_identify_objects :
    reusingEdits.countP Edit.isInsertion < 4294967296 ∧
      (empty.editedBy reusingEdits).resolve ⟨0, 0⟩ = none ∧
      (empty.editedBy reusingEdits).resolve ⟨0, 1⟩ = some (.initial 10 .tram) ∧
      (empty.issued reusingEdits).Nodup ∧
      (⟨1, 0⟩ : Handle) ∈ (empty.editedBy reusingEdits).handles ∧
      0 ∉ (empty.editedBy reusingEdits).free := by
  have few : reusingEdits.countP Edit.isInsertion < 4294967296 := by decide
  obtain ⟨nodup, _, fates, _, _, _, listed, _, _, vacant⟩ :=
    handles_identify_objects reusingEdits few
  have car := (fates [] (.initial 7 .passengerCar) _ rfl).2
  have bus := (fates [.insert (.initial 7 .passengerCar)] (.initial 8 .bus) _ rfl).2
  have tram := (fates [.insert (.initial 7 .passengerCar), .insert (.initial 8 .bus),
    .remove ⟨0, 0⟩] (.initial 9 .tram) _ rfl).2
  refine ⟨few, car, tram, nodup, (listed _).mpr ?_, fun member => ?_⟩
  · exact bus ▸ Option.some_ne_none _
  · obtain ⟨slot, found, none⟩ := (vacant 0).mp member
    cases found
    cases none

end CollectivePerception.Arena
