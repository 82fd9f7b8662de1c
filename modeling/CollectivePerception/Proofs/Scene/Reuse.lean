/-
This file proves that a store does not hand out a handle again while it can still be
mistaken for an older one. Between two states of a store each slot has counted up its
generation once for every object that was put into it, and its count comes round only after
`2 ^ 32` of them (`iterate_nextGeneration_ne`). A handle that is new after fewer insertions
therefore did not resolve before them (`resolve_insert_eq_none`), even if its slot did.
-/

import CollectivePerception.Scene
import Mathlib.Logic.Function.Iterate

namespace CollectivePerception.Arena

/-! ### Edits -/

/-- One change of a store. -/
inductive Edit
  | insert (object : SceneObject)
  | remove (handle : Handle)
  | modify (handle : Handle) (change : SceneObject → SceneObject)

def Edit.isInsertion : Edit → Bool
  | insert _ => true
  | _ => false

/-- The store after one change. -/
def edited (arena : Arena) : Edit → Arena
  | .insert object => (arena.insert object).1
  | .remove handle => (arena.remove handle).1
  | .modify handle change => arena.modify handle change

/-- The store after changes made one after the other. -/
def editedBy (arena : Arena) (edits : List Edit) : Arena :=
  edits.foldl edited arena

/-! ### Generations -/

theorem iterate_nextGeneration_succ (generation steps : Nat) :
    nextGeneration^[steps + 1] generation = (generation + (steps + 1)) % 4294967296 := by
  induction steps with
  | zero => rfl
  | succ steps inductionHypothesis =>
    rw [Function.iterate_succ_apply', inductionHypothesis, nextGeneration]
    omega

/-- A slot is not in the same generation again until it was used `2 ^ 32` times. -/
theorem iterate_nextGeneration_ne (generation : Nat) {steps : Nat} (few : steps + 1 < 4294967296) :
    nextGeneration^[steps + 1] generation ≠ generation := by
  rw [iterate_nextGeneration_succ]
  omega

/-- The second store comes from the first by edits with at most `uses` insertions: every
slot is still there and was used again at most that often. -/
def Advances (uses : Nat) (first second : Arena) : Prop :=
  ∀ (index : Nat) (before : Slot), first.slots[index]? = some before →
    ∃ after : Slot, second.slots[index]? = some after ∧
      ∃ steps ≤ uses, after.generation = nextGeneration^[steps] before.generation

theorem advances_refl (arena : Arena) : arena.Advances 0 arena :=
  fun _ before found => ⟨before, found, 0, Nat.le_refl 0, rfl⟩

theorem Advances.trans {early late : Nat} {first second third : Arena}
    (begins : first.Advances early second) (goesOn : second.Advances late third) :
    first.Advances (early + late) third := by
  intro index before found
  obtain ⟨between, foundBetween, steps, few, same⟩ := begins index before found
  obtain ⟨after, foundAfter, further, fewFurther, sameFurther⟩ :=
    goesOn index between foundBetween
  refine ⟨after, foundAfter, further + steps, by omega, ?_⟩
  rw [sameFurther, same, Function.iterate_add_apply]

theorem Advances.size_le {uses : Nat} {first second : Arena}
    (advances : first.Advances uses second) : first.slots.size ≤ second.slots.size := by
  by_contra shrunk
  have inside : second.slots.size < first.slots.size := by omega
  obtain ⟨after, found, _⟩ := advances _ _ (Array.getElem?_eq_getElem inside)
  rw [Array.getElem?_eq_none (Nat.le_refl _)] at found
  cases found

/-- Rewriting one slot advances a store if the slot's generation did. -/
theorem advances_setIfInBounds {uses : Nat} (arena : Arena) (index : Nat) (slot : Slot)
    (free : List Nat) (count : Nat)
    (advanced : ∀ before, arena.slots[index]? = some before →
      ∃ steps ≤ uses, slot.generation = nextGeneration^[steps] before.generation) :
    arena.Advances uses ⟨arena.slots.setIfInBounds index slot, free, count⟩ := by
  intro other before found
  by_cases same : index = other
  · subst same
    refine ⟨slot, ?_, advanced before found⟩
    rw [Array.getElem?_setIfInBounds_self, if_pos (Array.getElem?_eq_some_iff.mp found).1]
  · refine ⟨before, ?_, 0, Nat.zero_le uses, rfl⟩
    rw [Array.getElem?_setIfInBounds_ne same]
    exact found

theorem generation_of_resolve {arena : Arena} {handle : Handle} {object : SceneObject}
    (resolved : arena.resolve handle = some object) :
    ∃ slot, arena.slots[handle.index]? = some slot ∧ slot.generation = handle.generation := by
  obtain ⟨slot, found, _⟩ := Option.bind_eq_some_iff.mp resolved
  rw [slotOf?, Option.filter_eq_some_iff, beq_iff_eq] at found
  exact ⟨slot, found⟩

/-- One edit uses a slot again only if it inserts an object. -/
theorem edited_advances (arena : Arena) (edit : Edit) :
    arena.Advances (if edit.isInsertion = true then 1 else 0) (arena.edited edit) := by
  have rewritten {handle : Handle} {object : SceneObject}
      (resolved : arena.resolve handle = some object) (slot : Option SceneObject)
      (free : List Nat) (count : Nat) :
      arena.Advances 0
        ⟨arena.slots.setIfInBounds handle.index ⟨handle.generation, slot⟩, free, count⟩ := by
    refine arena.advances_setIfInBounds _ _ _ _ fun before found => ?_
    obtain ⟨current, foundCurrent, same⟩ := generation_of_resolve resolved
    cases found.symm.trans foundCurrent
    exact ⟨0, Nat.le_refl 0, same.symm⟩
  cases edit with
  | insert object =>
    show arena.Advances 1 (arena.insert object).1
    unfold Arena.insert
    split
    · refine arena.advances_setIfInBounds _ _ _ _ fun before found => ?_
      refine ⟨1, Nat.le_refl 1, ?_⟩
      dsimp only
      rw [found]
      rfl
    · intro index before found
      have inside := (Array.getElem?_eq_some_iff.mp found).1
      refine ⟨before, ?_, 0, Nat.zero_le 1, rfl⟩
      rw [Array.getElem?_push_lt inside]
      exact (Array.getElem?_eq_getElem inside).symm.trans found
  | remove handle =>
    show arena.Advances 0 (arena.remove handle).1
    unfold Arena.remove
    split
    · exact arena.advances_refl
    · rename_i object resolved
      exact rewritten resolved none _ _
  | modify handle change =>
    show arena.Advances 0 (arena.modify handle change)
    unfold Arena.modify
    split
    · exact arena.advances_refl
    · rename_i object resolved
      exact rewritten resolved (some (change object)) _ _

theorem editedBy_advances (arena : Arena) (edits : List Edit) :
    arena.Advances (edits.countP Edit.isInsertion) (arena.editedBy edits) := by
  induction edits generalizing arena with
  | nil => exact arena.advances_refl
  | cons edit later inductionHypothesis =>
    rw [List.countP_cons, Nat.add_comm]
    exact (arena.edited_advances edit).trans (inductionHypothesis (arena.edited edit))

/-! ### New handles -/

/-- A handle that is new after fewer than `2 ^ 32` insertions referred to nothing before. -/
theorem resolve_insert_eq_none (arena : Arena) (edits : List Edit) (object : SceneObject)
    (few : edits.countP Edit.isInsertion + 1 < 4294967296) :
    arena.resolve ((arena.editedBy edits).insert object).2 = none := by
  have advances := arena.editedBy_advances edits
  generalize arena.editedBy edits = later at advances
  have unresolved (handle : Handle)
      (apart : ∀ before, arena.slots[handle.index]? = some before →
        handle.generation ≠ before.generation) : arena.resolve handle = none := by
    cases resolved : arena.resolve handle with
    | none => rfl
    | some found =>
      obtain ⟨slot, inside, same⟩ := generation_of_resolve resolved
      exact absurd same.symm (apart slot inside)
  refine unresolved _ fun before found => ?_
  unfold Arena.insert at found ⊢
  split at found
  · obtain ⟨after, inside, steps, most, same⟩ := advances _ _ found
    dsimp only at inside ⊢
    rw [inside, Option.map_some, Option.getD_some, same,
      ← Function.iterate_succ_apply' nextGeneration]
    exact iterate_nextGeneration_ne before.generation (by omega)
  · rw [Array.getElem?_eq_none advances.size_le] at found
    cases found

end CollectivePerception.Arena
