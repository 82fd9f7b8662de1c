/-
This file defines the objects of a scene and the store that owns them. A store hands
out handles, which stay valid references after their object has left: a handle
resolves until its object is removed and never afterwards, because a slot that is
used again counts up its generation. A handle that no longer resolves is no error, it
says that the object is gone.
-/

import CollectivePerception.OrderedMap
import CollectivePerception.Station

namespace CollectivePerception

/-! ### Handles and objects -/

/-- A reference to an object of a scene: a slot and how often it was used before. -/
structure Handle where
  index : Nat
  generation : Nat
deriving DecidableEq, Repr, Inhabited

namespace Handle

/-- Handles are ordered by slot, and by generation within a slot. -/
def precedes (first second : Handle) : Bool :=
  first.index < second.index ||
    (first.index == second.index && first.generation < second.generation)

instance : OrderedKey Handle where
  precedes := precedes
  irreflexive key := by simp [precedes]
  transitive first second third before after := by
    simp only [precedes, Bool.or_eq_true, Bool.and_eq_true, decide_eq_true_eq, beq_iff_eq] at *
    omega
  connected first second before after := by
    obtain ⟨firstIndex, firstGeneration⟩ := first
    obtain ⟨secondIndex, secondGeneration⟩ := second
    simp only [precedes, Bool.or_eq_false_iff, Bool.and_eq_false_imp, decide_eq_false_iff_not,
      beq_iff_eq] at before after
    have index : firstIndex = secondIndex := by omega
    have generation : firstGeneration = secondGeneration := by
      have := before.2 index
      have := after.2 index.symm
      omega
    rw [index, generation]

end Handle

/-- The state of an object as a scene shows it. -/
structure SceneObject where
  station : StationId
  type : StationType
  position : Point
  speed : Float
  heading : Angle
  acceleration : Float
deriving Inhabited

namespace SceneObject

/-- An object of which nothing but its number and type is known. -/
def initial (station : StationId) (type : StationType) : SceneObject :=
  ⟨station, type, Point.origin, 0.0, Angle.zero, 0.0⟩

/-- The object's state of motion, as observed at an instant. -/
def motion (object : SceneObject) (now : Instant) : Motion :=
  ⟨now, object.position, object.speed, object.heading⟩

end SceneObject

/-- What the engine may ask of a scene: the object behind a handle, if there is one. -/
abbrev Scene := Handle → Option SceneObject

/-- Whether a handle still refers to an object. -/
def Scene.isAlive (scene : Scene) (handle : Handle) : Bool := (scene handle).isSome

/-! ### The store of objects -/

/-- A place for one object, with the generation of its last use. -/
structure Slot where
  generation : Nat
  object : Option SceneObject
deriving Inhabited

/-- A store that uses the slots of removed objects again, the last vacated first. -/
structure Arena where
  slots : Array Slot
  /-- The vacant slots. -/
  free : List Nat
  /-- How many objects there are. -/
  count : Nat

namespace Arena

def empty : Arena := ⟨#[], [], 0⟩

instance : Inhabited Arena := ⟨empty⟩

/-- A slot's generation after its next use; it counts modulo `2 ^ 32`. -/
def nextGeneration (generation : Nat) : Nat := (generation + 1) % 4294967296

/-- The slot of a handle if it is in the handle's generation. -/
def slotOf? (arena : Arena) (handle : Handle) : Option Slot :=
  arena.slots[handle.index]?.filter fun slot => slot.generation == handle.generation

/-- The object behind a handle. -/
def resolve (arena : Arena) : Scene := fun handle =>
  (arena.slotOf? handle).bind (·.object)

/-- Adds an object and returns its handle. -/
def insert (arena : Arena) (object : SceneObject) : Arena × Handle :=
  match arena.free with
  | index :: free =>
    let generation := nextGeneration ((arena.slots[index]?.map (·.generation)).getD 0)
    (⟨arena.slots.setIfInBounds index ⟨generation, some object⟩, free, arena.count + 1⟩,
      ⟨index, generation⟩)
  | [] =>
    (⟨arena.slots.push ⟨0, some object⟩, [], arena.count + 1⟩, ⟨arena.slots.size, 0⟩)

/-- Removes the object behind a handle and returns it; a handle that does not resolve
changes nothing. -/
def remove (arena : Arena) (handle : Handle) : Arena × Option SceneObject :=
  match arena.resolve handle with
  | none => (arena, none)
  | some object =>
    (⟨arena.slots.setIfInBounds handle.index ⟨handle.generation, none⟩,
      handle.index :: arena.free, arena.count - 1⟩, some object)

/-- Changes the object behind a handle, if there is one. -/
def modify (arena : Arena) (handle : Handle) (change : SceneObject → SceneObject) : Arena :=
  match arena.resolve handle with
  | none => arena
  | some object =>
    { arena with
      slots := arena.slots.setIfInBounds handle.index ⟨handle.generation, some (change object)⟩ }

/-- The handles of all objects, in slot order. -/
def handles (arena : Arena) : List Handle :=
  arena.slots.toList.zipIdx.filterMap fun (slot, index) =>
    slot.object.map fun _ => ⟨index, slot.generation⟩

end Arena

end CollectivePerception
