/-
This file says what a synchronisation leaves of the tracked objects. The walk over the
sensed handles and the tracked entries takes those handles that lie beyond all handles
before them (`ascents`), keeps the ones that are alive, and gives each the state with
which it was tracked before, if it was (`walk_kept`). For handles that ascend, as those of
an environment do, the tracked objects are then exactly the sensed ones that are alive
(`handles_synchronize`, `lastReported_synchronize`). Noting a report changes the state of
one tracked object and no handle.
-/

import CollectivePerception.Environment
import CollectivePerception.LocalTracking
import CollectivePerception.Proofs.OrderedMap.Entries

namespace CollectivePerception

open OrderedKey

namespace LocalTracking

/-! ### The handles that a walk takes -/

/-- The handles of a list that lie beyond all handles before them and beyond `last`. -/
def ascents (last : Option Handle) : List Handle → List Handle
  | [] => []
  | sensed :: later =>
    if last.any fun taken => !precedes taken sensed then ascents last later
    else sensed :: ascents (some sensed) later

theorem precedes_of_mem_ascents {taken handle : Handle} {sensed : List Handle}
    (member : handle ∈ ascents (some taken) sensed) : precedes taken handle = true := by
  induction sensed generalizing taken with
  | nil => cases member
  | cons head later inductionHypothesis =>
    unfold ascents at member
    split at member
    · exact inductionHypothesis member
    · rename_i taking
      have beyond : precedes taken head = true := by simpa using taking
      rcases List.mem_cons.mp member with rfl | inner
      · exact beyond
      · exact transitive _ _ _ beyond (inductionHypothesis inner)

theorem ascents_ascending (last : Option Handle) (sensed : List Handle) :
    (ascents last sensed).Pairwise fun first second => precedes first second = true := by
  induction sensed generalizing last with
  | nil => exact List.Pairwise.nil
  | cons head later inductionHypothesis =>
    unfold ascents
    split
    · exact inductionHypothesis last
    · exact List.pairwise_cons.mpr
        ⟨fun handle member => precedes_of_mem_ascents member, inductionHypothesis (some head)⟩

/-- Of handles that ascend none is passed over. -/
theorem ascents_eq_self {last : Option Handle} {sensed : List Handle}
    (ascending : sensed.Pairwise fun first second => precedes first second = true)
    (beyond : ∀ taken ∈ last, ∀ handle ∈ sensed, precedes taken handle = true) :
    ascents last sensed = sensed := by
  induction sensed generalizing last with
  | nil => rfl
  | cons head later inductionHypothesis =>
    obtain ⟨apart, tail⟩ := List.pairwise_cons.mp ascending
    have taking : ¬(last.any fun taken => !precedes taken head) = true := by
      cases last with
      | none => simp
      | some taken => simp [beyond taken rfl head List.mem_cons_self]
    rw [ascents, if_neg taking, inductionHypothesis tail]
    intro taken same handle member
    rw [← Option.some.inj same]
    exact apart handle member

/-! ### The entries that a walk leaves -/

/-- The entry of a handle after a walk: the state with which it was tracked before. -/
def carried (tracked : List (Handle × Option Motion)) (handle : Handle) :
    Handle × Option Motion :=
  (handle, (OrderedMap.lookup handle tracked).join)

theorem carried_of_beyond {known handle : Handle} {reported : Option Motion}
    {rest : List (Handle × Option Motion)} (before : precedes known handle = true) :
    carried ((known, reported) :: rest) handle = carried rest handle := by
  rw [carried, OrderedMap.lookup, if_pos before, carried]

/-- What lies beyond a tracked handle is found among the entries after it. -/
theorem map_carried_of_ascents (scene : Scene) (known : Handle) (reported : Option Motion)
    (rest : List (Handle × Option Motion)) (sensed : List Handle) :
    ((ascents (some known) sensed).filter scene.isAlive).map (carried ((known, reported) :: rest)) =
      ((ascents (some known) sensed).filter scene.isAlive).map (carried rest) :=
  List.map_congr_left fun _ member =>
    carried_of_beyond (precedes_of_mem_ascents (List.mem_filter.mp member).1)

theorem kept_add (walk : Walk) (scene : Scene) (handle : Handle) :
    (walk.add scene handle).kept =
      if scene.isAlive handle = true then (handle, none) :: walk.kept else walk.kept := by
  unfold Walk.add
  split <;> rfl

variable {scene : Scene} {tracked : List (Handle × Option Motion)}

theorem walk_of_passed {last : Option Handle} {sensed : Handle} (later : List Handle)
    (passed : (last.any fun taken => !precedes taken sensed) = true) :
    walk scene last (sensed :: later) tracked = walk scene last later tracked := by
  cases tracked with
  | nil => rw [walk, if_pos passed]
  | cons entry rest => rw [walk, if_pos passed]

/-- A walk leaves the handles that it takes and that are alive, each with the state with
which it was tracked before. -/
theorem walk_kept (last : Option Handle) (sensed : List Handle)
    (ascending : tracked.Pairwise fun first second => precedes first.1 second.1 = true) :
    (walk scene last sensed tracked).kept =
      ((ascents last sensed).filter scene.isAlive).map (carried tracked) := by
  induction last, sensed, tracked using walk.induct scene with
  | case1 last tracked => rw [walk, ascents, List.filter_nil, List.map_nil]
  | case2 last sensed later tracked passed inductionHypothesis =>
    rw [walk_of_passed later passed, ascents, if_pos passed, inductionHypothesis ascending]
  | case3 last sensed later taking inductionHypothesis =>
    rw [walk, if_neg taking, ascents, if_neg taking, kept_add, inductionHypothesis ascending,
      List.filter_cons]
    split <;> rfl
  | case4 last sensed later taking known reported rest before inductionHypothesis =>
    rw [walk, if_neg taking, if_pos before]
    show (walk scene last (sensed :: later) rest).kept = _
    rw [inductionHypothesis ascending.tail]
    refine List.map_congr_left fun handle member => (carried_of_beyond ?_).symm
    have taken := (List.mem_filter.mp member).1
    rw [ascents, if_neg taking] at taken
    rcases List.mem_cons.mp taken with rfl | inner
    · exact before
    · exact transitive _ _ _ before (precedes_of_mem_ascents inner)
  | case5 last sensed later taking known reported rest notBefore after inductionHypothesis =>
    have absent : carried ((known, reported) :: rest) sensed = (sensed, none) := by
      rw [carried, OrderedMap.lookup, if_neg notBefore, if_pos after]
      rfl
    rw [walk, if_neg taking, if_neg notBefore, if_pos after, ascents, if_neg taking, kept_add,
      inductionHypothesis ascending, List.filter_cons]
    split
    · rw [List.map_cons, absent]
    · rfl
  | case6 last sensed later taking known reported rest notBefore notAfter alive
      inductionHypothesis =>
    obtain rfl : known = sensed :=
      connected _ _ (by simpa using notBefore) (by simpa using notAfter)
    rw [walk, if_neg taking, if_neg notBefore, if_neg notAfter, if_pos alive, ascents,
      if_neg taking, List.filter_cons, if_pos alive, List.map_cons]
    show (known, reported) :: (walk scene (some known) later rest).kept = _
    have found : carried ((known, reported) :: rest) known = (known, reported) := by
      rw [carried, OrderedMap.lookup, if_neg notBefore, if_neg notBefore]
      rfl
    rw [found, inductionHypothesis ascending.tail,
      map_carried_of_ascents]
  | case7 last sensed later taking known reported rest notBefore notAfter dead
      inductionHypothesis =>
    obtain rfl : known = sensed :=
      connected _ _ (by simpa using notBefore) (by simpa using notAfter)
    rw [walk, if_neg taking, if_neg notBefore, if_neg notAfter, if_neg dead, ascents,
      if_neg taking, List.filter_cons, if_neg dead]
    show (walk scene (some known) later rest).kept = _
    rw [inductionHypothesis ascending.tail, map_carried_of_ascents]

/-! ### The tracked objects after a synchronisation -/

theorem entries_synchronize (tracking : LocalTracking) (sensed : List Handle) (scene : Scene) :
    (tracking.synchronize sensed scene).1.objects.entries =
      ((ascents none sensed).filter scene.isAlive).map (carried tracking.objects.entries) := by
  show (OrderedMap.ofList (walk scene none sensed tracking.objects.entries).kept).entries = _
  rw [walk_kept none sensed tracking.objects.ascending]
  refine OrderedMap.entries_ofList (List.pairwise_map.mpr ?_)
  exact (ascents_ascending none sensed).filter scene.isAlive

theorem handles_synchronize (tracking : LocalTracking) (sensed : List Handle) (scene : Scene) :
    (tracking.synchronize sensed scene).1.handles =
      (ascents none sensed).filter scene.isAlive := by
  rw [handles, OrderedMap.keys, entries_synchronize, List.map_map]
  exact List.map_id _

theorem lastReported_of_not_mem {tracking : LocalTracking} {handle : Handle}
    (absent : handle ∉ tracking.handles) : tracking.lastReported handle = none := by
  rw [lastReported]
  cases found : tracking.objects.get? handle with
  | none => rfl
  | some value => exact absurd (OrderedMap.mem_keys_iff.mpr ⟨value, found⟩) absent

/-- A tracked object keeps the state in which it was last reported, and one that is not
tracked any more, or that is new, has none. -/
theorem lastReported_synchronize (tracking : LocalTracking) (sensed : List Handle)
    (scene : Scene) (handle : Handle) :
    (tracking.synchronize sensed scene).1.lastReported handle =
      if handle ∈ (tracking.synchronize sensed scene).1.handles then
        tracking.lastReported handle
      else
        none := by
  split
  · rename_i member
    obtain ⟨value, found⟩ := OrderedMap.mem_keys_iff.mp member
    have entry := OrderedMap.get?_eq_some_iff.mp found
    rw [entries_synchronize] at entry
    obtain ⟨origin, _, same⟩ := List.mem_map.mp entry
    obtain ⟨rfl, carriedValue⟩ := Prod.mk.inj same
    rw [lastReported, found, ← carriedValue]
    rfl
  · rename_i absent
    exact lastReported_of_not_mem absent

/-! ### Noting a report -/

theorem isTracked_iff {tracking : LocalTracking} {handle : Handle} :
    tracking.isTracked handle = true ↔ handle ∈ tracking.handles :=
  OrderedMap.contains_iff

theorem handles_report (tracking : LocalTracking) (handle : Handle) (motion : Motion) :
    (tracking.report handle motion).handles = tracking.handles := by
  unfold report
  split
  · rename_i tracked
    exact OrderedMap.keys_insert (some motion) (isTracked_iff.mp tracked)
  · rfl

theorem lastReported_report {tracking : LocalTracking} {handle : Handle}
    (tracked : handle ∈ tracking.handles) (motion : Motion) (other : Handle) :
    (tracking.report handle motion).lastReported other =
      if other = handle then some motion else tracking.lastReported other := by
  rw [report, if_pos (isTracked_iff.mpr tracked), lastReported, OrderedMap.get?_insert]
  split <;> rfl

end LocalTracking

/-! ### The sensed handles of an environment -/

namespace Environment

/-- A sensor of the category sees the object. -/
def Sees (environment : Environment) (category : SensorCategory) (handle : Handle) : Prop :=
  ∃ sightings, environment.get? handle = some sightings ∧
    ∃ sighting ∈ sightings.values, sighting.category = category

theorem mem_handlesSeenBy_iff {environment : Environment} {category : SensorCategory}
    {handle : Handle} :
    handle ∈ environment.handlesSeenBy category ↔ environment.Sees category handle := by
  rw [handlesSeenBy, OrderedMap.mem_keys_iff]
  refine exists_congr fun sightings => ?_
  rw [OrderedMap.get?_eq_some_iff, get?, OrderedMap.get?_eq_some_iff, OrderedMap.filter,
    List.mem_filter, Sightings.seenBy, List.any_eq_true]
  simp only [beq_iff_eq]

theorem ascents_handlesSeenBy (environment : Environment) (category : SensorCategory) :
    LocalTracking.ascents none (environment.handlesSeenBy category) =
      environment.handlesSeenBy category :=
  LocalTracking.ascents_eq_self (OrderedMap.keys_ascending _) fun _ absent => nomatch absent

end Environment

end CollectivePerception
