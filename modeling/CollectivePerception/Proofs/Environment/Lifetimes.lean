/-
This file characterises the sightings that a run of detections, expiries and removals leaves.
A sighting is there if nothing after its last detection has dropped it (`exists_sighting_iff`),
it lasts until that detection, and it starts with the first detection since it was last absent
(`exists_start`). Both need the whole run and not only its last change: an expiry drops a
sighting or not depending on when it was last refreshed, and a detection starts a sighting or
refreshes it depending on whether an earlier one is still there.
-/

import CollectivePerception.Proofs.Environment.Sightings
import CollectivePerception.Proofs.OrderedMap.Difference
import CollectivePerception.Proofs.Service.Run
import Mathlib.Order.Bounds.Defs

namespace CollectivePerception

/-! ### Periods -/

namespace Instant

variable {first second : Instant} {instants : Set Instant}

theorem isLeast_only : IsLeast {instant | first = instant} first :=
  ⟨rfl, fun _ same => Int.le_of_eq (congrArg micros same)⟩

theorem isGreatest_only : IsGreatest {instant | first = instant} first :=
  ⟨rfl, fun _ same => Int.le_of_eq (congrArg micros same.symm)⟩

theorem isLeast_earlier (least : IsLeast instants first) :
    IsLeast {instant | instant ∈ instants ∨ instant = second} (first.earlier second) := by
  obtain ⟨member, below⟩ := least
  rw [earlier]
  split
  · rename_i before
    refine ⟨.inr rfl, ?_⟩
    rintro instant (inside | rfl)
    · exact Int.le_of_lt (Int.lt_of_lt_of_le before (below inside))
    · exact Int.le_refl _
  · rename_i notBefore
    refine ⟨.inl member, ?_⟩
    rintro instant (inside | rfl)
    · exact below inside
    · exact Int.not_lt.mp notBefore

theorem isGreatest_later (greatest : IsGreatest instants first) :
    IsGreatest {instant | instant ∈ instants ∨ instant = second} (first.later second) := by
  obtain ⟨member, above⟩ := greatest
  rw [later]
  split
  · rename_i after
    refine ⟨.inr rfl, ?_⟩
    rintro instant (inside | rfl)
    · exact Int.le_of_lt (Int.lt_of_le_of_lt (above inside) after)
    · exact Int.le_refl _
  · rename_i notAfter
    refine ⟨.inl member, ?_⟩
    rintro instant (inside | rfl)
    · exact above inside
    · exact Int.not_lt.mp notAfter

end Instant

namespace Sightings

/-- The period of the sightings so far and of one more. -/
def covering (period : Option (Instant × Instant)) (sighting : Sighting) :
    Option (Instant × Instant) :=
  some ((period.map (hull · (sighting.firstSeen, sighting.lastSeen))).getD
    (sighting.firstSeen, sighting.lastSeen))

/-- There is a period as soon as there is a sighting, and it goes from the first of all starts to
the last of all ends. -/
theorem foldl_covering (sightings : List Sighting) :
    (sightings.foldl covering none = none ↔ sightings = []) ∧
      ∀ period, sightings.foldl covering none = some period →
        IsLeast {start | ∃ sighting ∈ sightings, sighting.firstSeen = start} period.1 ∧
          IsGreatest {stop | ∃ sighting ∈ sightings, sighting.lastSeen = stop} period.2 := by
  induction sightings using List.reverseRecOn with
  | nil => exact ⟨iff_of_true rfl rfl, nofun⟩
  | append_singleton before sighting inductionHypothesis =>
    obtain ⟨noneIff, covers⟩ := inductionHypothesis
    rw [List.foldl_append, List.foldl_cons, List.foldl_nil]
    refine ⟨iff_of_false nofun (List.append_ne_nil_of_right_ne_nil before nofun), ?_⟩
    rintro period found
    simp only [List.mem_append, List.mem_singleton, or_and_right, exists_or, exists_eq_left]
    cases known : before.foldl covering none with
    | none =>
      rw [known] at found
      cases found
      simp only [noneIff.mp known, List.not_mem_nil, false_and, exists_false, false_or]
      exact ⟨Instant.isLeast_only, Instant.isGreatest_only⟩
    | some earlier =>
      rw [known] at found
      cases found
      obtain ⟨least, greatest⟩ := covers earlier known
      simp only [eq_comm (a := sighting.firstSeen), eq_comm (a := sighting.lastSeen)]
      exact ⟨Instant.isLeast_earlier least, Instant.isGreatest_later greatest⟩

theorem trackingTime_eq (sightings : Sightings) (category : SensorCategory) :
    sightings.trackingTime category =
      (sightings.values.filter fun sighting => sighting.category == category).foldl covering none :=
  rfl

end Sightings

namespace Environment

/-! ### Runs of changes -/

/-- A change of an environment. -/
inductive Change
  | record (handle : Handle) (sensor : Nat) (category : SensorCategory) (now : Instant)
  | expire (now : Instant) (lifetime : Duration)
  | remove (handle : Handle)

namespace Change

/-- When a change happens, for those that depend on it. -/
def time? : Change → Option Instant
  | record _ _ _ now => some now
  | expire now _ => some now
  | remove _ => none

/-- The sensor detects the object. -/
def Detects (handle : Handle) (sensor : Nat) (now : Instant) (change : Change) : Prop :=
  ∃ category, change = record handle sensor category now

/-- A sighting of the object that was last refreshed at an instant does not outlast the change. -/
def Drops (handle : Handle) (seen : Instant) : Change → Prop
  | record _ _ _ _ => False
  | expire now lifetime => seen.after lifetime ≤ now
  | remove other => other = handle

/-- A change neither refreshes nor drops a sighting that was last refreshed at an instant. -/
def Keeps (handle : Handle) (sensor : Nat) (seen : Instant) (change : Change) : Prop :=
  (∀ now, ¬change.Detects handle sensor now) ∧ ¬change.Drops handle seen

end Change

/-- The times of the changes do not decrease. -/
def Chronological (changes : List Change) : Prop :=
  (changes.filterMap Change.time?).Pairwise (· ≤ ·)

instance (changes : List Change) : Decidable (Chronological changes) :=
  inferInstanceAs (Decidable (List.Pairwise _ _))

/-- When a sensor has detected an object. -/
def detections (handle : Handle) (sensor : Nat) (changes : List Change) : Set Instant :=
  {now | ∃ change ∈ changes, change.Detects handle sensor now}

/-- The environment after a change. -/
def changed (environment : Environment) : Change → Environment
  | .record handle sensor category now => environment.record handle sensor category now
  | .expire now lifetime => (environment.expire now lifetime).1
  | .remove handle => (environment.remove handle).1

/-- The environment after a run of changes. -/
def ofChanges (changes : List Change) : Environment :=
  changes.foldl changed empty

theorem ofChanges_concat (changes : List Change) (change : Change) :
    ofChanges (changes ++ [change]) = (ofChanges changes).changed change :=
  List.foldl_concat ..

theorem Chronological.append {earlier later : List Change}
    (chronological : Chronological (earlier ++ later)) :
    Chronological earlier ∧ Chronological later ∧
      ∀ {first second : Change} {before after : Instant}, first ∈ earlier → second ∈ later →
        first.time? = some before → second.time? = some after → before ≤ after := by
  rw [Chronological, List.filterMap_append, List.pairwise_append] at chronological
  obtain ⟨front, back, apart⟩ := chronological
  refine ⟨front, back, fun member member' found found' => ?_⟩
  exact apart _ (List.mem_filterMap.mpr ⟨_, member, found⟩) _
    (List.mem_filterMap.mpr ⟨_, member', found'⟩)

theorem Change.Detects.time?_eq {handle : Handle} {sensor : Nat} {now : Instant} {change : Change}
    (detects : change.Detects handle sensor now) : change.time? = some now := by
  obtain ⟨category, rfl⟩ := detects
  rfl

/-! ### What a change does to a sighting -/

theorem sighting?_remove (environment : Environment) (handle other : Handle) (sensor : Nat) :
    (environment.remove handle).1.sighting? other sensor =
      if other = handle then none else environment.sighting? other sensor := by
  rw [sighting?, get?, remove, OrderedMap.get?_erase]
  split
  · rfl
  · rfl

variable {handle : Handle} {sensor : Nat}

/-- A change that is no detection by the sensor leaves its sighting unless it drops it. -/
theorem sighting?_changed (environment : Environment) {change : Change}
    (other : ∀ now, ¬change.Detects handle sensor now) (sighting : Sighting) :
    (environment.changed change).sighting? handle sensor = some sighting ↔
      environment.sighting? handle sensor = some sighting ∧
        ¬change.Drops handle sighting.lastSeen := by
  cases change with
  | record seen device category now =>
    have apart : ¬(handle = seen ∧ sensor = device) := by
      rintro ⟨rfl, rfl⟩
      exact other now ⟨category, rfl⟩
    rw [changed, sighting?_record, if_neg apart]
    exact (and_iff_left id).symm
  | expire now lifetime =>
    rw [changed, sighting?_expire, Option.filter_eq_some_iff, decide_eq_true_iff]
    exact and_congr_right fun _ => Int.not_le.symm
  | remove gone =>
    rw [changed, sighting?_remove]
    by_cases same : handle = gone
    · rw [if_pos same]
      exact iff_of_false nofun fun kept => kept.2 same.symm
    · rw [if_neg same]
      exact (and_iff_left fun equal : gone = handle => same equal.symm).symm

/-- A detection leaves a sighting that lasts until now. It is the one that was there, or it starts
now. -/
theorem sighting?_changed_record (environment : Environment) (handle : Handle) (sensor : Nat)
    (category : SensorCategory) (now : Instant) :
    ∃ sighting,
      (environment.changed (.record handle sensor category now)).sighting? handle sensor =
          some sighting ∧
        sighting.lastSeen = now ∧
        (environment.sighting? handle sensor = none ∧ sighting.category = category ∧
            sighting.firstSeen = now ∨
          ∃ known, environment.sighting? handle sensor = some known ∧
            sighting.category = known.category ∧ sighting.firstSeen = known.firstSeen) := by
  rw [changed, sighting?_record, if_pos ⟨rfl, rfl⟩]
  refine ⟨_, rfl, ?_⟩
  cases environment.sighting? handle sensor with
  | none => exact ⟨rfl, .inl ⟨rfl, rfl, rfl⟩⟩
  | some known => exact ⟨rfl, .inr ⟨known, rfl, rfl, rfl⟩⟩

/-- A change has started the sighting that is there after it, or the sighting was there before. -/
theorem sighting?_changed_cases {environment : Environment} {change : Change}
    {sighting : Sighting}
    (found : (environment.changed change).sighting? handle sensor = some sighting) :
    environment.sighting? handle sensor = none ∧
        change = .record handle sensor sighting.category sighting.firstSeen ∨
      ∃ known, environment.sighting? handle sensor = some known ∧
        sighting.category = known.category ∧ sighting.firstSeen = known.firstSeen := by
  by_cases detected : ∃ now, change.Detects handle sensor now
  · obtain ⟨now, category, rfl⟩ := detected
    obtain ⟨refreshed, same, _, started | continued⟩ :=
      environment.sighting?_changed_record handle sensor category now
    · cases same.symm.trans found
      obtain ⟨absent, rfl, rfl⟩ := started
      exact .inl ⟨absent, rfl⟩
    · cases same.symm.trans found
      exact .inr continued
  · obtain ⟨before, _⟩ := (sighting?_changed _ (not_exists.mp detected) sighting).mp found
    exact .inr ⟨sighting, before, rfl, rfl⟩

/-! ### The sightings that a run leaves -/

/-- A sighting is there exactly if nothing after the last detection has dropped it, and it lasts
until that detection. -/
theorem exists_sighting_iff (changes : List Change) (seen : Instant) :
    (∃ sighting, (ofChanges changes).sighting? handle sensor = some sighting ∧
        sighting.lastSeen = seen) ↔
      Since (Change.Detects handle sensor seen) (Change.Keeps handle sensor seen) changes := by
  induction changes using List.reverseRecOn with
  | nil => exact iff_of_false (fun ⟨_, found, _⟩ => nomatch found) not_since_nil
  | append_singleton before change inductionHypothesis =>
    rw [since_concat, ← inductionHypothesis, ofChanges_concat]
    by_cases detected : ∃ now, change.Detects handle sensor now
    · obtain ⟨now, category, rfl⟩ := detected
      obtain ⟨sighting, found, last, _⟩ :=
        (ofChanges before).sighting?_changed_record handle sensor category now
      have broken : ¬Change.Keeps handle sensor seen (.record handle sensor category now) :=
        fun keeps => keeps.1 now ⟨category, rfl⟩
      rw [found, or_iff_left fun kept => broken kept.1]
      constructor
      · rintro ⟨_, same, rfl⟩
        cases same
        exact ⟨category, by rw [last]⟩
      · rintro ⟨_, same⟩
        cases same
        exact ⟨sighting, rfl, last⟩
    · rw [not_exists] at detected
      simp only [sighting?_changed _ detected, Change.Keeps, and_iff_right detected,
        or_iff_right (detected seen)]
      constructor
      · rintro ⟨sighting, ⟨found, kept⟩, rfl⟩
        exact ⟨kept, sighting, found, rfl⟩
      · rintro ⟨kept, sighting, found, rfl⟩
        exact ⟨sighting, ⟨found, kept⟩, rfl⟩

/-- A sighting lasts until the last detection. -/
theorem isGreatest_lastSeen {changes : List Change} (chronological : Chronological changes)
    {sighting : Sighting} (found : (ofChanges changes).sighting? handle sensor = some sighting) :
    IsGreatest (detections handle sensor changes) sighting.lastSeen := by
  obtain ⟨earlier, event, later, rfl, detects, kept⟩ :=
    (exists_sighting_iff changes sighting.lastSeen).mp ⟨sighting, found, rfl⟩
  refine ⟨⟨event, List.mem_append_right earlier List.mem_cons_self, detects⟩, ?_⟩
  rintro now ⟨change, member, detects'⟩
  obtain ⟨_, _, apart⟩ := chronological.append
  rcases List.mem_append.mp member with early | late
  · exact apart early List.mem_cons_self detects'.time?_eq detects.time?_eq
  · rcases List.mem_cons.mp late with rfl | after
    · exact Int.le_of_eq (congrArg Instant.micros
        (Option.some.inj (detects'.time?_eq.symm.trans detects.time?_eq)))
    · exact absurd detects' ((kept change after).1 now)

/-- Of two parts of a run, a sighting is absent after the first one, and there after any more of
the second one. -/
def PresentSince (handle : Handle) (sensor : Nat) (before after : List Change) : Prop :=
  (ofChanges before).sighting? handle sensor = none ∧
    ∀ part, part <+: after → part ≠ [] → (ofChanges (before ++ part)).sighting? handle sensor ≠ none

theorem PresentSince.concat {before after : List Change} {change : Change}
    (since : PresentSince handle sensor before after)
    (there : (ofChanges (before ++ (after ++ [change]))).sighting? handle sensor ≠ none) :
    PresentSince handle sensor before (after ++ [change]) := by
  refine ⟨since.1, fun part within nonempty => ?_⟩
  rcases List.prefix_concat_iff.mp within with rfl | inside
  · exact there
  · exact since.2 part inside nonempty

theorem presentSince_singleton {before : List Change} {change : Change}
    (absent : (ofChanges before).sighting? handle sensor = none)
    (there : (ofChanges (before ++ [change])).sighting? handle sensor ≠ none) :
    PresentSince handle sensor before [change] := by
  have nothing : PresentSince handle sensor before [] :=
    ⟨absent, fun part within nonempty => absurd (List.prefix_nil.mp within) nonempty⟩
  exact nothing.concat there

/-- A sighting starts with the detection since which it has been there, and it keeps the category
of that detection. -/
theorem exists_start (changes : List Change) {sighting : Sighting}
    (found : (ofChanges changes).sighting? handle sensor = some sighting) :
    ∃ before after,
      changes = before ++ .record handle sensor sighting.category sighting.firstSeen :: after ∧
        PresentSince handle sensor before
          (.record handle sensor sighting.category sighting.firstSeen :: after) := by
  induction changes using List.reverseRecOn generalizing sighting with
  | nil => cases found
  | append_singleton front change inductionHypothesis =>
    have there : (ofChanges (front ++ [change])).sighting? handle sensor ≠ none :=
      Option.ne_none_iff_exists'.mpr ⟨sighting, found⟩
    rw [ofChanges_concat] at found
    rcases sighting?_changed_cases found with ⟨absent, started⟩ | ⟨known, before, category, first⟩
    · rw [started] at there ⊢
      exact ⟨front, [], rfl, presentSince_singleton absent there⟩
    · obtain ⟨earlier, later, rfl, since⟩ := inductionHypothesis before
      rw [category, first]
      refine ⟨earlier, later ++ [change], List.append_assoc .., since.concat ?_⟩
      rwa [List.append_assoc] at there

/-- No later detection is earlier than the one with which a sighting starts. -/
theorem isLeast_firstSeen {before after : List Change} {category : SensorCategory}
    {first : Instant}
    (chronological : Chronological (before ++ .record handle sensor category first :: after)) :
    IsLeast (detections handle sensor (.record handle sensor category first :: after)) first := by
  refine ⟨⟨_, List.mem_cons_self, category, rfl⟩, ?_⟩
  rintro now ⟨change, member, detects⟩
  obtain ⟨_, since, _⟩ := chronological.append
  have ordered : Chronological ([.record handle sensor category first] ++ after) := since
  rcases List.mem_cons.mp member with rfl | late
  · exact Int.le_of_eq (congrArg Instant.micros (Option.some.inj detects.time?_eq))
  · exact ordered.append.2.2 (List.mem_singleton_self _) late rfl detects.time?_eq

/-! ### Objects -/

theorem exists_sighting_of_not_isEmpty {sightings : Sightings}
    (nonempty : ¬sightings.isEmpty = true) :
    ∃ sensor sighting, sightings.get? sensor = some sighting := by
  rw [OrderedMap.isEmpty_iff, not_forall] at nonempty
  obtain ⟨sensor, found⟩ := nonempty
  exact ⟨sensor, Option.ne_none_iff_exists'.mp found⟩

/-- Whatever is stored of an object has a sighting of it. -/
theorem exists_sighting_of_get? (changes : List Change) {handle : Handle} {sightings : Sightings}
    (known : (ofChanges changes).get? handle = some sightings) :
    ∃ sensor sighting, sightings.get? sensor = some sighting := by
  induction changes using List.reverseRecOn generalizing sightings with
  | nil => cases known
  | append_singleton before change inductionHypothesis =>
    rw [ofChanges_concat] at known
    cases change with
    | record seen sensor category now =>
      rw [changed, record, get?, OrderedMap.get?_insert] at known
      split at known
      · cases known
        refine ⟨sensor, ?_⟩
        rw [Sightings.get?_record, if_pos rfl]
        exact ⟨_, rfl⟩
      · exact inductionHypothesis known
    | expire now lifetime =>
      rw [changed, expire, get?, OrderedMap.get?_filterMap] at known
      obtain ⟨former, _, left⟩ := Option.bind_eq_some_iff.mp known
      dsimp only at left
      split at left
      · cases left
      · rename_i nonempty
        cases left
        exact exists_sighting_of_not_isEmpty nonempty
    | remove gone =>
      rw [changed, remove, get?, OrderedMap.get?_erase] at known
      split at known
      · cases known
      · exact inductionHypothesis known

/-- An expiry counts the objects that it removes. -/
theorem expire_count (environment : Environment) (now : Instant) (lifetime : Duration) :
    (environment.expire now lifetime).2 =
      environment.objects.keys.countP
        (· ∉ (environment.expire now lifetime).1.objects.keys) := by
  have balance : (environment.expire now lifetime).1.objects.size +
      (environment.expire now lifetime).2 = environment.objects.size + 0 :=
    Nat.add_sub_of_le (List.length_filterMap_le _ _)
  have known : ∀ handle ∈ (environment.expire now lifetime).1.objects.keys,
      handle ∈ environment.objects.keys := by
    intro handle left
    obtain ⟨fresh, found⟩ := OrderedMap.mem_keys_iff.mp left
    rw [expire, OrderedMap.get?_filterMap] at found
    obtain ⟨sightings, stored, _⟩ := Option.bind_eq_some_iff.mp found
    exact OrderedMap.mem_keys_iff.mpr ⟨sightings, stored⟩
  have added : 0 = (environment.expire now lifetime).1.objects.keys.countP
      (· ∉ environment.objects.keys) := by
    refine (List.countP_eq_zero.mpr fun handle left => ?_).symm
    rw [decide_eq_true_iff, not_not]
    exact known handle left
  exact OrderedMap.removed_eq_countP balance added

/-- The period for which sensors of a category have seen an object goes from the first to the last
of their detections. -/
theorem trackingTime_spec (environment : Environment) (handle : Handle)
    (category : SensorCategory) :
    ((environment.get? handle).bind (·.trackingTime category) = none ↔
        ∀ sensor sighting, environment.sighting? handle sensor = some sighting →
          sighting.category ≠ category) ∧
      ∀ period, (environment.get? handle).bind (·.trackingTime category) = some period →
        IsLeast {start | ∃ sensor sighting, environment.sighting? handle sensor = some sighting ∧
          sighting.category = category ∧ sighting.firstSeen = start} period.1 ∧
        IsGreatest {stop | ∃ sensor sighting, environment.sighting? handle sensor = some sighting ∧
          sighting.category = category ∧ sighting.lastSeen = stop} period.2 := by
  simp only [sighting?]
  cases environment.get? handle with
  | none =>
    exact ⟨iff_of_true rfl fun _ _ found => absurd found.symm (Option.some_ne_none _),
      fun _ found => absurd found.symm (Option.some_ne_none _)⟩
  | some sightings =>
    simp only [Option.bind_some, Sightings.trackingTime_eq]
    obtain ⟨noneIff, covers⟩ := Sightings.foldl_covering
      (sightings.values.filter fun sighting => sighting.category == category)
    have member (sighting : Sighting) :
        sighting ∈ sightings.values.filter (fun sighting => sighting.category == category) ↔
          ∃ sensor, sightings.get? sensor = some sighting ∧ sighting.category = category := by
      rw [List.mem_filter, OrderedMap.mem_values_iff, beq_iff_eq, exists_and_right]
    constructor
    · rw [noneIff, List.eq_nil_iff_forall_not_mem]
      simp only [member, not_exists, not_and]
      exact forall_comm
    · intro period found
      have span := covers period found
      simp only [member, exists_and_right, and_assoc] at span
      simpa only [exists_comm (α := Nat), exists_and_right] using span

/-! ### The meaning of a run -/

/-- A run of changes accounts for the sightings of an environment, and all that is read from the
environment follows from these. -/
structure Follows (environment : Environment) (changes : List Change) : Prop where
  /-- A sighting is there exactly if nothing after the last detection has dropped it. -/
  stored_iff : ∀ handle sensor seen,
    (∃ sighting, environment.sighting? handle sensor = some sighting ∧ sighting.lastSeen = seen) ↔
      Since (Change.Detects handle sensor seen) (Change.Keeps handle sensor seen) changes
  /-- It lasts until the last detection. -/
  last_detection : ∀ {handle sensor sighting},
    environment.sighting? handle sensor = some sighting →
      IsGreatest (detections handle sensor changes) sighting.lastSeen
  /-- It starts with the first detection since it was last absent. -/
  first_detection : ∀ {handle sensor sighting},
    environment.sighting? handle sensor = some sighting →
      ∃ before after,
        changes = before ++ .record handle sensor sighting.category sighting.firstSeen :: after ∧
          PresentSince handle sensor before
            (.record handle sensor sighting.category sighting.firstSeen :: after) ∧
          IsLeast (detections handle sensor
            (.record handle sensor sighting.category sighting.firstSeen :: after))
            sighting.firstSeen
  first_le_last : ∀ {handle sensor sighting},
    environment.sighting? handle sensor = some sighting → sighting.firstSeen ≤ sighting.lastSeen
  /-- What is stored of an object has a sighting of it. -/
  object_seen : ∀ {handle sightings}, environment.get? handle = some sightings →
    ∃ sensor sighting, sightings.get? sensor = some sighting
  /-- An expiry counts the objects that it removes. -/
  expired_eq : ∀ now lifetime, (environment.expire now lifetime).2 =
    environment.objects.keys.countP (· ∉ (environment.expire now lifetime).1.objects.keys)
  handles_ascending : ∀ category, (environment.handlesSeenBy category).Pairwise
    fun first second => OrderedKey.precedes first second = true
  mem_handles_iff : ∀ {category handle}, handle ∈ environment.handlesSeenBy category ↔
    ∃ sensor sighting, environment.sighting? handle sensor = some sighting ∧
      sighting.category = category
  /-- An object has no period for a category of whose sensors none sees it. -/
  no_period_iff : ∀ {handle category},
    (environment.get? handle).bind (·.trackingTime category) = none ↔
      ∀ sensor sighting, environment.sighting? handle sensor = some sighting →
        sighting.category ≠ category
  /-- Its period goes from the first start to the last end of their sightings. -/
  period_eq : ∀ {handle category first last},
    (environment.get? handle).bind (·.trackingTime category) = some (first, last) →
      IsLeast {start | ∃ sensor sighting, environment.sighting? handle sensor = some sighting ∧
        sighting.category = category ∧ sighting.firstSeen = start} first ∧
      IsGreatest {stop | ∃ sensor sighting, environment.sighting? handle sensor = some sighting ∧
        sighting.category = category ∧ sighting.lastSeen = stop} last

/-- Whatever is detected, expires and is removed in which order, the sightings that are left are
those that the run accounts for, if its times do not decrease. -/
theorem ofChanges_follows (changes : List Change) (chronological : Chronological changes) :
    (ofChanges changes).Follows changes where
  stored_iff _ _ seen := exists_sighting_iff changes seen
  last_detection found := isGreatest_lastSeen chronological found
  first_detection found := by
    obtain ⟨before, after, apart, since⟩ := exists_start changes found
    exact ⟨before, after, apart, since, isLeast_firstSeen (apart ▸ chronological)⟩
  first_le_last {handle sensor sighting} found := by
    obtain ⟨before, after, apart, _⟩ := exists_start changes found
    have started : sighting.firstSeen ∈ detections handle sensor changes := by
      refine ⟨.record handle sensor sighting.category sighting.firstSeen, ?_, _, rfl⟩
      rw [apart]
      exact List.mem_append_right before List.mem_cons_self
    exact (isGreatest_lastSeen chronological found).2 started
  object_seen known := exists_sighting_of_get? changes known
  expired_eq := expire_count (ofChanges changes)
  handles_ascending _ := OrderedMap.keys_ascending _
  mem_handles_iff := mem_handlesSeenBy_iff.trans sees_iff
  no_period_iff := (trackingTime_spec (ofChanges changes) _ _).1
  period_eq := (trackingTime_spec (ofChanges changes) _ _).2 _

/-- Two sensors detect an object and one of them loses it. -/
def lapsingChanges : List Change := [
  .record ⟨0, 0⟩ 1 .radar ⟨100⟩, .record ⟨0, 0⟩ 2 .lidar ⟨200⟩, .record ⟨0, 0⟩ 2 .lidar ⟨600⟩,
  .expire ⟨700⟩ ⟨500⟩, .record ⟨0, 0⟩ 1 .radar ⟨800⟩]

theorem lapsingChanges_follows :
    Chronological lapsingChanges ∧
      (ofChanges lapsingChanges).sighting? ⟨0, 0⟩ 1 = some ⟨.radar, ⟨800⟩, ⟨800⟩⟩ ∧
      (ofChanges lapsingChanges).sighting? ⟨0, 0⟩ 2 = some ⟨.lidar, ⟨200⟩, ⟨600⟩⟩ ∧
      (ofChanges lapsingChanges).Follows lapsingChanges :=
  ⟨by decide, rfl, rfl, ofChanges_follows lapsingChanges (by decide)⟩

end Environment

end CollectivePerception
