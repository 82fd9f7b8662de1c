/-
This file says what the operations of an ordered map do to its entries as a list. A list
of entries that ascends already is the list of entries of the map that is built from it
(`entries_ofList`), setting the value of a key that the map has changes no key
(`keys_insert`), and changing or dropping entries one by one is seen in the look-up of each
key (`get?_filterMap`).
-/

import CollectivePerception.OrderedMap

namespace CollectivePerception.OrderedMap

open OrderedKey

variable {Key : Type} [OrderedKey Key] {Value Other : Type}

/-! ### Keys -/

theorem keys_ascending (map : OrderedMap Key Value) :
    map.keys.Pairwise fun first second => precedes first second = true :=
  List.pairwise_map.mpr map.ascending

theorem keys_nodup (map : OrderedMap Key Value) : map.keys.Nodup :=
  map.keys_ascending.imp fun before => ne_of_precedes before

theorem length_keys (map : OrderedMap Key Value) : map.keys.length = map.size :=
  List.length_map _

theorem mem_keys_iff {map : OrderedMap Key Value} {key : Key} :
    key ∈ map.keys ↔ ∃ value, map.get? key = some value := by
  constructor
  · intro member
    obtain ⟨entry, inside, rfl⟩ := List.mem_map.mp member
    exact ⟨entry.2, get?_eq_some_iff.mpr inside⟩
  · rintro ⟨value, found⟩
    exact List.mem_map.mpr ⟨(key, value), get?_eq_some_iff.mp found, rfl⟩

theorem contains_iff {map : OrderedMap Key Value} {key : Key} :
    map.contains key = true ↔ key ∈ map.keys := by
  rw [contains, Option.isSome_iff_exists, mem_keys_iff]

theorem mem_values_iff {map : OrderedMap Key Value} {value : Value} :
    value ∈ map.values ↔ ∃ key, map.get? key = some value := by
  constructor
  · intro member
    obtain ⟨entry, inside, rfl⟩ := List.mem_map.mp member
    exact ⟨entry.1, get?_eq_some_iff.mpr inside⟩
  · rintro ⟨key, found⟩
    exact List.mem_map.mpr ⟨(key, value), get?_eq_some_iff.mp found, rfl⟩

theorem isEmpty_iff {map : OrderedMap Key Value} :
    map.isEmpty = true ↔ ∀ key, map.get? key = none := by
  rw [isEmpty, List.isEmpty_iff]
  constructor
  · intro nothing key
    rw [get?, nothing, lookup]
  · intro absent
    refine List.eq_nil_iff_forall_not_mem.mpr fun entry inside => ?_
    cases (absent entry.1).symm.trans (get?_eq_some_iff.mpr inside)

theorem get?_filterMap (change : Key → Value → Option Other) (map : OrderedMap Key Value)
    (key : Key) : (map.filterMap change).get? key = (map.get? key).bind (change key) := by
  refine Option.ext fun image => ?_
  rw [get?_eq_some_iff, filterMap, List.mem_filterMap, Option.bind_eq_some_iff]
  constructor
  · rintro ⟨entry, inside, changed⟩
    obtain ⟨_, found, same⟩ := Option.map_eq_some_iff.mp changed
    cases same
    exact ⟨entry.2, get?_eq_some_iff.mpr inside, found⟩
  · rintro ⟨value, found, changed⟩
    exact ⟨(key, value), get?_eq_some_iff.mp found,
      Option.map_eq_some_iff.mpr ⟨image, changed, rfl⟩⟩

theorem get?_filter (condition : Key → Value → Bool) (map : OrderedMap Key Value) (key : Key) :
    (map.filter condition).get? key = (map.get? key).filter (condition key) := by
  refine Option.ext fun value => ?_
  rw [get?_eq_some_iff, filter, List.mem_filter, Option.filter_eq_some_iff, get?_eq_some_iff]

theorem precedes_or_iff {key other : Key} :
    (precedes key other || precedes other key) = true ↔ key ≠ other := by
  rw [Bool.or_eq_true]
  constructor
  · rintro (before | after)
    · exact ne_of_precedes before
    · exact (ne_of_precedes after).symm
  · intro apart
    cases before : precedes key other with
    | true => exact .inl rfl
    | false =>
      cases after : precedes other key with
      | true => exact .inr rfl
      | false => exact absurd (connected key other before after) apart

theorem get?_erase [DecidableEq Key] (map : OrderedMap Key Value) (key other : Key) :
    (map.erase key).get? other = if other = key then none else map.get? other := by
  rw [erase, get?_filter]
  refine Option.ext fun value => ?_
  rw [Option.filter_eq_some_iff, precedes_or_iff]
  by_cases same : other = key
  · rw [if_pos same]
    exact iff_of_false (fun found => found.2 same) nofun
  · rw [if_neg same, and_iff_left same]

/-- Setting the value of a key that is there changes no key. -/
theorem map_fst_insertEntry {key : Key} (value : Value) {entries : List (Key × Value)}
    (ascending : entries.Pairwise fun first second => precedes first.1 second.1 = true)
    (member : key ∈ entries.map (·.1)) :
    (insertEntry key value entries).map (·.1) = entries.map (·.1) := by
  induction entries with
  | nil => cases member
  | cons head rest inductionHypothesis =>
    obtain ⟨beyond, tail⟩ := List.pairwise_cons.mp ascending
    obtain ⟨other, previous⟩ := head
    unfold insertEntry
    rcases List.mem_cons.mp member with rfl | inner
    · rw [irreflexive, if_neg Bool.false_ne_true, if_neg Bool.false_ne_true, List.map_cons,
        List.map_cons]
    · obtain ⟨entry, inside, rfl⟩ := List.mem_map.mp inner
      rw [if_pos (beyond entry inside), List.map_cons, List.map_cons,
        inductionHypothesis tail inner]

theorem keys_insert {map : OrderedMap Key Value} {key : Key} (value : Value)
    (member : key ∈ map.keys) : (map.insert key value).keys = map.keys :=
  map_fst_insertEntry value map.ascending member

/-! ### Look-ups in a list of entries -/

/-- What a look-up finds is an entry, even if the entries are not in order. -/
theorem mem_of_lookup_eq_some {key : Key} {value : Value} {entries : List (Key × Value)}
    (found : lookup key entries = some value) : (key, value) ∈ entries := by
  induction entries with
  | nil => cases found
  | cons head rest inductionHypothesis =>
    rw [lookup] at found
    split at found
    · exact List.mem_cons_of_mem head (inductionHypothesis found)
    · split at found
      · cases found
      · rename_i notBefore notAfter
        have same : head.1 = key :=
          connected _ _ (by simpa using notBefore) (by simpa using notAfter)
        cases found
        rw [← same]
        exact List.mem_cons_self

/-- Where a key precedes all others, a look-up finds it by its own value, if it has one. -/
theorem lookup_append_of_beyond [DecidableEq Key] {name : Key} (value : Option Value)
    {rest : List (Key × Value)} (beyond : ∀ entry ∈ rest, precedes name entry.1 = true)
    (key : Key) :
    lookup key ((value.map (name, ·)).toList ++ rest) =
      if key = name then value else lookup key rest := by
  cases value with
  | none =>
    split
    · rename_i same
      rw [same]
      exact lookup_eq_none beyond
    · rfl
  | some value =>
    show lookup key ((name, value) :: rest) = _
    rw [lookup]
    split
    · rename_i before
      rw [if_neg (ne_of_precedes before).symm]
    · rename_i notBefore
      split
      · rename_i after
        rw [if_neg (ne_of_precedes after)]
        exact (lookup_eq_none fun entry member =>
          transitive _ _ _ after (beyond entry member)).symm
      · rename_i notAfter
        exact (if_pos (connected _ _ (by simpa using notAfter) (by simpa using notBefore))).symm

/-! ### Construction -/

/-- A key beyond all others is inserted at the end. -/
theorem insertEntry_of_beyond {key : Key} (value : Value) {entries : List (Key × Value)}
    (beyond : ∀ entry ∈ entries, precedes entry.1 key = true) :
    insertEntry key value entries = entries ++ [(key, value)] := by
  induction entries with
  | nil => rfl
  | cons head rest inductionHypothesis =>
    obtain ⟨before, others⟩ := List.forall_mem_cons.mp beyond
    rw [insertEntry, if_pos before, inductionHypothesis others, List.cons_append]

/-- Inserting entries that ascend beyond those of a map puts them at the end. -/
theorem entries_foldl_insert (map : OrderedMap Key Value) {later : List (Key × Value)}
    (ascending : (map.entries ++ later).Pairwise
      fun first second => precedes first.1 second.1 = true) :
    (later.foldl (fun whole entry => whole.insert entry.1 entry.2) map).entries =
      map.entries ++ later := by
  induction later generalizing map with
  | nil => exact (List.append_nil _).symm
  | cons entry rest inductionHypothesis =>
    obtain ⟨_, _, apart⟩ := List.pairwise_append.mp ascending
    have inserted : (map.insert entry.1 entry.2).entries = map.entries ++ [entry] :=
      insertEntry_of_beyond entry.2 fun other member => apart other member entry List.mem_cons_self
    rw [List.foldl_cons, inductionHypothesis, inserted, List.append_assoc,
      List.singleton_append]
    rw [inserted, List.append_assoc, List.singleton_append]
    exact ascending

/-- A map that is built from ascending entries has these entries. -/
theorem entries_ofList {entries : List (Key × Value)}
    (ascending : entries.Pairwise fun first second => precedes first.1 second.1 = true) :
    (ofList entries).entries = entries :=
  entries_foldl_insert empty ascending

end CollectivePerception.OrderedMap
