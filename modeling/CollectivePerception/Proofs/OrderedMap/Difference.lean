/-
This file counts what two maps do not have in common. A walk over the entries of a map that
says how many keys it has added and how many it has taken away needs only one of the two counts
to be justified, because they make up for the difference in size (`removed_eq_countP`).
-/

import CollectivePerception.Proofs.OrderedMap.Entries
import Mathlib.Data.List.Nodup

namespace CollectivePerception.OrderedMap

variable {Key : Type}

/-- Lists without repeats of which the same elements count have equal counts. -/
theorem countP_congr_of_nodup {first second : List Key} {condition condition' : Key → Bool}
    (nodup : first.Nodup) (nodup' : second.Nodup)
    (counts_iff : ∀ key,
      key ∈ first ∧ condition key = true ↔ key ∈ second ∧ condition' key = true) :
    first.countP condition = second.countP condition' := by
  rw [List.countP_eq_length_filter, List.countP_eq_length_filter]
  refine List.Perm.length_eq ((List.perm_ext_iff_of_nodup (nodup.filter _) (nodup'.filter _)).mpr
    fun key => ?_)
  rw [List.mem_filter, List.mem_filter]
  exact counts_iff key

/-- As many elements of a list are in another one as the other way round. -/
theorem countP_mem_comm [DecidableEq Key] {first second : List Key} (nodup : first.Nodup)
    (nodup' : second.Nodup) : first.countP (· ∈ second) = second.countP (· ∈ first) :=
  countP_congr_of_nodup nodup nodup' fun key => by
    rw [decide_eq_true_iff, decide_eq_true_iff, and_comm]

variable [OrderedKey Key] {Value Other : Type}

open OrderedKey

/-- What a key precedes is not that key. -/
theorem not_mem_cons_iff_of_precedes {key other : Key} {keys : List Key}
    (before : precedes key other = true) : other ∉ key :: keys ↔ other ∉ keys := by
  have apart : other ≠ key := (ne_of_precedes before).symm
  rw [List.mem_cons, not_or, and_iff_right apart]

/-- A key that precedes the keys of all entries is none of them. -/
theorem not_mem_map_of_precedes {key : Key} {entries : List (Key × Value)}
    (beyond : ∀ entry ∈ entries, precedes key entry.1 = true) : key ∉ entries.map (·.1) := by
  intro member
  obtain ⟨entry, inside, same⟩ := List.mem_map.mp member
  exact ne_of_precedes (beyond entry inside) same.symm

/-- If the sizes differ by what was added and removed, and what was added is in the second map
only, then what was removed is in the first map only. -/
theorem removed_eq_countP [DecidableEq Key] {before : OrderedMap Key Value}
    {after : OrderedMap Key Other} {inserted removed : Nat}
    (balance : after.size + removed = before.size + inserted)
    (added : inserted = after.keys.countP (· ∉ before.keys)) :
    removed = before.keys.countP (· ∉ after.keys) := by
  have common := countP_mem_comm before.keys_nodup after.keys_nodup
  have whole (keys others : List Key) :
      keys.length = keys.countP (· ∈ others) + keys.countP (· ∉ others) := by
    rw [List.length_eq_countP_add_countP (· ∈ others)]
    simp only [decide_eq_true_eq]
  have wholeBefore := whole before.keys after.keys
  have wholeAfter := whole after.keys before.keys
  rw [length_keys] at wholeBefore wholeAfter
  omega

end CollectivePerception.OrderedMap
