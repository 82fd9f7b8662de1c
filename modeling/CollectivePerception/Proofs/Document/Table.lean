/-
This file says what is found under a name among entries: in entries of two parts, in a table
without the entries of a name, and in a table with the value of a name set.
-/

import CollectivePerception.Document

namespace CollectivePerception

/-! ### Named entries -/

section

variable {Value : Type} {entries : List (String × Value)} {name : String}

theorem findNamed_cons (entry : String × Value) (rest : List (String × Value)) (name : String) :
    ((entry :: rest).find? fun entry => entry.1 == name).map (·.2) =
      if entry.1 = name then some entry.2
      else (rest.find? fun entry => entry.1 == name).map (·.2) := by
  rw [List.find?_cons]
  by_cases same : entry.1 = name
  · rw [if_pos same, beq_iff_eq.mpr same]
    rfl
  · rw [if_neg same, beq_false_of_ne same]

theorem findNamed_append (first second : List (String × Value)) (name : String) :
    ((first ++ second).find? fun entry => entry.1 == name).map (·.2) =
      ((first.find? fun entry => entry.1 == name).map (·.2)).or
        ((second.find? fun entry => entry.1 == name).map (·.2)) := by
  rw [List.find?_append]
  cases List.find? (fun entry => entry.1 == name) first <;> rfl

theorem findNamed_eq_none_iff :
    (entries.find? fun entry => entry.1 == name).map (·.2) = none ↔
      name ∉ entries.map Prod.fst := by
  simp only [Option.map_eq_none_iff, List.find?_eq_none, beq_iff_eq, List.mem_map, not_exists,
    not_and]

theorem findNamed_eq_none_iff_any :
    (entries.find? fun entry => entry.1 == name).map (·.2) = none ↔
      (entries.any fun entry => entry.1 == name) = false := by
  rw [Option.map_eq_none_iff, List.find?_eq_none, List.any_eq_false]

end

namespace Document

variable {table : Table} {name other : String} {document : Document}

/-! ### Tables -/

theorem Table.get?_cons (entry : String × Document) (rest : Table) (name : String) :
    Table.get? (entry :: rest) name =
      if entry.1 = name then some entry.2 else Table.get? rest name :=
  findNamed_cons entry rest name

theorem Table.get?_append (first second : Table) (name : String) :
    Table.get? (first ++ second) name = (first.get? name).or (second.get? name) :=
  findNamed_append first second name

/-- What is found under a name is in the table. -/
theorem Table.exists_of_get?_eq_some (found : table.get? name = some document) :
    ∃ entry ∈ table, entry.2 = document := by
  obtain ⟨entry, first, rfl⟩ := Option.map_eq_some_iff.mp found
  exact ⟨entry, List.mem_of_find?_eq_some first, rfl⟩

/-! ### Changes -/

/-- The table without the entries of a name. -/
def Table.without (table : Table) (name : String) : Table :=
  table.filter fun entry => entry.1 != name

theorem Table.get?_without_self : (table.without name).get? name = none := by
  rw [get?, Option.map_eq_none_iff, List.find?_eq_none]
  intro entry member same
  have kept := (List.mem_filter.mp member).2
  rw [bne, same] at kept
  cases kept

theorem Table.get?_without_of_ne (different : name ≠ other) :
    (table.without other).get? name = table.get? name := by
  rw [get?, get?, without, List.find?_filter]
  congr 2
  funext entry
  by_cases same : entry.1 = name
  · simp [same, different]
  · simp [same]

theorem Table.get?_set_self : (table.set name document).get? name = some document := by
  unfold set
  split
  · rename_i present
    induction table with
    | nil => cases present
    | cons entry rest inductionHypothesis =>
      rw [List.map_cons, get?_cons]
      by_cases same : entry.1 = name
      · rw [if_pos (beq_iff_eq.mpr same), if_pos rfl]
      · rw [if_neg fun found => same (eq_of_beq found), if_neg same]
        refine inductionHypothesis ?_
        rwa [List.any_cons, beq_false_of_ne same, Bool.false_or] at present
  · rename_i absent
    have missing : table.get? name = none :=
      findNamed_eq_none_iff_any.mpr (eq_false_of_ne_true absent)
    rw [get?_append, missing, Option.none_or, get?_cons, if_pos rfl]

theorem Table.get?_set_of_ne (different : name ≠ other) :
    (table.set other document).get? name = table.get? name := by
  unfold set
  split
  · rename_i present
    clear present
    induction table with
    | nil => rfl
    | cons entry rest inductionHypothesis =>
      rw [List.map_cons, get?_cons, get?_cons, inductionHypothesis]
      by_cases same : entry.1 = other
      · rw [if_pos (beq_iff_eq.mpr same), if_neg different.symm, same, if_neg different.symm]
      · rw [if_neg fun found => same (eq_of_beq found)]
  · rw [get?_append, get?_cons, if_neg different.symm]
    exact Option.or_none

end Document

end CollectivePerception
