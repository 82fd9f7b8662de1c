/-
This file says what a file system keeps of a file that has been written: the file is there, and it
has the content (`Files.KeepsWrites`). The file system in memory does so, for the way to the file
leads through directories, none of which is the file (`Tree.files_keepsWrites`).
-/

import CollectivePerception.Storage.Tree
import Mathlib.Tactic.SplitIfs

namespace CollectivePerception.Storage

/-- There is a file with a content at a path, and looking at it changes nothing. -/
structure Files.Holds {State : Type} (files : Files (StateM State)) (path content : String)
    (state : State) : Prop where
  isPresent : files.isPresent path state = (true, state)
  read : files.read path state = (.ok content, state)

/-- A file that has been written is there with its content. -/
def Files.KeepsWrites {State : Type} (files : Files (StateM State)) : Prop :=
  ∀ path content state saved, files.write path content state = (.ok (), saved) →
    files.Holds path content saved

namespace Tree

variable {tree changed : Tree} {place : Place} {inode : Inode} {path content : String}

theorem at?_put_self (below : place ≠ []) : (tree.put place inode).at? place = some inode := by
  have named : ¬place.isEmpty = true := fun empty => below (List.isEmpty_iff.mp empty)
  rw [at?, if_neg named, put, List.find?_cons, beq_self_eq_true]
  rfl

theorem at?_put_of_ne {other : Place} (different : other ≠ place) :
    (tree.put place inode).at? other = tree.at? other := by
  have keeps (node : Place × Inode) :
      decide ((node.1 != place) = true ∧ (node.1 == other) = true) = (node.1 == other) := by
    by_cases same : node.1 = other
    · simp [same, different]
    · simp [same]
  rw [at?, at?, put, List.find?_cons, beq_false_of_ne (Ne.symm different)]
  simp only [List.find?_filter, keeps]

/-- Only directories are passed on the way to a place. -/
theorem walk_put {start found : Place} {names : List String}
    (walked : tree.walk start names = .ok found) (noDirectory : tree.at? place ≠ some .directory) :
    (tree.put place inode).walk start names = .ok found := by
  induction names generalizing start with
  | nil => exact walked
  | cons name names inductionHypothesis =>
    rw [walk] at walked ⊢
    cases passed : tree.at? start with
    | none =>
      rw [passed] at walked
      cases walked
    | some inode =>
      rw [passed] at walked
      cases inode with
      | file => cases walked
      | directory =>
        have other : start ≠ place := fun same => noDirectory (same ▸ passed)
        rw [at?_put_of_ne other, passed]
        dsimp only at walked ⊢
        split_ifs at walked ⊢ with stays rises
        · exact inductionHypothesis walked
        · exact inductionHypothesis walked
        · exact inductionHypothesis walked

theorem find_put (found : tree.find path = .ok place)
    (noDirectory : tree.at? place ≠ some .directory) :
    (tree.put place inode).find path = .ok place := by
  rw [find] at found ⊢
  cases empty : path.isEmpty with
  | true =>
    rw [empty] at found
    cases found
  | false =>
    rw [empty] at found
    exact walk_put found noDirectory

/-- What a path leads to is written there, if it is no directory. -/
theorem write_eq_ok (written : tree.write path content = .ok changed) :
    ∃ place, tree.find path = .ok place ∧ tree.at? place ≠ some .directory ∧
      asksForDirectory path = false ∧ changed = tree.put place (.file content) := by
  cases found : tree.find path with
  | error cause =>
    simp only [write, found, bind, Except.bind] at written
    cases written
  | ok place =>
    simp only [write, found, bind, Except.bind] at written
    refine ⟨place, rfl, ?_⟩
    cases asks : asksForDirectory path with
    | true =>
      rw [asks] at written
      split at written <;> cases written
    | false =>
      rw [asks] at written
      split at written
      · cases written
      · rename_i old there
        cases written
        exact ⟨by rw [there]; nofun, rfl, rfl⟩
      · rename_i absent
        cases written
        exact ⟨by rw [absent]; nofun, rfl, rfl⟩

theorem inspect_write (written : tree.write path content = .ok changed) :
    changed.inspect path = .ok (.file content) := by
  obtain ⟨place, found, noDirectory, file, rfl⟩ := write_eq_ok written
  have below : place ≠ [] := by
    rintro rfl
    exact noDirectory rfl
  simp only [inspect, find_put found noDirectory, bind, Except.bind, at?_put_self below, file,
    Bool.false_eq_true, if_false]

/-- The file system in memory keeps what is written. -/
theorem files_keepsWrites : files.KeepsWrites := by
  intro path content tree saved written
  cases changed : tree.write path content with
  | error cause =>
    simp only [files, attempt, changed] at written
    cases written
  | ok other =>
    simp only [files, attempt, changed] at written
    cases written
    have there := inspect_write changed
    constructor
    · show (saved.isPresent path, saved) = _
      rw [isPresent, there]
      rfl
    · show (saved.read path, saved) = _
      rw [read, there]

end Tree

end CollectivePerception.Storage
