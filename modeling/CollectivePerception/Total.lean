/-
This file defines the total of a list of counts, with the lemmas that say what it does
to each way of building a list.
-/

namespace CollectivePerception

/-- The total of some counts. -/
def totalOf : List Nat → Nat
  | [] => 0
  | count :: rest => count + totalOf rest

theorem totalOf_nil : totalOf [] = 0 := rfl

theorem totalOf_cons (count : Nat) (rest : List Nat) :
    totalOf (count :: rest) = count + totalOf rest := rfl

theorem totalOf_append (first second : List Nat) :
    totalOf (first ++ second) = totalOf first + totalOf second := by
  induction first with
  | nil => simp [totalOf_nil]
  | cons count rest inductionHypothesis =>
    rw [List.cons_append, totalOf_cons, totalOf_cons, inductionHypothesis, Nat.add_assoc]

theorem totalOf_perm {first second : List Nat} (permutation : first.Perm second) :
    totalOf first = totalOf second := by
  induction permutation with
  | nil => rfl
  | cons count _ inductionHypothesis => rw [totalOf_cons, totalOf_cons, inductionHypothesis]
  | swap one other rest =>
    rw [totalOf_cons, totalOf_cons, totalOf_cons, totalOf_cons]
    exact Nat.add_left_comm other one (totalOf rest)
  | trans _ _ firstHypothesis secondHypothesis => rw [firstHypothesis, secondHypothesis]

theorem le_totalOf_of_mem {count : Nat} {counts : List Nat} (member : count ∈ counts) :
    count ≤ totalOf counts := by
  obtain ⟨before, after, rfl⟩ := List.append_of_mem member
  rw [totalOf_append, totalOf_cons]
  omega

theorem totalOf_le_of_sublist {first second : List Nat} (sublist : first.Sublist second) :
    totalOf first ≤ totalOf second := by
  induction sublist with
  | slnil => exact Nat.le_refl 0
  | cons count _ inductionHypothesis => exact Nat.le_add_left_of_le inductionHypothesis
  | cons_cons count _ inductionHypothesis => exact Nat.add_le_add_left inductionHypothesis count

theorem totalOf_map_le {Element : Type} {count other : Element → Nat} {elements : List Element}
    (bound : ∀ element ∈ elements, count element ≤ other element) :
    totalOf (elements.map count) ≤ totalOf (elements.map other) := by
  induction elements with
  | nil => exact Nat.le_refl 0
  | cons element rest inductionHypothesis =>
    obtain ⟨first, others⟩ := List.forall_mem_cons.mp bound
    exact Nat.add_le_add first (inductionHypothesis others)

theorem totalOf_map_const {Element : Type} (count : Nat) (elements : List Element) :
    totalOf (elements.map fun _ => count) = count * elements.length := by
  induction elements with
  | nil => rfl
  | cons element rest inductionHypothesis =>
    rw [List.map_cons, totalOf_cons, inductionHypothesis, List.length_cons, Nat.mul_succ,
      Nat.add_comm]

/-- Counts of zero make no difference. -/
theorem totalOf_map_filter_pos {Element : Type} (count : Element → Nat) (elements : List Element) :
    totalOf ((elements.filter fun element => decide (0 < count element)).map count) =
      totalOf (elements.map count) := by
  induction elements with
  | nil => rfl
  | cons element rest inductionHypothesis =>
    rw [List.map_cons, totalOf_cons, ← inductionHypothesis, List.filter_cons]
    by_cases positive : 0 < count element
    · rw [if_pos (decide_eq_true positive), List.map_cons, totalOf_cons]
    · rw [if_neg fun holds => positive (of_decide_eq_true holds), Nat.eq_zero_of_not_pos positive,
        Nat.zero_add]

theorem length_flatMap_eq_totalOf {Element Part : Type} (parts : Element → List Part)
    (elements : List Element) :
    (elements.flatMap parts).length =
      totalOf (elements.map fun element => (parts element).length) := by
  induction elements with
  | nil => rfl
  | cons element rest inductionHypothesis =>
    rw [List.flatMap_cons, List.length_append, inductionHypothesis, List.map_cons, totalOf_cons]

end CollectivePerception
