/-
This file proves what the order of priority is: the same records, the most urgent first,
and among records of one priority the last one first. The sort behind it is stable and
ascending, and its result is read backwards.
-/

import CollectivePerception.Segmentation

namespace CollectivePerception.Segmentation

variable {Key : Type}

theorem byPriority_perm (records : List (Keyed Key)) :
    (byPriority records).Perm records :=
  (List.reverse_perm _).trans (List.mergeSort_perm _ _)

theorem priority_le_trans (first second third : Keyed Key)
    (early : decide (first.2.priority ≤ second.2.priority) = true)
    (late : decide (second.2.priority ≤ third.2.priority) = true) :
    decide (first.2.priority ≤ third.2.priority) = true := by
  rw [decide_eq_true_iff] at early late ⊢
  exact Int.le_trans early late

theorem priority_le_total (first second : Keyed Key) :
    (decide (first.2.priority ≤ second.2.priority) ||
      decide (second.2.priority ≤ first.2.priority)) = true := by
  rw [Bool.or_eq_true, decide_eq_true_iff, decide_eq_true_iff]
  exact Int.le_total _ _

/-- No record comes before a more urgent one. -/
theorem byPriority_descends (records : List (Keyed Key)) :
    (byPriority records).Pairwise fun earlier later =>
      later.2.priority ≤ earlier.2.priority := by
  rw [byPriority, List.pairwise_reverse]
  refine (List.pairwise_mergeSort priority_le_trans priority_le_total records).imp ?_
  intro first second ordered
  exact of_decide_eq_true ordered

/-- Records of one priority come in the reverse of the order in which they were given. -/
theorem filter_byPriority (records : List (Keyed Key)) (priority : Int) :
    (byPriority records).filter (·.2.priority = priority) =
      (records.filter (·.2.priority = priority)).reverse := by
  rw [byPriority, List.filter_reverse]
  refine congrArg List.reverse ?_
  have equals : (records.filter (·.2.priority = priority)).Pairwise fun first second =>
      decide (first.2.priority ≤ second.2.priority) = true := by
    refine List.pairwise_of_forall_mem_list fun first inFirst second inSecond => ?_
    have firstPriority := of_decide_eq_true (List.mem_filter.mp inFirst).2
    have secondPriority := of_decide_eq_true (List.mem_filter.mp inSecond).2
    rw [firstPriority, secondPriority]
    exact decide_eq_true (Int.le_refl priority)
  -- The sort is stable: it keeps the order of a part that is sorted already.
  have kept := (List.sublist_mergeSort priority_le_trans priority_le_total equals
    List.filter_sublist).filter (·.2.priority = priority)
  simp only [List.filter_filter, Bool.and_self] at kept
  have count := ((List.mergeSort_perm records fun first second =>
    decide (first.2.priority ≤ second.2.priority)).filter (·.2.priority = priority)).length_eq
  exact (kept.eq_of_length count.symm).symm

end CollectivePerception.Segmentation
