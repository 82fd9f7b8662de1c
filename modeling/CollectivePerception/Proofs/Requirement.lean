/-
This file defines what it means to check requirements one after the other. The verdict on a list
of requirements is that there is no fault, if all of them are met, and else the fault of the
first one that is not (`Verdict.eq_none_iff`, `Verdict.eq_some_iff`). A check of several parts
that stops at the first fault has the verdict on the requirements of all parts in their order.
-/

namespace CollectivePerception

variable {Fault Part : Type}

/-- A condition, and the fault of what does not meet it. -/
structure Requirement (Fault : Type) where
  holds : Prop
  fault : Fault

/-- A fault is that of the first requirement that is not met. -/
def FirstViolated (requirements : List (Requirement Fault)) (fault : Fault) : Prop :=
  ∃ before requirement after, requirements = before ++ requirement :: after ∧
    (∀ earlier ∈ before, earlier.holds) ∧ ¬requirement.holds ∧ requirement.fault = fault

theorem not_firstViolated_nil (fault : Fault) : ¬FirstViolated [] fault := by
  rintro ⟨before, requirement, after, apart, _⟩
  exact List.append_ne_nil_of_right_ne_nil before (List.cons_ne_nil requirement after) apart.symm

/-- The first requirement is violated, or it is met and another one is the first. -/
theorem firstViolated_cons {requirement : Requirement Fault}
    {later : List (Requirement Fault)} {fault : Fault} :
    FirstViolated (requirement :: later) fault ↔
      ¬requirement.holds ∧ requirement.fault = fault ∨
        requirement.holds ∧ FirstViolated later fault := by
  constructor
  · rintro ⟨before, found, after, apart, met, fails, same⟩
    cases before with
    | nil =>
      cases apart
      exact .inl ⟨fails, same⟩
    | cons head rest =>
      cases apart
      obtain ⟨first, others⟩ := List.forall_mem_cons.mp met
      exact .inr ⟨first, rest, found, after, rfl, others, fails, same⟩
  · rintro (⟨fails, same⟩ | ⟨first, before, found, after, rfl, met, fails, same⟩)
    · exact ⟨[], requirement, later, rfl, List.forall_mem_nil _, fails, same⟩
    · exact ⟨requirement :: before, found, after, rfl, List.forall_mem_cons.mpr ⟨first, met⟩,
        fails, same⟩

/-- What comes of checking requirements one after the other until one is not met. -/
inductive Verdict : List (Requirement Fault) → Option Fault → Prop
  | nil : Verdict [] none
  | violated {requirement : Requirement Fault} {later : List (Requirement Fault)}
      (fails : ¬requirement.holds) : Verdict (requirement :: later) (some requirement.fault)
  | met {requirement : Requirement Fault} {later : List (Requirement Fault)}
      {found : Option Fault} (first : requirement.holds) (rest : Verdict later found) :
      Verdict (requirement :: later) found

namespace Verdict

variable {requirements : List (Requirement Fault)} {found : Option Fault}

theorem eq_none_iff (verdict : Verdict requirements found) :
    found = none ↔ ∀ requirement ∈ requirements, requirement.holds := by
  induction verdict with
  | nil => exact iff_of_true rfl (List.forall_mem_nil _)
  | violated fails =>
    exact iff_of_false nofun fun met => fails (met _ List.mem_cons_self)
  | met first _ inductionHypothesis =>
    rw [inductionHypothesis, List.forall_mem_cons, and_iff_right first]

theorem eq_some_iff (verdict : Verdict requirements found) {fault : Fault} :
    found = some fault ↔ FirstViolated requirements fault := by
  induction verdict with
  | nil => exact iff_of_false nofun (not_firstViolated_nil fault)
  | violated fails =>
    rw [firstViolated_cons, and_iff_right fails, Option.some_inj]
    exact (or_iff_left fun met => fails met.1).symm
  | met first _ inductionHypothesis =>
    rw [firstViolated_cons, inductionHypothesis, and_iff_right first]
    exact (or_iff_right fun violated => violated.1 first).symm

/-- A single requirement is checked by deciding it. -/
theorem singleton {condition : Prop} [Decidable condition] (fault : Fault) :
    Verdict [⟨condition, fault⟩] (if condition then none else some fault) := by
  by_cases holds : condition
  · rw [if_pos holds]
    exact .met holds .nil
  · rw [if_neg holds]
    exact .violated holds

/-- Two parts are checked one after the other. -/
theorem append {later : List (Requirement Fault)} {other : Option Fault}
    (verdict : Verdict requirements found) (next : Verdict later other) :
    Verdict (requirements ++ later) (found.or other) := by
  induction verdict with
  | nil => exact next
  | violated fails => exact .violated fails
  | met first _ inductionHypothesis => exact .met first inductionHypothesis

/-- Many parts are checked one after the other. -/
theorem flatMap {requirementsOf : Part → List (Requirement Fault)}
    {faultOf : Part → Option Fault} (each : ∀ part, Verdict (requirementsOf part) (faultOf part))
    (parts : List Part) : Verdict (parts.flatMap requirementsOf) (parts.findSome? faultOf) := by
  induction parts with
  | nil => exact .nil
  | cons part later inductionHypothesis =>
    rw [List.findSome?_cons, List.flatMap_cons]
    have whole := (each part).append inductionHypothesis
    cases first : faultOf part with
    | none => rwa [first, Option.none_or] at whole
    | some fault => rwa [first, Option.some_or] at whole

end Verdict

end CollectivePerception
