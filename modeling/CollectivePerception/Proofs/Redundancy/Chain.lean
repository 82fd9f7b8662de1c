/-
This file proves that a chain of redundancy rules is one filter, in which the order of the
rules plays no part. Each rule looks at the same knowledge about the other stations, which no
rule changes, so whether it finds an object redundant (`RedundancyRule.Covers`) does not depend
on the candidates that other rules have left. A chain therefore leaves the candidates that are
alive and that none of its rules covers (`RedundancyChain.filter_eq`); everything else about
chains follows from that.
-/

import CollectivePerception.Proofs.Remote.Tracking
import CollectivePerception.Redundancy
import Mathlib.Data.List.Basic

namespace CollectivePerception

/-! ### One rule -/

namespace RedundancyRule

/-- A rule's criterion: what it asks of the reports about an object's station. -/
def Covers (context : RedundancyContext) (object : SceneObject) : RedundancyRule → Prop
  | distance window reach =>
    ∃ entry ∈ (context.remote.knowledge object.station).stored,
      context.now.before window ≤ entry.received ∧
        context.own.position.distance entry.reporterPosition ≤ reach
  | dynamics reach tolerance =>
    ∃ aggregate ∈ (context.remote.knowledge object.station).aggregate,
      object.position.distance aggregate.position ≤ reach ∧
        (object.speed - aggregate.speed).abs ≤ tolerance
  | frequency window number =>
    number < ((context.remote.knowledge object.station).stored.filter fun entry =>
      context.now.before window ≤ entry.received).length
  | selfAnnouncement => object.station ∈ context.remote.stations

instance (context : RedundancyContext) (object : SceneObject) :
    (rule : RedundancyRule) → Decidable (rule.Covers context object)
  | distance _ _ => inferInstanceAs (Decidable (∃ entry ∈ _, _))
  | dynamics _ _ => inferInstanceAs (Decidable (∃ aggregate ∈ _, _))
  | frequency _ _ => inferInstanceAs (Decidable (_ < _))
  | selfAnnouncement => inferInstanceAs (Decidable (_ ∈ _))

variable {rule : RedundancyRule} {context : RedundancyContext} {object : SceneObject}
  {handle : Handle}

/-- No rule covers an object whose station is not known of at all. -/
theorem not_covers_of_unknown (unknown : context.remote.get? object.station = none) :
    ¬rule.Covers context object := by
  have nothing : context.remote.knowledge object.station = .empty := by
    rw [Remote.Tracking.knowledge, unknown]
    rfl
  cases rule with
  | distance window reach =>
    rintro ⟨entry, stored, _⟩
    rw [nothing] at stored
    cases stored
  | dynamics reach tolerance =>
    rintro ⟨aggregate, newest, _⟩
    rw [nothing] at newest
    cases newest
  | frequency window number =>
    rw [Covers, nothing]
    exact Nat.not_lt_zero number
  | selfAnnouncement =>
    rw [Covers, Remote.Tracking.mem_stations_iff, unknown]
    rintro ⟨_, found⟩
    cases found

/-- What a rule looks for in the knowledge about a station is its criterion. -/
theorem covers_iff_isRedundant {known : Remote.Knowledge}
    (found : context.remote.get? object.station = some known) :
    rule.Covers context object ↔ rule.isRedundant context object known = true := by
  have same := Remote.Tracking.knowledge_of_get? found
  cases rule with
  | distance window reach => simp [Covers, isRedundant, isRecent, same]
  | dynamics reach tolerance => simp [Covers, isRedundant, same, Option.any_eq_true]
  | frequency window number =>
    rw [Covers, isRedundant, same, decide_eq_true_iff, List.countP_eq_length_filter]
    rfl
  | selfAnnouncement =>
    exact iff_of_true (Remote.Tracking.mem_stations_iff.mpr ⟨known, found⟩) rfl

/-- A rule keeps a candidate that is alive and that it does not cover. -/
theorem keeps_iff :
    rule.keeps context handle = true ↔
      ∃ object ∈ context.scene handle, ¬rule.Covers context object := by
  rw [keeps]
  cases context.scene handle with
  | none => exact iff_of_false nofun nofun
  | some object =>
    simp only [Option.mem_def, Option.some.injEq, exists_eq_left']
    cases found : context.remote.get? object.station with
    | none => exact iff_of_true rfl (not_covers_of_unknown found)
    | some known =>
      dsimp only
      rw [covers_iff_isRedundant found, Bool.not_eq_true', Bool.not_eq_true]

end RedundancyRule

/-! ### A chain -/

namespace RedundancyChain

/-- A candidate is alive, and no rule of the chain covers its object. -/
def Leaves (chain : RedundancyChain) (context : RedundancyContext) (handle : Handle) : Prop :=
  ∃ object ∈ context.scene handle, ∀ rule ∈ chain, ¬rule.Covers context object

instance (chain : RedundancyChain) (context : RedundancyContext) (handle : Handle) :
    Decidable (chain.Leaves context handle) :=
  inferInstanceAs (Decidable (∃ object ∈ _, ∀ rule ∈ chain, _))

variable {chain : RedundancyChain} {context : RedundancyContext} {handle : Handle}

theorem leaves_iff (nonempty : chain ≠ []) :
    chain.Leaves context handle ↔ ∀ rule ∈ chain, rule.keeps context handle = true := by
  simp only [RedundancyRule.keeps_iff]
  constructor
  · rintro ⟨object, alive, uncovered⟩ rule member
    exact ⟨object, alive, uncovered rule member⟩
  · intro kept
    obtain ⟨first, member⟩ := List.exists_mem_of_ne_nil chain nonempty
    obtain ⟨object, alive, _⟩ := kept first member
    refine ⟨object, alive, fun rule among => ?_⟩
    obtain ⟨other, same, uncovered⟩ := kept rule among
    cases alive.symm.trans same
    exact uncovered

/-- The rules of a chain keep the candidates that each of them keeps. -/
theorem filter_eq_filter_all (chain : RedundancyChain) (context : RedundancyContext)
    (candidates : List Handle) :
    chain.filter context candidates =
      candidates.filter fun handle => chain.all fun rule => rule.keeps context handle := by
  induction chain generalizing candidates with
  | nil => exact (List.filter_eq_self.mpr fun _ _ => rfl).symm
  | cons rule later inductionHypothesis =>
    show filter later context (candidates.filter (rule.keeps context)) = _
    rw [inductionHypothesis, List.filter_filter]
    exact List.filter_congr fun handle _ => Bool.and_comm _ _

/-- A chain judges each candidate by itself. -/
theorem mem_filter_iff {candidates : List Handle} :
    handle ∈ chain.filter context candidates ↔
      handle ∈ candidates ∧ ∀ rule ∈ chain, rule.keeps context handle = true := by
  rw [filter_eq_filter_all, List.mem_filter, List.all_eq_true]

theorem filter_sublist (chain : RedundancyChain) (context : RedundancyContext)
    (candidates : List Handle) : (chain.filter context candidates).Sublist candidates := by
  rw [filter_eq_filter_all]
  exact List.filter_sublist

theorem filter_append (chain : RedundancyChain) (context : RedundancyContext)
    (first second : List Handle) :
    chain.filter context (first ++ second) =
      chain.filter context first ++ chain.filter context second := by
  simp only [filter_eq_filter_all, List.filter_append]

/-- Rules that are the same but for their order and number leave the same candidates. -/
theorem filter_congr {other : RedundancyChain} (same : ∀ rule, rule ∈ other ↔ rule ∈ chain)
    (candidates : List Handle) :
    other.filter context candidates = chain.filter context candidates := by
  rw [filter_eq_filter_all, filter_eq_filter_all]
  refine List.filter_congr fun handle _ => ?_
  rw [Bool.eq_iff_iff, List.all_eq_true, List.all_eq_true]
  exact forall_congr' fun rule => imp_congr_left (same rule)

/-- A chain leaves the candidates that are alive and that none of its rules covers. -/
theorem filter_eq (nonempty : chain ≠ []) (candidates : List Handle) :
    chain.filter context candidates =
      candidates.filter fun handle => chain.Leaves context handle := by
  rw [filter_eq_filter_all]
  refine List.filter_congr fun handle _ => ?_
  rw [Bool.eq_iff_iff, List.all_eq_true, decide_eq_true_iff]
  exact (leaves_iff nonempty).symm

/-! ### The whole -/

/-- A chain of rules leaves, in their order and as often as they were there, the candidates
that are alive and that none of the rules covers. So neither the order of the rules matters nor
how often one of them or all of them are applied, and it is the same whether candidates are
picked out or put together before the rules are applied or afterwards. -/
theorem filter_is_order_independent (chain : RedundancyChain) (nonempty : chain ≠ [])
    (context : RedundancyContext) (candidates : List Handle) :
    (chain.filter context candidates =
        candidates.filter fun handle => chain.Leaves context handle) ∧
      (∀ other : RedundancyChain, (∀ rule, rule ∈ other ↔ rule ∈ chain) →
        other.filter context candidates = chain.filter context candidates) ∧
      chain.filter context (chain.filter context candidates) =
        chain.filter context candidates ∧
      (∀ picked : Handle → Bool,
        chain.filter context (candidates.filter picked) =
          (chain.filter context candidates).filter picked) ∧
      (∀ part, part.Sublist candidates →
        (chain.filter context part).Sublist (chain.filter context candidates)) ∧
      ∀ more, chain.filter context (candidates ++ more) =
        chain.filter context candidates ++ chain.filter context more := by
  refine ⟨filter_eq nonempty candidates, fun other same => filter_congr same candidates, ?_,
    fun picked => ?_, fun part inside => ?_, chain.filter_append context candidates⟩
  · simp only [filter_eq_filter_all, List.filter_filter, Bool.and_self]
  · simp only [filter_eq_filter_all, List.filter_filter, Bool.and_comm]
  · simp only [filter_eq_filter_all]
    exact inside.filter _

/-- What station 8 reported 0.2 s ago about station 7, from where we are. -/
def nearbyReport : Remote.Report :=
  ⟨.ofMillis 800, Point.origin, ⟨.ofMillis 800, Point.origin, 0.0, Angle.zero⟩⟩

/-- Stations 7 and 9 are seen, and 7 has been reported. -/
def reportedRoad : RedundancyContext where
  remote := Remote.Tracking.empty.noted 7 8 nearbyReport .none
  scene handle := [SceneObject.initial 7 .passengerCar, .initial 9 .bus][handle.index]?
  own := .initial 1 .passengerCar
  now := .ofMillis 1000

/-- Of two candidates that are alive, one of them listed twice, and one that is not, the chain
leaves the one that was not reported, and so does a longer chain of the same rules. -/
theorem reportedRoad_filter :
    let chain : RedundancyChain := [.frequency (.ofMillis 1000) 5, .distance (.ofMillis 1000) 10.0]
    let longer : RedundancyChain :=
      [.distance (.ofMillis 1000) 10.0, .frequency (.ofMillis 1000) 5,
        .distance (.ofMillis 1000) 10.0]
    let candidates : List Handle := [⟨1, 0⟩, ⟨0, 0⟩, ⟨2, 0⟩, ⟨1, 0⟩]
    chain.filter reportedRoad candidates = [⟨1, 0⟩, ⟨1, 0⟩] ∧
      longer.filter reportedRoad candidates = [⟨1, 0⟩, ⟨1, 0⟩] := by
  intro chain longer candidates
  obtain ⟨left, others, _⟩ :=
    filter_is_order_independent chain (List.cons_ne_nil _ _) reportedRoad candidates
  have same (rule : RedundancyRule) : rule ∈ longer ↔ rule ∈ chain := by
    simp only [longer, chain, List.mem_cons, List.not_mem_nil, or_false]
    tauto
  rw [others longer same, left, and_self]
  decide +kernel

end RedundancyChain

end CollectivePerception
