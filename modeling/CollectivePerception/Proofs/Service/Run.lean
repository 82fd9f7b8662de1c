/-
This file defines the runs of a service. A run is a list of calls, each with all that the
service reads in it, so nothing is assumed of how the surroundings, the channel or the
clock change from one call to the next. The history of a run is its calls, each with the
service that it meets. Whatever a call does, it leaves the settings, the facilities and the
rules of the service (`run_revises`), and a reception leaves all but the picture of the
other stations (`indicate_eq`).
-/

import CollectivePerception.Proofs.Segmentation.Numbering
import CollectivePerception.Proofs.Service.Cycle
import CollectivePerception.Service.Reception
import Mathlib.Data.List.Basic
import Mathlib.Data.List.Induction

namespace CollectivePerception

/-! ### What has held since -/

/-- An event of the history is a hit, and all events after it are kept. -/
def Since {Occurrence : Type} (hit keep : Occurrence → Prop) (events : List Occurrence) : Prop :=
  ∃ earlier event later, events = earlier ++ event :: later ∧ hit event ∧
    ∀ other ∈ later, keep other

section

variable {Occurrence : Type} {hit keep : Occurrence → Prop}

theorem not_since_nil : ¬Since hit keep [] := by
  rintro ⟨earlier, event, later, apart, _⟩
  exact List.append_ne_nil_of_right_ne_nil earlier (List.cons_ne_nil event later) apart.symm

/-- One more event is a hit itself, or it is kept after a hit before it. -/
theorem since_concat (events : List Occurrence) (event : Occurrence) :
    Since hit keep (events ++ [event]) ↔ hit event ∨ keep event ∧ Since hit keep events := by
  constructor
  · rintro ⟨earlier, found, later, apart, hits, kept⟩
    rcases List.eq_nil_or_concat' later with rfl | ⟨before, last, rfl⟩
    · obtain ⟨_, same⟩ := List.append_inj' apart rfl
      exact .inl (List.singleton_inj.mp same ▸ hits)
    · rw [← List.cons_append, ← List.append_assoc] at apart
      obtain ⟨front, same⟩ := List.append_inj' apart rfl
      rw [← List.singleton_inj.mp same] at kept
      rw [List.forall_mem_append, List.forall_mem_singleton] at kept
      exact .inr ⟨kept.2, earlier, found, before, front, hits, kept.1⟩
  · rintro (hits | ⟨keeps, earlier, found, later, rfl, hits, kept⟩)
    · exact ⟨events, event, [], rfl, hits, fun _ absent => absurd absent List.not_mem_nil⟩
    · refine ⟨earlier, found, later ++ [event], ?_, hits, ?_⟩
      · rw [List.append_assoc, List.cons_append]
      · rw [List.forall_mem_append, List.forall_mem_singleton]
        exact ⟨kept, keeps⟩

/-- After an event that is neither a hit nor kept, only a later hit counts. -/
theorem not_since_of_gap {earlier later : List Occurrence} {gap : Occurrence}
    (missed : ¬hit gap) (broken : ¬keep gap) (noHit : ∀ other ∈ later, ¬hit other) :
    ¬Since hit keep (earlier ++ gap :: later) := by
  induction later using List.reverseRecOn with
  | nil =>
    rw [since_concat]
    exact fun since => since.elim missed fun kept => broken kept.1
  | append_singleton before last inductionHypothesis =>
    rw [List.forall_mem_append, List.forall_mem_singleton] at noHit
    rw [← List.cons_append, ← List.append_assoc, since_concat]
    exact fun since => since.elim noHit.2 fun kept => inductionHypothesis noHit.1 kept.2

end

/-! ### Runs -/

/-- A call to a service. -/
inductive Call (Channel : Type)
  | trigger (transport : Transport Channel) (channel : Channel) (conditions : ChannelConditions)
      (surroundings : Surroundings) (now : Instant)
  | indicate (surroundings : Surroundings) (now : Instant) (message : Message)

/-- A call of a run, with the service that it meets. -/
structure Event (Channel : Type) where
  service : Service
  call : Call Channel

namespace Service

variable {Channel : Type}

/-- The service after a call. -/
def after (service : Service) : Call Channel → Service
  | .trigger transport channel conditions surroundings now =>
    (service.trigger transport channel conditions surroundings now).service
  | .indicate surroundings now message => (service.indicate surroundings now message).service

/-- The service after a run. -/
def run (service : Service) (calls : List (Call Channel)) : Service :=
  calls.foldl after service

/-- The calls of a run, in their order. -/
def history (service : Service) : List (Call Channel) → List (Event Channel)
  | [] => []
  | call :: later => ⟨service, call⟩ :: (service.after call).history later

theorem run_concat (service : Service) (calls : List (Call Channel)) (call : Call Channel) :
    service.run (calls ++ [call]) = (service.run calls).after call := by
  rw [run, List.foldl_append]
  rfl

theorem history_concat (service : Service) (calls : List (Call Channel)) (call : Call Channel) :
    service.history (calls ++ [call]) = service.history calls ++ [⟨service.run calls, call⟩] := by
  induction calls generalizing service with
  | nil => rfl
  | cons first later inductionHypothesis =>
    rw [List.cons_append, history, inductionHypothesis]
    rfl

/-! ### What no call changes -/

/-- A service is the revision of another if it differs from it at most in what it keeps
between two calls. -/
def Revises (service next : Service) : Prop :=
  ∃ tracking remote lastSent lastDescribed, next =
    { service with
      tracking := tracking
      remote := remote
      lastSent := lastSent
      lastDescribed := lastDescribed }

theorem Revises.refl (service : Service) : service.Revises service :=
  ⟨_, _, _, _, rfl⟩

theorem Revises.trans {first second third : Service} (early : first.Revises second)
    (late : second.Revises third) : first.Revises third := by
  obtain ⟨_, _, _, _, rfl⟩ := early
  obtain ⟨_, _, _, _, rfl⟩ := late
  exact ⟨_, _, _, _, rfl⟩

theorem Revises.settings_eq {service next : Service} (revises : service.Revises next) :
    next.settings = service.settings := by
  obtain ⟨_, _, _, _, rfl⟩ := revises
  rfl

theorem Revises.facilities_eq {service next : Service} (revises : service.Revises next) :
    next.facilities = service.facilities := by
  obtain ⟨_, _, _, _, rfl⟩ := revises
  rfl

theorem Revises.rule_eq {service next : Service} (revises : service.Revises next) :
    next.rule = service.rule := by
  obtain ⟨_, _, _, _, rfl⟩ := revises
  rfl

theorem messages_ne_nil_of_assembled {service : Service} {conditions : ChannelConditions}
    {surroundings : Surroundings} {now : Instant} {segmentation : Segmentation Handle}
    (success : service.assembled conditions surroundings now = .ok segmentation) :
    segmentation.messages ≠ [] :=
  Segmentation.segment_messages_ne_nil (packed_of_assembled success).1

theorem Course.revises {current : Service} {transport : Transport Channel} {channel : Channel}
    {conditions : ChannelConditions} {surroundings : Surroundings} {now : Instant}
    {cycle : Cycle Channel}
    (course : Course current transport channel conditions surroundings now cycle) :
    current.Revises cycle.service := by
  cases course with
  | sent _ _ _ _ => exact ⟨_, _, _, _, rfl⟩
  | _ => exact .refl current

/-- A reception changes nothing but the picture of the other stations. -/
theorem indicate_eq (service : Service) (surroundings : Surroundings) (now : Instant)
    (message : Message) :
    ∃ remote, (service.indicate surroundings now message).service =
      { service with remote := remote } := by
  unfold indicate
  split
  · exact ⟨service.remote, rfl⟩
  · dsimp only [recordMessage]
    split
    · exact ⟨_, rfl⟩
    · exact ⟨_, rfl⟩

theorem synchronized_revises (service : Service) (surroundings : Surroundings) (now : Instant) :
    service.Revises (service.synchronized surroundings now) :=
  ⟨_, _, _, _, rfl⟩

theorem after_revises (service : Service) (call : Call Channel) :
    service.Revises (service.after call) := by
  cases call with
  | trigger transport channel conditions surroundings now =>
    exact (service.synchronized_revises surroundings now).trans
      (service.trigger_course transport channel conditions surroundings now).revises
  | indicate surroundings now message =>
    obtain ⟨remote, left⟩ := service.indicate_eq surroundings now message
    exact ⟨_, remote, _, _, left⟩

/-- No run changes the settings, the facilities or the rules of a service. -/
theorem run_revises (service : Service) (calls : List (Call Channel)) :
    service.Revises (service.run calls) := by
  induction calls using List.reverseRecOn with
  | nil => exact .refl service
  | append_singleton before last inductionHypothesis =>
    rw [run_concat]
    exact inductionHypothesis.trans (after_revises _ last)

/-! ### A small run -/

/-- Settings under which a station reports whatever it tracks, as often as congestion
control allows. -/
def throttledSettings : ServiceSettings :=
  { ServiceSettings.standard with selection := .static, restricted := true }

def throttledFacilities : Facilities := { Facilities.standard with hasThrottle := true }

/-- The service with these settings, created at the origin of time. -/
def throttledService : Service where
  settings := throttledSettings
  facilities := throttledFacilities
  rule := .static
  chain := []
  clock := ⟨0⟩
  tracking := .empty
  remote := .empty
  lastSent := .zero
  lastDescribed := .ofMillis (-1000)

theorem create_throttledService :
    create throttledSettings throttledFacilities .zero = .ok throttledService := rfl

/-- A cycle on a channel that accepts everything and demands an interval of 250
milliseconds. -/
def throttledCycle (surroundings : Surroundings) (millis : Int) : Call (Option Nat) :=
  .trigger (.limited .unavailable) none ⟨fun _ => .ofMillis 250, 0.5⟩ surroundings
    (.ofMillis millis)

end Service

end CollectivePerception
