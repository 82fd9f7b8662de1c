/-
This file proves that a station keeps its distance in time. Between a cycle that sends and
the last one before it, or the creation of the service, at least the least interval has
passed, and with congestion control at least the interval that it demands. No other call
moves the time that the interval is counted from: `lastSent` is read off the history of
the run (`run_lastSent`).
-/

import CollectivePerception.Proofs.Service.Creation
import CollectivePerception.Proofs.Service.Run

namespace CollectivePerception

/-! ### Time that has passed -/

/-- If more than no time has passed since an earlier instant, then the later instant lies
at least that much behind it, however large the distance is. -/
theorem Instant.add_le_of_le_elapsedSince {now last : Instant} {interval : Duration}
    (positive : 0 < interval.micros) (passed : interval ≤ now.elapsedSince last) :
    last.micros + interval.micros ≤ now.micros := by
  rw [Duration.le_def, elapsedSince, Binary64.greatestInt64] at passed
  dsimp only at passed
  omega

theorem Duration.clamp_bounds {least greatest : Duration} (ordered : least ≤ greatest)
    (duration : Duration) :
    least ≤ duration.clamp least greatest ∧ duration.clamp least greatest ≤ greatest := by
  simp only [Duration.le_def, clamp] at *
  split
  · exact ⟨Nat.le_refl _, ordered⟩
  · rename_i notBelow
    rw [Duration.lt_def] at notBelow
    split
    · exact ⟨ordered, Nat.le_refl _⟩
    · rename_i notAbove
      rw [Duration.lt_def] at notAbove
      omega

/-! ### The last sending of a history -/

variable {Channel : Type}

/-- When a call sent messages, if it is a cycle that ended well and did. -/
def Event.sentAt (event : Event Channel) : Option Instant :=
  match event.call with
  | .indicate _ _ _ => none
  | .trigger transport channel conditions surroundings now =>
    match (event.service.trigger transport channel conditions surroundings now).outcome with
    | .error _ => none
    | .ok report => if 0 < report.segments then some now else none

/-- When messages were last sent, or `start` if they never were. -/
def lastSending (start : Instant) (events : List (Event Channel)) : Instant :=
  (events.filterMap Event.sentAt).getLastD start

theorem lastSending_concat (start : Instant) (events : List (Event Channel))
    (event : Event Channel) :
    lastSending start (events ++ [event]) = event.sentAt.getD (lastSending start events) := by
  rw [lastSending, List.filterMap_append]
  cases sent : event.sentAt with
  | none => rw [List.filterMap_cons_none sent, List.filterMap_nil, List.append_nil]; rfl
  | some now => rw [List.filterMap_cons_some sent, List.filterMap_nil, List.getLastD_concat]; rfl

namespace Service

/-- A cycle moves the time of the last message exactly if it sends, and to its own time. -/
theorem trigger_lastSent (service : Service) (transport : Transport Channel) (channel : Channel)
    (conditions : ChannelConditions) (surroundings : Surroundings) (now : Instant) :
    (service.trigger transport channel conditions surroundings now).service.lastSent =
      (Event.mk service (.trigger transport channel conditions surroundings now)).sentAt.getD
        service.lastSent := by
  have course := service.trigger_course transport channel conditions surroundings now
  rw [Event.sentAt]
  dsimp only
  cases ended : (service.trigger transport channel conditions surroundings now).outcome with
  | error failure =>
    rw [course.service_eq_of_error ended]
    rfl
  | ok report =>
    rcases course.ok_cases ended with
      ⟨_, none, _, left⟩ | ⟨_, _, segmentation, succeeded, rfl, _, left⟩
    · rw [left]
      dsimp only
      rw [none, if_neg (Nat.lt_irrefl 0)]
      rfl
    · have some := List.length_pos_iff.mpr (messages_ne_nil_of_assembled succeeded)
      rw [left]
      dsimp only
      rw [if_pos some]
      rfl

/-- A cycle that sends does so when the interval has passed. -/
theorem interval_le_of_sending {service : Service} {transport : Transport Channel}
    {channel : Channel} {conditions : ChannelConditions} {surroundings : Surroundings}
    {now : Instant} {report : CycleReport}
    (ended : (service.trigger transport channel conditions surroundings now).outcome =
      .ok report)
    (sends : 0 < report.segments) :
    service.interval conditions ≤ now.elapsedSince service.lastSent := by
  have course := service.trigger_course transport channel conditions surroundings now
  rcases course.ok_cases ended with ⟨_, none, _, _⟩ | ⟨due, _⟩
  · rw [none] at sends
    exact absurd sends (Nat.lt_irrefl 0)
  · exact Nat.le_of_not_lt due

/-! ### Whole runs -/

/-- The time that the interval is counted from is that of the last message of the run. -/
theorem run_lastSent (service : Service) (calls : List (Call Channel)) :
    (service.run calls).lastSent =
      lastSending service.lastSent (service.history calls) := by
  induction calls using List.reverseRecOn with
  | nil => rfl
  | append_singleton before call inductionHypothesis =>
    rw [run_concat, history_concat, lastSending_concat, ← inductionHypothesis]
    cases call with
    | trigger transport channel conditions surroundings now => exact trigger_lastSent _ _ _ _ _ _
    | indicate surroundings now message =>
      obtain ⟨remote, left⟩ := (service.run before).indicate_eq surroundings now message
      show ((service.run before).indicate surroundings now message).service.lastSent = _
      rw [left]
      rfl

theorem minimumInterval_pos {settings : ServiceSettings} (valid : settings.validate = .ok ()) :
    0 < settings.minimumInterval.micros :=
  Nat.mul_pos (Nat.pos_of_ne_zero (ServiceSettings.validate_eq_ok_iff.mp valid).1) (by decide)

theorem minimumInterval_le {settings : ServiceSettings} (valid : settings.validate = .ok ()) :
    settings.minimumInterval ≤ settings.maximumInterval :=
  Nat.mul_le_mul_right 1000 (ServiceSettings.validate_eq_ok_iff.mp valid).2.1

theorem minimumInterval_le_interval {service : Service}
    (valid : service.settings.validate = .ok ()) (conditions : ChannelConditions) :
    service.settings.minimumInterval ≤ service.interval conditions := by
  rw [interval]
  split
  · exact (Duration.clamp_bounds (minimumInterval_le valid) _).1
  · exact Nat.le_refl _

/-- A cycle that ends well and sends comes after the last message. -/
theorem lastSent_lt_of_sends {service : Service} (valid : service.settings.validate = .ok ())
    {transport : Transport Channel} {channel : Channel} {conditions : ChannelConditions}
    {surroundings : Surroundings} {now : Instant} {report : CycleReport}
    (ended : (service.trigger transport channel conditions surroundings now).outcome =
      .ok report)
    (sends : (service.trigger transport channel conditions surroundings now).sent ≠ []) :
    service.lastSent < now := by
  have course := service.trigger_course transport channel conditions surroundings now
  rcases course.ok_cases ended with ⟨_, _, nothing, _⟩ | ⟨passed, _⟩
  · exact absurd nothing sends
  · have positive := Nat.lt_of_lt_of_le (minimumInterval_pos valid)
      (minimumInterval_le_interval valid conditions)
    have later : service.lastSent.micros + (service.interval conditions).micros ≤ now.micros :=
      Instant.add_le_of_le_elapsedSince positive (Nat.le_of_not_lt passed)
    rw [Instant.lt_def]
    omega

/-- The time of the last message does not go back. -/
theorem lastSent_le_after {service : Service} (valid : service.settings.validate = .ok ())
    (call : Call Channel) : service.lastSent ≤ (service.after call).lastSent := by
  cases call with
  | indicate surroundings now message =>
    obtain ⟨remote, left⟩ := service.indicate_eq surroundings now message
    rw [after, left]
    exact Int.le_refl _
  | trigger transport channel conditions surroundings now =>
    have course := service.trigger_course transport channel conditions surroundings now
    rw [after]
    cases ended : (service.trigger transport channel conditions surroundings now).outcome with
    | error failure =>
      rw [course.service_eq_of_error ended]
      exact Int.le_refl _
    | ok report =>
      rcases course.ok_cases ended with
        ⟨_, _, _, left⟩ | ⟨_, _, segmentation, succeeded, _, sent, left⟩
      · rw [left]
        exact Int.le_refl _
      · have sends := messages_ne_nil_of_assembled succeeded
        rw [← sent] at sends
        rw [left]
        exact Int.le_of_lt (lastSent_lt_of_sends valid ended sends)

theorem lastSent_le_run {service : Service} (valid : service.settings.validate = .ok ())
    (calls : List (Call Channel)) : service.lastSent ≤ (service.run calls).lastSent := by
  induction calls using List.reverseRecOn with
  | nil => exact Int.le_refl _
  | append_singleton before call inductionHypothesis =>
    rw [run_concat]
    refine Int.le_trans inductionHypothesis (lastSent_le_after ?_ call)
    rw [(service.run_revises before).settings_eq]
    exact valid

/-- In every run of a service that was created, a cycle that sends lies at least the least
interval behind the last cycle before it that sent, or behind the creation of the service,
and with congestion control at least the interval that it demands, moved between its two
bounds. The bounds are always in order, and no reception moves the time that the interval
is counted from. -/
theorem sendings_keep_interval {settings : ServiceSettings} {facilities : Facilities}
    {start : Instant} {service : Service}
    (created : create settings facilities start = .ok service) (calls : List (Call Channel)) :
    (service.run calls).lastSent = lastSending start (service.history calls) ∧
      (service.run calls).settings = settings ∧
      settings.minimumInterval ≤ settings.maximumInterval ∧
      (∀ surroundings now message,
        ((service.run calls).indicate surroundings now message).service.lastSent =
          (service.run calls).lastSent) ∧
      ∀ (transport : Transport Channel) channel conditions surroundings now report,
        ((service.run calls).trigger transport channel conditions surroundings now).outcome =
            .ok report →
          0 < report.segments →
          (lastSending start (service.history calls)).micros + settings.minimumInterval.micros ≤
              now.micros ∧
            (settings.restricted = true →
              (lastSending start (service.history calls)).micros +
                  ((conditions.interval settings.profile).clamp settings.minimumInterval
                    settings.maximumInterval).micros ≤ now.micros) := by
  obtain ⟨valid, throttled, _⟩ := create_eq_ok_iff.mp created
  obtain ⟨sameSettings, sameFacilities, _, _, sameStart, _⟩ := state_of_create created
  have ordered := minimumInterval_le valid
  have positive := minimumInterval_pos valid
  have revises := service.run_revises calls
  have settled : (service.run calls).settings = settings :=
    revises.settings_eq.trans sameSettings
  have equipped : (service.run calls).facilities = facilities :=
    revises.facilities_eq.trans sameFacilities
  have last := service.run_lastSent calls
  rw [sameStart] at last
  refine ⟨last, settled, ordered, fun surroundings now message => ?_, ?_⟩
  · obtain ⟨remote, left⟩ := (service.run calls).indicate_eq surroundings now message
    rw [left]
  · intro transport channel conditions surroundings now report ended sends
    have passed := interval_le_of_sending ended sends
    rw [last, interval, settled, equipped] at passed
    split at passed
    · -- Congestion control demands at least the least interval.
      have above := (Duration.clamp_bounds ordered (conditions.interval settings.profile)).1
      have demanded := Instant.add_le_of_le_elapsedSince (Nat.lt_of_lt_of_le positive above) passed
      rw [Duration.le_def] at above
      exact ⟨by omega, fun _ => demanded⟩
    · rename_i free
      refine ⟨Instant.add_le_of_le_elapsedSince positive passed, fun restricted => ?_⟩
      rw [restricted, throttled restricted] at free
      exact absurd rfl free

def emptyRoad : Surroundings := ⟨fun _ => none, .empty, .empty, .initial 1 .passengerCar⟩

/-- The cycle at 250 milliseconds sends, the one at 400 does not, and the one at 500 does. -/
theorem throttledService_keeps_interval :
    lastSending .zero
        (throttledService.history [throttledCycle emptyRoad 250, throttledCycle emptyRoad 400]) =
      .ofMillis 250 ∧
      ((throttledService.run
          [throttledCycle emptyRoad 250, throttledCycle emptyRoad 400]).trigger
        (.limited .unavailable) none ⟨fun _ => .ofMillis 250, 0.5⟩ emptyRoad
        (.ofMillis 500)).outcome = .ok ⟨true, 0, 0, 1, 0, false⟩ ∧
      (Instant.ofMillis 250).micros + 250000 ≤ (Instant.ofMillis 500).micros := by
  have last : lastSending .zero
      (throttledService.history [throttledCycle emptyRoad 250, throttledCycle emptyRoad 400]) =
        .ofMillis 250 := by
    decide +kernel
  have ended : ((throttledService.run
      [throttledCycle emptyRoad 250, throttledCycle emptyRoad 400]).trigger
        (.limited .unavailable) none ⟨fun _ => .ofMillis 250, 0.5⟩ emptyRoad
        (.ofMillis 500)).outcome = .ok ⟨true, 0, 0, 1, 0, false⟩ := by
    decide +kernel
  obtain ⟨_, _, _, _, spaced⟩ := sendings_keep_interval create_throttledService
    [throttledCycle emptyRoad 250, throttledCycle emptyRoad 400]
  have apart := (spaced _ _ _ _ _ _ ended (by decide)).2 rfl
  rw [last] at apart
  exact ⟨last, ended, apart⟩

end Service

end CollectivePerception
