/-
This file proves that the picture that a service has of the other stations is current
whenever it matters. As long as the calls of a run do not go back in time, the picture is
current after every cycle, however it ended, and after every reception that succeeded. The
rules that take out redundant objects look at the picture of their own cycle, so they never
see a report that has expired.

One call leaves the reports in order (`after_settled`), so a run does (`run_settled`); and each
call that goes on begins with a synchronisation, which is all that is needed of it.
-/

import CollectivePerception.Proofs.Remote.Currency
import CollectivePerception.Proofs.Service.Creation
import CollectivePerception.Proofs.Service.Reception
import CollectivePerception.Proofs.Service.Reporting

namespace CollectivePerception

variable {Channel : Type}

/-- When a call is made. -/
def Call.now : Call Channel → Instant
  | .trigger _ _ _ _ now => now
  | .indicate _ now _ => now

namespace Service

/-! ### One call -/

section

variable {service : Service} {transport : Transport Channel} {channel : Channel}
  {conditions : ChannelConditions} {surroundings : Surroundings} {now : Instant}

theorem Course.remote_eq {current : Service} {cycle : Cycle Channel}
    (course : Course current transport channel conditions surroundings now cycle) :
    cycle.service.remote = current.remote := by
  cases course <;> rfl

/-- A cycle leaves the picture as its first step does. -/
theorem remote_trigger :
    (service.trigger transport channel conditions surroundings now).service.remote =
      (service.remote.synchronize surroundings.awareness now).1 :=
  (service.trigger_course transport channel conditions surroundings now).remote_eq

/-- What holds of the picture when it is up to date, and still holds after one more report
that arrives now, holds of the picture after a reception that succeeds. -/
theorem indicate_induction {motive : Remote.Tracking → Prop} {message : Message}
    {report : ReceptionReport}
    (ended : (service.indicate surroundings now message).outcome = .ok report)
    (start : motive (service.remote.synchronize surroundings.awareness now).1)
    (step : ∀ remote station reporter (report : Remote.Report) policy, report.received = now →
      motive remote → motive (remote.noted station reporter report policy)) :
    motive (service.indicate surroundings now message).service.remote := by
  obtain ⟨parts, _, same⟩ := indicate_of_ok ended
  rw [same]
  exact recordMessage_induction start
    (fun remote station report arrives => step remote station _ report _ arrives) _ _

theorem isCurrent_trigger (settled : service.remote.Settled now) :
    (service.trigger transport channel conditions surroundings now).service.remote.IsCurrent
      surroundings.awareness now := by
  rw [remote_trigger]
  exact settled.isCurrent_synchronize surroundings.awareness

theorem isCurrent_indicate (settled : service.remote.Settled now) {message : Message}
    {report : ReceptionReport}
    (ended : (service.indicate surroundings now message).outcome = .ok report) :
    (service.indicate surroundings now message).service.remote.IsCurrent
      surroundings.awareness now :=
  indicate_induction (motive := fun remote => remote.IsCurrent surroundings.awareness now) ended
    (settled.isCurrent_synchronize surroundings.awareness)
    fun _ station reporter _ policy arrives current =>
      current.noted station reporter arrives policy

end

/-- A call that is not made before the reports arrived leaves them in order. -/
theorem after_settled {service : Service} {before : Instant}
    (settled : service.remote.Settled before) (call : Call Channel) (order : before ≤ call.now) :
    (service.after call).remote.Settled call.now := by
  have later := settled.later order
  cases call with
  | trigger transport channel conditions surroundings now =>
    rw [after, remote_trigger]
    exact later.synchronize surroundings.awareness
  | indicate surroundings now message =>
    cases ended : (service.indicate surroundings now message).outcome with
    | error failure =>
      rw [after, (indicate_of_failed ended).1]
      exact later
    | ok report =>
      exact indicate_induction (motive := fun remote => remote.Settled now) ended
        (later.synchronize surroundings.awareness)
        fun _ station reporter _ policy arrives left => left.noted station reporter arrives policy

/-! ### Runs -/

/-- After calls that do not go back in time, the reports are in order at any later time. -/
theorem run_settled {service : Service} (start : ∀ now, service.remote.Settled now)
    {calls : List (Call Channel)}
    (ordered : calls.Pairwise fun earlier later => earlier.now ≤ later.now) {now : Instant}
    (past : ∀ call ∈ calls, call.now ≤ now) : (service.run calls).remote.Settled now := by
  induction calls using List.reverseRecOn generalizing now with
  | nil => exact start now
  | append_singleton before last inductionHypothesis =>
    obtain ⟨earlier, _, apart⟩ := List.pairwise_append.mp ordered
    rw [List.forall_mem_append, List.forall_mem_singleton] at past
    rw [run_concat]
    have settled := inductionHypothesis earlier fun call member =>
      apart call member last List.mem_cons_self
    exact (after_settled settled last (Int.le_refl _)).later past.2

/-- A call of a run meets the service that the calls before it leave. -/
theorem exists_of_mem_history {service : Service} {calls : List (Call Channel)}
    {event : Event Channel} (member : event ∈ service.history calls) :
    ∃ before later, calls = before ++ event.call :: later ∧ event.service = service.run before := by
  induction calls generalizing service with
  | nil => cases member
  | cons call rest inductionHypothesis =>
    rcases List.mem_cons.mp member with rfl | inside
    · exact ⟨[], rest, rfl, rfl⟩
    · obtain ⟨before, later, rfl, meets⟩ := inductionHypothesis inside
      exact ⟨call :: before, later, rfl, meets⟩

theorem settled_of_mem_history {service : Service} (start : ∀ now, service.remote.Settled now)
    {calls : List (Call Channel)}
    (ordered : calls.Pairwise fun earlier later => earlier.now ≤ later.now) {event : Event Channel}
    (member : event ∈ service.history calls) : event.service.remote.Settled event.call.now := by
  obtain ⟨before, later, rfl, meets⟩ := exists_of_mem_history member
  obtain ⟨earlier, _, apart⟩ := List.pairwise_append.mp ordered
  rw [meets]
  exact run_settled start earlier fun call inside => apart call inside event.call List.mem_cons_self

/-! ### The picture in use -/

/-- In a run that does not go back in time, every cycle and every reception that succeeds
leaves a current picture of the other stations, and a cycle takes out redundant objects by
that picture. -/
theorem remote_isCurrent {settings : ServiceSettings} {facilities : Facilities} {start : Instant}
    {service : Service} (created : create settings facilities start = .ok service)
    (calls : List (Call Channel))
    (ordered : calls.Pairwise fun earlier later => earlier.now ≤ later.now) :
    (∀ met transport channel conditions surroundings now,
        ⟨met, .trigger transport channel conditions surroundings now⟩ ∈ service.history calls →
          let left := (met.trigger transport channel conditions surroundings now).service.remote
          left.IsCurrent surroundings.awareness now ∧
            ((met.synchronized surroundings now).redundancyContext surroundings now).remote =
              left) ∧
      ∀ met surroundings now message report,
        ⟨met, .indicate surroundings now message⟩ ∈ service.history calls →
          (met.indicate surroundings now message).outcome = .ok report →
            (met.indicate surroundings now message).service.remote.IsCurrent
              surroundings.awareness now := by
  obtain ⟨_, _, _, unknown, _, _⟩ := state_of_create created
  have settled (now : Instant) : service.remote.Settled now := by
    rw [unknown]
    exact Remote.Tracking.settled_empty now
  refine ⟨fun met transport channel conditions surroundings now member => ⟨?_, ?_⟩,
    fun met surroundings now message report member ended => ?_⟩
  · exact isCurrent_trigger (settled_of_mem_history settled ordered member)
  · rw [remote_trigger]
    rfl
  · exact isCurrent_indicate (settled_of_mem_history settled ordered member) ended

/-- A message of another station that lists one object. -/
def heardMessage : Message :=
  { throttledService.template parkedObject with
    objects := [Encoding.perceivedObject (.initial 7 .passengerCar) none parkedObject.own] }

/-- The service after a reception. -/
def informedService : Service :=
  (throttledService.indicate emptyRoad (.ofMillis 300) heardMessage).service

/-- The service after a cycle at the end of the lifetime of what it has received. -/
def forgetfulService : Service :=
  (informedService.trigger (.limited .unavailable) none ⟨fun _ => .ofMillis 250, 0.5⟩ emptyRoad
    (.ofMillis 1400)).service

/-- The reception stores the sender and its object, and the cycle forgets both. -/
theorem forgetfulService_isCurrent :
    informedService.remote.stations = [1, 7] ∧
      informedService.remote.IsCurrent .empty (.ofMillis 300) ∧
      forgetfulService.remote.stations = [] ∧
      forgetfulService.remote.IsCurrent .empty (.ofMillis 1400) := by
  have ended : (throttledService.indicate emptyRoad (.ofMillis 300) heardMessage).outcome =
      .ok ⟨1, .ok, 1, 0, false⟩ := by
    decide +kernel
  obtain ⟨afterCycles, afterReceptions⟩ := remote_isCurrent create_throttledService
    [.indicate emptyRoad (.ofMillis 300) heardMessage, throttledCycle emptyRoad 1400] (by decide)
  refine ⟨by decide +kernel, ?_, by decide +kernel, ?_⟩
  · rw [informedService]
    exact afterReceptions throttledService emptyRoad (.ofMillis 300) heardMessage _
      List.mem_cons_self ended
  · rw [forgetfulService]
    exact (afterCycles informedService (.limited .unavailable) none ⟨fun _ => .ofMillis 250, 0.5⟩
      emptyRoad (.ofMillis 1400) (List.mem_cons_of_mem _ List.mem_cons_self)).1

end Service

end CollectivePerception
