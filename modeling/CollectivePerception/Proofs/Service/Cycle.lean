/-
This file says everything that one cycle of a service can do. `Transport.Accepts` is a
row of messages that the channel accepts one after the other; handing over messages is
either such a row or one that breaks off at a message that is refused. `Course` lists the
ways in which a cycle can go once the service is up to date, each with the condition under
which it is taken and all that it leaves, and every cycle is one of them
(`trigger_course`).
-/

import CollectivePerception.Service.Generation

namespace CollectivePerception

/-! ### Handing over -/

/-- The channel accepts the messages one after the other and comes from one state into
another by them. -/
inductive Transport.Accepts {Channel : Type} (transport : Transport Channel) :
    Channel → List Message → Channel → Prop
  | nil {channel : Channel} : Accepts transport channel [] channel
  | cons {channel next after : Channel} {message : Message} {later : List Message}
      (accepted : transport.send channel message = (.ok (), next))
      (rest : Accepts transport next later after) :
      Accepts transport channel (message :: later) after

/-- Handing over ends with all messages accepted, or with the first refusal. -/
theorem Transport.handOver_cases {Channel : Type} (transport : Transport Channel)
    (channel : Channel) (messages : List Message) :
    (∃ after, transport.Accepts channel messages after ∧
        transport.handOver channel messages = ⟨none, after, messages⟩) ∨
      ∃ accepted refused later before after failure,
        messages = accepted ++ refused :: later ∧
          transport.Accepts channel accepted before ∧
          transport.send before refused = (.error failure, after) ∧
          transport.handOver channel messages = ⟨some failure, after, accepted⟩ := by
  induction messages generalizing channel with
  | nil => exact .inl ⟨channel, .nil, rfl⟩
  | cons message later inductionHypothesis =>
    rw [handOver]
    rcases reply : transport.send channel message with ⟨failure | _, next⟩
    · exact .inr ⟨[], message, later, channel, next, failure, rfl, .nil, reply, rfl⟩
    · rcases inductionHypothesis next with ⟨after, accepts, result⟩ |
        ⟨accepted, refused, rest, before, after, failure, apart, accepts, refusal, result⟩
      · refine .inl ⟨after, .cons reply accepts, ?_⟩
        simp only [result]
      · refine .inr ⟨message :: accepted, refused, rest, before, after, failure,
          by rw [apart, List.cons_append], .cons reply accepts, refusal, ?_⟩
        simp only [result]

namespace Service

/-! ### Assembling -/

/-- The segmentation of the records of a cycle, before its messages are checked. -/
def packed (service : Service) (surroundings : Surroundings)
    (records : List (Handle × PerceivedObject)) (describe : Bool) :
    Except Oversize (Segmentation Handle) :=
  Segmentation.segment service.facilities.codec service.settings.sizeLimit
    (service.template surroundings) records
    (if describe then some Encoding.sensorInformation else none)

theorem assemble_eq (service : Service) (surroundings : Surroundings)
    (records : List (Handle × PerceivedObject)) (describe : Bool) :
    service.assemble surroundings records describe =
      match service.packed surroundings records describe with
      | .error cause => .error (.oversize cause)
      | .ok segmentation =>
        match segmentation.messages.findSome? service.facilities.codec.fault? with
        | some fault => .error (.invalidMessage (.fault fault))
        | none => .ok segmentation := rfl

/-- Assembling fails on what does not fit into a message, or on the first message that
has a fault, and else returns the segmentation. -/
theorem assemble_cases (service : Service) (surroundings : Surroundings)
    (records : List (Handle × PerceivedObject)) (describe : Bool) :
    (∃ cause, service.packed surroundings records describe = .error cause ∧
        service.assemble surroundings records describe = .error (.oversize cause)) ∨
      (∃ segmentation fault, service.packed surroundings records describe = .ok segmentation ∧
        segmentation.messages.findSome? service.facilities.codec.fault? = some fault ∧
        service.assemble surroundings records describe =
          .error (.invalidMessage (.fault fault))) ∨
      ∃ segmentation, service.packed surroundings records describe = .ok segmentation ∧
        segmentation.messages.findSome? service.facilities.codec.fault? = none ∧
        service.assemble surroundings records describe = .ok segmentation := by
  rw [assemble_eq]
  cases service.packed surroundings records describe with
  | error cause => exact .inl ⟨cause, rfl, rfl⟩
  | ok segmentation =>
    cases checked : segmentation.messages.findSome? service.facilities.codec.fault? with
    | some fault =>
      refine .inr (.inl ⟨segmentation, fault, rfl, checked, ?_⟩)
      simp only [checked]
    | none =>
      refine .inr (.inr ⟨segmentation, rfl, checked, ?_⟩)
      simp only [checked]

/-! ### What a cycle works on -/

/-- What the rule of a service selects in a cycle. -/
def selection (service : Service) (conditions : ChannelConditions)
    (surroundings : Surroundings) (now : Instant) : Selection :=
  service.rule.select service.tracking surroundings.scene now (service.interval conditions)

/-- The selected objects of a cycle that are not redundant. -/
def candidates (service : Service) (conditions : ChannelConditions)
    (surroundings : Surroundings) (now : Instant) : List Handle :=
  service.mitigated conditions surroundings now
    (service.selection conditions surroundings now).candidates

/-- Whether a cycle has nothing to say: no objects, no rule that asks for a message
anyway, and no description of the sensors that is due. -/
def isSilent (service : Service) (conditions : ChannelConditions)
    (surroundings : Surroundings) (now : Instant) : Bool :=
  (service.candidates conditions surroundings now).isEmpty &&
    !(service.selection conditions surroundings now).force && !service.describesSensors now

/-- The records of a cycle. -/
def cycleRecords (service : Service) (conditions : ChannelConditions)
    (surroundings : Surroundings) (now : Instant) : List (Handle × PerceivedObject) :=
  service.records surroundings (service.candidates conditions surroundings now)

/-- The messages of a cycle, unless they are too large or not acceptable. -/
def assembled (service : Service) (conditions : ChannelConditions)
    (surroundings : Surroundings) (now : Instant) :
    Except ServiceError (Segmentation Handle) :=
  service.assemble surroundings (service.cycleRecords conditions surroundings now)
    (service.describesSensors now)

/-- The messages of a cycle are those of the segmentation of its records, and none of them
has a fault. -/
theorem packed_of_assembled {service : Service} {conditions : ChannelConditions}
    {surroundings : Surroundings} {now : Instant} {segmentation : Segmentation Handle}
    (success : service.assembled conditions surroundings now = .ok segmentation) :
    service.packed surroundings (service.cycleRecords conditions surroundings now)
        (service.describesSensors now) = .ok segmentation ∧
      segmentation.messages.findSome? service.facilities.codec.fault? = none := by
  rw [assembled] at success
  rcases service.assemble_cases surroundings (service.cycleRecords conditions surroundings now)
    (service.describesSensors now) with
    ⟨_, _, result⟩ | ⟨_, _, _, _, result⟩ | ⟨_, packed, faultless, result⟩
  · rw [result] at success
    cases success
  · rw [result] at success
    cases success
  · rw [result] at success
    cases success
    exact ⟨packed, faultless⟩

/-- If the segmentation of the records of a cycle has no fault, its messages are those of the
cycle. -/
theorem assembled_of_packed {service : Service} {conditions : ChannelConditions}
    {surroundings : Surroundings} {now : Instant} {records : List (Handle × PerceivedObject)}
    {segmentation : Segmentation Handle} {describes : Bool}
    (recorded : service.cycleRecords conditions surroundings now = records)
    (described : service.describesSensors now = describes)
    (packed : service.packed surroundings records describes = .ok segmentation)
    (faultless : segmentation.messages.findSome? service.facilities.codec.fault? = none) :
    service.assembled conditions surroundings now = .ok segmentation := by
  rw [assembled, recorded, described, assemble_eq, packed]
  simp only [faultless]

/-- The report of a cycle that has selected but not sent. -/
def selectionReport (service : Service) (conditions : ChannelConditions)
    (surroundings : Surroundings) (now : Instant) : CycleReport :=
  { CycleReport.idle with
    triggered := true
    selected := (service.selection conditions surroundings now).candidates.length
    mitigated := (service.candidates conditions surroundings now).length }

/-- The measurements of a cycle up to the selection. -/
def selectionStatistics (service : Service) (conditions : ChannelConditions)
    (surroundings : Surroundings) (now : Instant) : List Statistic :=
  service.presence surroundings ++
    [.selected (service.selection conditions surroundings now).candidates.length,
      .mitigated (service.candidates conditions surroundings now).length]

/-! ### The course of a cycle -/

/-- The ways in which a cycle can go on a service that is up to date. -/
inductive Course {Channel : Type} (current : Service) (transport : Transport Channel)
    (channel : Channel) (conditions : ChannelConditions) (surroundings : Surroundings)
    (now : Instant) : Cycle Channel → Prop
  /-- The interval has not passed. -/
  | early (soon : now.elapsedSince current.lastSent < current.interval conditions) :
      Course current transport channel conditions surroundings now
        ⟨.ok .idle, current, channel, [], current.presence surroundings⟩
  /-- There is nothing to say. -/
  | silent (due : ¬now.elapsedSince current.lastSent < current.interval conditions)
      (nothing : current.isSilent conditions surroundings now = true) :
      Course current transport channel conditions surroundings now
        ⟨.ok (current.selectionReport conditions surroundings now), current, channel, [],
          current.selectionStatistics conditions surroundings now⟩
  /-- The messages are too large, or one of them is not acceptable. -/
  | unassembled {failure : ServiceError}
      (due : ¬now.elapsedSince current.lastSent < current.interval conditions)
      (something : current.isSilent conditions surroundings now = false)
      (failed : current.assembled conditions surroundings now = .error failure) :
      Course current transport channel conditions surroundings now
        ⟨.error failure, current, channel, [],
          current.selectionStatistics conditions surroundings now⟩
  /-- The channel refuses one of the messages. -/
  | refused {segmentation : Segmentation Handle} {accepted later : List Message}
      {refused : Message} {before after : Channel} {failure : TransportError}
      (due : ¬now.elapsedSince current.lastSent < current.interval conditions)
      (something : current.isSilent conditions surroundings now = false)
      (succeeded : current.assembled conditions surroundings now = .ok segmentation)
      (apart : segmentation.messages = accepted ++ refused :: later)
      (accepts : transport.Accepts channel accepted before)
      (refusal : transport.send before refused = (.error failure, after)) :
      Course current transport channel conditions surroundings now
        ⟨.error (.transport failure), current, after, accepted,
          current.selectionStatistics conditions surroundings now⟩
  /-- All messages are sent. -/
  | sent {segmentation : Segmentation Handle} {after : Channel}
      (due : ¬now.elapsedSince current.lastSent < current.interval conditions)
      (something : current.isSilent conditions surroundings now = false)
      (succeeded : current.assembled conditions surroundings now = .ok segmentation)
      (accepts : transport.Accepts channel segmentation.messages after) :
      Course current transport channel conditions surroundings now
        { outcome := .ok
            { current.selectionReport conditions surroundings now with
              segments := segmentation.messages.length
              objects := segmentation.included.length
              sensors := segmentation.sensorSegment.isSome }
          service := current.committed surroundings now segmentation
          channel := after
          sent := segmentation.messages
          statistics := current.selectionStatistics conditions surroundings now ++
            current.transmission conditions surroundings
              (current.cycleRecords conditions surroundings now) segmentation }

section

variable {Channel : Type} {current : Service} {transport : Transport Channel}
  {channel : Channel} {conditions : ChannelConditions} {surroundings : Surroundings}
  {now : Instant}

theorem send_eq :
    current.send transport channel conditions surroundings now
        (current.candidates conditions surroundings now)
        (current.selectionReport conditions surroundings now)
        (current.selectionStatistics conditions surroundings now) =
      match current.assembled conditions surroundings now with
      | .error failure =>
        ⟨.error failure, current, channel, [],
          current.selectionStatistics conditions surroundings now⟩
      | .ok segmentation =>
        match transport.handOver channel segmentation.messages with
        | ⟨some failure, after, accepted⟩ =>
          ⟨.error (.transport failure), current, after, accepted,
            current.selectionStatistics conditions surroundings now⟩
        | ⟨none, after, accepted⟩ =>
          { outcome := .ok
              { current.selectionReport conditions surroundings now with
                segments := segmentation.messages.length
                objects := segmentation.included.length
                sensors := segmentation.sensorSegment.isSome }
            service := current.committed surroundings now segmentation
            channel := after
            sent := accepted
            statistics := current.selectionStatistics conditions surroundings now ++
              current.transmission conditions surroundings
                (current.cycleRecords conditions surroundings now) segmentation } := by
  unfold send
  show (match current.assembled conditions surroundings now with
    | .error failure => _
    | .ok segmentation => _) = _
  cases current.assembled conditions surroundings now with
  | error failure => rfl
  | ok segmentation =>
    rcases handed : transport.handOver channel segmentation.messages with ⟨_ | _, _, _⟩
    all_goals simp only [handed, cycleRecords]

theorem generate_eq :
    current.generate transport channel conditions surroundings now
        (current.presence surroundings) =
      if current.isSilent conditions surroundings now = true then
        ⟨.ok (current.selectionReport conditions surroundings now), current, channel, [],
          current.selectionStatistics conditions surroundings now⟩
      else
        current.send transport channel conditions surroundings now
          (current.candidates conditions surroundings now)
          (current.selectionReport conditions surroundings now)
          (current.selectionStatistics conditions surroundings now) := rfl

theorem send_course (due : ¬now.elapsedSince current.lastSent < current.interval conditions)
    (something : current.isSilent conditions surroundings now = false) :
    Course current transport channel conditions surroundings now
      (current.send transport channel conditions surroundings now
        (current.candidates conditions surroundings now)
        (current.selectionReport conditions surroundings now)
        (current.selectionStatistics conditions surroundings now)) := by
  rw [send_eq]
  cases succeeded : current.assembled conditions surroundings now with
  | error failure => exact .unassembled due something succeeded
  | ok segmentation =>
    rcases transport.handOver_cases channel segmentation.messages with
      ⟨after, accepts, result⟩ |
      ⟨accepted, refused, later, before, after, failure, apart, accepts, refusal, result⟩
    · simp only [result]
      exact .sent due something succeeded accepts
    · simp only [result]
      exact .refused due something succeeded apart accepts refusal

theorem generate_course (due : ¬now.elapsedSince current.lastSent < current.interval conditions) :
    Course current transport channel conditions surroundings now
      (current.generate transport channel conditions surroundings now
        (current.presence surroundings)) := by
  rw [generate_eq]
  cases silence : current.isSilent conditions surroundings now with
  | true =>
    rw [if_pos rfl]
    exact .silent due silence
  | false =>
    rw [if_neg Bool.false_ne_true]
    exact send_course due silence

end

/-- What a cycle comes to whose messages could be assembled. -/
theorem trigger_of_assembled {Channel : Type} {service : Service} {conditions : ChannelConditions}
    {surroundings : Surroundings} {now : Instant} {segmentation : Segmentation Handle}
    (due : ¬now.elapsedSince (service.synchronized surroundings now).lastSent <
      (service.synchronized surroundings now).interval conditions)
    (something : (service.synchronized surroundings now).isSilent conditions surroundings now =
      false)
    (succeeded : (service.synchronized surroundings now).assembled conditions surroundings now =
      .ok segmentation) (transport : Transport Channel) (channel : Channel) :
    service.trigger transport channel conditions surroundings now =
      match transport.handOver channel segmentation.messages with
      | ⟨some failure, after, accepted⟩ =>
        ⟨.error (.transport failure), service.synchronized surroundings now, after, accepted,
          (service.synchronized surroundings now).selectionStatistics conditions surroundings
            now⟩
      | ⟨none, after, accepted⟩ =>
        { outcome := .ok
            { (service.synchronized surroundings now).selectionReport conditions surroundings
                now with
              segments := segmentation.messages.length
              objects := segmentation.included.length
              sensors := segmentation.sensorSegment.isSome }
          service := (service.synchronized surroundings now).committed surroundings now
            segmentation
          channel := after
          sent := accepted
          statistics :=
            (service.synchronized surroundings now).selectionStatistics conditions surroundings
                now ++
              (service.synchronized surroundings now).transmission conditions surroundings
                ((service.synchronized surroundings now).cycleRecords conditions surroundings now)
                segmentation } := by
  unfold trigger
  rw [if_neg due, generate_eq, something, if_neg Bool.false_ne_true, send_eq, succeeded]

/-- Every cycle takes one of the courses, on the service as the first step leaves it. -/
theorem trigger_course {Channel : Type} (service : Service) (transport : Transport Channel)
    (channel : Channel) (conditions : ChannelConditions) (surroundings : Surroundings)
    (now : Instant) :
    Course (service.synchronized surroundings now) transport channel conditions surroundings now
      (service.trigger transport channel conditions surroundings now) := by
  unfold trigger
  generalize service.synchronized surroundings now = current
  by_cases soon : now.elapsedSince current.lastSent < current.interval conditions
  · rw [if_pos soon]
    exact .early soon
  · rw [if_neg soon]
    exact generate_course soon

/-! ### How a cycle ends -/

section

variable {Channel : Type} {current : Service} {transport : Transport Channel}
  {channel : Channel} {conditions : ChannelConditions} {surroundings : Surroundings}
  {now : Instant} {cycle : Cycle Channel}

/-- A cycle that fails on a service that is up to date leaves the service as it is. -/
theorem Course.service_eq_of_error
    (course : Course current transport channel conditions surroundings now cycle)
    {failure : ServiceError} (failed : cycle.outcome = .error failure) :
    cycle.service = current := by
  cases course with
  | early _ => rfl
  | silent _ _ => rfl
  | unassembled _ _ _ => rfl
  | refused _ _ _ _ _ _ => rfl
  | sent _ _ _ _ => cases failed

/-- A cycle that ends well has sent nothing and left the service as it was, or it has sent
all messages of a segmentation and noted them. -/
theorem Course.ok_cases {report : CycleReport}
    (course : Course current transport channel conditions surroundings now cycle)
    (ended : cycle.outcome = .ok report) :
    (now.elapsedSince current.lastSent < current.interval conditions ∨
        current.isSilent conditions surroundings now = true) ∧
        report.segments = 0 ∧ cycle.sent = [] ∧ cycle.service = current ∨
      ¬now.elapsedSince current.lastSent < current.interval conditions ∧
        current.isSilent conditions surroundings now = false ∧
        ∃ segmentation, current.assembled conditions surroundings now = .ok segmentation ∧
          report =
            { current.selectionReport conditions surroundings now with
              segments := segmentation.messages.length
              objects := segmentation.included.length
              sensors := segmentation.sensorSegment.isSome } ∧
          cycle.sent = segmentation.messages ∧
          cycle.service = current.committed surroundings now segmentation := by
  cases course with
  | early soon =>
    cases ended
    exact .inl ⟨.inl soon, rfl, rfl, rfl⟩
  | silent _ nothing =>
    cases ended
    exact .inl ⟨.inr nothing, rfl, rfl, rfl⟩
  | unassembled _ _ _ => cases ended
  | refused _ _ _ _ _ _ => cases ended
  | sent due something succeeded _ =>
    cases ended
    exact .inr ⟨due, something, _, succeeded, rfl, rfl, rfl⟩

end

end Service

end CollectivePerception
