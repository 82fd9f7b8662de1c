/-
This file defines the cycle in which a station generates messages. The cycle brings
the tracked objects and the other stations up to date, and goes on only if the interval
since the last message has passed. It selects objects, takes out the redundant ones,
assembles the messages, and hands them to the channel if there is anything to say. What
was sent is noted only after all messages were handed over: a cycle that fails leaves
the service as the first step left it.
-/

import CollectivePerception.Service.State

namespace CollectivePerception

/-! ### Results -/

/-- What a cycle did. -/
structure CycleReport where
  /-- Whether the interval had passed. -/
  triggered : Bool
  selected : Nat
  mitigated : Nat
  segments : Nat
  objects : Nat
  /-- Whether the sensors were described. -/
  sensors : Bool
deriving DecidableEq, Repr, Inhabited

def CycleReport.idle : CycleReport := ⟨false, 0, 0, 0, 0, false⟩

/-- A cycle's outcome, the service and the channel after it, the messages that the
channel accepted, and the measurements. -/
structure Cycle (Channel : Type) where
  outcome : Except ServiceError CycleReport
  service : Service
  channel : Channel
  sent : List Message
  statistics : List Statistic

/-! ### Handing over -/

/-- What came of handing over messages. -/
structure HandOver (Channel : Type) where
  failure : Option TransportError
  channel : Channel
  /-- In the order of transmission. -/
  accepted : List Message

/-- Hands over messages one by one and stops at the first that is not accepted. -/
def Transport.handOver {Channel : Type} (transport : Transport Channel) (channel : Channel) :
    List Message → HandOver Channel
  | [] => ⟨none, channel, []⟩
  | message :: later =>
    match transport.send channel message with
    | (.error failure, after) => ⟨some failure, after, []⟩
    | (.ok _, after) =>
      let rest := transport.handOver after later
      { rest with accepted := message :: rest.accepted }

namespace Service

variable {Channel : Type}

/-! ### Selecting -/

/-- The first step of a cycle. -/
def synchronized (service : Service) (surroundings : Surroundings) (now : Instant) : Service :=
  (service.localSynchronized surroundings).remoteSynchronized surroundings now

/-- How many stations are known, and in which ways. -/
def presence (service : Service) (surroundings : Surroundings) : List Statistic :=
  let sensed := service.tracking.handles.filterMap fun handle =>
    (surroundings.scene handle).map (·.station)
  [.seenByLocal service.tracking.size,
    .seenByAwareness service.remote.seenByAwareness,
    .seenByPerception service.remote.seenByPerception,
    .seenByAll (sensed ++ service.remote.stations).eraseDups.length]

/-- Whether redundant objects are taken out under the present conditions. -/
def mitigates (service : Service) (conditions : ChannelConditions) : Bool :=
  !service.settings.loadDependent ||
    (service.measuredLoad conditions).any fun load => service.settings.redundancyLoad < load

/-- What the redundancy rules may look at. -/
def redundancyContext (service : Service) (surroundings : Surroundings) (now : Instant) :
    RedundancyContext :=
  ⟨service.remote, surroundings.scene, surroundings.own, now⟩

/-- The selected objects without the redundant ones. -/
def mitigated (service : Service) (conditions : ChannelConditions) (surroundings : Surroundings)
    (now : Instant) (candidates : List Handle) : List Handle :=
  if service.mitigates conditions then
    service.chain.filter (service.redundancyContext surroundings now) candidates
  else
    candidates

/-- Whether it is time to describe the sensors. -/
def describesSensors (service : Service) (now : Instant) : Bool :=
  service.settings.sensorInterval ≤ now.elapsedSince service.lastDescribed

/-! ### Assembling -/

/-- The record of a candidate whose object is alive. -/
def record? (service : Service) (surroundings : Surroundings) (handle : Handle) :
    Option (Handle × PerceivedObject) :=
  (surroundings.scene handle).map fun object =>
    let seen := (surroundings.environment.get? handle).bind
      (·.trackingTime service.settings.trackedCategory)
    (handle, Encoding.perceivedObject object seen surroundings.own)

/-- The records of a cycle, of which there are not more than the format allows. -/
def records (service : Service) (surroundings : Surroundings) (candidates : List Handle) :
    List (Handle × PerceivedObject) :=
  (candidates.take Message.cycleLimit).filterMap (service.record? surroundings)

/-- The message that the segments of a cycle are copies of. -/
def template (service : Service) (surroundings : Surroundings) : Message where
  header := .perception surroundings.own.station
  generationTime := service.clock.generationTime surroundings.own.updated
  management := Encoding.management surroundings.own none
  vehicle := some (Encoding.vehicleData surroundings.own)
  sensors := none
  objects := []
  objectCount := min service.tracking.size Message.cycleLimit

/-- The messages of a cycle, unless they are too large or one of them is not
acceptable. -/
def assemble (service : Service) (surroundings : Surroundings)
    (records : List (Handle × PerceivedObject)) (describe : Bool) :
    Except ServiceError (Segmentation Handle) :=
  let sensors := if describe then some Encoding.sensorInformation else none
  match Segmentation.segment service.facilities.codec service.settings.sizeLimit
      (service.template surroundings) records sensors with
  | .error cause => .error (.oversize cause)
  | .ok segmentation =>
    match segmentation.messages.findSome? service.facilities.codec.fault? with
    | some fault => .error (.invalidMessage (.fault fault))
    | none => .ok segmentation

/-! ### Noting what was sent -/

/-- The measurements of a cycle that sent. -/
def transmission (service : Service) (conditions : ChannelConditions)
    (surroundings : Surroundings) (records : List (Handle × PerceivedObject))
    (segmentation : Segmentation Handle) : List Statistic :=
  (service.measuredLoad conditions).toList.map .channelBusyRatio ++
    [.segmentCount segmentation.messages.length, .objectsIncluded !records.isEmpty] ++
    segmentation.messages.flatMap (fun message =>
      [.messageSize (service.facilities.codec.encodedSize message),
        .objectsPerSegment message.objects.length,
        .sender surroundings.own.station]) ++
    segmentation.sensorSegment.toList.map .sensorSegment

/-- The tracked objects after the state of one of them was noted as reported. -/
def noteReported (surroundings : Surroundings) (now : Instant) (tracking : LocalTracking)
    (handle : Handle) : LocalTracking :=
  match surroundings.scene handle with
  | some object => tracking.report handle (object.motion now)
  | none => tracking

/-- The service after a cycle that sent. -/
def committed (service : Service) (surroundings : Surroundings) (now : Instant)
    (segmentation : Segmentation Handle) : Service :=
  { service with
    tracking := segmentation.included.foldl (noteReported surroundings now) service.tracking
    lastSent := now
    lastDescribed := if segmentation.sensorSegment.isSome then now else service.lastDescribed }

/-! ### The cycle -/

/-- Assembles and sends the messages of a cycle that has something to say. -/
def send (service : Service) (transport : Transport Channel) (channel : Channel)
    (conditions : ChannelConditions) (surroundings : Surroundings) (now : Instant)
    (candidates : List Handle) (report : CycleReport) (statistics : List Statistic) :
    Cycle Channel :=
  let records := service.records surroundings candidates
  match service.assemble surroundings records (service.describesSensors now) with
  | .error failure => ⟨.error failure, service, channel, [], statistics⟩
  | .ok segmentation =>
    let handed := transport.handOver channel segmentation.messages
    match handed.failure with
    | some failure =>
      ⟨.error (.transport failure), service, handed.channel, handed.accepted, statistics⟩
    | none =>
      { outcome := .ok
          { report with
            segments := segmentation.messages.length
            objects := segmentation.included.length
            sensors := segmentation.sensorSegment.isSome }
        service := service.committed surroundings now segmentation
        channel := handed.channel
        sent := handed.accepted
        statistics :=
          statistics ++ service.transmission conditions surroundings records segmentation }

/-- The part of a cycle that runs when the interval has passed, on a service that is up
to date. -/
def generate (service : Service) (transport : Transport Channel) (channel : Channel)
    (conditions : ChannelConditions) (surroundings : Surroundings) (now : Instant)
    (presence : List Statistic) : Cycle Channel :=
  let selection := service.rule.select service.tracking surroundings.scene now
    (service.interval conditions)
  let candidates := service.mitigated conditions surroundings now selection.candidates
  let report := { CycleReport.idle with
    triggered := true
    selected := selection.candidates.length
    mitigated := candidates.length }
  let statistics :=
    presence ++ [.selected selection.candidates.length, .mitigated candidates.length]
  if candidates.isEmpty && !selection.force && !service.describesSensors now then
    ⟨.ok report, service, channel, [], statistics⟩
  else
    service.send transport channel conditions surroundings now candidates report statistics

/-- Runs one cycle. -/
def trigger (service : Service) (transport : Transport Channel) (channel : Channel)
    (conditions : ChannelConditions) (surroundings : Surroundings) (now : Instant) :
    Cycle Channel :=
  let current := service.synchronized surroundings now
  let presence := current.presence surroundings
  if now.elapsedSince current.lastSent < current.interval conditions then
    ⟨.ok .idle, current, channel, [], presence⟩
  else
    current.generate transport channel conditions surroundings now presence

end Service

end CollectivePerception
