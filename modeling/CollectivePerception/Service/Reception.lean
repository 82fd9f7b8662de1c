/-
This file defines what a station does with a received message. A message that is not
acceptable changes nothing. Otherwise the station brings its picture of the others up
to date, records the sender as reported by itself, and then each object of the message
other than itself as reported by the sender. A duplicate of the sender's own report
ends the reception; a duplicate of an object is left out alone.
-/

import CollectivePerception.Service.State

namespace CollectivePerception

open Remote (InsertResult Knowledge Report)

/-! ### Results -/

/-- What a reception recorded. -/
structure ReceptionReport where
  sender : StationId
  senderResult : InsertResult
  recorded : Nat
  dropped : Nat
  /-- Whether the message lists the receiver itself. -/
  ownSkipped : Bool
deriving DecidableEq, Repr, Inhabited

/-- A reception's outcome, the service after it, and the measurements. -/
structure Reception where
  outcome : Except ServiceError ReceptionReport
  service : Service
  statistics : List Statistic

/-! ### Reading a message -/

/-- The parts of a message that a receiver cannot do without. -/
structure SenderParts where
  position : GeoPoint
  vehicle : VehicleData

/-- The sender's position in degrees, unless a coordinate is not available. -/
def ReferencePosition.toGeo? (reference : ReferencePosition) : Option GeoPoint :=
  if reference.latitude = MessageField.latitude.unavailable ∨
      reference.longitude = MessageField.longitude.unavailable then
    none
  else
    some ⟨Float.ofInt reference.latitude / 1e7, Float.ofInt reference.longitude / 1e7⟩

/-- The sender's speed in metres per second, with the sign of its direction; zero if it
is not available. -/
def VehicleData.signedSpeed (vehicle : VehicleData) : Float :=
  if (vehicle.speed : Int) = MessageField.speed.unavailable then
    0.0
  else
    let magnitude := Float.ofNat vehicle.speed / 100.0
    match vehicle.direction with
    | .forward => magnitude
    | .backward => -magnitude

/-- The sender's heading, north if it is not available. -/
def VehicleData.headingAngle (vehicle : VehicleData) : Angle :=
  if MessageField.heading.domain.greatest < vehicle.heading then Angle.zero
  else Angle.ofDegrees (Float.ofNat vehicle.heading / 10.0)

/-- An object's speed in metres per second, zero if it is not available. -/
def PerceivedObject.metresPerSecond (record : PerceivedObject) : Float :=
  if record.xSpeed = MessageField.xSpeed.unavailable then 0.0
  else Float.ofInt record.xSpeed / 100.0

/-- An object's offset from the sender in metres. -/
def PerceivedObject.offset (record : PerceivedObject) : Point :=
  ⟨Float.ofInt record.xDistance / 100.0, Float.ofInt record.yDistance / 100.0⟩

/-- When an object was measured, given when the message was generated. -/
def PerceivedObject.measured (record : PerceivedObject) (generated : Instant) : Instant :=
  ⟨generated.micros + record.timeOfMeasurement * 1000⟩

/-- The parts of a message that a receiver needs, or why it is unusable. -/
def Message.senderParts (codec : Codec) (message : Message) :
    Except InvalidMessage SenderParts :=
  match codec.fault? message, message.management.reference.toGeo?, message.vehicle with
  | some fault, _, _ => .error (.fault fault)
  | none, none, _ => .error .noReferencePosition
  | none, some _, none => .error .noVehicleData
  | none, some position, some vehicle => .ok ⟨position, vehicle⟩

/-! ### Recording -/

/-- What is the same for all reports of one message. -/
structure ReceptionContext where
  own : OwnState
  now : Instant
  policy : Remote.DuplicatePolicy
  sender : StationId
  generated : Instant
  senderPosition : Point

/-- The measurements of a report that was stored: how it relates to the newest report
before it, and how much is stored now. -/
def updateStatistics (known : Knowledge) (previous : Option Report) (report : Report) :
    List Statistic :=
  let since := match previous with
    | none => []
    | some previous =>
      [.timeSinceLastUpdate (report.received.millisSince previous.received),
        .distanceSinceLastUpdate (report.motion.position.distance previous.motion.position)]
  since ++ [.reporterRedundancy known.reporterCount, .reportRedundancy known.storedCount]

/-- The report of an object of the message. -/
def ReceptionContext.report (context : ReceptionContext) (record : PerceivedObject) : Report where
  received := context.now
  reporterPosition := context.senderPosition
  motion :=
    { time := record.measured context.generated
      position := context.senderPosition.add record.offset
      speed := record.metresPerSecond
      heading := Angle.zero }

/-- What became of one object of a message. -/
inductive ObjectOutcome
  /-- It is the receiver itself. -/
  | own
  | dropped (object : StationId)
  | recorded (object : StationId) (statistics : List Statistic)

namespace ObjectOutcome

def isOwn : ObjectOutcome → Bool
  | own => true
  | _ => false

def isDropped : ObjectOutcome → Bool
  | dropped _ => true
  | _ => false

def isRecorded : ObjectOutcome → Bool
  | recorded _ _ => true
  | _ => false

def statistics : ObjectOutcome → List Statistic
  | own => []
  | dropped object => [.objectDuplicateDrop object]
  | recorded _ statistics => statistics

end ObjectOutcome

/-- The measurements of an object that was stored. -/
def ReceptionContext.objectStatistics (context : ReceptionContext) (object : StationId)
    (previous : Option Report) (report : Report) (known : Knowledge) (result : InsertResult) :
    List Statistic :=
  (if result = .duplicateReplace then [.objectDuplicateReplace object] else []) ++
    [.receivedObject object,
      .receivedAge (context.now.millisSince report.motion.time),
      .receivedDistance (context.own.position.distance report.motion.position)] ++
    (if result = .historyReplace then [.objectHistoryOverflow object] else []) ++
    updateStatistics known previous report

/-- Records one object of a message. -/
def ReceptionContext.receiveObject (context : ReceptionContext) (remote : Remote.Tracking)
    (record : PerceivedObject) : Remote.Tracking × ObjectOutcome :=
  if record.object = context.own.station then
    (remote, .own)
  else
    let known := remote.knowledge record.object
    let report := context.report record
    match known.add context.sender report context.policy with
    | (_, .duplicateDrop) => (remote, .dropped record.object)
    | (after, result) =>
      (remote.set record.object after,
        .recorded record.object
          (context.objectStatistics record.object known.newestReport report after result))

/-- Records the objects of a message in their order. -/
def ReceptionContext.receiveObjects (context : ReceptionContext) (remote : Remote.Tracking) :
    List PerceivedObject → Remote.Tracking × List ObjectOutcome
  | [] => (remote, [])
  | record :: later =>
    let (after, outcome) := context.receiveObject remote record
    let (final, outcomes) := context.receiveObjects after later
    (final, outcome :: outcomes)

/-- The measurements of a sender's report that was stored. -/
def ReceptionContext.senderStatistics (context : ReceptionContext) (previous : Option Report)
    (report : Report) (known : Knowledge) (result : InsertResult) : List Statistic :=
  let delay := context.now.millisSince context.generated
  let distance := context.own.position.distance context.senderPosition
  (if result = .duplicateReplace then [.senderDuplicateReplace context.sender] else []) ++
    [.receivedSender context.sender, .receiveDelay delay, .receivedAge delay,
      .distanceToSender distance, .receivedDistance distance] ++
    (if result = .historyReplace then [.senderHistoryOverflow context.sender] else []) ++
    updateStatistics known previous report

/-! ### The reception -/

namespace Service

/-- What the reports of one message have in common. -/
def receptionContext (service : Service) (surroundings : Surroundings) (now : Instant)
    (message : Message) (parts : SenderParts) : ReceptionContext where
  own := surroundings.own
  now := now
  policy := service.settings.duplicatePolicy
  sender := message.sender
  generated := service.clock.reconstruct message.generationTime now
  senderPosition := service.facilities.projection.toPlane parts.position

/-- The report of the sender about itself. -/
def senderReport (context : ReceptionContext) (vehicle : VehicleData) : Report where
  received := context.now
  reporterPosition := context.senderPosition
  motion :=
    { time := context.generated
      position := context.senderPosition
      speed := vehicle.signedSpeed
      heading := vehicle.headingAngle }

/-- Records an acceptable message on a service that is up to date. -/
def recordMessage (service : Service) (context : ReceptionContext) (vehicle : VehicleData)
    (message : Message) : Reception :=
  let known := service.remote.knowledge context.sender
  let report := senderReport context vehicle
  match known.add context.sender report context.policy with
  | (_, .duplicateDrop) =>
    { outcome := .ok ⟨context.sender, .duplicateDrop, 0, 0, false⟩
      service := service
      statistics := [.senderDuplicateDrop context.sender] }
  | (after, result) =>
    let (remote, outcomes) :=
      context.receiveObjects (service.remote.set context.sender after) message.objects
    { outcome := .ok
        { sender := context.sender
          senderResult := result
          recorded := outcomes.countP (·.isRecorded)
          dropped := outcomes.countP (·.isDropped)
          ownSkipped := outcomes.any (·.isOwn) }
      service := { service with remote := remote }
      statistics :=
        context.senderStatistics known.newestReport report after result ++
          [.receivedObjectsPerSegment message.objects.length] ++
          outcomes.flatMap (·.statistics) }

/-- Receives one message. -/
def indicate (service : Service) (surroundings : Surroundings) (now : Instant)
    (message : Message) : Reception :=
  match message.senderParts service.facilities.codec with
  | .error cause => ⟨.error (.invalidMessage cause), service, []⟩
  | .ok parts =>
    (service.remoteSynchronized surroundings now).recordMessage
      (service.receptionContext surroundings now message parts) parts.vehicle message

end Service

end CollectivePerception
