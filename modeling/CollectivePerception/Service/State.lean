/-
This file defines the service of one station: its settings and rules, what it needs
from outside, and the state that it keeps between two calls. The service reads its
surroundings anew in every call and changes nothing but its own state.
-/

import CollectivePerception.Awareness
import CollectivePerception.Configuration.Service
import CollectivePerception.Encoding
import CollectivePerception.Environment
import CollectivePerception.Segmentation
import CollectivePerception.Statistic

namespace CollectivePerception

/-! ### Failures -/

/-- Why a message was not handed on to the channel. -/
inductive TransportError
  | rejected (reason : String)
  | unavailable
deriving DecidableEq, Repr

def TransportError.message : TransportError → String
  | rejected reason => "Transport rejected message: " ++ reason
  | unavailable => "Transport unavailable"

/-- What makes a message unusable. -/
inductive InvalidMessage
  /-- The encoding does not accept it. -/
  | fault (fault : MessageFault)
  | noReferencePosition
  | noVehicleData
deriving DecidableEq, Repr

def InvalidMessage.message : InvalidMessage → String
  | fault cause => cause.message
  | noReferencePosition => "reference position unavailable"
  | noVehicleData => "missing originating vehicle container"

/-- Why a call failed. -/
inductive ServiceError
  | invalidMessage (cause : InvalidMessage)
  | oversize (cause : Oversize)
  | transport (cause : TransportError)
deriving DecidableEq, Repr

def ServiceError.message : ServiceError → String
  | invalidMessage cause => "Invalid CPM: " ++ cause.message
  | oversize cause =>
    cause.part.name ++ s!" needs {cause.size} bytes but the MTU is {cause.limit}"
  | transport cause => cause.message

/-! ### Surroundings -/

/-- What a service reads in a call. -/
structure Surroundings where
  scene : Scene
  environment : Environment
  awareness : AwarenessStore
  own : OwnState

/-- The state of the channel at a call. -/
structure ChannelConditions where
  /-- The interval that congestion control demands. -/
  interval : TransmissionProfile → Duration
  /-- The share of time during which the channel is busy. -/
  busyRatio : Float

/-- A way to hand messages to the lower layers, which have a state of their own. -/
structure Transport (State : Type) where
  send : State → Message → Except TransportError Unit × State

/-- A way that accepts as many messages as its state says, or all of them, and refuses
the others for one reason. -/
def Transport.limited (failure : TransportError) : Transport (Option Nat) where
  send
    | none, _ => (.ok (), none)
    | some 0, _ => (.error failure, some 0)
    | some (left + 1), _ => (.ok (), some left)

/-- What a service needs besides its settings. -/
structure Facilities where
  codec : Codec
  projection : Projection
  /-- Whether congestion control answers for the interval. -/
  hasThrottle : Bool
  /-- Whether the channel's load is measured. -/
  hasProbe : Bool

namespace Facilities

/-- The facilities that a service gets unless told otherwise. -/
def standard : Facilities where
  codec := .fixedLayout
  projection := .flat GeoPoint.origin
  hasThrottle := false
  hasProbe := false

end Facilities

/-! ### The service -/

/-- The service of one station. -/
structure Service where
  settings : ServiceSettings
  facilities : Facilities
  rule : SelectionRule
  chain : RedundancyChain
  clock : MessageClock
  tracking : LocalTracking
  remote : Remote.Tracking
  /-- When a message was last sent, or else when the service was created. -/
  lastSent : Instant
  /-- When the sensors were last described. -/
  lastDescribed : Instant

namespace Service

/-- Accepts if a facility is there or not required. -/
def requireFacility (required present : Bool) (facility : Facility) :
    Except ConfigurationError Unit :=
  if required && !present then .error (.missing facility) else .ok ()

/-- Creates a service. Its first message is due one least interval after `now`, and the
first message always describes the sensors. -/
def create (settings : ServiceSettings) (facilities : Facilities) (now : Instant) :
    Except ConfigurationError Service := do
  settings.validate
  requireFacility settings.restricted facilities.hasThrottle .throttle
  requireFacility settings.loadDependent facilities.hasProbe .channelProbe
  let rule ← settings.selection.build
  let chain ← RedundancySettings.buildChain settings.redundancy
  return {
    settings := settings
    facilities := facilities
    rule := rule
    chain := chain
    clock := ⟨settings.epochOffset⟩
    tracking := .empty
    remote := .empty
    lastSent := now
    lastDescribed := now.before settings.sensorInterval }

/-- The least time between two cycles that send, under the present conditions. -/
def interval (service : Service) (conditions : ChannelConditions) : Duration :=
  if service.settings.restricted && service.facilities.hasThrottle then
    (conditions.interval service.settings.profile).clamp
      service.settings.minimumInterval service.settings.maximumInterval
  else
    service.settings.minimumInterval

/-- The load of the channel, if it is measured. -/
def measuredLoad (service : Service) (conditions : ChannelConditions) : Option Float :=
  if service.facilities.hasProbe then some conditions.busyRatio else none

/-- The service after its picture of the other stations was brought up to date. -/
def remoteSynchronized (service : Service) (surroundings : Surroundings) (now : Instant) :
    Service :=
  { service with remote := (service.remote.synchronize surroundings.awareness now).1 }

/-- The service after its tracked objects were brought up to date. -/
def localSynchronized (service : Service) (surroundings : Surroundings) : Service :=
  let sensed := surroundings.environment.handlesSeenBy service.settings.trackedCategory
  { service with tracking := (service.tracking.synchronize sensed surroundings.scene).1 }

end Service

end CollectivePerception
