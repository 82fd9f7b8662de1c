/-
This file defines the measurements that a station records while it generates and
receives messages.
-/

import CollectivePerception.Station

namespace CollectivePerception

/-- One measurement. -/
inductive Statistic
  /-- Locally tracked objects. -/
  | seenByLocal (count : Nat)
  /-- Stations that announce themselves. -/
  | seenByAwareness (count : Nat)
  /-- Stations that others have reported. -/
  | seenByPerception (count : Nat)
  /-- Stations known in any of these ways. -/
  | seenByAll (count : Nat)
  /-- Objects selected in a cycle. -/
  | selected (count : Nat)
  /-- Objects left after the redundant ones were taken out. -/
  | mitigated (count : Nat)
  | channelBusyRatio (ratio : Float)
  /-- Messages of a cycle. -/
  | segmentCount (count : Nat)
  /-- Whether a cycle had object records. -/
  | objectsIncluded (included : Bool)
  | objectsPerSegment (count : Nat)
  /-- The number of the message that describes the sensors. -/
  | sensorSegment (number : Nat)
  /-- Bytes of one message. -/
  | messageSize (size : Nat)
  | sender (station : StationId)
  | receivedSender (station : StationId)
  /-- Milliseconds from generation to reception. -/
  | receiveDelay (millis : Int)
  /-- Milliseconds from measurement to reception. -/
  | receivedAge (millis : Int)
  | distanceToSender (metres : Float)
  /-- The distance of the receiver to a received object or sender. -/
  | receivedDistance (metres : Float)
  | receivedObjectsPerSegment (count : Nat)
  | receivedObject (station : StationId)
  /-- Milliseconds between the two newest reports about a station. -/
  | timeSinceLastUpdate (millis : Int)
  | distanceSinceLastUpdate (metres : Float)
  /-- Stations that report an object. -/
  | reporterRedundancy (count : Nat)
  /-- Stored reports about an object. -/
  | reportRedundancy (count : Nat)
  | senderHistoryOverflow (station : StationId)
  | objectHistoryOverflow (station : StationId)
  | senderDuplicateDrop (station : StationId)
  | objectDuplicateDrop (station : StationId)
  | senderDuplicateReplace (station : StationId)
  | objectDuplicateReplace (station : StationId)
deriving Inhabited

/-- The name under which a measurement is published. -/
def Statistic.signal : Statistic → String
  | seenByLocal _ => "seen_by_local"
  | seenByAwareness _ => "seen_by_awareness"
  | seenByPerception _ => "seen_by_cpm"
  | seenByAll _ => "seen_by_all"
  | selected _ => "generated_poc_count"
  | mitigated _ => "mitigated_poc_count"
  | channelBusyRatio _ => "channel_busy_ratio"
  | segmentCount _ => "segment_count"
  | objectsIncluded _ => "poc_included"
  | objectsPerSegment _ => "objects_per_segment"
  | sensorSegment _ => "sensor_information_segment"
  | messageSize _ => "message_size"
  | sender _ => "sender"
  | receivedSender _ => "received_sender"
  | receiveDelay _ => "receive_delay"
  | receivedAge _ => "received_age"
  | distanceToSender _ => "distance_to_sender"
  | receivedDistance _ => "received_distance"
  | receivedObjectsPerSegment _ => "received_objects_per_segment"
  | receivedObject _ => "received_object"
  | timeSinceLastUpdate _ => "time_since_last_update"
  | distanceSinceLastUpdate _ => "distance_since_last_update"
  | reporterRedundancy _ => "sender_redundancy"
  | reportRedundancy _ => "object_redundancy"
  | senderHistoryOverflow _ => "sender_history_overflow"
  | objectHistoryOverflow _ => "object_history_overflow"
  | senderDuplicateDrop _ => "sender_duplicate_drop"
  | objectDuplicateDrop _ => "object_duplicate_drop"
  | senderDuplicateReplace _ => "sender_duplicate_replace"
  | objectDuplicateReplace _ => "object_duplicate_replace"

/-- Counts one more measurement of its signal. -/
def Statistic.count (counts : List (String × Nat)) (statistic : Statistic) :
    List (String × Nat) :=
  if counts.any fun entry => entry.1 == statistic.signal then
    counts.map fun entry =>
      if entry.1 == statistic.signal then (entry.1, entry.2 + 1) else entry
  else
    counts ++ [(statistic.signal, 1)]

/-- How often each signal occurs among some measurements. -/
def Statistic.tally (statistics : List Statistic) : List (String × Nat) :=
  statistics.foldl count []

end CollectivePerception
