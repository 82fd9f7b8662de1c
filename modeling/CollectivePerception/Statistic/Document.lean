/-
This file writes measurements as documents and reads them from documents. A measurement
is a table of its signal and its value; the signal says of which kind the value is.
-/

import CollectivePerception.Document
import CollectivePerception.Statistic

namespace CollectivePerception.Statistic

open Document (Reader natural)

/-! ### Writing -/

/-- The value of a measurement. -/
def value : Statistic → Document
  | seenByLocal count => natural count
  | seenByAwareness count => natural count
  | seenByPerception count => natural count
  | seenByAll count => natural count
  | selected count => natural count
  | mitigated count => natural count
  | channelBusyRatio ratio => .float ratio
  | segmentCount count => natural count
  | objectsIncluded included => .boolean included
  | objectsPerSegment count => natural count
  | sensorSegment number => natural number
  | messageSize size => natural size
  | sender station => natural station
  | receivedSender station => natural station
  | receiveDelay millis => .integer millis
  | receivedAge millis => .integer millis
  | distanceToSender metres => .float metres
  | receivedDistance metres => .float metres
  | receivedObjectsPerSegment count => natural count
  | receivedObject station => natural station
  | timeSinceLastUpdate millis => .integer millis
  | distanceSinceLastUpdate metres => .float metres
  | reporterRedundancy count => natural count
  | reportRedundancy count => natural count
  | senderHistoryOverflow station => natural station
  | objectHistoryOverflow station => natural station
  | senderDuplicateDrop station => natural station
  | objectDuplicateDrop station => natural station
  | senderDuplicateReplace station => natural station
  | objectDuplicateReplace station => natural station

def toDocument (statistic : Statistic) : Document :=
  .table [("signal", .text statistic.signal), ("value", statistic.value)]

/-! ### Reading -/

/-- A reader of a count as the value of a measurement. -/
def ofCount (make : Nat → Statistic) : Reader Statistic := fun document =>
  (Reader.natural 64 document).map make

/-- A reader of a station's number as the value of a measurement. -/
def ofStation (make : StationId → Statistic) : Reader Statistic := fun document =>
  (Reader.natural 32 document).map make

/-- A reader of milliseconds as the value of a measurement. -/
def ofMillis (make : Int → Statistic) : Reader Statistic := fun document =>
  (Reader.signed 64 document).map make

/-- A reader of a number as the value of a measurement. -/
def ofNumber (make : Float → Statistic) : Reader Statistic := fun document =>
  (Reader.float document).map make

/-- The reader of the value of a signal. -/
def valueReader? : String → Option (Reader Statistic)
  | "seen_by_local" => some (ofCount seenByLocal)
  | "seen_by_awareness" => some (ofCount seenByAwareness)
  | "seen_by_cpm" => some (ofCount seenByPerception)
  | "seen_by_all" => some (ofCount seenByAll)
  | "generated_poc_count" => some (ofCount selected)
  | "mitigated_poc_count" => some (ofCount mitigated)
  | "channel_busy_ratio" => some (ofNumber channelBusyRatio)
  | "segment_count" => some (ofCount segmentCount)
  | "poc_included" => some fun document => (Reader.boolean document).map objectsIncluded
  | "objects_per_segment" => some (ofCount objectsPerSegment)
  | "sensor_information_segment" =>
    some fun document => (Reader.natural 8 document).map sensorSegment
  | "message_size" => some (ofCount messageSize)
  | "sender" => some (ofStation sender)
  | "received_sender" => some (ofStation receivedSender)
  | "receive_delay" => some (ofMillis receiveDelay)
  | "received_age" => some (ofMillis receivedAge)
  | "distance_to_sender" => some (ofNumber distanceToSender)
  | "received_distance" => some (ofNumber receivedDistance)
  | "received_objects_per_segment" => some (ofCount receivedObjectsPerSegment)
  | "received_object" => some (ofStation receivedObject)
  | "time_since_last_update" => some (ofMillis timeSinceLastUpdate)
  | "distance_since_last_update" => some (ofNumber distanceSinceLastUpdate)
  | "sender_redundancy" => some (ofCount reporterRedundancy)
  | "object_redundancy" => some (ofCount reportRedundancy)
  | "sender_history_overflow" => some (ofStation senderHistoryOverflow)
  | "object_history_overflow" => some (ofStation objectHistoryOverflow)
  | "sender_duplicate_drop" => some (ofStation senderDuplicateDrop)
  | "object_duplicate_drop" => some (ofStation objectDuplicateDrop)
  | "sender_duplicate_replace" => some (ofStation senderDuplicateReplace)
  | "object_duplicate_replace" => some (ofStation objectDuplicateReplace)
  | _ => none

def ofDocument : Reader Statistic := fun document => do
  let fields ← Reader.fields document
  let reader ← fields.required 0 "signal" (.chosen valueReader?)
  let statistic ← fields.required 1 "value" reader
  fields.refuseMore 2
  return statistic

end CollectivePerception.Statistic
