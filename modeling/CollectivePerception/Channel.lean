/-
This file defines the radio channel that all stations of a simulation share. A message
handed to it is in flight for a fixed time and then leaves in the order of sending. The
bytes sent during the last second are the channel's load, and from the load follows how
long each station has to wait between two messages.
-/

import CollectivePerception.Service.State

namespace CollectivePerception

/-- A message in flight, with the place where it was sent. -/
structure Transmission where
  deliverAt : Instant
  origin : Point
  message : Message
deriving Inhabited

/-- The bytes of a message that counts as load. -/
structure Burst where
  sent : Instant
  size : Nat
deriving Inhabited

structure Channel where
  now : Instant
  /-- How long a message is in flight. -/
  latency : Duration
  /-- The messages in flight, in the order of sending. -/
  inFlight : List Transmission
  /-- What was sent lately, in the order of sending. -/
  load : List Burst
  /-- Where the stations are. -/
  positions : List (StationId × Point)
deriving Inhabited

namespace Channel

def empty (latency : Duration) : Channel := ⟨.zero, latency, [], [], []⟩

/-! ### Load -/

/-- For how long a message counts as load. -/
def loadWindow : Duration := Duration.ofMillis 1000

/-- How many bytes the channel carries in a second. -/
def capacity : Float := 750000.0

/-- The share of the channel's capacity that the last second took, at most all of it. -/
def busyRatio (channel : Channel) : Float :=
  let ratio := Float.ofNat (totalOf (channel.load.map (·.size))) / capacity
  if 1.0 < ratio then 1.0 else ratio

/-- The interval that a load asks for. -/
def intervalMillis (ratio : Float) : Nat :=
  if ratio < 0.30 then 100
  else if ratio < 0.40 then 200
  else if ratio < 0.50 then 400
  else if ratio < 0.60 then 500
  else 1000

/-- The interval that a load asks of a profile; traffic of the lowest priority waits
twice as long. -/
def interval (ratio : Float) (profile : TransmissionProfile) : Duration :=
  Duration.ofMillis (intervalMillis ratio * if profile = .dp3 then 2 else 1)

/-- What a station learns of the channel's state. -/
def conditions (channel : Channel) : ChannelConditions :=
  let ratio := channel.busyRatio
  ⟨interval ratio, ratio⟩

/-! ### Sending and receiving -/

/-- Takes over a message of a station whose position is known. -/
def send (channel : Channel) (message : Message) : Except TransportError Unit × Channel :=
  match channel.positions.find? fun entry => entry.1 == message.sender with
  | none => (.error (.rejected s!"unknown station {message.sender}"), channel)
  | some (_, origin) =>
    let burst : Burst := ⟨channel.now, Codec.fixedLayout.encodedSize message⟩
    let transmission : Transmission := ⟨channel.now.after channel.latency, origin, message⟩
    (.ok (), { channel with
      load := channel.load ++ [burst]
      inFlight := channel.inFlight ++ [transmission] })

/-- The channel as a way to hand over messages. -/
def transport : Transport Channel := ⟨send⟩

/-- Moves on to an instant and forgets the load that has left the window. -/
def advance (channel : Channel) (now : Instant) (positions : List (StationId × Point)) :
    Channel :=
  { channel with
    now := now
    positions := positions
    load := channel.load.dropWhile fun burst => decide (burst.sent.after loadWindow ≤ now) }

/-- Whether a message in flight has arrived. -/
def isDue (channel : Channel) (transmission : Transmission) : Bool :=
  transmission.deliverAt ≤ channel.now

/-- The messages that have arrived, and the channel without them. -/
def takeDue (channel : Channel) : List Transmission × Channel :=
  (channel.inFlight.takeWhile channel.isDue,
    { channel with inFlight := channel.inFlight.dropWhile channel.isDue })

end Channel

end CollectivePerception
