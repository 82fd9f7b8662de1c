/-
This file defines instants of simulation time, durations, and the clock that relates
an instant to the 16-bit generation time of a message. Both are counted in
microseconds. Moving an instant by a duration stops at the greatest instant or the
least one that 64 bits hold; an instant's distance to another is exact. Where the
arithmetic of 64 bits would go unchecked, instants are taken not to overflow it.
-/

import CollectivePerception.Decimal

namespace CollectivePerception

open Binary64 (leastInt64 greatestInt64)

/-! ### Durations -/

/-- A length of time in whole microseconds. -/
structure Duration where
  micros : Nat
deriving DecidableEq, Repr, Inhabited

namespace Duration

def zero : Duration := ⟨0⟩

def ofMillis (millis : Nat) : Duration := ⟨millis * 1000⟩

instance : LT Duration := ⟨fun first second => first.micros < second.micros⟩
instance : LE Duration := ⟨fun first second => first.micros ≤ second.micros⟩

instance (first second : Duration) : Decidable (first < second) :=
  inferInstanceAs (Decidable (first.micros < second.micros))
instance (first second : Duration) : Decidable (first ≤ second) :=
  inferInstanceAs (Decidable (first.micros ≤ second.micros))

theorem lt_def {first second : Duration} : first < second ↔ first.micros < second.micros :=
  Iff.rfl

theorem le_def {first second : Duration} : first ≤ second ↔ first.micros ≤ second.micros :=
  Iff.rfl

/-- The duration moved to the nearest of two bounds if it lies outside. -/
def clamp (duration least greatest : Duration) : Duration :=
  if duration < least then least else if greatest < duration then greatest else duration

/-- The duration in seconds. Whole seconds and the rest are converted apart, and
each conversion and the sum round to the nearest double. -/
def seconds (duration : Duration) : Float :=
  Float.ofNat (duration.micros / 1000000) +
    Float.ofNat (duration.micros % 1000000 * 1000) / 1e9

end Duration

/-! ### Instants -/

/-- A point on the simulation's time line, in whole microseconds from its origin. -/
structure Instant where
  micros : Int
deriving DecidableEq, Repr, Inhabited

namespace Instant

def zero : Instant := ⟨0⟩

/-- The instant a number of milliseconds after the origin. The product is not checked against
64 bits: the instant is taken to fit into them. -/
def ofMillis (millis : Int) : Instant := ⟨millis * 1000⟩

/-- The instant nearest to a number of seconds. -/
def ofSeconds (seconds : Float) : Instant := ⟨Binary64.roundToInt64 (seconds * 1e6)⟩

instance : LT Instant := ⟨fun first second => first.micros < second.micros⟩
instance : LE Instant := ⟨fun first second => first.micros ≤ second.micros⟩

instance (first second : Instant) : Decidable (first < second) :=
  inferInstanceAs (Decidable (first.micros < second.micros))
instance (first second : Instant) : Decidable (first ≤ second) :=
  inferInstanceAs (Decidable (first.micros ≤ second.micros))

theorem lt_def {first second : Instant} : first < second ↔ first.micros < second.micros :=
  Iff.rfl

theorem le_def {first second : Instant} : first ≤ second ↔ first.micros ≤ second.micros :=
  Iff.rfl

/-- The earlier one of two instants. -/
def earlier (first second : Instant) : Instant := if second < first then second else first

/-- The later one of two instants. -/
def later (first second : Instant) : Instant := if first < second then second else first

/-- The instant in whole milliseconds, the rest cut off towards zero. -/
def millis (instant : Instant) : Int := instant.micros.tdiv 1000

/-- The instant in seconds. -/
def seconds (instant : Instant) : Float := Float.ofInt instant.micros / 1e6

/-- A duration as far as it fits into a signed 64-bit count. -/
def step (duration : Duration) : Int := min (duration.micros : Int) greatestInt64

/-- The instant a duration later, at most the greatest one. -/
def after (instant : Instant) (duration : Duration) : Instant :=
  ⟨min greatestInt64 (instant.micros + step duration)⟩

/-- The instant a duration earlier, at least the least one. -/
def before (instant : Instant) (duration : Duration) : Instant :=
  ⟨max leastInt64 (instant.micros - step duration)⟩

/-- The time from an earlier instant to this one, zero if the other is not earlier,
and at most what a signed 64-bit count holds. -/
def elapsedSince (instant other : Instant) : Duration :=
  ⟨(min greatestInt64 (instant.micros - other.micros)).toNat⟩

/-- The signed distance from another instant in whole milliseconds, the rest cut off
towards zero. The difference is not checked against 64 bits: instants are taken to lie so
close that it fits into them. -/
def millisSince (instant other : Instant) : Int := (instant.micros - other.micros).tdiv 1000

/-- The signed distance from another instant in seconds. As in `millisSince`, the difference
is taken to fit into 64 bits. -/
def secondsSince (instant other : Instant) : Float :=
  Float.ofInt (instant.micros - other.micros) / 1e6

/-- The instant as text: seconds to six places. -/
def display (instant : Instant) : String := Decimal.fixed 6 instant.seconds ++ "s"

end Instant

/-! ### The message clock -/

/-- The clock behind the generation times of messages: a running count of
milliseconds that has the value `epochOffset` at the origin of simulation time. -/
structure MessageClock where
  epochOffset : Int
deriving DecidableEq, Repr, Inhabited

namespace MessageClock

/-- A message carries the count modulo this number. -/
def period : Int := 65536

/-- The clock's count at an instant. The sum is not checked against 64 bits: the offset and
the instant are taken not to overflow them. -/
def count (clock : MessageClock) (instant : Instant) : Int :=
  clock.epochOffset + instant.millis

/-- What a message generated at an instant carries. -/
def generationTime (clock : MessageClock) (instant : Instant) : Nat :=
  (clock.count instant % period).toNat

/-- How far the count at `now` lies ahead of the generation time, taking the nearest
of the counts that a message could mean: more than half a period ahead is read as
less than half a period behind. -/
def age (clock : MessageClock) (generated : Nat) (now : Instant) : Int :=
  let ahead := (clock.count now - generated) % period
  if period / 2 < ahead then ahead - period else ahead

/-- The instant that a generation time received at `now` stands for. -/
def reconstruct (clock : MessageClock) (generated : Nat) (now : Instant) : Instant :=
  Instant.ofMillis (clock.count now - clock.age generated now - clock.epochOffset)

end MessageClock

end CollectivePerception
