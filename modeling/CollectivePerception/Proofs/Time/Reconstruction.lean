/-
This file proves which instant a received generation time stands for. The 16 bits leave open
how many periods have passed, and the receiver takes the one count that lies in a window of a
whole period around its own: half a period back, that instant included, and less than half a
period ahead (`age_eq_iff`). So an instant is recovered, up to its milliseconds, exactly if it
lies in this window, and whatever is recovered from 16 bits lies in it.

Instants before the origin of time are cut off towards zero like later ones. Since the counts
are integers without a bound, all of this holds wherever 64 bits are enough for them.
-/

import CollectivePerception.Time

namespace CollectivePerception

/-! ### Whole milliseconds -/

namespace Instant

theorem millis_ofMillis (millis : Int) : (ofMillis millis).millis = millis :=
  Int.mul_tdiv_cancel millis (by decide)

theorem millisSince_ofMillis (later earlier : Int) :
    (ofMillis later).millisSince (ofMillis earlier) = later - earlier := by
  rw [millisSince, ofMillis, ofMillis, ← Int.sub_mul]
  exact Int.mul_tdiv_cancel (later - earlier) (by decide)

theorem ofMillis_inj {first second : Int} : ofMillis first = ofMillis second ↔ first = second :=
  ⟨fun same => by rw [← millis_ofMillis first, same, millis_ofMillis], congrArg ofMillis⟩

end Instant

namespace MessageClock

variable {clock : MessageClock} {now : Instant}

/-! ### What 16 bits say -/

theorem generationTime_lt (clock : MessageClock) (instant : Instant) :
    (clock.generationTime instant : Int) < period := by
  rw [generationTime, period]
  omega

/-- A message carries its generation time up to whole periods. -/
theorem generationTime_eq_iff {instant : Instant} {generated : Nat}
    (inRange : (generated : Int) < period) :
    clock.generationTime instant = generated ↔ period ∣ clock.count instant - generated := by
  rw [period] at inRange
  rw [generationTime, period]
  omega

/-- The age is the one that agrees with the message and lies in the window. -/
theorem age_eq_iff {generated : Nat} {age : Int} :
    clock.age generated now = age ↔
      (-32768 < age ∧ age ≤ 32768) ∧ period ∣ clock.count now - generated - age := by
  rw [MessageClock.age, period]
  split <;> omega

/-! ### What is recovered -/

theorem reconstruct_eq (clock : MessageClock) (generated : Nat) (now : Instant) :
    clock.reconstruct generated now = .ofMillis (now.millis - clock.age generated now) := by
  rw [reconstruct, Instant.ofMillis_inj, count]
  omega

theorem millis_reconstruct (clock : MessageClock) (generated : Nat) (now : Instant) :
    (clock.reconstruct generated now).millis = now.millis - clock.age generated now := by
  rw [reconstruct_eq, Instant.millis_ofMillis]

theorem reconstruct_eq_iff {generated : Nat} {millis : Int} :
    clock.reconstruct generated now = .ofMillis millis ↔
      clock.age generated now = now.millis - millis := by
  rw [reconstruct_eq, Instant.ofMillis_inj]
  omega

/-- An instant is recovered from its own generation time exactly if it lies in the window. -/
theorem reconstruct_generationTime_iff {generated : Instant} :
    clock.reconstruct (clock.generationTime generated) now = .ofMillis generated.millis ↔
      -32768 < now.millis - generated.millis ∧ now.millis - generated.millis ≤ 32768 := by
  have carried := (generationTime_eq_iff (clock.generationTime_lt generated)).mp rfl
  rw [reconstruct_eq_iff, age_eq_iff]
  refine and_iff_left ?_
  rw [show clock.count now - clock.generationTime generated - (now.millis - generated.millis) =
      clock.count generated - clock.generationTime generated by
    rw [count, count]
    omega]
  exact carried

theorem reconstruct_generationTime (clock : MessageClock) {generated now : Instant}
    (notEarly : -32768 < now.millis - generated.millis)
    (notLate : now.millis - generated.millis ≤ 32768) :
    clock.reconstruct (clock.generationTime generated) now =
      Instant.ofMillis generated.millis :=
  reconstruct_generationTime_iff.mpr ⟨notEarly, notLate⟩

theorem reconstruct_generationTime_ofMillis (clock : MessageClock)
    {generated now : Int} (late : now ≤ generated + 32767) (early : generated ≤ now + 32767) :
    clock.reconstruct (clock.generationTime (.ofMillis generated)) (.ofMillis now) =
      .ofMillis generated := by
  rw [reconstruct_generationTime, Instant.millis_ofMillis]
  all_goals
    rw [Instant.millis_ofMillis, Instant.millis_ofMillis]
    omega

/-- What is recovered has the generation time that it was recovered from. -/
theorem generationTime_reconstruct {generated : Nat} (inRange : (generated : Int) < period) :
    clock.generationTime (clock.reconstruct generated now) = generated := by
  rw [generationTime_eq_iff inRange, count, millis_reconstruct]
  obtain ⟨_, agrees⟩ := age_eq_iff.mp (rfl : clock.age generated now = _)
  rw [show clock.epochOffset + (now.millis - clock.age generated now) - generated =
      clock.count now - generated - clock.age generated now by
    rw [count]
    omega]
  exact agrees

/-- An instant is recovered up to its milliseconds exactly if it is at most half a period old
at the reception, and less than half a period ahead of it. From any 16 bits a whole
millisecond in this window is recovered that they are the generation time of. -/
theorem reconstruct_within_half_period (clock : MessageClock) (now : Instant) :
    (∀ generated : Instant,
        clock.reconstruct (clock.generationTime generated) now = .ofMillis generated.millis ↔
          -32768 < now.millis - generated.millis ∧
            now.millis - generated.millis ≤ 32768) ∧
      ∀ carried : UInt16,
        let recovered := clock.reconstruct carried.toNat now
        recovered = .ofMillis recovered.millis ∧
          clock.generationTime recovered = carried.toNat ∧
          -32768 < now.millis - recovered.millis ∧
          now.millis - recovered.millis ≤ 32768 := by
  refine ⟨fun _ => reconstruct_generationTime_iff, fun carried => ?_⟩
  intro recovered
  have inRange : (carried.toNat : Int) < period := Int.ofNat_lt.mpr carried.toNat_lt
  obtain ⟨window, _⟩ := age_eq_iff.mp (rfl : clock.age carried.toNat now = _)
  have distance : now.millis - recovered.millis = clock.age carried.toNat now := by
    rw [millis_reconstruct]
    omega
  refine ⟨?_, generationTime_reconstruct inRange, ?_⟩
  · rw [millis_reconstruct]
    exact reconstruct_eq clock carried.toNat now
  · rw [distance]
    exact window

/-- Exactly half a period is read as an age, and a millisecond more as a time to come. -/
example : (MessageClock.mk 0).reconstruct 0 (.ofMillis 32768) = .ofMillis 0 ∧
    (MessageClock.mk 0).reconstruct 0 (.ofMillis 32769) = .ofMillis 65536 := by
  decide

end MessageClock

end CollectivePerception
