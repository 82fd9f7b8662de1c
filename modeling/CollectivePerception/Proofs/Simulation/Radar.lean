/-
This file proves that the stations of a simulation report nothing but what their radar has
seen of late. The environment of a vehicle holds sightings of two kinds: those of the radio,
and those of the radar, each of them of a step in which the other vehicle was ahead and in
range (`Column.genuine_after`). Sensing ends with an expiry, so at the turn of a service none
of them is older than the lifetime of a sighting (`Column.genuine_poised`).

Nothing that the radar sees is passed over either (`Column.sees_of_isAhead`). In the first step
all of it is new, and so a station with the standard settings lists it (`exists_listed_ahead`).
-/

import CollectivePerception.Proofs.Environment.Sightings
import CollectivePerception.Proofs.Service.Prediction
import CollectivePerception.Proofs.Simulation.Motion
import CollectivePerception.Proofs.Simulation.Sending

namespace CollectivePerception

/-! ### Genuine sightings -/

/-- The sensor is the radar, which vouches for a detection, or the radio. -/
def IsDevice (vouched : Prop) (sensor : Nat) (category : SensorCategory) : Prop :=
  sensor = Reach.radarSensor ∧ category = .radar ∧ vouched ∨
    sensor = Reach.radioSensor ∧ category = .awareness

theorem IsDevice.category_eq {vouched other : Prop} {sensor : Nat}
    {first second : SensorCategory} (device : IsDevice vouched sensor first)
    (same : IsDevice other sensor second) : first = second := by
  have apart : Reach.radarSensor ≠ Reach.radioSensor := by decide
  rcases device with ⟨radar, category, _⟩ | ⟨radio, category⟩
  · rcases same with ⟨_, again, _⟩ | ⟨radio, _⟩
    · exact category.trans again.symm
    · exact absurd (radar.symm.trans radio) apart
  · rcases same with ⟨radar, _, _⟩ | ⟨_, again⟩
    · exact absurd (radar.symm.trans radio) apart
    · exact category.trans again.symm

namespace Environment

/-- All sightings are of the devices of a vehicle, and the radar has detected what it is said
to have seen last. -/
def Genuine (detected : Handle → Instant → Prop) (environment : Environment) : Prop :=
  ∀ handle sensor sighting, environment.sighting? handle sensor = some sighting →
    IsDevice (detected handle sighting.lastSeen) sensor sighting.category

variable {environment : Environment} {detected : Handle → Instant → Prop}

theorem genuine_empty (detected : Handle → Instant → Prop) : empty.Genuine detected :=
  fun _ _ _ found => nomatch found

theorem Genuine.mono (genuine : environment.Genuine detected) {further : Handle → Instant → Prop}
    (weaker : ∀ handle instant, detected handle instant → further handle instant) :
    environment.Genuine further :=
  fun handle sensor sighting found => (genuine handle sensor sighting found).imp_left
    fun ⟨radar, category, vouched⟩ => ⟨radar, category, weaker handle _ vouched⟩

theorem Genuine.record (genuine : environment.Genuine detected) {handle : Handle} {sensor : Nat}
    {category : SensorCategory} {now : Instant}
    (device : IsDevice (detected handle now) sensor category) :
    (environment.record handle sensor category now).Genuine detected := by
  intro other sender sighting found
  rw [sighting?_record] at found
  split at found
  · rename_i same
    obtain ⟨rfl, rfl⟩ := same
    cases before : environment.sighting? other sender with
    | none =>
      rw [before] at found
      cases found
      exact device
    | some known =>
      rw [before] at found
      cases found
      -- A sensor keeps the category of its first detection, which is that of the device.
      have kept := (genuine other sender known before).category_eq device
      rw [← kept] at device
      exact device
  · exact genuine other sender sighting found

/-- After an expiry all detections are fresh. -/
theorem Genuine.expire (genuine : environment.Genuine detected) (now : Instant)
    (lifetime : Duration) :
    (environment.expire now lifetime).1.Genuine fun handle instant =>
      detected handle instant ∧ now < instant.after lifetime := by
  intro handle sensor sighting found
  rw [sighting?_expire, Option.filter_eq_some_iff] at found
  obtain ⟨before, fresh⟩ := found
  exact (genuine handle sensor sighting before).imp_left fun ⟨radar, category, vouched⟩ =>
    ⟨radar, category, vouched, of_decide_eq_true fresh⟩

/-- What is seen by the radar was detected. -/
theorem Genuine.of_sees (genuine : environment.Genuine detected) {category : SensorCategory}
    {handle : Handle} (sees : environment.Sees category handle) :
    category = .radar ∧ (∃ instant, detected handle instant) ∨ category = .awareness := by
  obtain ⟨sensor, sighting, found, rfl⟩ := sees_iff.mp sees
  exact (genuine handle sensor sighting found).imp
    (fun ⟨_, radar, vouched⟩ => ⟨radar, _, vouched⟩) And.right

/-- A sensor has last seen the object at some time. -/
def Spots (environment : Environment) (handle : Handle) (sensor : Nat) (instant : Instant) :
    Prop :=
  ∃ sighting, environment.sighting? handle sensor = some sighting ∧ sighting.lastSeen = instant

/-- If all sightings are genuine, then the radar sees what it has spotted. -/
theorem Genuine.sees_of_spots (genuine : environment.Genuine detected) {handle : Handle}
    {instant : Instant} (spots : environment.Spots handle Reach.radarSensor instant) :
    environment.Sees .radar handle := by
  have apart : Reach.radarSensor ≠ Reach.radioSensor := by decide
  obtain ⟨sighting, found, _⟩ := spots
  rcases genuine handle Reach.radarSensor sighting found with ⟨_, radar, _⟩ | ⟨radio, _⟩
  · exact sees_iff.mpr ⟨_, sighting, found, radar⟩
  · exact absurd radio apart

theorem spots_record (environment : Environment) (handle : Handle) (sensor : Nat)
    (category : SensorCategory) (now : Instant) :
    (environment.record handle sensor category now).Spots handle sensor now := by
  rw [Spots, sighting?_record, if_pos ⟨rfl, rfl⟩]
  cases environment.sighting? handle sensor with
  | none => exact ⟨_, rfl, rfl⟩
  | some known => exact ⟨_, rfl, rfl⟩

section

variable {handle : Handle} {sensor : Nat} {now : Instant}
  (spots : environment.Spots handle sensor now)
include spots

/-- What was spotted now stays so when more is detected at the same time. -/
theorem Spots.record (other : Handle) (device : Nat) (category : SensorCategory) :
    (environment.record other device category now).Spots handle sensor now := by
  by_cases same : handle = other ∧ sensor = device
  · obtain ⟨rfl, rfl⟩ := same
    exact environment.spots_record handle sensor category now
  · rw [Spots, sighting?_record, if_neg same]
    exact spots

theorem Spots.expire {lifetime : Duration} (lasting : now < now.after lifetime) :
    (environment.expire now lifetime).1.Spots handle sensor now := by
  obtain ⟨sighting, found, seen⟩ := spots
  refine ⟨sighting, ?_, seen⟩
  rw [sighting?_expire, found, Option.filter_some, seen, if_pos (decide_eq_true lasting)]

end

end Environment

namespace Vehicle

variable {vehicle : Vehicle} {reach : Reach} {own : SceneObject} {now : Instant}
  {detected : Handle → Instant → Prop}

/-- Sensing one other vehicle keeps what detections by the radar and by the radio keep. -/
theorem senseOther_induction {motive : Environment → Prop} {other : Handle × SceneObject}
    (start : motive vehicle.environment)
    (radar : reach.sees own other.2 = true → ∀ environment, motive environment →
      motive (environment.record other.1 Reach.radarSensor .radar now))
    (radio : ∀ environment, motive environment →
      motive (environment.record other.1 Reach.radioSensor .awareness now)) :
    motive (vehicle.senseOther reach own now other).environment := by
  unfold senseOther
  by_cases sees : reach.sees own other.2 = true
  · rw [if_pos sees]
    dsimp only
    split
    · exact radio _ (radar sees _ start)
    · exact radar sees _ start
  · rw [if_neg sees]
    dsimp only
    split
    · exact radio _ start
    · exact start

/-- Sensing others keeps what their detections keep. -/
theorem foldl_senseOther_induction {motive : Environment → Prop}
    {others : List (Handle × SceneObject)} (start : motive vehicle.environment)
    (radar : ∀ other ∈ others, reach.sees own other.2 = true → ∀ environment,
      motive environment → motive (environment.record other.1 Reach.radarSensor .radar now))
    (radio : ∀ other ∈ others, ∀ environment, motive environment →
      motive (environment.record other.1 Reach.radioSensor .awareness now)) :
    motive (others.foldl (fun vehicle other => vehicle.senseOther reach own now other)
      vehicle).environment := by
  induction others generalizing vehicle with
  | nil => exact start
  | cons other later inductionHypothesis =>
    obtain ⟨firstRadar, laterRadar⟩ := List.forall_mem_cons.mp radar
    obtain ⟨firstRadio, laterRadio⟩ := List.forall_mem_cons.mp radio
    exact inductionHypothesis (senseOther_induction start firstRadar firstRadio) laterRadar
      laterRadio

theorem genuine_foldl_senseOther {others : List (Handle × SceneObject)}
    (genuine : vehicle.environment.Genuine detected)
    (seen : ∀ other ∈ others, reach.sees own other.2 = true → detected other.1 now) :
    (others.foldl (fun vehicle other => vehicle.senseOther reach own now other)
      vehicle).environment.Genuine detected :=
  foldl_senseOther_induction genuine
    (fun other member sees _ kept => kept.record (.inl ⟨rfl, rfl, seen other member sees⟩))
    fun _ _ _ kept => kept.record (.inr ⟨rfl, rfl⟩)

/-- If a vehicle's sightings are genuine and so is what its radar sees now, then they are
genuine and fresh when it has sensed. -/
theorem genuine_sense {present : List (Handle × SceneObject)}
    (genuine : vehicle.environment.Genuine detected)
    (seen : ∀ other ∈ present, other.1 ≠ vehicle.handle → reach.sees own other.2 = true →
      detected other.1 now) (projection : Projection) :
    (vehicle.sense reach projection now present own).environment.Genuine fun handle instant =>
      detected handle instant ∧ now < instant.after Reach.sightingLifetime := by
  have observed : ({ vehicle with
      own := vehicle.own.observe own projection now } : Vehicle).environment.Genuine detected :=
    genuine
  have sensed := genuine_foldl_senseOther observed
    fun other (member : other ∈ present.filter fun other => other.1 != vehicle.handle) =>
      seen other (List.mem_filter.mp member).1 (bne_iff_ne.mp (List.mem_filter.mp member).2)
  exact sensed.expire now Reach.sightingLifetime

theorem spots_foldl_senseOther {handle : Handle} {sensor : Nat}
    (spots : vehicle.environment.Spots handle sensor now) (others : List (Handle × SceneObject)) :
    (others.foldl (fun vehicle other => vehicle.senseOther reach own now other)
      vehicle).environment.Spots handle sensor now :=
  foldl_senseOther_induction (motive := fun environment => environment.Spots handle sensor now)
    spots (fun _ _ _ _ kept => kept.record _ _ _) fun _ _ _ kept => kept.record _ _ _

/-- The radar spots a vehicle that it sees. -/
theorem spots_of_sees {other : Handle × SceneObject} (sees : reach.sees own other.2 = true) :
    (vehicle.senseOther reach own now other).environment.Spots other.1 Reach.radarSensor now := by
  have looked := vehicle.environment.spots_record other.1 Reach.radarSensor .radar now
  unfold senseOther
  rw [if_pos sees]
  dsimp only
  split
  · exact looked.record _ _ _
  · exact looked

theorem spots_foldl_of_sees {others : List (Handle × SceneObject)} {other : Handle × SceneObject}
    (member : other ∈ others) (sees : reach.sees own other.2 = true) :
    (others.foldl (fun vehicle other => vehicle.senseOther reach own now other)
      vehicle).environment.Spots other.1 Reach.radarSensor now := by
  induction others generalizing vehicle with
  | nil => cases member
  | cons first later inductionHypothesis =>
    rcases List.mem_cons.mp member with rfl | inner
    · exact spots_foldl_senseOther (spots_of_sees sees) later
    · exact inductionHypothesis inner

/-- When a vehicle has sensed, its radar has spotted every other vehicle that it sees. -/
theorem spots_sense {present : List (Handle × SceneObject)} {other : Handle × SceneObject}
    (member : other ∈ present) (apart : other.1 ≠ vehicle.handle)
    (sees : reach.sees own other.2 = true) (lasting : now < now.after Reach.sightingLifetime)
    (projection : Projection) :
    (vehicle.sense reach projection now present own).environment.Spots other.1
      Reach.radarSensor now := by
  have inside : other ∈ present.filter fun other => other.1 != vehicle.handle :=
    List.mem_filter.mpr ⟨member, bne_iff_ne.mpr apart⟩
  unfold sense forget
  exact (spots_foldl_of_sees inside sees).expire lasting

end Vehicle

/-! ### Identities -/

/-- What a vehicle keeps in all steps. -/
structure Identity where
  handle : Handle
  station : StationId
  settings : ServiceSettings

def Outline.identity (outline : Outline) : Identity :=
  ⟨outline.handle, outline.own.station, outline.settings⟩

namespace Simulation

def identities (simulation : Simulation) : List Identity :=
  simulation.outlines.map Outline.identity

section

variable {simulation : Simulation} (column : Column simulation.arena simulation.outlines)
include column

theorem Column.identities_sensed :
    simulation.moved.sensed.identities = simulation.identities :=
  column.map_outlines_sensed fun _ _ _ _ _ _ => rfl

theorem Column.identities_after (number : Nat) :
    (simulation.after number).identities = simulation.identities := by
  induction number with
  | zero => rfl
  | succ number inductionHypothesis =>
    rw [← inductionHypothesis, ← (column.after number).identities_sensed, identities, outlines,
      map_outline_after_succ]
    rfl

theorem Column.identities_poised (number : Nat) :
    (simulation.poised number).identities = simulation.identities :=
  (column.after number).identities_sensed.trans (column.identities_after number)

theorem Column.handle_eq_of_station_eq {first second : Identity}
    (memberFirst : first ∈ simulation.identities) (memberSecond : second ∈ simulation.identities)
    (same : first.station = second.station) : first.handle = second.handle := by
  obtain ⟨outline, insideFirst, rfl⟩ := List.mem_map.mp memberFirst
  obtain ⟨other, insideSecond, rfl⟩ := List.mem_map.mp memberSecond
  exact congrArg Outline.handle (column.eq_of_station_eq insideFirst insideSecond same)

/-- The object of a vehicle has the vehicle's number and is where the vehicle is. -/
theorem Column.object_of_mem_identities {identity : Identity}
    (member : identity ∈ simulation.identities) {object : SceneObject}
    (resolved : simulation.arena.resolve identity.handle = some object) :
    object.station = identity.station ∧
      (identity.station, object.position) ∈ simulation.positions := by
  obtain ⟨outline, inside, rfl⟩ := List.mem_map.mp member
  obtain ⟨owned, found, station, position⟩ := column.owned outline inside
  have same : owned = object := Option.some.inj (found.symm.trans resolved)
  rw [← same, position, Simulation.positions_eq]
  exact ⟨station, List.mem_map_of_mem inside⟩

end

theorem exists_of_mem_present {simulation : Simulation} {other : Handle × SceneObject}
    (member : other ∈ simulation.moved.present) :
    (∃ identity ∈ simulation.identities, identity.handle = other.1) ∧
      simulation.moved.arena.resolve other.1 = some other.2 := by
  obtain ⟨vehicle, among, found⟩ := List.mem_filterMap.mp member
  obtain ⟨object, resolved, rfl⟩ := Option.map_eq_some_iff.mp found
  exact ⟨⟨_, List.mem_map_of_mem (List.mem_map_of_mem among), rfl⟩, resolved⟩

/-! ### The radar in a run -/

/-- In a step of a run another station is strictly ahead of a station, by at most a range. -/
def IsAhead (simulation : Simulation) (range : Float) (number : Nat)
    (station other : StationId) : Prop :=
  ∃ own theirs, (station, own) ∈ simulation.places number ∧
    (other, theirs) ∈ simulation.places number ∧
      0.0 < theirs.x - own.x ∧ theirs.x - own.x ≤ range

/-- In one of the first steps of a run the radar of a vehicle has detected another one. -/
def Detects (simulation : Simulation) (steps : Nat) (identity : Identity) (handle : Handle)
    (instant : Instant) : Prop :=
  ∃ earlier < steps, instant = (simulation.trace earlier).time ∧
    ∃ other ∈ simulation.identities, other.handle = handle ∧ handle ≠ identity.handle ∧
      simulation.IsAhead simulation.scenario.radarRange earlier identity.station other.station

section

variable {simulation : Simulation} (column : Column simulation.arena simulation.outlines)
  {number : Nat}
include column

/-- What the radar of a vehicle sees in a step is ahead of the vehicle in that step. -/
theorem Column.detects_of_sees {identity : Identity} (member : identity ∈ simulation.identities)
    {own : SceneObject}
    (resolved : (simulation.after number).moved.arena.resolve identity.handle = some own)
    {other : Handle × SceneObject} (present : other ∈ (simulation.after number).moved.present)
    (apart : other.1 ≠ identity.handle)
    (sees : (simulation.after number).reach.sees own other.2 = true) :
    simulation.Detects (number + 1) identity other.1 (simulation.trace number).time := by
  obtain ⟨⟨ahead, among, handle⟩, found⟩ := exists_of_mem_present present
  rw [column.identities_after] at among
  have poised := (column.after number).poised
  have identities := column.identities_poised number
  obtain ⟨_, ownPlace⟩ := poised.object_of_mem_identities (identities.symm ▸ member) resolved
  obtain ⟨_, theirPlace⟩ := poised.object_of_mem_identities (identities.symm ▸ among)
    (handle.symm ▸ found)
  rw [positions_poised] at ownPlace theirPlace
  rw [Reach.sees, Bool.and_eq_true, decide_eq_true_iff, decide_eq_true_iff, reach,
    scenario_after] at sees
  exact ⟨number, Nat.lt_succ_self number, rfl, ahead, among, handle, apart, _, _, ownPlace,
    theirPlace, sees⟩

/-- If the sightings are genuine before a step, then they are genuine and fresh when it is
poised. -/
theorem Column.genuine_poised
    (genuine : ∀ outline ∈ (simulation.after number).outlines,
      outline.environment.Genuine (simulation.Detects number outline.identity)) :
    ∀ outline ∈ (simulation.poised number).outlines,
      outline.environment.Genuine fun handle instant =>
        simulation.Detects (number + 1) outline.identity handle instant ∧
          (simulation.trace number).time < instant.after Reach.sightingLifetime := by
  intro outline member
  obtain ⟨vehicle, among, rfl⟩ := List.mem_map.mp member
  obtain ⟨before, old, own, resolved, _, rfl⟩ :=
    (column.after number).exists_of_mem_sensed among
  have inside : before.outline.identity ∈ simulation.identities := by
    rw [← column.identities_after number]
    exact List.mem_map_of_mem (List.mem_map_of_mem old)
  obtain ⟨_, same⟩ := (simulation.after number).outline_advanced before own
  have identity : ((simulation.after number).advanced before own).outline.identity =
      before.outline.identity := by
    rw [same]
    rfl
  have kept : before.environment.Genuine
      (simulation.Detects (number + 1) before.outline.identity) :=
    (genuine before.outline (List.mem_map_of_mem old)).mono
      fun _ _ ⟨earlier, early, rest⟩ => ⟨earlier, Nat.lt_succ_of_lt early, rest⟩
  have now : (simulation.after number).moved.now = (simulation.trace number).time :=
    simulation.now_poised number
  rw [identity, ← now]
  refine Vehicle.genuine_sense kept (fun other present apart sees => ?_) _
  rw [now]
  exact column.detects_of_sees inside resolved present apart sees

/-- In a run all sightings are genuine if they are so at its start. -/
theorem Column.genuine_after
    (start : ∀ outline ∈ simulation.outlines, outline.environment = .empty) (number : Nat) :
    ∀ outline ∈ (simulation.after number).outlines,
      outline.environment.Genuine (simulation.Detects number outline.identity) := by
  induction number with
  | zero =>
    intro outline member
    rw [start outline member]
    exact Environment.genuine_empty _
  | succ number inductionHypothesis =>
    rw [outlines, map_outline_after_succ]
    exact fun outline member => (column.genuine_poised inductionHypothesis outline member).mono
      fun _ _ => And.left

/-- A poised vehicle has moved and sensed with its object, which the others may sense. -/
theorem Column.exists_of_mem_poised {outline : Outline}
    (member : outline ∈ (simulation.poised number).outlines) :
    ∃ vehicle own, outline = ((simulation.after number).advanced vehicle own).outline ∧
      outline.handle = vehicle.handle ∧
      (simulation.poised number).arena.resolve outline.handle = some own ∧
      own.station = outline.own.station ∧ own.position = outline.own.position ∧
      (outline.handle, own) ∈ (simulation.after number).moved.present := by
  obtain ⟨sensed, among, rfl⟩ := List.mem_map.mp member
  obtain ⟨vehicle, old, own, resolved, station, rfl⟩ :=
    (column.after number).exists_of_mem_sensed among
  obtain ⟨_, same⟩ := (simulation.after number).outline_advanced vehicle own
  refine ⟨vehicle, own, rfl, ?_⟩
  rw [same]
  refine ⟨rfl, resolved, station, rfl, List.mem_filterMap.mpr ⟨vehicle, old, ?_⟩⟩
  rw [resolved]
  rfl

theorem Column.place_eq {outline : Outline}
    (member : outline ∈ (simulation.poised number).outlines) {place : Point}
    (there : (outline.own.station, place) ∈ simulation.places number) :
    outline.own.position = place := by
  obtain ⟨vehicle, among, station, rfl⟩ := exists_of_mem_places there
  exact congrArg (·.own.position) ((column.after number).poised.eq_of_station_eq member
    (mem_outlines_poised among) station.symm)

/-- In every step the radar of a vehicle sees each other vehicle that is ahead. -/
theorem Column.sees_of_isAhead
    (genuine : ∀ outline ∈ (simulation.after number).outlines,
      outline.environment.Genuine (simulation.Detects number outline.identity))
    (lasting : (simulation.trace number).time <
      (simulation.trace number).time.after Reach.sightingLifetime)
    {first second : Outline} (memberFirst : first ∈ (simulation.poised number).outlines)
    (memberSecond : second ∈ (simulation.poised number).outlines)
    (apart : second.own.station ≠ first.own.station)
    (ahead : simulation.IsAhead simulation.scenario.radarRange number first.own.station
      second.own.station) : first.environment.Sees .radar second.handle := by
  obtain ⟨place, further, there, yonder, positive, near⟩ := ahead
  obtain rfl := column.place_eq memberFirst there
  obtain rfl := column.place_eq memberSecond yonder
  obtain ⟨vehicle, own, same, handle, resolved, station, position, _⟩ :=
    column.exists_of_mem_poised memberFirst
  obtain ⟨_, object, _, _, found, numbered, place, present⟩ :=
    column.exists_of_mem_poised memberSecond
  have sees : (simulation.after number).reach.sees own object = true := by
    rw [Reach.sees, position, place, Bool.and_eq_true, decide_eq_true_iff, decide_eq_true_iff,
      reach, scenario_after]
    exact ⟨positive, near⟩
  have other : second.handle ≠ vehicle.handle := by
    intro equal
    rw [← handle] at equal
    rw [equal, resolved] at found
    cases found
    exact apart (numbered.symm.trans station)
  have now : (simulation.after number).moved.now = (simulation.trace number).time :=
    simulation.now_poised number
  rw [← now] at lasting
  have spots := Vehicle.spots_sense present other sees lasting
    (projection (simulation.after number).scenario)
  have fresh := column.genuine_poised genuine first memberFirst
  rw [same] at fresh ⊢
  exact fresh.sees_of_spots spots

end

/-! ### Lists of objects -/

/-- The record that a vehicle keeps under a handle is that of another vehicle, which the radar
has detected within the lifetime of a sighting. -/
structure Lists (simulation : Simulation) (number : Nat) (own : Identity)
    (entry : Handle × PerceivedObject) (other : Identity) : Prop where
  known : other ∈ simulation.identities
  handle_eq : other.handle = entry.1
  station_eq : other.station = entry.2.object
  apart : other.handle ≠ own.handle
  recent : ∃ earlier ≤ number,
    (simulation.trace number).time <
        (simulation.trace earlier).time.after Reach.sightingLifetime ∧
      simulation.IsAhead simulation.scenario.radarRange earlier own.station other.station

section

variable {simulation : Simulation} (column : Column simulation.arena simulation.outlines)
  {number : Nat}
include column

theorem Column.object_ne_of_lists {own other : Identity} (known : own ∈ simulation.identities)
    {entry : Handle × PerceivedObject} (lists : simulation.Lists number own entry other) :
    entry.2.object ≠ own.station := fun same =>
  lists.apart (column.handle_eq_of_station_eq lists.known known (lists.station_eq.trans same))

/-- Records under different handles are those of different vehicles. -/
theorem Column.objects_nodup_of_lists {own : Identity}
    {listed : List (Handle × PerceivedObject)} (distinct : (listed.map (·.1)).Nodup)
    (lists : ∀ entry ∈ listed, ∃ other, simulation.Lists number own entry other) :
    (listed.map (·.2.object)).Nodup := by
  refine (List.Nodup.of_map _ distinct).map_on fun first memberFirst second memberSecond same => ?_
  obtain ⟨one, listsFirst⟩ := lists first memberFirst
  obtain ⟨other, listsSecond⟩ := lists second memberSecond
  refine List.inj_on_of_nodup_map distinct memberFirst memberSecond ?_
  rw [← listsFirst.handle_eq, ← listsSecond.handle_eq]
  refine column.handle_eq_of_station_eq listsFirst.known listsSecond.known ?_
  rw [listsFirst.station_eq, listsSecond.station_eq]
  exact same

/-- A service that tracks what the radar sees has no more candidates than there are vehicles. -/
theorem Column.candidates_length_le
    (genuine : ∀ outline ∈ (simulation.after number).outlines,
      outline.environment.Genuine (simulation.Detects number outline.identity))
    {vehicle : Vehicle} (among : vehicle ∈ (simulation.informed number).vehicles)
    (radar : vehicle.service.settings.trackedCategory = .radar) (conditions : ChannelConditions)
    (now : Instant) :
    let surroundings := vehicle.surroundings (simulation.informed number).arena.resolve
    ((vehicle.service.synchronized surroundings now).candidates conditions surroundings
      now).length ≤ simulation.identities.length := by
  intro surroundings
  have fresh : surroundings.environment.Genuine _ :=
    column.genuine_poised genuine vehicle.outline (mem_outlines_poised among)
  have known : (vehicle.service.synchronized surroundings now).candidates conditions surroundings
      now ⊆ simulation.identities.map (·.handle) := by
    intro handle candidate
    have tracked := (Service.mem_handles_of_candidates candidate).1
    rw [Service.handles_synchronized, List.mem_filter, Environment.mem_handlesSeenBy_iff,
      radar] at tracked
    obtain ⟨_, _, ⟨_, _, _, other, member, same, _⟩, _⟩ | awareness := fresh.of_sees tracked.1
    · exact List.mem_map.mpr ⟨other, member, same⟩
    · cases awareness
  have fewer := (List.subperm_of_subset (Service.candidates_nodup _ _ _ _) known).length_le
  rwa [List.length_map] at fewer

/-- At its turn a station lists what its radar has detected, or it tracks what the radio hears
of. -/
theorem Column.lists_of_mem_cycles
    (start : ∀ outline ∈ simulation.outlines, outline.environment = .empty) {cycle : CycleTrace}
    (member : cycle ∈ (simulation.trace number).cycles) :
    ∃ own ∈ simulation.identities, own.station = cycle.station ∧
      ∃ listed : List (Handle × PerceivedObject),
        cycle.sent.flatMap (·.objects) = listed.map (·.2) ∧ (listed.map (·.1)).Nodup ∧
          ∀ entry ∈ listed,
            own.settings.trackedCategory = .radar ∧
                (∃ other, simulation.Lists number own entry other) ∨
              own.settings.trackedCategory = .awareness := by
  obtain ⟨vehicle, among, met, station, sent⟩ :
      ∃ vehicle ∈ (simulation.informed number).vehicles, ∃ met : Channel,
        cycle.station = vehicle.station ∧ cycle.sent =
          (vehicle.service.trigger Channel.transport met met.conditions
            (vehicle.surroundings (simulation.informed number).arena.resolve)
            (simulation.informed number).now).sent := exists_of_mem_cycles member
  have inside : vehicle.outline ∈ (simulation.poised number).outlines :=
    mem_outlines_poised among
  have genuine := column.genuine_poised (column.genuine_after start number) vehicle.outline inside
  have identities := column.identities_poised number
  refine ⟨vehicle.outline.identity, identities ▸ List.mem_map_of_mem inside, station.symm, ?_⟩
  obtain ⟨listed, objects, distinct, origins⟩ := vehicle.service.exists_listed Channel.transport
    met met.conditions (vehicle.surroundings (simulation.informed number).arena.resolve)
    (simulation.informed number).now
  refine ⟨listed, sent ▸ objects, distinct, fun entry within => ?_⟩
  obtain ⟨object, resolved, named, sees⟩ := origins entry within
  refine (genuine.of_sees sees).imp_left fun seen => ?_
  obtain ⟨category, _, ⟨earlier, early, rfl, other, known, handle, apart, ahead⟩, fresh⟩ := seen
  obtain ⟨owned, _⟩ := (column.after number).poised.object_of_mem_identities
    (identities.symm ▸ known) (handle.symm ▸ resolved)
  exact ⟨category, other,
    { known := known
      handle_eq := handle
      station_eq := owned.symm.trans named.symm
      apart := handle.symm ▸ apart
      recent := ⟨earlier, Nat.le_of_lt_succ early, fresh, ahead⟩ }⟩

end

/-! ### What stations report -/

/-- The standard rules select what has drifted and take out nothing. -/
theorem Service.rules_of_standard {facilities : Facilities} {now : Instant} {service : Service}
    (new : Service.create .standard facilities now = .ok service) :
    (∃ thresholds, service.rule = .dynamic thresholds) ∧ service.chain = [] := by
  obtain ⟨_, _, _, rule, selection, chain, redundancy, rfl⟩ := Service.create_eq_ok_iff.mp new
  cases selection
  cases redundancy
  exact ⟨⟨_, rfl⟩, rfl⟩

section

variable {settings : SimulationSettings} {simulation : Simulation}
  (created : create settings = .ok simulation) (number : Nat)
include created

theorem cycles_nodup : ((simulation.trace number).cycles.map (·.station)).Nodup := by
  have stations : (simulation.trace number).cycles.map (·.station) =
      (simulation.informed number).vehicles.map (·.station) := map_station_trigger _ _ _ _
  have places : (simulation.informed number).vehicles.map (·.station) =
      (simulation.poised number).outlines.map (·.own.station) := by
    rw [outlines, ← map_outline_informed, List.map_map]
    rfl
  rw [stations, places]
  exact ((column_of_create created).after number).poised.distinct

omit number in
theorem settings_of_mem_identities :
    ∀ identity ∈ simulation.identities, identity.settings = settings.service := by
  obtain ⟨service, new, fresh⟩ := fresh_of_create created
  intro identity member
  obtain ⟨_, inside, rfl⟩ := List.mem_map.mp member
  obtain ⟨vehicle, among, rfl⟩ := List.mem_map.mp inside
  show vehicle.service.settings = settings.service
  rw [(fresh vehicle among).2, (Service.state_of_create new).1]

omit number in
theorem environment_of_mem_outlines :
    ∀ outline ∈ simulation.outlines, outline.environment = .empty := by
  obtain ⟨_, _, fresh⟩ := fresh_of_create created
  intro outline member
  obtain ⟨vehicle, among, rfl⟩ := List.mem_map.mp member
  exact (fresh vehicle among).1

omit number in
theorem length_identities : simulation.identities.length = settings.scenario.vehicles := by
  obtain ⟨_, service, _, rfl⟩ := create_eq_ok_iff.mp created
  have stations := congrArg List.length
    (stations_startColumn settings.scenario service settings.scenario.vehicles)
  rw [List.length_map, List.length_map, List.length_range] at stations
  rw [identities, outlines, List.length_map, List.length_map]
  exact stations

omit number in
/-- In the first step of a column with the standard settings of the services every station lists
each other vehicle that is ahead of it and in range of its radar. -/
theorem exists_listed_ahead (services : settings.service = .standard)
    (steps : settings.scenario.stepMillis = 100)
    (few : settings.scenario.vehicles < Message.segmentLimit) {station other : StationId}
    (apart : other ≠ station)
    (ahead : simulation.IsAhead settings.scenario.radarRange 0 station other) :
    ∃ cycle ∈ (simulation.trace 0).cycles, cycle.station = station ∧
      ∃ message ∈ cycle.sent, ∃ record ∈ message.objects, record.object = other := by
  have column := column_of_create created
  have genuine := column.genuine_after (environment_of_mem_outlines created) 0
  have time := time_trace_zero created steps
  have places := ahead
  obtain ⟨_, _, there, yonder, _⟩ := places
  obtain ⟨vehicle, among, rfl, _⟩ := exists_of_mem_places there
  obtain ⟨second, within, rfl, _⟩ := exists_of_mem_places yonder
  obtain ⟨service, new, same⟩ := service_of_mem_informed_zero created
  obtain ⟨⟨thresholds, rule⟩, chain⟩ := Service.rules_of_standard (services ▸ new)
  obtain ⟨settingsOf, _, empty, _⟩ := Service.state_of_create new
  rw [← same vehicle among] at rule chain settingsOf empty
  have radar : vehicle.service.settings.trackedCategory = .radar := by
    rw [settingsOf, services]
    rfl
  have sees : vehicle.environment.Sees vehicle.service.settings.trackedCategory second.handle := by
    rw [radar]
    rw [← scenario_of_create created] at ahead
    exact column.sees_of_isAhead genuine (by rw [time]; decide) (mem_outlines_poised among)
      (mem_outlines_poised within) apart ahead
  obtain ⟨object, present, named, _⟩ :=
    (column.after 0).poised.owned second.outline (mem_outlines_poised within)
  obtain ⟨cycle, member, turn, conditions, segmentation, assembled, sent⟩ :=
    exists_cycle_standard created services steps among
  obtain ⟨message, handed, record, listed, same⟩ := Service.exists_listed_of_candidate assembled
    (Nat.lt_of_le_of_lt (column.candidates_length_le genuine among radar conditions _)
      (length_identities created ▸ few))
    (Service.mem_candidates_of_empty rule conditions _ _ chain empty present sees) present
  exact ⟨cycle, member, turn, message, sent ▸ handed, record, listed, same.trans named⟩

/-- In every step each station has one turn. If the services track what the radar sees, then
all objects that a station lists in its turn are different other vehicles, each of which was
strictly ahead of it and in range of its radar in this step or in one that was not longer ago
than 200 milliseconds. If they track what another sensor sees, then no message lists an
object. -/
theorem reports_what_radar_saw :
    ((simulation.trace number).cycles.map (·.station)).Nodup ∧
      ∀ cycle ∈ (simulation.trace number).cycles,
        (settings.service.trackedCategory = .radar →
          (∀ message ∈ cycle.sent, ∀ record ∈ message.objects,
            record.object ≠ cycle.station ∧
              ∃ earlier ≤ number,
                (simulation.trace number).time <
                    (simulation.trace earlier).time.after (.ofMillis 200) ∧
                  simulation.IsAhead settings.scenario.radarRange earlier cycle.station
                    record.object) ∧
            ((cycle.sent.flatMap (·.objects)).map (·.object)).Nodup) ∧
          (settings.service.trackedCategory ≠ .radar →
            ∀ message ∈ cycle.sent, message.objects = []) := by
  have column := column_of_create created
  obtain ⟨service, new, _⟩ := fresh_of_create created
  have onBoard : settings.service.trackedCategory.isOnBoard = true :=
    (ServiceSettings.validate_eq_ok_iff.mp (Service.create_eq_ok_iff.mp new).1).2.2.2.2.2
  refine ⟨cycles_nodup created number, fun cycle member => ?_⟩
  obtain ⟨own, known, station, listed, objects, distinct, detected⟩ :=
    column.lists_of_mem_cycles (environment_of_mem_outlines created) member
  have lists (entry : Handle × PerceivedObject) (within : entry ∈ listed) :
      settings.service.trackedCategory = .radar ∧
        ∃ other, simulation.Lists number own entry other := by
    rw [← settings_of_mem_identities created own known] at onBoard ⊢
    refine (detected entry within).resolve_right fun awareness => ?_
    rw [awareness] at onBoard
    exact Bool.false_ne_true onBoard
  have listed_of_mem {message : Message} (sent : message ∈ cycle.sent) {record : PerceivedObject}
      (inside : record ∈ message.objects) : ∃ entry ∈ listed, entry.2 = record := by
    have among := List.mem_flatMap_of_mem sent inside
    rw [objects] at among
    exact List.mem_map.mp among
  refine ⟨fun _ => ⟨fun message sent record inside => ?_, ?_⟩, fun otherwise message sent => ?_⟩
  · obtain ⟨entry, within, rfl⟩ := listed_of_mem sent inside
    obtain ⟨_, other, lists⟩ := lists entry within
    obtain ⟨earlier, early, recent, ahead⟩ := lists.recent
    rw [lists.station_eq, station, scenario_of_create created] at ahead
    exact ⟨station ▸ column.object_ne_of_lists known lists, earlier, early, recent, ahead⟩
  · rw [objects, List.map_map]
    exact column.objects_nodup_of_lists distinct fun entry within => (lists entry within).2
  · refine List.eq_nil_iff_forall_not_mem.mpr fun record inside => ?_
    obtain ⟨entry, within, _⟩ := listed_of_mem sent inside
    exact otherwise (lists entry within).1

end

/-- A vehicle drives along the road by the cosine of zero times its way. -/
theorem x_driven_startObject (scenario : ScenarioSettings) (place : Nat) (interval : Duration) :
    (driven interval (startObject scenario place)).position.x =
      Float.ofNat place * scenario.spacing +
        (0.0 : Float).cos *
          ((scenario.baseSpeed + Float.ofNat place * scenario.speedStep) * interval.seconds) := by
  have bearing : halfTurn / 2.0 - (Angle.ofDegrees 90.0).radians = 0.0 := rfl
  rw [← bearing]
  rfl

theorem standard_isAhead {simulation : Simulation} (created : create .standard = .ok simulation)
    (cosine : (0.0 : Float).cos = 1.0) :
    simulation.IsAhead ScenarioSettings.standard.radarRange 0 firstStation (firstStation + 1) := by
  have last := mem_places created 0
    (by decide : 0 < SimulationSettings.standard.scenario.vehicles)
  have next := mem_places created 0
    (by decide : 1 < SimulationSettings.standard.scenario.vehicles)
  have duration : simulation.stepDuration = .ofMillis 100 := by
    rw [stepDuration, scenario_of_create created]
    rfl
  rw [Function.iterate_one, duration] at last next
  refine ⟨_, _, last, next, ?_⟩
  rw [x_driven_startObject, x_driven_startObject, cosine]
  decide +kernel

/-- In the first step of the standard scenario the last vehicle of the column sends, and what
it lists is ahead of it in this very step. The vehicle next to it is listed, provided that the
cosine of zero, with which all positions are reckoned, is one. -/
theorem standard_lists_ahead :
    ∃ simulation, create .standard = .ok simulation ∧
      ∃ cycle ∈ (simulation.trace 0).cycles, cycle.station = firstStation ∧ cycle.sent ≠ [] ∧
        (∀ message ∈ cycle.sent, ∀ record ∈ message.objects,
          simulation.IsAhead ScenarioSettings.standard.radarRange 0 firstStation
            record.object) ∧
        ((0.0 : Float).cos = 1.0 → ∃ message ∈ cycle.sent, ∃ record ∈ message.objects,
          record.object = firstStation + 1) := by
  obtain ⟨simulation, created⟩ : ∃ simulation, create .standard = .ok simulation := ⟨_, rfl⟩
  obtain ⟨message, handed, sender⟩ := exists_handed_standard created rfl rfl
    (mem_places created 0 (by decide : 0 < SimulationSettings.standard.scenario.vehicles))
  obtain ⟨cycle, member, sent⟩ := List.mem_flatMap.mp handed
  have station : cycle.station = firstStation := (sender_of_mem_sent member sent).symm.trans sender
  refine ⟨simulation, created, cycle, member, station, List.ne_nil_of_mem sent, ?_, ?_⟩
  · intro message sent record inside
    have reports := (reports_what_radar_saw created 0).2 cycle member
    obtain ⟨_, earlier, early, _, ahead⟩ := (reports.1 rfl).1 message sent record inside
    rw [Nat.le_zero.mp early, station] at ahead
    exact ahead
  · intro cosine
    obtain ⟨other, among, same, listed⟩ := exists_listed_ahead created rfl rfl (by decide)
      (by decide) (standard_isAhead created cosine)
    rwa [List.inj_on_of_nodup_map (cycles_nodup created 0) member among
      (station.trans same.symm)]

end Simulation

end CollectivePerception
