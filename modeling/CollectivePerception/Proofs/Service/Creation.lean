/-
This file says which settings a service is created from and what the new service is
(`create_eq_ok_iff`). The checks of the settings that are made in a row are all passed
exactly if each of them is.
-/

import CollectivePerception.Service.State

namespace CollectivePerception

/-- A computation in two steps succeeds if both steps do. -/
theorem Except.bind_eq_ok_iff {Error First Second : Type} {first : Except Error First}
    {next : First → Except Error Second} {result : Second} :
    (first >>= next) = .ok result ↔
      ∃ intermediate, first = .ok intermediate ∧ next intermediate = .ok result := by
  cases first with
  | error cause => simp [bind, Except.bind]
  | ok intermediate => simp [bind, Except.bind]

theorem requireSetting_eq_ok_iff {condition : Bool} {name : String} {fault : SettingFault}
    {result : Unit} : requireSetting condition name fault = .ok result ↔ condition = true := by
  unfold requireSetting
  cases condition <;> simp

theorem ServiceSettings.validate_eq_ok_iff {settings : ServiceSettings} :
    settings.validate = .ok () ↔
      settings.minimumIntervalMillis ≠ 0 ∧
        settings.minimumIntervalMillis ≤ settings.maximumIntervalMillis ∧
        settings.sensorIntervalMillis ≠ 0 ∧ settings.sizeLimit ≠ 0 ∧
        (settings.redundancyLoad.isFinite && 0.0 ≤ settings.redundancyLoad &&
          settings.redundancyLoad ≤ 1.0) = true ∧
        settings.trackedCategory.isOnBoard = true := by
  simp only [validate, Except.bind_eq_ok_iff, requireSetting_eq_ok_iff, exists_const,
    bne_iff_ne, decide_eq_true_eq]

namespace Service

theorem requireFacility_eq_ok_iff {required present : Bool} {facility : Facility}
    {result : Unit} :
    requireFacility required present facility = .ok result ↔
      (required = true → present = true) := by
  unfold requireFacility
  cases required <;> cases present <;> simp

/-- A service is created exactly if its settings pass all checks, the facilities that they
require are there, and its rules can be built. -/
theorem create_eq_ok_iff {settings : ServiceSettings} {facilities : Facilities} {now : Instant}
    {service : Service} :
    create settings facilities now = .ok service ↔
      settings.validate = .ok () ∧
        (settings.restricted = true → facilities.hasThrottle = true) ∧
        (settings.loadDependent = true → facilities.hasProbe = true) ∧
        ∃ rule, settings.selection.build = .ok rule ∧
          ∃ chain, RedundancySettings.buildChain settings.redundancy = .ok chain ∧
            service =
              { settings := settings
                facilities := facilities
                rule := rule
                chain := chain
                clock := ⟨settings.epochOffset⟩
                tracking := .empty
                remote := .empty
                lastSent := now
                lastDescribed := now.before settings.sensorInterval } := by
  simp only [create, Except.bind_eq_ok_iff, requireFacility_eq_ok_iff, exists_const, pure,
    Except.pure, Except.ok.injEq, @eq_comm _ _ service]
  exact ⟨fun ⟨_, rest⟩ => rest, fun rest => ⟨(), rest⟩⟩

/-- A new service tracks nothing and knows no other station. -/
theorem state_of_create {settings : ServiceSettings} {facilities : Facilities} {now : Instant}
    {service : Service} (created : create settings facilities now = .ok service) :
    service.settings = settings ∧ service.facilities = facilities ∧
      service.tracking = .empty ∧ service.remote = .empty ∧ service.lastSent = now ∧
      service.lastDescribed = now.before settings.sensorInterval := by
  obtain ⟨_, _, _, rule, _, chain, _, rfl⟩ := create_eq_ok_iff.mp created
  exact ⟨rfl, rfl, rfl, rfl, rfl, rfl⟩

end Service

end CollectivePerception
