import ClockOrchestrator.G301Adapter.Planner
import Mathlib.Logic.Function.Basic
import Mathlib.Data.List.Forall2
import Mathlib.Tactic.Linarith

namespace ClockOrchestrator

open Python

def PlanOf (intent : DesiredRoomIntent) (slaveAddress : ℕ) (plan : G301Plan) : Prop :=
  ∃ profile, planRoomIntent intent slaveAddress profile = .ok plan

theorem planRoomIntent_cases {intent : DesiredRoomIntent} {slaveAddress : ℕ}
    {profile : Option G301DeviceProfile} {plan : G301Plan}
    (h : planRoomIntent intent slaveAddress profile = .ok plan) :
    ((intent.hvac.enabled = false ∨ intent.hvac.mode = .off) ∧
      plan = planOfWrites intent slaveAddress
        [⟨G301Register.power.address, 0, "desired HVAC is disabled"⟩]) ∨
    ∃ mode found target, intent.hvac.enabled = true ∧
      modeFromHvacMode intent.hvac.mode = some mode ∧ profile = some found ∧
      validateMode mode found = .ok () ∧
      plannedTarget found intent.hvac.targetTemperatureC = .ok target ∧
      plan = planOfWrites intent slaveAddress
        [⟨G301Register.mode.address, mode.value,
            "desired HVAC mode is " ++ intent.hvac.mode.value⟩,
          ⟨G301Register.setTemperature.address, target, "desired HVAC target temperature"⟩,
          ⟨G301Register.power.address, 1, "desired HVAC is enabled"⟩] := by
  unfold planRoomIntent at h
  split at h
  · cases h
  · split at h
    · next hoff =>
        cases h
        exact .inl ⟨by simpa using hoff, rfl⟩
    · next hon =>
        have henabled : intent.hvac.enabled = true := by
          by_contra hne
          exact hon (by simp [hne])
        split at h
        · cases h
        · next mode hmode =>
            split at h
            · cases h
            · next found =>
                cases hvalid : validateMode mode found with
                | error e =>
                    rw [hvalid] at h
                    cases h
                | ok u =>
                    cases htarget : plannedTarget found intent.hvac.targetTemperatureC with
                    | error e =>
                        rw [hvalid, htarget] at h
                        cases h
                    | ok target =>
                        rw [hvalid, htarget] at h
                        cases h
                        exact .inr ⟨mode, found, target, henabled, hmode, rfl, hvalid, htarget,
                          rfl⟩

theorem planRoomIntent_before_power {intent : DesiredRoomIntent} {slaveAddress : ℕ}
    {profile : Option G301DeviceProfile} {plan : G301Plan} {write : RegisterWrite}
    {earlier later : List RegisterWrite} (h : planRoomIntent intent slaveAddress profile = .ok plan)
    (hwrites : plan.writes = earlier ++ write :: later)
    (haddress : write.address = G301Register.power.address) (hvalue : write.value = 1) :
    ∃ mode found target, modeFromHvacMode intent.hvac.mode = some mode ∧ profile = some found ∧
      validateMode mode found = .ok () ∧
      plannedTarget found intent.hvac.targetTemperatureC = .ok target ∧
      (earlier.map fun w => (w.address, w.value)) = [(G301Register.mode.address, mode.value),
        (G301Register.setTemperature.address, target)] := by
  rcases planRoomIntent_cases h with
    ⟨-, rfl⟩ | ⟨mode, found, target, -, hmode, hprofile, hvalid, htarget, rfl⟩
  · rcases earlier with _ | ⟨_, earlier⟩
    · cases hwrites
      cases hvalue
    · simp [planOfWrites] at hwrites
  · refine ⟨mode, found, target, hmode, hprofile, hvalid, htarget, ?_⟩
    rcases earlier with _ | ⟨first, _ | ⟨second, _ | ⟨third, earlier⟩⟩⟩
    · cases hwrites
      cases haddress
    · cases hwrites
      cases haddress
    · cases hwrites
      rfl
    · simp [planOfWrites] at hwrites

namespace PlanOf

variable {intent : DesiredRoomIntent} {slaveAddress : ℕ} {plan : G301Plan}
  (h : PlanOf intent slaveAddress plan)
include h

theorem eq_planOfWrites : plan = planOfWrites intent slaveAddress plan.writes := by
  obtain ⟨profile, h⟩ := h
  rcases planRoomIntent_cases h with ⟨-, rfl⟩ | ⟨mode, found, target, -, -, -, -, -, rfl⟩
  · rfl
  · rfl

theorem slaveAddress_eq : plan.slaveAddress = slaveAddress := by
  rw [h.eq_planOfWrites]
  rfl

theorem readback_nodup : (plan.readbackExpectations.map (·.address)).Nodup := by
  obtain ⟨profile, h⟩ := h
  rcases planRoomIntent_cases h with ⟨-, rfl⟩ | ⟨mode, found, target, -, -, -, -, -, rfl⟩
  · simp [planOfWrites]
  · simp [planOfWrites, readbackExpectation, G301Register.address]

theorem range : 1 ≤ slaveAddress ∧ slaveAddress ≤ 255 := by
  obtain ⟨profile, hplan⟩ := h
  unfold planRoomIntent at hplan
  split at hplan
  · cases hplan
  · next hrange => exact not_not.mp hrange

end PlanOf

theorem planRoomIntent_off {intent : DesiredRoomIntent} {slaveAddress : ℕ}
    (hrange : 1 ≤ slaveAddress ∧ slaveAddress ≤ 255)
    (hoff : ¬ (intent.hvac.enabled = true ∧ intent.hvac.mode ≠ .off))
    (profile : Option G301DeviceProfile) :
    planRoomIntent intent slaveAddress profile = .ok (planOfWrites intent slaveAddress
      [⟨G301Register.power.address, 0, "desired HVAC is disabled"⟩]) := by
  have hskipped : (!intent.hvac.enabled || decide (intent.hvac.mode = .off)) = true := by
    by_contra hnot
    simp only [Bool.or_eq_true, Bool.not_eq_true', decide_eq_true_eq, not_or] at hnot
    exact hoff ⟨by simpa using hnot.1, hnot.2⟩
  rw [planRoomIntent, if_neg (not_not.mpr hrange), if_pos hskipped]

def G301ModeLimitation.Prohibits (limitation : G301ModeLimitation) (mode : G301Mode) : Prop :=
  (limitation = .heatProhibited ∧ (mode = .heat ∨ mode = .auto)) ∨
    (limitation = .coolDryProhibited ∧ (mode = .cool ∨ mode = .dry ∨ mode = .auto))

theorem validateMode_ok {mode : G301Mode} {profile : G301DeviceProfile}
    (h : validateMode mode profile = .ok ()) : ¬ profile.modeLimitation.Prohibits mode := by
  unfold validateMode at h
  split at h
  · cases h
  · next hheat =>
      split at h
      · cases h
      · next hcool =>
          rintro (hprohibited | hprohibited)
          · exact hheat hprohibited
          · exact hcool hprohibited

theorem buildDeviceProfile_ok {capabilities limitation upper lower : ℤ} {profile : G301DeviceProfile}
    (h : buildDeviceProfile capabilities limitation upper lower = .ok profile) :
    G301ModeLimitation.ofRaw limitation = some profile.modeLimitation ∧
      profile.upperTemperatureC = upper ∧ profile.lowerTemperatureC = lower := by
  unfold buildDeviceProfile at h
  split at h
  · cases h
  · next hlimitation =>
      split at h
      · cases h
      · split at h
        · cases h
        · split at h
          · cases h
          · cases h
            exact ⟨hlimitation, rfl, rfl⟩

theorem plannedTarget_ok {profile : G301DeviceProfile} {target : Option PyFloat} {raw : ℤ}
    (h : plannedTarget profile target = .ok raw) :
    ∃ celsius, target = some (.finite celsius) ∧
      raw = roundHalfEven (celsius * 10).num (celsius * 10).den ∧
      10 * profile.lowerTemperatureC ≤ raw ∧ raw ≤ 10 * profile.upperTemperatureC := by
  unfold plannedTarget at h
  split at h
  · cases h
  · next value =>
      split at h
      · cases h
      · next hlimits =>
          cases value with
          | infinite _ => simp [encodeSetTemperatureC] at h
          | nan => simp [encodeSetTemperatureC] at h
          | finite celsius =>
              simp only [PyFloat.le, Bool.not_eq_true', Bool.not_eq_false, Bool.and_eq_true,
                decide_eq_true_eq] at hlimits
              simp only [encodeSetTemperatureC] at h
              split at h
              · next raw' hraw =>
                  split at hraw
                  · cases hraw
                    cases h
                    obtain ⟨hlower, hupper⟩ := hlimits
                    refine ⟨celsius, rfl, rfl, le_roundHalfEven_of_le ?_, roundHalfEven_le_of_le ?_⟩
                    · push_cast
                      linarith
                    · push_cast
                      linarith
                  · cases hraw
              · cases h

def recordObserved : Observed → List ReadbackExpectation → List ℤ → Observed
  | observed, expectation :: rest, value :: values =>
      recordObserved (Function.update observed expectation.address (some value)) rest values
  | observed, _, _ => observed

theorem recordObserved_of_notMem {expectations : List ReadbackExpectation} {address : ℕ}
    (h : address ∉ expectations.map (·.address)) (observed : Observed) (values : List ℤ) :
    recordObserved observed expectations values address = observed address := by
  induction expectations generalizing observed values with
  | nil => cases values <;> rfl
  | cons expectation rest ih =>
      rw [List.map_cons, List.mem_cons, not_or] at h
      cases values with
      | nil => rfl
      | cons value values =>
          rw [recordObserved, ih h.2, Function.update_of_ne h.1]

theorem recordObserved_matches {expectations : List ReadbackExpectation} {values : List ℤ}
    (hnodup : (expectations.map (·.address)).Nodup)
    (hlength : expectations.length = values.length) (observed : Observed) :
    (∀ e ∈ expectations, recordObserved observed expectations values e.address = some e.expected) ↔
      values = expectations.map (·.expected) := by
  induction expectations generalizing observed values with
  | nil =>
      cases values with
      | nil => simp
      | cons value values => cases hlength
  | cons expectation rest ih =>
      cases values with
      | nil => cases hlength
      | cons value values =>
          rw [List.map_cons, List.nodup_cons] at hnodup
          rw [List.forall_mem_cons, List.map_cons, List.cons.injEq, recordObserved,
            recordObserved_of_notMem hnodup.1, Function.update_self, Option.some.injEq,
            ih hnodup.2 (Nat.succ.inj hlength)]

theorem compareReadback_eq_nil {plan : G301Plan} {observed : Observed} :
    compareReadback plan observed = [] ↔
      ∀ e ∈ plan.readbackExpectations, observed e.address = some e.expected := by
  unfold compareReadback
  rw [List.filterMap_eq_nil_iff]
  refine forall₂_congr fun e _ => ?_
  by_cases h : observed e.address = some e.expected
  · simp [h]
  · simp [h]

end ClockOrchestrator
