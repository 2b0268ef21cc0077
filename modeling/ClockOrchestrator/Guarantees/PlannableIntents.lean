import ClockOrchestrator.Guarantees.DelayedDevice
import ClockOrchestrator.Guarantees.TargetBounds

namespace ClockOrchestrator

open Python

def hvacDemand (policy : AutomationPolicy) (override : Option ManualOverride) :
    AutomationPhase → Option (ManualHvacMode × PyFloat)
  | .vacant => some (.heat, policy.vacantHeatingSetbackC)
  | .preArrival => some (.heat, policy.defaultHeatingTargetC)
  | .occupied | .checkoutDue => some (.auto, policy.clampTemperature policy.defaultHeatingTargetC)
  | .manualOverride => override.bind fun o =>
      if o.hvacMode = .off then none
      else o.targetTemperatureC.map fun target => (o.hvacMode, policy.clampTemperature target)
  | _ => none

def HvacIntent.Meets (hvac : HvacIntent) : Option (ManualHvacMode × PyFloat) → Prop
  | none => hvac.enabled = false
  | some (mode, target) =>
      hvac.enabled = true ∧ hvac.mode = mode ∧ hvac.targetTemperatureC = some target

def G301DeviceProfile.WasRead (profile : G301DeviceProfile) : Prop :=
  ∃ capabilities limitation upper lower,
    buildDeviceProfile capabilities limitation upper lower = .ok profile

def G301DeviceProfile.Accepts (profile : G301DeviceProfile) (mode : ManualHvacMode)
    (target : PyFloat) : Prop :=
  (∃ wanted, modeFromHvacMode mode = some wanted ∧ ¬ profile.modeLimitation.Prohibits wanted) ∧
    ∃ celsius : ℚ, target = .finite celsius ∧ profile.lowerTemperatureC ≤ celsius ∧
      celsius ≤ profile.upperTemperatureC

def G301Plan.registers (plan : G301Plan) : List (ℕ × ℤ) :=
  plan.writes.map fun write => (write.address, write.value)

def CarriesOut : Option (ManualHvacMode × PyFloat) → List (ℕ × ℤ) → Prop
  | none, registers => registers = [(G301Register.power.address, 0)]
  | some (mode, target), registers =>
      ∃ (wanted : G301Mode) (celsius : ℚ) (raw : ℤ), modeFromHvacMode mode = some wanted ∧
        target = .finite celsius ∧ |(raw : ℚ) - celsius * 10| ≤ 1 / 2 ∧
        registers = [(G301Register.mode.address, wanted.value),
          (G301Register.setTemperature.address, raw), (G301Register.power.address, 1)]

section Decision

variable {policy : HotelPolicy} {state : RoomStateEvaluation} {override : Option ManualOverride}
  {correlationId : UUID} {intent : DesiredRoomIntent}

theorem HvacIntent.validate_eq {enabled : Bool} {mode : ManualHvacMode} {target : Option PyFloat}
    {hvac : HvacIntent} (h : HvacIntent.validate enabled mode target = .ok hvac) :
    hvac.enabled = enabled ∧ hvac.mode = mode ∧ hvac.targetTemperatureC = target := by
  unfold HvacIntent.validate at h
  split at h
  · cases h
    exact ⟨rfl, rfl, rfl⟩
  · cases h

theorem built_hvac {enabled : Bool} {mode : ManualHvacMode} {target : Option PyFloat}
    {controlMode : ControlMode} {waterHeater convectors : Bool} {reason : String}
    (h : (HvacIntent.validate enabled mode target >>= fun hvac =>
      buildIntent policy.zone state controlMode hvac waterHeater convectors reason
        correlationId) = .ok intent) :
    intent.hvac.enabled = enabled ∧ intent.hvac.mode = mode ∧
      intent.hvac.targetTemperatureC = target := by
  obtain ⟨hvac, hvalid, hbuild⟩ := bind_ok h
  unfold buildIntent at hbuild
  rw [validate_ok hbuild]
  exact HvacIntent.validate_eq hvalid

theorem automaticIntent_meets (h : automaticIntent policy state correlationId = .ok intent)
    (hfree : state.phase = .manualOverride → override = none) :
    intent.hvac.Meets (hvacDemand policy.automation override state.phase) := by
  cases hphase : state.phase with
  | vacant =>
      simp only [automaticIntent, vacantIntent, hphase, suppressAutomationPhases] at h
      exact built_hvac h
  | preArrival =>
      simp only [automaticIntent, arrivalIntent, hphase, suppressAutomationPhases] at h
      exact built_hvac h
  | occupied | checkoutDue =>
      simp only [automaticIntent, occupiedIntent, hphase, suppressAutomationPhases] at h
      exact built_hvac h
  | manualOverride =>
      simp only [automaticIntent, suppressedIntent, hphase, suppressAutomationPhases] at h
      rw [hfree hphase]
      exact (built_hvac h).1
  | reserved =>
      simp only [automaticIntent, arrivalIntent, hphase, suppressAutomationPhases] at h
      exact (built_hvac h).1
  | awaitingAssignment | disabled | conflict | unknown =>
      simp only [automaticIntent, suppressedIntent, hphase, suppressAutomationPhases] at h
      exact (built_hvac h).1

theorem overrideIntent_meets {o : ManualOverride}
    (h : overrideIntent policy state o correlationId = .ok intent) :
    intent.hvac.Meets (hvacDemand policy.automation (some o) .manualOverride) := by
  obtain ⟨henabled, hmode, htarget⟩ := built_hvac h
  by_cases hoff : o.hvacMode = .off
  · simpa [hvacDemand, hoff, HvacIntent.Meets] using henabled
  · have hon : intent.hvac.enabled = true := by simpa [hoff] using henabled
    obtain ⟨target, hsome⟩ := HvacIntent.target_isSome hon
    rw [htarget] at hsome
    obtain ⟨asked, hasked, rfl⟩ := Option.map_eq_some_iff.mp hsome
    rw [hvacDemand, Option.bind_some, if_neg hoff, hasked]
    exact ⟨hon, hmode, htarget.trans hsome⟩

theorem deriveRoomIntent_meets
    (h : deriveRoomIntent state policy override correlationId = .ok (some intent)) :
    intent.hvac.Meets (hvacDemand policy.automation override state.phase) := by
  unfold deriveRoomIntent at h
  split at h
  · cases h
  · split at h
    · next o hphase =>
        obtain ⟨built, hbuilt, hsome⟩ := map_ok h
        cases hsome
        rw [hphase]
        exact overrideIntent_meets hbuilt
    · next hother =>
        obtain ⟨built, hbuilt, hsome⟩ := map_ok h
        cases hsome
        refine automaticIntent_meets hbuilt fun hphase => ?_
        exact Option.eq_none_iff_forall_ne_some.mpr fun o ho => hother o hphase ho

end Decision

section Unit

variable {profile : G301DeviceProfile} {intent : DesiredRoomIntent} {slaveAddress : ℕ}
  {mode : ManualHvacMode} {target : PyFloat}

theorem validateMode_ok_iff {wanted : G301Mode} :
    validateMode wanted profile = .ok () ↔ ¬ profile.modeLimitation.Prohibits wanted := by
  refine ⟨validateMode_ok, fun h => ?_⟩
  rw [G301ModeLimitation.Prohibits, not_or] at h
  rw [validateMode, if_neg h.1, if_neg h.2]

theorem plannedTarget_of_within (hread : profile.WasRead) {celsius : ℚ}
    (hlower : profile.lowerTemperatureC ≤ celsius) (hupper : celsius ≤ profile.upperTemperatureC) :
    plannedTarget profile (some (.finite celsius)) =
      .ok (roundHalfEven (celsius * 10).num (celsius * 10).den) := by
  obtain ⟨capabilities, limitation, upper, lower, hbuilt⟩ := hread
  obtain ⟨hleast, hmost⟩ := buildDeviceProfile_limits hbuilt
  have hrange : 16 ≤ celsius ∧ celsius ≤ 31 :=
    ⟨le_trans (by exact_mod_cast hleast) hlower, le_trans hupper (by exact_mod_cast hmost)⟩
  simp [plannedTarget, PyFloat.le, hlower, hupper, encodeSetTemperatureC, hrange]

theorem plannedTarget_within {raw : ℤ} (h : plannedTarget profile (some target) = .ok raw) :
    ∃ celsius : ℚ, target = .finite celsius ∧ profile.lowerTemperatureC ≤ celsius ∧
      celsius ≤ profile.upperTemperatureC := by
  obtain ⟨celsius, htarget, -, -, -⟩ := plannedTarget_ok h
  cases htarget
  refine ⟨celsius, rfl, ?_⟩
  simp only [plannedTarget] at h
  split at h
  · cases h
  · next hwithin => simpa [PyFloat.le] using hwithin

theorem planRoomIntent_carriesOut {found : Option G301DeviceProfile} {plan : G301Plan}
    {demand : Option (ManualHvacMode × PyFloat)} (hmeets : intent.hvac.Meets demand)
    (h : planRoomIntent intent slaveAddress found = .ok plan) :
    CarriesOut demand plan.registers ∧ ∀ mode target, demand = some (mode, target) →
      ∃ profile, found = some profile ∧ profile.Accepts mode target := by
  rcases planRoomIntent_cases h with
    ⟨hoff, rfl⟩ | ⟨wanted, profile, raw, henabled, hmode, hfound, hvalid, htarget, rfl⟩
  · cases demand with
    | none => exact ⟨rfl, fun _ _ hnone => by cases hnone⟩
    | some asked =>
        obtain ⟨henabled, hmode, htarget⟩ := hmeets
        have hvalidState := intent.hvac.validState
        rcases hoff with hoff | hoff
        · rw [hoff] at henabled
          cases henabled
        · simp [hvacStateError, henabled, hoff] at hvalidState
  · cases demand with
    | none =>
        have hdisabled : intent.hvac.enabled = false := hmeets
        rw [hdisabled] at henabled
        cases henabled
    | some asked =>
        obtain ⟨-, hasked, hgiven⟩ := hmeets
        rw [hasked] at hmode
        rw [hgiven] at htarget
        obtain ⟨celsius, hcelsius, hraw, -, -⟩ := plannedTarget_ok htarget
        refine ⟨⟨wanted, celsius, raw, hmode, Option.some.inj hcelsius, ?_, rfl⟩, ?_⟩
        · rw [hraw]
          exact abs_roundHalfEven_sub_le (celsius * 10)
        · intro mode target hdemand
          cases hdemand
          exact ⟨profile, hfound, ⟨wanted, hmode, validateMode_ok hvalid⟩,
            plannedTarget_within htarget⟩

theorem planRoomIntent_of_accepted (hrange : 1 ≤ slaveAddress ∧ slaveAddress ≤ 255)
    (hmeets : intent.hvac.Meets (some (mode, target))) (hread : profile.WasRead)
    (haccepts : profile.Accepts mode target) :
    ∃ plan, planRoomIntent intent slaveAddress (some profile) = .ok plan := by
  obtain ⟨henabled, hmode, htarget⟩ := hmeets
  obtain ⟨⟨wanted, hwanted, hallowed⟩, celsius, rfl, hlower, hupper⟩ := haccepts
  have hon : ¬ (!intent.hvac.enabled || decide (intent.hvac.mode = .off)) = true := by
    rw [henabled, hmode]
    cases mode with
    | off => cases hwanted
    | heat | cool | auto => simp
  rw [planRoomIntent, if_neg (not_not.mpr hrange), if_neg hon, hmode, hwanted, htarget]
  simp only [validateMode_ok_iff.mpr hallowed, plannedTarget_of_within hread hlower hupper]
  exact ⟨_, rfl⟩

end Unit

theorem decision_is_plannable_iff {state : RoomStateEvaluation} {policy : HotelPolicy}
    {override : Option ManualOverride} {correlationId : UUID} {intent : DesiredRoomIntent}
    {slaveAddress : ℕ} {found : Option G301DeviceProfile}
    (hintent : deriveRoomIntent state policy override correlationId = .ok (some intent))
    (hrange : 1 ≤ slaveAddress ∧ slaveAddress ≤ 255)
    (hread : ∀ profile, found = some profile → profile.WasRead) :
    ((∃ plan, planRoomIntent intent slaveAddress found = .ok plan) ↔
      ∀ mode target, hvacDemand policy.automation override state.phase = some (mode, target) →
        ∃ profile, found = some profile ∧ profile.Accepts mode target) ∧
    ∀ plan, planRoomIntent intent slaveAddress found = .ok plan →
      CarriesOut (hvacDemand policy.automation override state.phase) plan.registers := by
  have hmeets := deriveRoomIntent_meets hintent
  refine ⟨⟨?_, fun haccepted => ?_⟩, fun plan hplan => (planRoomIntent_carriesOut hmeets hplan).1⟩
  · rintro ⟨plan, hplan⟩
    exact (planRoomIntent_carriesOut hmeets hplan).2
  · cases hdemand : hvacDemand policy.automation override state.phase with
    | none =>
        rw [hdemand] at hmeets
        have hdisabled : intent.hvac.enabled = false := hmeets
        exact ⟨_, planRoomIntent_off hrange (fun hon => by simp [hdisabled] at hon) found⟩
    | some asked =>
        rw [hdemand] at hmeets
        obtain ⟨profile, rfl, haccepts⟩ := haccepted asked.1 asked.2 hdemand
        exact planRoomIntent_of_accepted hrange hmeets (hread profile rfl) haccepts

def demoProfile (lower : ℤ) : G301DeviceProfile :=
  ⟨parseCapabilities 0, .none, lower, 30⟩

theorem setback_depends_on_the_unit :
    ∃ state intent, evaluateRoom room214 [] (.utc (demoInstant 14 0)) defaultPolicy none =
        .ok state ∧
      deriveRoomIntent state defaultPolicy none 1000 = .ok (some intent) ∧
      (∃ plan, planRoomIntent intent 14 (some (demoProfile 16)) = .ok plan) ∧
      ¬ ∃ plan, planRoomIntent intent 14 (some (demoProfile 18)) = .ok plan := by
  obtain ⟨intent, hintent⟩ := Option.isSome_iff_exists.mp
    (show (((evaluateRoom room214 [] (.utc (demoInstant 14 0)) defaultPolicy none).toOption.filter
      (·.phase = .vacant)).bind fun state =>
        (deriveRoomIntent state defaultPolicy none 1000).toOption.join).isSome = true by
      decide +kernel)
  obtain ⟨state, hstate, hderived⟩ := Option.bind_eq_some_iff.mp hintent
  obtain ⟨hevaluated, hphase⟩ := Option.filter_eq_some_iff.mp hstate
  have hvacant : state.phase = .vacant := by simpa using hphase
  have hdecided := toOption_eq_some.mp (Option.join_eq_some_iff.mp hderived)
  have hread : ∀ {lower}, buildDeviceProfile 0 0 30 lower = .ok (demoProfile lower) →
      ∀ profile, some (demoProfile lower) = some profile → profile.WasRead :=
    fun hlower profile hprofile => Option.some.inj hprofile ▸ ⟨0, 0, 30, _, hlower⟩
  have hplannable := fun lower hlower =>
    (decision_is_plannable_iff hdecided (show 1 ≤ 14 ∧ 14 ≤ 255 by decide)
      (@hread lower hlower)).1
  refine ⟨state, intent, toOption_eq_some.mp hevaluated, hdecided, ?_, ?_⟩
  · refine (hplannable 16 rfl).mpr fun mode target hdemand => ?_
    rw [hvacant] at hdemand
    cases hdemand
    refine ⟨_, rfl, ⟨.heat, rfl, ?_⟩, 16, rfl, ?_, ?_⟩
    · simp [demoProfile, G301ModeLimitation.Prohibits]
    · norm_num [demoProfile]
    · norm_num [demoProfile]
  · intro hplan
    obtain ⟨profile, hprofile, -, celsius, hcelsius, hlower, -⟩ :=
      (hplannable 18 rfl).mp hplan .heat (.finite 16) (by rw [hvacant]; rfl)
    cases hprofile
    cases hcelsius
    norm_num [demoProfile] at hlower

end ClockOrchestrator
