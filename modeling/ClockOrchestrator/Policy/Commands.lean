import ClockOrchestrator.Policy.Control

namespace ClockOrchestrator

open Python

abbrev OverrideDuration := DurationOption

def manualModeError (controlMode : ControlMode) (manualHvacMode : ManualHvacMode)
    (manualTargetTemperatureC : Option PyFloat) : Option String :=
  if controlMode = .manual ∧ manualHvacMode ≠ .off ∧ manualTargetTemperatureC = none then
    some "manual target temperature is required when manual HVAC is active"
  else none

structure ManualControlCommand where
  commandId : UUID
  controlMode : ControlMode
  manualHvacMode : ManualHvacMode := .off
  manualTargetTemperatureC : Option PyFloat := none
  overrideDuration : OverrideDuration := .minutes60
  manualWaterHeaterEnabled : Option Bool := none
  schemaVersion : ℕ := 1
  validMode : manualModeError controlMode manualHvacMode manualTargetTemperatureC = none
  versionPositive : 1 ≤ schemaVersion

def durationMinutes (duration : OverrideDuration) (policy : AutomationPolicy) :
    Except PyError (Option ℕ) :=
  match duration.minutes with
  | none => .ok none
  | some minutes =>
      if policy.manualOverrideMaxMinutes < minutes then
        .error (.valueError "manual override duration exceeds policy maximum")
      else .ok (some minutes)

def expiryAfter (now : Datetime) (minutes : Option ℕ) : Except PyError (Option Datetime) :=
  match minutes with
  | none => .ok none
  | some minutes => (now.addMinutes minutes).map some

def commandToOverride (command : ManualControlCommand) (policy : AutomationPolicy)
    (now : Datetime) : Except PyError ManualOverride := do
  if command.schemaVersion ≠ 1 then
    throw (.valueError "unsupported command schema version")
  match command.controlMode with
  | .automatic =>
      return {
        controlMode := .automatic
        clockBookingId := none
        hvacMode := .off
        targetTemperatureC := none
        waterHeaterEnabled := none
        expiresAt := none
        checkoutAt := none
        untilCheckout := false
        commandId := command.commandId }
  | .off =>
      let minutes ← durationMinutes command.overrideDuration policy
      let expiresAt ← expiryAfter now minutes
      return {
        controlMode := .off
        clockBookingId := none
        hvacMode := .off
        targetTemperatureC := none
        waterHeaterEnabled := none
        expiresAt := expiresAt
        checkoutAt := none
        untilCheckout := minutes.isNone
        commandId := command.commandId }
  | .manual =>
      let minutes ← durationMinutes command.overrideDuration policy
      let expiresAt ← expiryAfter now minutes
      return {
        controlMode := .manual
        clockBookingId := none
        hvacMode := command.manualHvacMode
        targetTemperatureC := command.manualTargetTemperatureC.map policy.clampTemperature
        waterHeaterEnabled := command.manualWaterHeaterEnabled
        expiresAt := expiresAt
        checkoutAt := none
        untilCheckout := minutes.isNone
        commandId := command.commandId }

namespace ManualControlCommand

def hvacMode (command : ManualControlCommand) : ManualHvacMode :=
  if command.controlMode = .manual then command.manualHvacMode else .off

def target (command : ManualControlCommand) : Option PyFloat :=
  if command.controlMode = .manual then command.manualTargetTemperatureC else none

def waterHeater (command : ManualControlCommand) : Bool :=
  decide (command.controlMode = .manual) && command.manualWaterHeaterEnabled.getD false

theorem target_of_hvacMode {command : ManualControlCommand} (h : command.hvacMode ≠ .off) :
    command.target ≠ none := by
  have hvalid := command.validMode
  unfold hvacMode at h
  split at h
  · next hmanual =>
      intro hnone
      unfold target at hnone
      rw [if_pos hmanual] at hnone
      simp [manualModeError, hmanual, h, hnone] at hvalid
  · exact absurd rfl h

end ManualControlCommand

structure OverrideOf (command : ManualControlCommand) (policy : AutomationPolicy)
    (now : Datetime) (o : ManualOverride) : Prop where
  controlMode : o.controlMode = command.controlMode
  clockBookingId : o.clockBookingId = none
  hvacMode : o.hvacMode = command.hvacMode
  target : o.targetTemperatureC = command.target.map policy.clampTemperature
  waterHeater : o.waterHeaterEnabled.getD false = command.waterHeater
  checkoutAt : o.checkoutAt = none
  untilCheckout : o.untilCheckout = command.overrideDuration.minutes.isNone
  expiresAt : ∀ minutes, command.overrideDuration.minutes = some minutes →
    ∃ expires, now.addMinutes minutes = .ok expires ∧ o.expiresAt = some expires

theorem durationMinutes_ok {duration : OverrideDuration} {policy : AutomationPolicy}
    {minutes : Option ℕ} (h : durationMinutes duration policy = .ok minutes) :
    minutes = duration.minutes := by
  unfold durationMinutes at h
  split at h
  · next hnone =>
      cases h
      exact hnone.symm
  · next m hsome =>
      split at h
      · cases h
      · cases h
        exact hsome.symm

theorem expiryAfter_duration {duration : OverrideDuration} {policy : AutomationPolicy}
    {now : Datetime} {minutes : Option ℕ} {expiresAt : Option Datetime}
    (hminutes : durationMinutes duration policy = .ok minutes)
    (hexpires : expiryAfter now minutes = .ok expiresAt) : ∀ m, duration.minutes = some m →
      ∃ expires, now.addMinutes m = .ok expires ∧ expiresAt = some expires := by
  intro m hsome
  rw [durationMinutes_ok hminutes, hsome] at hexpires
  obtain ⟨expires, hends, hsame⟩ := map_ok hexpires
  exact ⟨expires, hends, hsame.symm⟩

theorem commandToOverride_ok {command : ManualControlCommand} {policy : AutomationPolicy}
    {now : Datetime} {o : ManualOverride} (hmode : command.controlMode ≠ .automatic)
    (h : commandToOverride command policy now = .ok o) : OverrideOf command policy now o := by
  unfold commandToOverride at h
  dsimp only at h
  split at h
  · cases h
  · split at h
    · next hautomatic => exact absurd hautomatic hmode
    · next hoff =>
        obtain ⟨minutes, hminutes, h⟩ := bind_ok h
        obtain ⟨expiresAt, hexpires, h⟩ := bind_ok h
        cases h
        refine ⟨hoff.symm, rfl, ?_, ?_, ?_, rfl, ?_, expiryAfter_duration hminutes hexpires⟩
        · simp [ManualControlCommand.hvacMode, hoff]
        · simp [ManualControlCommand.target, hoff]
        · simp [ManualControlCommand.waterHeater, hoff]
        · exact congrArg Option.isNone (durationMinutes_ok hminutes)
    · next hmanual =>
        obtain ⟨minutes, hminutes, h⟩ := bind_ok h
        obtain ⟨expiresAt, hexpires, h⟩ := bind_ok h
        cases h
        refine ⟨hmanual.symm, rfl, ?_, ?_, ?_, rfl, ?_, expiryAfter_duration hminutes hexpires⟩
        · simp [ManualControlCommand.hvacMode, hmanual]
        · simp [ManualControlCommand.target, hmanual]
        · simp [ManualControlCommand.waterHeater, hmanual]
        · exact congrArg Option.isNone (durationMinutes_ok hminutes)

end ClockOrchestrator
