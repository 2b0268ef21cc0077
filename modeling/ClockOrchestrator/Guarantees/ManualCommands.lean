import ClockOrchestrator.Policy.Commands
import ClockOrchestrator.Policy.Totality
import ClockOrchestrator.Domain.EvaluationCases
import ClockOrchestrator.Runtime

namespace ClockOrchestrator

open Python

structure Commanded (command : ManualControlCommand) (intent : DesiredRoomIntent) : Prop where
  controlMode : intent.controlMode = command.controlMode
  hvacMode : intent.hvac.mode = command.hvacMode
  hvacEnabled : intent.hvac.enabled = decide (command.hvacMode ≠ .off)
  waterHeater : intent.waterHeater.enabled = command.waterHeater
  convectors : intent.convectors.enabled = decide (command.hvacMode ≠ .off)

def TakesEffect (command : ManualControlCommand) (o : ManualOverride) (room : Room)
    (bookings : List NormalizedBooking) (now : Datetime) (policy : HotelPolicy)
    (correlationId : UUID) : Prop :=
  ∃ state, evaluateRoom room bookings now policy (some o) = .ok state ∧
    state.phase = .manualOverride ∧
    ∃ intent, deriveRoomIntent state policy (some o) correlationId = .ok (some intent) ∧
      Commanded command intent

theorem DurationOption.minutes_pos {duration : DurationOption} {minutes : ℕ}
    (h : duration.minutes = some minutes) : 0 < minutes := by
  cases duration with
  | untilCheckout => cases h
  | minutes60 | minutes240 | minutes720 =>
      cases h
      decide

theorem DurationOption.minutes_eq_none {duration : DurationOption} :
    duration.minutes = none ↔ duration = .untilCheckout := by
  cases duration <;> decide

theorem hvacIntent_validate_eq {enabled : Bool} {mode : ManualHvacMode} {target : Option PyFloat}
    {hvac : HvacIntent} (h : HvacIntent.validate enabled mode target = .ok hvac) :
    hvacStateError enabled mode target = none ∧ hvac.enabled = enabled ∧ hvac.mode = mode := by
  unfold HvacIntent.validate at h
  split at h
  · next hvalid =>
      cases h
      exact ⟨hvalid, rfl, rfl⟩
  · cases h

theorem buildIntent_unnamed {z : Zone} {state : RoomStateEvaluation}
    (hkey : state.roomKey.getD "" = "") (mode : ControlMode) (hvac : HvacIntent)
    (waterHeater convectors : Bool) (reason : String) (correlationId : UUID) :
    buildIntent z state mode hvac waterHeater convectors reason correlationId =
      .error (.valueError "String should have at least 1 character") := by
  unfold buildIntent DesiredRoomIntent.validate
  rw [if_pos hkey]

def manualState (room : Room) (selected : NormalizedBooking) (now : Datetime)
    (o : ManualOverride) : RoomStateEvaluation :=
  quietState room .manualOverride (some selected) "valid_manual_override_active" now o.expiresAt

namespace OverrideOf

variable {command : ManualControlCommand} {policy : HotelPolicy} {now : Datetime}
  {o : ManualOverride}

theorem isActive_iff (ho : OverrideOf command policy.automation now o)
    (hmode : command.controlMode ≠ .automatic) (z : Zone) (clockBookingId : Option String) :
    o.isActive z now clockBookingId = true ↔ command.overrideDuration ≠ .untilCheckout := by
  have hcontrol : o.controlMode ≠ .automatic := by
    rw [ho.controlMode]
    exact hmode
  have htimed : command.overrideDuration ≠ .untilCheckout ↔
      command.overrideDuration.minutes ≠ none := DurationOption.minutes_eq_none.not.symm
  unfold ManualOverride.isActive
  rw [if_neg hcontrol, ho.untilCheckout, htimed]
  cases hminutes : command.overrideDuration.minutes with
  | none => simp [ho.clockBookingId, ho.checkoutAt]
  | some minutes =>
      obtain ⟨expires, hexpires, hends⟩ := ho.expiresAt minutes hminutes
      have hlater := Datetime.lt_addMinutes (z := z) (DurationOption.minutes_pos hminutes) hexpires
      simp [hends, hlater]

theorem windowOpen (ho : OverrideOf command policy.automation now o)
    (htimed : command.overrideDuration ≠ .untilCheckout) (room : Room)
    (selected : NormalizedBooking) : WindowOpen policy.zone (manualState room selected now o) := by
  have hminutes : command.overrideDuration.minutes ≠ none :=
    DurationOption.minutes_eq_none.not.mpr htimed
  obtain ⟨minutes, hminutes⟩ := Option.ne_none_iff_exists'.mp hminutes
  obtain ⟨expires, hexpires, hends⟩ := ho.expiresAt minutes hminutes
  refine (windowOpen_some hends).mpr ?_
  exact Datetime.lt_addMinutes (DurationOption.minutes_pos hminutes) hexpires

theorem hvacState_valid_iff (ho : OverrideOf command policy.automation now o) :
    hvacStateError (o.hvacMode ≠ .off) o.hvacMode
      (o.targetTemperatureC.map policy.automation.clampTemperature) = none ↔
    (command.hvacMode = .off → command.target = none) := by
  rw [ho.hvacMode, ho.target]
  unfold hvacStateError
  by_cases hoff : command.hvacMode = .off
  · cases command.target <;> simp [hoff]
  · have htarget := command.target_of_hvacMode hoff
    cases hsome : command.target with
    | none => exact absurd hsome htarget
    | some target => simp [hoff]

theorem derives_iff {room : Room} {selected : NormalizedBooking}
    (ho : OverrideOf command policy.automation now o) (correlationId : UUID)
    (hopen : WindowOpen policy.zone (manualState room selected now o)) :
    (∃ intent, overrideIntent policy (manualState room selected now o) o correlationId =
      .ok intent) ↔
    (command.hvacMode = .off → command.target = none) ∧ room.key ≠ "" := by
  rw [← ho.hvacState_valid_iff]
  constructor
  · rintro ⟨intent, hintent⟩
    obtain ⟨hvac, hvalid, hbuilt⟩ := bind_ok hintent
    refine ⟨(hvacIntent_validate_eq hvalid).1, fun hkey => ?_⟩
    rw [buildIntent_unnamed (by simpa [manualState, quietState] using hkey)] at hbuilt
    cases hbuilt
  · rintro ⟨hvalid, hkey⟩
    have hnamed : WellNamed (manualState room selected now o) :=
      quietState_wellNamed hkey (by decide) ..
    unfold overrideIntent
    rw [hvacIntent_validate_ok hvalid]
    exact (buildIntent_isOk_iff hnamed hnamed.2 _ _ _ _ _).mpr hopen

theorem commanded {state : RoomStateEvaluation} {correlationId : UUID}
    {intent : DesiredRoomIntent} (ho : OverrideOf command policy.automation now o)
    (h : overrideIntent policy state o correlationId = .ok intent) : Commanded command intent := by
  obtain ⟨hvac, hvalid, hbuilt⟩ := bind_ok h
  obtain ⟨henabled, hmode⟩ := (hvacIntent_validate_eq hvalid).2
  unfold buildIntent at hbuilt
  rw [validate_ok hbuilt]
  refine ⟨ho.controlMode, ?_, ?_, ho.waterHeater, ?_⟩
  · exact hmode.trans ho.hvacMode
  · exact henabled.trans (by rw [ho.hvacMode])
  · exact congrArg (fun mode => decide (mode ≠ ManualHvacMode.off)) ho.hvacMode

end OverrideOf

theorem Drives.evaluateRoom_manual {room : Room} {bookings : List NormalizedBooking}
    {now : Datetime} {policy : HotelPolicy} {selected : NormalizedBooking} {o : ManualOverride}
    (hd : Drives room bookings now policy selected)
    (ha : o.isActive policy.zone now (some selected.clockBookingId) = true) :
    evaluateRoom room bookings now policy (some o) = .ok (manualState room selected now o) := by
  have hactive : overrideActive policy (some o) now selected = some o := by
    simp [overrideActive, Option.filter, ha]
  simp [evaluateRoom, evaluateCandidates, hd.enabled, hd.known, hd.noConflict, hd.selected,
    hactive, manualState]

theorem Drives.active_of_manual {room : Room} {bookings : List NormalizedBooking}
    {now : Datetime} {policy : HotelPolicy} {selected : NormalizedBooking} {o : ManualOverride}
    {state : RoomStateEvaluation} (hd : Drives room bookings now policy selected)
    (h : evaluateRoom room bookings now policy (some o) = .ok state)
    (hphase : state.phase = .manualOverride) :
    o.isActive policy.zone now (some selected.clockBookingId) = true := by
  obtain ⟨selected', o', hd', ho', hactive, -⟩ := ClockOrchestrator.evaluateRoom_manual h hphase
  have hsame := hd'.selected.symm.trans hd.selected
  cases hsame
  cases ho'
  exact hactive

theorem deriveRoomIntent_manual (room : Room) (selected : NormalizedBooking) (now : Datetime)
    (o : ManualOverride) (policy : HotelPolicy) (correlationId : UUID) :
    deriveRoomIntent (manualState room selected now o) policy (some o) correlationId =
      (overrideIntent policy (manualState room selected now o) o correlationId).map some := rfl

theorem command_takes_effect_iff {command : ManualControlCommand} {policy : HotelPolicy}
    {now : Datetime} {o : ManualOverride} {room : Room} {bookings : List NormalizedBooking}
    {selected : NormalizedBooking} (hmode : command.controlMode ≠ .automatic)
    (hcommand : commandToOverride command policy.automation now = .ok o)
    (hd : Drives room bookings now policy selected) (correlationId : UUID) :
    TakesEffect command o room bookings now policy correlationId ↔
      command.overrideDuration ≠ .untilCheckout ∧
      (command.controlMode = .manual → command.manualHvacMode = .off →
        command.manualTargetTemperatureC = none) ∧
      room.key ≠ "" := by
  have ho := commandToOverride_ok hmode hcommand
  have htarget : (command.hvacMode = .off → command.target = none) ↔
      (command.controlMode = .manual → command.manualHvacMode = .off →
        command.manualTargetTemperatureC = none) := by
    unfold ManualControlCommand.hvacMode ManualControlCommand.target
    by_cases hmanual : command.controlMode = .manual
    · simp [hmanual]
    · simp [hmanual]
  rw [← htarget]
  have hactive_iff := ho.isActive_iff hmode policy.zone (some selected.clockBookingId)
  constructor
  · rintro ⟨state, hstate, hphase, intent, hintent, -⟩
    have hactive := hd.active_of_manual hstate hphase
    rw [hd.evaluateRoom_manual hactive, Except.ok.injEq] at hstate
    subst hstate
    rw [deriveRoomIntent_manual] at hintent
    obtain ⟨built, hbuilt, -⟩ := map_ok hintent
    have htimed := hactive_iff.mp hactive
    have hopen := ho.windowOpen htimed room selected
    exact ⟨htimed, (ho.derives_iff correlationId hopen).mp ⟨built, hbuilt⟩⟩
  · rintro ⟨htimed, hderives⟩
    have hopen := ho.windowOpen htimed room selected
    obtain ⟨intent, hintent⟩ := (ho.derives_iff correlationId hopen).mpr hderives
    refine ⟨manualState room selected now o, hd.evaluateRoom_manual (hactive_iff.mpr htimed), rfl,
      intent, ?_, ho.commanded hintent⟩
    rw [deriveRoomIntent_manual, hintent]
    rfl

def demoHeatCommand (overrideDuration : OverrideDuration) : ManualControlCommand where
  commandId := 1
  controlMode := .manual
  manualHvacMode := .heat
  manualTargetTemperatureC := some (.finite 22)
  overrideDuration := overrideDuration
  validMode := rfl
  versionPositive := le_rfl

def demoHeatOverride (expiresAt : Option Datetime) : ManualOverride where
  controlMode := .manual
  clockBookingId := none
  hvacMode := .heat
  targetTemperatureC := some (.finite 22)
  waterHeaterEnabled := none
  expiresAt := expiresAt
  checkoutAt := none
  untilCheckout := expiresAt.isNone
  commandId := 1

def demoHotelNow : Datetime := .inZone sofiaWinterTime (demoInstant 8 30)

theorem demoStay_drives : Drives room214 [demoStay] demoHotelNow defaultPolicy demoStay :=
  ⟨rfl, by decide, by decide, by decide⟩

theorem timed_heat_command_takes_effect :
    TakesEffect (demoHeatCommand .minutes60)
      (demoHeatOverride (some (.inZone sofiaWinterTime (demoInstant 9 30))))
      room214 [demoStay] demoHotelNow defaultPolicy 7 :=
  (command_takes_effect_iff (by decide) (by decide +kernel) demoStay_drives 7).mpr
    ⟨by decide, by decide, by decide⟩

theorem heat_command_until_checkout_is_ignored :
    ¬ ∀ (command : ManualControlCommand) (policy : HotelPolicy) (now : Datetime)
        (o : ManualOverride) (room : Room) (bookings : List NormalizedBooking)
        (selected : NormalizedBooking) (correlationId : UUID),
      command.controlMode ≠ .automatic →
      commandToOverride command policy.automation now = .ok o →
      Drives room bookings now policy selected →
        TakesEffect command o room bookings now policy correlationId := by
  intro h
  obtain ⟨state, hstate, hphase, -⟩ := h (demoHeatCommand .untilCheckout) defaultPolicy demoHotelNow
    (demoHeatOverride none) room214 [demoStay] demoStay 7 (by decide) (by decide +kernel)
    demoStay_drives
  have hreserved : evaluateRoom room214 [demoStay] demoHotelNow defaultPolicy
      (some (demoHeatOverride none)) = .ok (quietState room214 .reserved (some demoStay)
        "future_assigned_reservation_outside_preparation_window" demoHotelNow
        (some (.combine demoDay (timeOfHour 11)))) := by
    decide +kernel
  rw [hreserved] at hstate
  cases hstate
  cases hphase

end ClockOrchestrator
