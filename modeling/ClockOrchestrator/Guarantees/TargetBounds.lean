import ClockOrchestrator.Domain.EvaluationCases
import ClockOrchestrator.RuntimeInvariants

namespace ClockOrchestrator

open Python UnitOfWork

namespace AutomationPolicy

def Admits (policy : AutomationPolicy) (target : PyFloat) : Prop :=
  policy.occupiedMinimumTargetC.le target = true ∧ target.le policy.occupiedMaximumTargetC = true

instance (policy : AutomationPolicy) (target : PyFloat) : Decidable (policy.Admits target) :=
  inferInstanceAs (Decidable (_ ∧ _))

structure NumericBounds (policy : AutomationPolicy) : Prop where
  minimum : policy.occupiedMinimumTargetC ≠ .nan
  maximum : policy.occupiedMaximumTargetC ≠ .nan

variable {policy : AutomationPolicy} {target : PyFloat}

theorem Admits.numericBounds (h : policy.Admits target) : policy.NumericBounds := by
  obtain ⟨hmin, hmax⟩ := h
  refine ⟨fun he => ?_, fun he => ?_⟩
  · rw [he] at hmin
    cases hmin
  · rw [he, PyFloat.not_le_nan] at hmax
    cases hmax

theorem Admits.ne_nan (h : policy.Admits target) : target ≠ .nan := by
  rintro rfl
  have hmin := h.1
  rw [PyFloat.not_le_nan] at hmin
  cases hmin

theorem clampTemperature_nan (policy : AutomationPolicy) :
    policy.clampTemperature .nan = .nan := by
  rw [clampTemperature, PyFloat.pyMax_nan, PyFloat.pyMin_nan]

theorem clampTemperature_admits (h : policy.NumericBounds) (ht : target ≠ .nan) :
    policy.Admits (policy.clampTemperature target) := by
  have hraised := PyFloat.le_pyMax ht h.minimum
  have hordered := (PyFloat.le_iff_not_lt h.minimum h.maximum).mpr policy.boundsOrdered
  exact ⟨PyFloat.le_pyMin hraised hordered,
    PyFloat.pyMin_le (PyFloat.pyMax_ne_nan ht h.minimum) h.maximum⟩

theorem clampTemperature_admits_iff (h : policy.NumericBounds) :
    policy.Admits (policy.clampTemperature target) ↔ target ≠ .nan := by
  refine ⟨?_, clampTemperature_admits h⟩
  rintro hadmits rfl
  exact hadmits.ne_nan policy.clampTemperature_nan

theorem clampTemperature_eq_nan (h : policy.NumericBounds) :
    policy.clampTemperature target = .nan ↔ target = .nan := by
  refine ⟨fun hnan => ?_, ?_⟩
  · by_contra ht
    exact ((clampTemperature_admits_iff h).mpr ht).ne_nan hnan
  · rintro rfl
    exact policy.clampTemperature_nan

theorem Admits.clampTemperature_eq (h : policy.Admits target) :
    policy.clampTemperature target = target := by
  have hbounds := h.numericBounds
  have hlow := (PyFloat.le_iff_not_lt hbounds.minimum h.ne_nan).mp h.1
  have hhigh := (PyFloat.le_iff_not_lt h.ne_nan hbounds.maximum).mp h.2
  rw [clampTemperature, PyFloat.pyMax_eq_left hlow, PyFloat.pyMin_eq_left hhigh]

end AutomationPolicy

section ManualTarget

def carriedTarget (latest : Option OverrideRow) (now : Instant) : Option PyFloat :=
  (latest.filter (overrideRowIsActive · now)).bind (·.targetTemperatureC)

theorem currentDraft_target (latest : Option OverrideRow) (now : Instant) :
    (currentDraft latest now).targetTemperatureC = carriedTarget latest now := by
  rw [currentDraft_eq, carriedTarget]
  cases latest.filter (overrideRowIsActive · now) with
  | none => rfl
  | some row => rfl

def AsksForNan (policy : AutomationPolicy) (carried : Option PyFloat) (field text : String) :
    Prop :=
  (field = "temperature" ∧ pyFloat text.toList = some .nan) ∨
  (field ∈ ["duration", "water-heater"] ∧ carried = some .nan) ∨
  ((field = "mode" ∧ text = "manual" ∨ field = "hvac-mode" ∧ text ∈ ["heat", "cool", "auto"]) ∧
    PyFloat.orDefault carried policy.defaultHeatingTargetC = .nan)

variable {policy : AutomationPolicy} {base draft : OverrideDraft} {field text : String}

theorem fieldDraft_nan_iff (hbounds : policy.NumericBounds)
    (h : fieldDraft policy base field text = .ok draft) :
    draft.targetTemperatureC = some .nan ↔
      AsksForNan policy base.targetTemperatureC field text := by
  unfold AsksForNan
  cases fieldDraft_drafts h with
  | returned => simp
  | @mode mode => cases mode <;> simp [modeDraft, ControlMode.value]
  | @hvacMode mode => cases mode <;> simp [hvacModeDraft, ManualHvacMode.value]
  | temperature htarget =>
      simp [temperatureDraft, htarget, AutomationPolicy.clampTemperature_eq_nan hbounds]
  | duration => simp
  | waterHeater => simp

variable {H : Type} {rt : AppRuntime H} {db : Db H}

def NanCommand (rt : AppRuntime H) (db : Db H) (command : RoomCommand) : Prop :=
  ∃ text, payloadText command.payload = .ok text ∧
    AsksForNan rt.policy.automation
      (carriedTarget (foundOverride rt db command) (command.now.toUtc rt.zone)) command.field text

theorem commandRow_admitted_iff (hbounds : rt.policy.automation.NumericBounds)
    {command : RoomCommand} {row : OverrideRow}
    (h : commandRow rt db command (foundOverride rt db command) = some row) :
    (∀ target, row.targetTemperatureC = some target → rt.policy.automation.Admits target) ↔
      ¬ NanCommand rt db command := by
  obtain ⟨roomRow, t, -, hbuild⟩ := commandRow_eq_some h
  obtain ⟨text, draft, bound, htext, hdraft, -, rfl⟩ := buildOverrideRow_ok hbuild
  have hasks : NanCommand rt db command ↔ draft.targetTemperatureC = some .nan := by
    rw [fieldDraft_nan_iff hbounds hdraft, currentDraft_target, NanCommand, htext]
    simp
  rw [hasks]
  change (∀ target, draft.targetTemperatureC.map rt.policy.automation.clampTemperature =
    some target → rt.policy.automation.Admits target) ↔ _
  cases draft.targetTemperatureC with
  | none => simp
  | some target =>
      have hiff := @AutomationPolicy.clampTemperature_admits_iff _ target hbounds
      simpa using hiff

variable [DecidableEq H]

theorem manual_target_within_bounds_iff {command : RoomCommand} {out : Outcome H}
    {result : CommandProcessingResult} {minimum maximum : ℚ}
    (hminimum : rt.policy.automation.occupiedMinimumTargetC = .finite minimum)
    (hmaximum : rt.policy.automation.occupiedMaximumTargetC = .finite maximum)
    (h : execute rt db (.applyMqttCommand command) = .ok out) (hresult : out.command = some result)
    (haccepted : result.accepted = true) :
    ∃ row, out.db.overrides = db.overrides ++ [row] ∧
      ((∀ target, row.targetTemperatureC = some target → rt.policy.automation.Admits target) ↔
        ¬ NanCommand rt db command) := by
  have hbounds : rt.policy.automation.NumericBounds := by
    refine ⟨?_, ?_⟩
    · rw [hminimum]
      nofun
    · rw [hmaximum]
      nofun
  obtain ⟨processed, hprocessed, rfl⟩ := map_ok h
  cases hresult
  obtain ⟨row, hrow, hadded⟩ := applyMqttCommand_accepted hprocessed haccepted
  exact ⟨row, hadded, commandRow_admitted_iff hbounds hrow⟩

def demoTemperature (payload : String) : RoomCommand :=
  demoCommand "temperature" payload (demoNow 10 0) 1000

theorem hot_temperature_is_clamped :
    ∃ row out, execute (demoRuntime false) (Db.empty _)
        (.applyMqttCommand (demoTemperature "30")) = .ok out ∧
      out.db.overrides = [row] ∧
      ((∀ target, row.targetTemperatureC = some target → defaultPolicy.automation.Admits target) ↔
        ¬ NanCommand (demoRuntime false) (Db.empty _) (demoTemperature "30")) := by
  obtain ⟨out, hout, hcommand⟩ := exists_outcome (demoRuntime false) (Db.empty _)
    (.applyMqttCommand (demoTemperature "30"))
    (p := fun out => out.command.any (·.accepted)) (by decide +kernel)
  obtain ⟨result, hresult, haccepted⟩ := (Option.any_eq_true _ _).mp hcommand
  have hminimum : (demoRuntime false).policy.automation.occupiedMinimumTargetC = .finite 19 := rfl
  have hmaximum : (demoRuntime false).policy.automation.occupiedMaximumTargetC = .finite 24 := rfl
  obtain ⟨row, hadded, hiff⟩ :=
    manual_target_within_bounds_iff hminimum hmaximum hout hresult haccepted
  exact ⟨row, out, hout, hadded, hiff⟩

theorem nan_temperature_is_stored :
    ∃ out result row, execute (demoRuntime false) (Db.empty _)
        (.applyMqttCommand (demoTemperature "nan")) = .ok out ∧
      out.command = some result ∧ result.accepted = true ∧ out.db.overrides = [row] ∧
      row.targetTemperatureC = some .nan ∧ ¬ defaultPolicy.automation.Admits .nan := by
  obtain ⟨out, hout, hstored⟩ := exists_outcome (demoRuntime false) (Db.empty _)
    (.applyMqttCommand (demoTemperature "nan"))
    (p := fun out => out.command.any (·.accepted) &&
      decide (out.db.overrides.map (·.targetTemperatureC) = [some .nan])) (by decide +kernel)
  simp only [Bool.and_eq_true, decide_eq_true_eq] at hstored
  obtain ⟨hcommand, htargets⟩ := hstored
  obtain ⟨result, hresult, haccepted⟩ := (Option.any_eq_true _ _).mp hcommand
  obtain ⟨row, hrows, htarget⟩ := List.map_eq_singleton_iff.mp htargets
  exact ⟨out, result, row, hout, hresult, haccepted, hrows, htarget, by decide⟩

end ManualTarget

section GuestTarget

def guestPhases : List AutomationPhase := [.preArrival, .occupied, .checkoutDue, .manualOverride]

def guestTarget (policy : AutomationPolicy) (override : Option ManualOverride) :
    AutomationPhase → Option PyFloat
  | .preArrival => some policy.defaultHeatingTargetC
  | .occupied | .checkoutDue => some (policy.clampTemperature policy.defaultHeatingTargetC)
  | .manualOverride =>
      (override.bind (·.targetTemperatureC)).map policy.clampTemperature
  | _ => none

variable {policy : HotelPolicy} {state : RoomStateEvaluation} {override : Option ManualOverride}
  {correlationId : UUID} {intent : DesiredRoomIntent}

theorem validate_target {enabled : Bool} {mode : ManualHvacMode} {target : Option PyFloat}
    {hvac : HvacIntent} (h : HvacIntent.validate enabled mode target = .ok hvac) :
    hvac.targetTemperatureC = target := by
  unfold HvacIntent.validate at h
  split at h
  · cases h
    rfl
  · cases h

theorem built_target {enabled : Bool} {mode : ManualHvacMode} {target : Option PyFloat}
    {controlMode : ControlMode} {waterHeater convectors : Bool} {reason : String}
    (h : (HvacIntent.validate enabled mode target >>= fun hvac =>
      buildIntent policy.zone state controlMode hvac waterHeater convectors reason
        correlationId) = .ok intent) : intent.hvac.targetTemperatureC = target := by
  obtain ⟨hvac, hvalid, hbuild⟩ := bind_ok h
  unfold buildIntent at hbuild
  rw [validate_ok hbuild]
  exact validate_target hvalid

theorem automaticIntent_target
    (h : automaticIntent policy state correlationId = .ok intent)
    (hphase : state.phase ∈ guestPhases) (hmanual : state.phase ≠ .manualOverride) :
    intent.hvac.targetTemperatureC = guestTarget policy.automation override state.phase := by
  have hguest : state.phase = .preArrival ∨ state.phase = .occupied ∨
      state.phase = .checkoutDue := by
    simpa [guestPhases, hmanual] using hphase
  rcases hguest with hp | hp | hp
  · simp only [automaticIntent, arrivalIntent, hp, suppressAutomationPhases] at h ⊢
    exact built_target h
  · simp only [automaticIntent, hp, suppressAutomationPhases] at h ⊢
    exact built_target h
  · simp only [automaticIntent, hp, suppressAutomationPhases] at h ⊢
    exact built_target h

theorem deriveRoomIntent_target
    (h : deriveRoomIntent state policy override correlationId = .ok (some intent))
    (hphase : state.phase ∈ guestPhases)
    (hmanual : state.phase = .manualOverride → override.isSome = true) :
    intent.hvac.targetTemperatureC = guestTarget policy.automation override state.phase := by
  unfold deriveRoomIntent at h
  split at h
  · cases h
  · split at h
    · next o hp =>
        obtain ⟨built, hbuilt, hsome⟩ := map_ok h
        cases hsome
        rw [built_target hbuilt, hp]
        rfl
    · next hother =>
        obtain ⟨built, hbuilt, hsome⟩ := map_ok h
        cases hsome
        refine automaticIntent_target hbuilt hphase fun hp => ?_
        obtain ⟨o, ho⟩ := Option.isSome_iff_exists.mp (hmanual hp)
        exact hother o hp ho

def GuestIntent (room : Room) (policy : HotelPolicy) (intent : DesiredRoomIntent) : Prop :=
  ∃ bookings now override state correlationId,
    evaluateRoom room bookings now policy override = .ok state ∧
    (∀ o target, override = some o → o.targetTemperatureC = some target →
      ∃ value, target = .finite value) ∧
    deriveRoomIntent state policy override correlationId = .ok (some intent) ∧
    intent.automationPhase ∈ guestPhases ∧ intent.hvac.enabled = true

def TargetAdmitted (policy : HotelPolicy) (intent : DesiredRoomIntent) : Prop :=
  ∃ target, intent.hvac.targetTemperatureC = some target ∧ policy.automation.Admits target

def AutomationPolicy.KeepsGuestBounds (policy : AutomationPolicy) : AutomationPhase → Prop
  | .preArrival => policy.Admits policy.defaultHeatingTargetC
  | .manualOverride => policy.NumericBounds
  | _ => policy.NumericBounds ∧ policy.defaultHeatingTargetC ≠ .nan

theorem HvacIntent.target_isSome {hvac : HvacIntent} (h : hvac.enabled = true) :
    ∃ target, hvac.targetTemperatureC = some target := by
  have hvalid := hvac.validState
  rw [hvacStateError, if_pos h] at hvalid
  cases ht : hvac.targetTemperatureC with
  | none =>
      rw [ht] at hvalid
      split at hvalid
      · cases hvalid
      · cases hvalid
  | some target => exact ⟨target, rfl⟩

theorem AutomationPolicy.admits_clamp_iff {policy : AutomationPolicy} {target : PyFloat} :
    policy.Admits (policy.clampTemperature target) ↔ policy.NumericBounds ∧ target ≠ .nan := by
  refine ⟨fun h => ?_, fun h => clampTemperature_admits h.1 h.2⟩
  exact ⟨h.numericBounds, (clampTemperature_admits_iff h.numericBounds).mp h⟩

theorem GuestIntent.target {room : Room} (h : GuestIntent room policy intent) :
    ∃ override target, intent.hvac.targetTemperatureC = some target ∧
      guestTarget policy.automation override intent.automationPhase = some target ∧
      (∀ o asked, override = some o → o.targetTemperatureC = some asked →
        ∃ value, asked = .finite value) := by
  obtain ⟨bookings, now, override, state, correlationId, hstate, hfinite, hintent, hphase,
    henabled⟩ := h
  have hderived := (deriveRoomIntent_derivedFrom hintent).phase
  rw [hderived] at hphase
  have hmanual : state.phase = .manualOverride → override.isSome = true := by
    intro hp
    obtain ⟨-, o, -, ho, -⟩ := evaluateRoom_manual hstate hp
    rw [ho]
    rfl
  have htarget := deriveRoomIntent_target hintent hphase hmanual
  obtain ⟨target, hsome⟩ := HvacIntent.target_isSome henabled
  refine ⟨override, target, hsome, ?_, hfinite⟩
  rw [hderived, ← htarget, hsome]

theorem GuestIntent.admitted_iff {room : Room} (h : GuestIntent room policy intent) :
    TargetAdmitted policy intent ↔ policy.automation.KeepsGuestBounds intent.automationPhase := by
  obtain ⟨override, target, hsome, hguest, hfinite⟩ := h.target
  have hadmitted : TargetAdmitted policy intent ↔ policy.automation.Admits target := by
    simp [TargetAdmitted, hsome]
  rw [hadmitted]
  cases hp : intent.automationPhase with
  | preArrival =>
      rw [hp] at hguest
      cases hguest
      rfl
  | occupied | checkoutDue =>
      rw [hp] at hguest
      cases hguest
      exact AutomationPolicy.admits_clamp_iff
  | manualOverride =>
      rw [hp] at hguest
      obtain ⟨asked, hasked, rfl⟩ := Option.map_eq_some_iff.mp hguest
      obtain ⟨o, ho, hvalue⟩ := Option.bind_eq_some_iff.mp hasked
      obtain ⟨value, rfl⟩ := hfinite o asked ho hvalue
      rw [AutomationPolicy.admits_clamp_iff]
      exact and_iff_left (by nofun)
  | vacant | reserved | awaitingAssignment | disabled | conflict | unknown =>
      rw [hp] at hguest
      cases hguest

theorem GuestIntent.target_of_phase {room : Room} (h : GuestIntent room policy intent) :
    (intent.automationPhase = .preArrival →
      intent.hvac.targetTemperatureC = some policy.automation.defaultHeatingTargetC) ∧
    (intent.automationPhase = .occupied → intent.hvac.targetTemperatureC =
      some (policy.automation.clampTemperature policy.automation.defaultHeatingTargetC)) := by
  obtain ⟨override, target, hsome, hguest, -⟩ := h.target
  refine ⟨fun hp => ?_, fun hp => ?_⟩
  · rw [hp] at hguest
    rw [hsome, ← hguest]
    rfl
  · rw [hp] at hguest
    rw [hsome, ← hguest]
    rfl

theorem guest_targets_within_bounds_iff (room : Room) (policy : HotelPolicy) :
    (∀ intent, GuestIntent room policy intent →
      (TargetAdmitted policy intent ↔
        policy.automation.KeepsGuestBounds intent.automationPhase)) ∧
    (∀ before after, GuestIntent room policy before → GuestIntent room policy after →
      before.automationPhase = .preArrival → after.automationPhase = .occupied →
      ((TargetAdmitted policy before ∧ TargetAdmitted policy after ∧
          before.hvac.targetTemperatureC = after.hvac.targetTemperatureC) ↔
        policy.automation.Admits policy.automation.defaultHeatingTargetC)) := by
  refine ⟨fun intent h => h.admitted_iff, fun before after hb ha hpre hocc => ?_⟩
  have hbefore : TargetAdmitted policy before ↔
      policy.automation.Admits policy.automation.defaultHeatingTargetC := by
    rw [hb.admitted_iff, hpre]
    rfl
  have hafter := ha.admitted_iff
  rw [hocc] at hafter
  rw [hb.target_of_phase.1 hpre, ha.target_of_phase.2 hocc, hbefore]
  refine ⟨fun h => h.1, fun h => ⟨h, hafter.mpr ⟨h.numericBounds, h.ne_nan⟩, ?_⟩⟩
  rw [h.clampTemperature_eq]

def demoWarmPolicy : HotelPolicy :=
  { defaultPolicy with
    automation := { defaultPolicy.automation with defaultHeatingTargetC := .finite 26 } }

def demoIntent (policy : HotelPolicy) (booking : NormalizedBooking) (now : Datetime) :
    Option DesiredRoomIntent :=
  ((evaluateRoom room214 [booking] now policy none).toOption.bind fun state =>
    (deriveRoomIntent state policy none 1000).toOption).join

theorem demoIntent_guest (policy : HotelPolicy) (booking : NormalizedBooking) (now : Datetime)
    {phase : AutomationPhase} (target : PyFloat) (hphase : phase ∈ guestPhases)
    (h : (demoIntent policy booking now).any (fun intent => intent.automationPhase = phase &&
      intent.hvac.enabled && intent.hvac.targetTemperatureC = some target) = true) :
    ∃ intent, GuestIntent room214 policy intent ∧ intent.automationPhase = phase ∧
      intent.hvac.targetTemperatureC = some target := by
  obtain ⟨intent, hintent, hshown⟩ := (Option.any_eq_true _ _).mp h
  simp only [Bool.and_eq_true, decide_eq_true_eq] at hshown
  obtain ⟨⟨hp, henabled⟩, htarget⟩ := hshown
  rw [demoIntent, Option.join_eq_some_iff, Option.bind_eq_some_iff] at hintent
  obtain ⟨state, hstate, hderived⟩ := hintent
  have hguest : GuestIntent room214 policy intent := by
    refine ⟨[booking], now, none, state, 1000, toOption_eq_some.mp hstate, ?_,
      toOption_eq_some.mp hderived, hp ▸ hphase, henabled⟩
    intro o target ho
    cases ho
  exact ⟨intent, hguest, hp, htarget⟩

theorem mild_default_keeps_target :
    ∃ before after, GuestIntent room214 defaultPolicy before ∧
      GuestIntent room214 defaultPolicy after ∧ TargetAdmitted defaultPolicy before ∧
      before.hvac.targetTemperatureC = after.hvac.targetTemperatureC := by
  have hexpected : AutomationPhase.preArrival ∈ guestPhases := by decide
  have hcheckedIn : AutomationPhase.occupied ∈ guestPhases := by decide
  obtain ⟨before, hb, hpre, -⟩ := demoIntent_guest defaultPolicy demoStay
    (.utc (demoInstant 14 0)) (.finite 22) hexpected (by decide +kernel)
  obtain ⟨after, ha, hocc, -⟩ := demoIntent_guest defaultPolicy demoCheckedInStay
    (.utc (demoInstant 14 0)) (.finite 22) hcheckedIn (by decide +kernel)
  obtain ⟨hadmitted, -, hsame⟩ := ((guest_targets_within_bounds_iff room214 defaultPolicy).2
    before after hb ha hpre hocc).mpr (by decide)
  exact ⟨before, after, hb, ha, hadmitted, hsame⟩

theorem warm_default_jumps_at_check_in :
    ∃ before after, GuestIntent room214 demoWarmPolicy before ∧
      GuestIntent room214 demoWarmPolicy after ∧ before.automationPhase = .preArrival ∧
      after.automationPhase = .occupied ∧ ¬ TargetAdmitted demoWarmPolicy before ∧
      before.hvac.targetTemperatureC = some (.finite 26) ∧
      after.hvac.targetTemperatureC = some (.finite 24) := by
  have hexpected : AutomationPhase.preArrival ∈ guestPhases := by decide
  have hcheckedIn : AutomationPhase.occupied ∈ guestPhases := by decide
  obtain ⟨before, hb, hpre, htarget⟩ := demoIntent_guest demoWarmPolicy demoStay
    (.utc (demoInstant 14 0)) (.finite 26) hexpected (by decide +kernel)
  obtain ⟨after, ha, hocc, hafter⟩ := demoIntent_guest demoWarmPolicy demoCheckedInStay
    (.utc (demoInstant 14 0)) (.finite 24) hcheckedIn (by decide +kernel)
  refine ⟨before, after, hb, ha, hpre, hocc, ?_, htarget, hafter⟩
  rintro ⟨target, hsome, hadmits⟩
  rw [htarget] at hsome
  cases hsome
  exact absurd hadmits (by decide)

end GuestTarget

end ClockOrchestrator
