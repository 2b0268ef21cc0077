import ClockOrchestrator.Policy.Control
import ClockOrchestrator.Policy.Totality

namespace ClockOrchestrator

open Python

structure OverrideRow.WellFormed (row : OverrideRow) : Prop where
  offWithoutTarget : row.hvacMode.getD .off = .off ↔ row.targetTemperatureC = none
  checkoutWithoutExpiry : row.untilCheckout = true → row.expiresAt = none

def OverrideDraft.Balanced (draft : OverrideDraft) : Prop :=
  draft.hvacMode = .off ↔ draft.targetTemperatureC = none

def OverrideRow.draft (row : OverrideRow) : OverrideDraft where
  controlMode := row.controlMode
  hvacMode := row.hvacMode.getD .off
  targetTemperatureC := row.targetTemperatureC
  waterHeaterEnabled := row.waterHeaterEnabled
  duration := durationFromRow row

theorem overrideRowIsActive_automatic {row : OverrideRow} (h : row.controlMode = .automatic)
    (now : Instant) : overrideRowIsActive row now = false := by
  simp [overrideRowIsActive, h]

theorem currentDraft_eq (latest : Option OverrideRow) (now : Instant) :
    currentDraft latest now = ((latest.filter (overrideRowIsActive · now)).map (·.draft)).getD
      defaultOverrideDraft := by
  cases latest with
  | none => rfl
  | some row =>
      unfold currentDraft
      by_cases hmode : row.controlMode = .automatic
      · simp [hmode, Option.filter, overrideRowIsActive_automatic hmode]
      · cases hactive : overrideRowIsActive row now with
        | false => simp [hmode, Option.filter, hactive]
        | true => simp [hmode, Option.filter, hactive, OverrideRow.draft]

theorem currentDraft_cases (latest : Option OverrideRow) (now : Instant) :
    currentDraft latest now = defaultOverrideDraft ∨
      ∃ row, latest = some row ∧ overrideRowIsActive row now = true ∧
        currentDraft latest now = row.draft := by
  rw [currentDraft_eq]
  cases hrow : latest.filter (overrideRowIsActive · now) with
  | none => exact .inl rfl
  | some row =>
      obtain ⟨hlatest, hactive⟩ := Option.filter_eq_some_iff.mp hrow
      exact .inr ⟨row, hlatest, hactive, rfl⟩

theorem currentDraft_balanced {latest : Option OverrideRow} (now : Instant)
    (h : ∀ row, latest = some row → row.WellFormed) : (currentDraft latest now).Balanced := by
  rcases currentDraft_cases latest now with hdraft | ⟨row, hlatest, -, hdraft⟩
  · rw [hdraft]
    simp [OverrideDraft.Balanced, defaultOverrideDraft]
  · rw [hdraft]
    exact (h row hlatest).offWithoutTarget

theorem modeDraft_balanced (policy : AutomationPolicy) (base : OverrideDraft)
    (mode : ControlMode) : (modeDraft policy base mode).Balanced := by
  cases mode with
  | automatic => simp [modeDraft, OverrideDraft.Balanced]
  | manual =>
      by_cases hm : base.hvacMode = .off
      · simp [modeDraft, OverrideDraft.Balanced, hm]
      · simp [modeDraft, OverrideDraft.Balanced, hm]
  | off => simp [modeDraft, OverrideDraft.Balanced]

theorem hvacModeDraft_balanced (policy : AutomationPolicy) (base : OverrideDraft)
    (mode : ManualHvacMode) : (hvacModeDraft policy base mode).Balanced := by
  by_cases hm : mode = .off
  · simp [hvacModeDraft, OverrideDraft.Balanced, hm]
  · simp [hvacModeDraft, OverrideDraft.Balanced, hm]

theorem temperatureDraft_balanced (policy : AutomationPolicy) (base : OverrideDraft)
    (target : PyFloat) : (temperatureDraft policy base target).Balanced := by
  by_cases hm : base.hvacMode = .off
  · simp [temperatureDraft, OverrideDraft.Balanced, hm]
  · simp [temperatureDraft, OverrideDraft.Balanced, hm]

theorem parseControlMode_ok {text : String} {mode : ControlMode}
    (h : parseControlMode text = .ok mode) :
    text = mode.value := by
  unfold parseControlMode at h
  split at h
  · next found hfound =>
      cases h
      exact (by simpa using List.find?_some hfound : mode.value = text).symm
  · cases h

theorem parseManualHvacMode_ok {text : String} {mode : ManualHvacMode}
    (h : parseManualHvacMode text = .ok mode) : text = mode.value := by
  unfold parseManualHvacMode at h
  split at h
  · next found hfound =>
      cases h
      exact (by simpa using List.find?_some hfound : mode.value = text).symm
  · cases h

theorem parseTemperature_ok {text : String} {target : PyFloat}
    (h : parseTemperature text = .ok target) :
    pyFloat text.toList = some target := by
  unfold parseTemperature at h
  split at h
  · next x hx =>
      cases h
      exact hx
  · cases h

inductive Drafts (policy : AutomationPolicy) (base : OverrideDraft) :
    String → String → OverrideDraft → Prop
  | returned {text : String} : Drafts policy base "return-to-automatic" text
      ⟨.automatic, .off, none, none, defaultDuration⟩
  | mode {mode : ControlMode} : Drafts policy base "mode" mode.value (modeDraft policy base mode)
  | hvacMode {mode : ManualHvacMode} :
      Drafts policy base "hvac-mode" mode.value (hvacModeDraft policy base mode)
  | temperature {text : String} {target : PyFloat} : pyFloat text.toList = some target →
      Drafts policy base "temperature" text (temperatureDraft policy base target)
  | duration {text : String} {duration : DurationOption} : base.controlMode ≠ .automatic →
      parseDuration text policy = .ok duration →
      Drafts policy base "duration" text { base with duration := duration }
  | waterHeater {text : String} {enabled : Bool} : Drafts policy base "water-heater" text
      { base with controlMode := .manual, waterHeaterEnabled := some enabled }

theorem fieldDraft_drafts {policy : AutomationPolicy} {base draft : OverrideDraft}
    {field text : String} (h : fieldDraft policy base field text = .ok draft) :
    Drafts policy base field text draft := by
  unfold fieldDraft at h
  split at h
  · next hfield =>
      cases h
      exact hfield ▸ .returned
  · split at h
    · next hfield =>
        obtain ⟨mode, hmode, h⟩ := bind_ok h
        cases h
        exact hfield ▸ parseControlMode_ok hmode ▸ .mode
    · split at h
      · next hfield =>
          obtain ⟨mode, hmode, h⟩ := bind_ok h
          cases h
          exact hfield ▸ parseManualHvacMode_ok hmode ▸ .hvacMode
      · split at h
        · next hfield =>
            obtain ⟨target, htarget, h⟩ := bind_ok h
            cases h
            exact hfield ▸ .temperature (parseTemperature_ok htarget)
        · split at h
          · next hfield =>
              split at h
              · cases h
              · next hmode =>
                  obtain ⟨duration, hduration, h⟩ := bind_ok h
                  cases h
                  exact hfield ▸ .duration hmode hduration
          · split at h
            · next hfield =>
                obtain ⟨enabled, -, h⟩ := bind_ok h
                cases h
                exact hfield ▸ .waterHeater
            · cases h

theorem fieldDraft_balanced {policy : AutomationPolicy} {base draft : OverrideDraft}
    {field text : String} (h : fieldDraft policy base field text = .ok draft)
    (hb : base.Balanced) : draft.Balanced := by
  cases fieldDraft_drafts h with
  | returned => simp [OverrideDraft.Balanced]
  | mode => exact modeDraft_balanced policy base _
  | hvacMode => exact hvacModeDraft_balanced policy base _
  | temperature => exact temperatureDraft_balanced policy base _
  | duration => exact hb
  | waterHeater => exact hb

theorem overrideRowOfDraft_wellFormed {policy : AutomationPolicy} {draft : OverrideDraft}
    (hb : draft.Balanced) (boundary : Option BookingBoundary) (roomId rowId commandId : UUID)
    (now : Instant) :
    (overrideRowOfDraft policy draft boundary roomId rowId commandId now).WellFormed := by
  refine ⟨?_, ?_⟩
  · simpa [overrideRowOfDraft, OverrideDraft.Balanced] using hb
  · intro h
    simp only [overrideRowOfDraft, Bool.and_eq_true, decide_eq_true_eq] at h ⊢
    simp [h.1, h.2, DurationOption.minutes]

section BuildRow

variable {policy : AutomationPolicy} {latest : Option OverrideRow}
  {boundary : Except PyError (Option BookingBoundary)} {roomId rowId commandId : UUID} {field : String}
  {payload : ByteArray} {now : Instant} {row : OverrideRow}

theorem buildOverrideRow_ok
    (h : buildOverrideRow policy latest boundary roomId rowId commandId field payload now =
      .ok row) :
    ∃ text draft bound, payloadText payload = .ok text ∧
      fieldDraft policy (currentDraft latest now) field text = .ok draft ∧
      overrideBoundary draft boundary = .ok bound ∧
      row = overrideRowOfDraft policy draft bound roomId rowId commandId now := by
  unfold buildOverrideRow at h
  obtain ⟨text, htext, h⟩ := bind_ok h
  obtain ⟨draft, hdraft, h⟩ := bind_ok h
  obtain ⟨-, -, h⟩ := bind_ok h
  obtain ⟨bound, hbound, h⟩ := bind_ok h
  cases h
  exact ⟨text, draft, bound, htext, hdraft, hbound, rfl⟩

theorem buildOverrideRow_roomId
    (h : buildOverrideRow policy latest boundary roomId rowId commandId field payload now =
      .ok row) : row.roomId = roomId := by
  obtain ⟨text, draft, bound, -, -, -, rfl⟩ := buildOverrideRow_ok h
  rfl

theorem buildOverrideRow_wellFormed
    (h : buildOverrideRow policy latest boundary roomId rowId commandId field payload now =
      .ok row) (hl : ∀ row, latest = some row → row.WellFormed) : row.WellFormed := by
  obtain ⟨text, draft, bound, -, hdraft, -, rfl⟩ := buildOverrideRow_ok h
  exact overrideRowOfDraft_wellFormed (fieldDraft_balanced hdraft (currentDraft_balanced now hl)) ..

theorem overrideBoundary_ok {draft : OverrideDraft} {bound : Option BookingBoundary}
    (h : overrideBoundary draft boundary = .ok bound) :
    ((draft.controlMode = .automatic ∨ draft.duration ≠ .untilCheckout) ∧ bound = none) ∨
    (draft.controlMode ≠ .automatic ∧ draft.duration = .untilCheckout ∧
      ∃ found, boundary = .ok (some found) ∧ bound = some found) := by
  unfold overrideBoundary at h
  split at h
  · next hfree =>
      cases h
      exact .inl ⟨by simpa using hfree, rfl⟩
  · next hbound =>
      simp only [ne_eq, Bool.or_eq_true, decide_eq_true_eq, not_or, not_not] at hbound
      obtain ⟨current, hcurrent, h⟩ := bind_ok h
      cases current with
      | none => cases h
      | some found =>
          cases h
          exact .inr ⟨hbound.1, hbound.2, found, hcurrent, rfl⟩

theorem buildOverrideRow_starts
    (h : buildOverrideRow policy latest boundary roomId rowId commandId field payload now =
      .ok row) (hboundary : ∀ found, boundary = .ok (some found) → now < found.checkoutAt) :
    row.startsAt = now ∧ (row.controlMode ≠ .automatic → overrideRowIsActive row now = true) := by
  obtain ⟨text, draft, bound, -, -, hbound, rfl⟩ := buildOverrideRow_ok h
  refine ⟨rfl, fun hmode => ?_⟩
  change draft.controlMode ≠ .automatic at hmode
  unfold overrideRowIsActive overrideRowOfDraft
  rcases overrideBoundary_ok hbound with ⟨hfree, rfl⟩ | ⟨-, hduration, found, hfound, rfl⟩
  · have hduration : draft.duration ≠ .untilCheckout := hfree.resolve_left hmode
    cases hd : draft.duration with
    | untilCheckout => exact absurd hd hduration
    | minutes60 => simp [hmode, DurationOption.minutes, minuteMicros]
    | minutes240 => simp [hmode, DurationOption.minutes, minuteMicros]
    | minutes720 => simp [hmode, DurationOption.minutes, minuteMicros]
  · simpa [hmode, hduration] using hboundary found hfound

def OverrideRow.Lasts (row : OverrideRow) (duration : DurationOption) : Prop :=
  (row.untilCheckout = true ↔ duration = .untilCheckout) ∧
    row.expiresAt = duration.minutes.map fun minutes : ℕ => row.startsAt + minutes * minuteMicros

theorem roundHalfEven_minutes (start : Instant) (minutes : ℕ) :
    roundHalfEven (start + minutes * minuteMicros - start) minuteMicros = minutes := by
  have hdiff : start + minutes * minuteMicros - start = minutes * minuteMicros :=
    add_sub_cancel_left ..
  have hpos : minuteMicros ≠ 0 := by decide
  rw [hdiff]
  unfold roundHalfEven
  rw [Int.mul_emod_left, Int.mul_ediv_cancel _ hpos, if_pos (by decide)]

theorem OverrideRow.Lasts.durationFromRow_eq {row : OverrideRow} {duration : DurationOption}
    (h : row.Lasts duration) : durationFromRow row = duration := by
  obtain ⟨huntil, hexpires⟩ := h
  unfold durationFromRow
  cases duration with
  | untilCheckout => rw [if_pos (huntil.mpr rfl)]
  | minutes60 | minutes240 | minutes720 =>
      simp only [DurationOption.minutes, Option.map_some] at hexpires
      have hfixed : row.untilCheckout = false := by simpa using huntil
      rw [hfixed, hexpires]
      simp only [Bool.false_eq_true, if_false, roundHalfEven_minutes]
      rfl

theorem buildOverrideRow_automatic
    (h : buildOverrideRow policy latest boundary roomId rowId commandId field payload now =
      .ok row) (hmode : row.controlMode = .automatic) : row.expiresAt = none := by
  obtain ⟨text, draft, bound, -, -, -, rfl⟩ := buildOverrideRow_ok h
  exact if_pos hmode

theorem overrideRowOfDraft_lasts {draft : OverrideDraft} (hmode : draft.controlMode ≠ .automatic)
    (bound : Option BookingBoundary) :
    (overrideRowOfDraft policy draft bound roomId rowId commandId now).Lasts draft.duration := by
  refine ⟨?_, ?_⟩
  · simp [overrideRowOfDraft, hmode]
  · simp only [overrideRowOfDraft, if_neg hmode]
    cases draft.duration <;> rfl

theorem buildOverrideRow_lasts
    (h : buildOverrideRow policy latest boundary roomId rowId commandId field payload now =
      .ok row) (hmode : row.controlMode ≠ .automatic) : row.Lasts (durationFromRow row) := by
  obtain ⟨text, draft, bound, -, -, -, rfl⟩ := buildOverrideRow_ok h
  have hlasts : (overrideRowOfDraft policy draft bound roomId rowId commandId now).Lasts
      draft.duration := overrideRowOfDraft_lasts hmode bound
  rw [hlasts.durationFromRow_eq]
  exact hlasts

end BuildRow

theorem currentBookingBoundary_eq_some {H : Type} {policy : HotelPolicy} {s : DbSession H}
    {roomId : UUID} {now : Instant} {found : BookingBoundary}
    (h : currentBookingBoundary policy s roomId now = .ok (some found)) :
    ∃ latest bookingId booking, latestRoomState s roomId = some latest ∧
      latest.bookingId = some bookingId ∧ latest.automationPhase ∈ boundaryPhases ∧
      getBooking s bookingId = some booking ∧ found.bookingId = booking.id ∧
      now < found.checkoutAt := by
  unfold currentBookingBoundary at h
  cases hfound : boundaryBooking s roomId with
  | none =>
      rw [hfound] at h
      cases h
  | some booking =>
      rw [hfound] at h
      obtain ⟨checkout, -, h⟩ := bind_ok h
      obtain ⟨hopen, hmade⟩ := Option.ite_none_right_eq_some.mp (Except.ok.inj h)
      cases hmade
      unfold boundaryBooking at hfound
      simp only [Option.bind_eq_bind, Option.bind_eq_some_iff] at hfound
      obtain ⟨latest, hlatest, bookingId, hid, _, hphase, hbooking⟩ := hfound
      exact ⟨latest, bookingId, booking, hlatest, hid, (Option.guard_eq_some' _).mp hphase,
        hbooking, rfl, hopen⟩

theorem manualOverrideFromRow_wellFormed {row : OverrideRow} (h : row.WellFormed)
    {clockBookingId : Option String} {o : ManualOverride}
    (ho : manualOverrideFromRow row clockBookingId = some o) : o.WellFormed := by
  unfold manualOverrideFromRow at ho
  split at ho
  · cases ho
  · cases ho
    refine ⟨h.offWithoutTarget, fun hu => ?_⟩
    simp [h.checkoutWithoutExpiry hu]

end ClockOrchestrator
