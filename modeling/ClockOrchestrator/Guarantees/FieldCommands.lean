import ClockOrchestrator.Guarantees.CommandAtomicity
import ClockOrchestrator.Guarantees.OverrideShape

namespace ClockOrchestrator

open Python UnitOfWork Trace

theorem AutomationPolicy.clampTemperature_idem (policy : AutomationPolicy) (target : PyFloat) :
    policy.clampTemperature (policy.clampTemperature target) = policy.clampTemperature target := by
  have hbounds := policy.boundsOrdered
  unfold AutomationPolicy.clampTemperature
  generalize policy.occupiedMinimumTargetC = low at hbounds ⊢
  generalize policy.occupiedMaximumTargetC = high at hbounds ⊢
  have hlow : PyFloat.pyMin (PyFloat.pyMax low low) high = low := by
    rw [PyFloat.pyMax_eq_left (PyFloat.lt_irrefl low), PyFloat.pyMin_eq_left hbounds]
  have hhigh : PyFloat.pyMin (PyFloat.pyMax high low) high = high := by
    rw [PyFloat.pyMax_eq_left hbounds, PyFloat.pyMin_eq_left (PyFloat.lt_irrefl high)]
  by_cases hbelow : PyFloat.lt target low = true
  · have hmax : PyFloat.pyMax target low = low := if_pos hbelow
    rw [hmax, PyFloat.pyMin_eq_left hbounds, hlow]
  · have hmax : PyFloat.pyMax target low = target := if_neg hbelow
    by_cases habove : PyFloat.lt high target = true
    · have hmin : PyFloat.pyMin target high = high := if_pos habove
      rw [hmax, hmin, hhigh]
    · have hmin : PyFloat.pyMin target high = target := if_neg habove
      rw [hmax, hmin, hmax, hmin]

structure KeepsOthers (field : String) (old row : OverrideRow) : Prop where
  hvacMode : field ≠ "hvac-mode" → row.hvacMode = old.hvacMode
  target : field ≠ "temperature" → row.targetTemperatureC = old.targetTemperatureC
  waterHeater : field ≠ "water-heater" → row.waterHeaterEnabled = old.waterHeaterEnabled
  duration : field ≠ "duration" → durationFromRow row = durationFromRow old

def settingFields : List String := ["temperature", "hvac-mode", "water-heater", "duration"]

def KeepsZero (policy : AutomationPolicy) (field : String) (old : OverrideRow) : Prop :=
  field = "hvac-mode" → old.targetTemperatureC = some (.finite 0) →
    policy.clampTemperature policy.defaultHeatingTargetC = .finite 0

structure OverrideRow.RunsHvac (row : OverrideRow) (now : Instant) : Prop where
  manual : row.controlMode = .manual
  on : row.hvacMode ≠ some .off
  active : overrideRowIsActive row now = true

section Draft

variable {policy : AutomationPolicy} {old : OverrideRow} {now : Instant} {field text : String}
  {draft : OverrideDraft}

theorem currentDraft_manual {mode : ManualHvacMode} (h : old.RunsHvac now)
    (hmode : old.hvacMode = some mode) :
    currentDraft (some old) now =
      ⟨.manual, mode, old.targetTemperatureC, old.waterHeaterEnabled, durationFromRow old⟩ := by
  unfold currentDraft
  simp [h.manual, h.active, hmode]

structure DraftKeeps (policy : AutomationPolicy) (field : String) (base draft : OverrideDraft) :
    Prop where
  manual : draft.controlMode = .manual
  hvacMode : field ≠ "hvac-mode" → draft.hvacMode = base.hvacMode
  target : field ≠ "temperature" → field ≠ "hvac-mode" →
    draft.targetTemperatureC = base.targetTemperatureC
  targetOfMode : field = "hvac-mode" → draft.targetTemperatureC =
    some (.orDefault base.targetTemperatureC policy.defaultHeatingTargetC)
  waterHeater : field ≠ "water-heater" → draft.waterHeaterEnabled = base.waterHeaterEnabled
  duration : field ≠ "duration" → draft.duration = base.duration

theorem fieldDraft_keeps {base : OverrideDraft} (h : fieldDraft policy base field text = .ok draft)
    (hfield : field ∈ settingFields) (hoff : field = "hvac-mode" → text ≠ "off")
    (hmanual : base.controlMode = .manual) (hon : base.hvacMode ≠ .off) :
    DraftKeeps policy field base draft := by
  cases fieldDraft_drafts h with
  | returned => simp [settingFields] at hfield
  | mode => simp [settingFields] at hfield
  | @hvacMode mode =>
      have hkept : mode ≠ .off := by
        rintro rfl
        exact hoff rfl rfl
      constructor <;> simp [hvacModeDraft, hkept]
  | temperature => constructor <;> simp [temperatureDraft, hon]
  | duration => constructor <;> simp [hmanual]
  | waterHeater => constructor <;> simp

end Draft

section BuildRow

variable {policy : AutomationPolicy} {old row : OverrideRow}
  {boundary : Except PyError (Option BookingBoundary)} {roomId rowId commandId : UUID}
  {field : String} {payload : ByteArray} {now : Instant}

def OverrideRow.Clamped (policy : AutomationPolicy) (row : OverrideRow) : Prop :=
  ∀ target, row.targetTemperatureC = some target → policy.clampTemperature target = target

theorem OverrideRow.Clamped.map_eq (h : old.Clamped policy) :
    old.targetTemperatureC.map policy.clampTemperature = old.targetTemperatureC := by
  cases htarget : old.targetTemperatureC with
  | none => rfl
  | some target => exact congrArg some (h target htarget)

theorem buildOverrideRow_clamped {latest : Option OverrideRow}
    (h : buildOverrideRow policy latest boundary roomId rowId commandId field payload now =
      .ok row) : row.Clamped policy := by
  obtain ⟨text, draft, bound, -, -, -, rfl⟩ := buildOverrideRow_ok h
  intro target htarget
  obtain ⟨drafted, -, rfl⟩ := Option.map_eq_some_iff.mp htarget
  exact policy.clampTemperature_idem drafted

theorem carried_target_iff {target : PyFloat} (hclamped : policy.clampTemperature target = target) :
    policy.clampTemperature (.orDefault (some target) policy.defaultHeatingTargetC) = target ↔
      (target = .finite 0 →
        policy.clampTemperature policy.defaultHeatingTargetC = .finite 0) := by
  by_cases hzero : target = .finite 0
  · subst hzero
    simp [PyFloat.orDefault, PyFloat.truthy]
  · have htruthy : target.truthy = true := by
      cases target with
      | finite value => simpa [PyFloat.truthy] using hzero
      | infinite negative => rfl
      | nan => rfl
    simp [PyFloat.orDefault, htruthy, hclamped, hzero]

theorem buildOverrideRow_keepsOthers_iff
    (h : buildOverrideRow policy (some old) boundary roomId rowId commandId field payload now =
      .ok row)
    (hold : old.RunsHvac now) (hshaped : old.Shaped) (hclamped : old.Clamped policy)
    (hfield : field ∈ settingFields)
    (hoff : field = "hvac-mode" → payloadText payload ≠ .ok "off") :
    KeepsOthers field old row ↔ KeepsZero policy field old := by
  obtain ⟨text, draft, bound, htext, hdraft, -, rfl⟩ := buildOverrideRow_ok h
  obtain ⟨mode, hmode, htarget⟩ := hshaped.hvac
  have hon : mode ≠ .off := by
    rintro rfl
    exact hold.on hmode
  rw [currentDraft_manual hold hmode] at hdraft
  have hkeeps := fieldDraft_keeps hdraft hfield
    (fun hf ht => hoff hf (by rw [htext, ht])) rfl hon
  have hlasts : (overrideRowOfDraft policy draft bound roomId rowId commandId now).Lasts
      draft.duration := overrideRowOfDraft_lasts (by simp [hkeeps.manual]) bound
  obtain ⟨target, hsome⟩ := Option.ne_none_iff_exists'.mp (fun hnone => hon (htarget.mpr hnone))
  have hiff : (field ≠ "temperature" →
      draft.targetTemperatureC.map policy.clampTemperature = old.targetTemperatureC) ↔
        KeepsZero policy field old := by
    unfold KeepsZero
    by_cases hhvac : field = "hvac-mode"
    · rw [hkeeps.targetOfMode hhvac, hsome]
      simpa [hhvac] using carried_target_iff (hclamped target hsome)
    · simp only [hhvac, false_implies, iff_true]
      intro htemperature
      rw [hkeeps.target htemperature hhvac]
      exact hclamped.map_eq
  constructor
  · intro hkept
    exact hiff.mp hkept.target
  · intro hzero
    refine ⟨fun hf => ?_, hiff.mpr hzero, hkeeps.waterHeater, fun hf => ?_⟩
    · rw [hmode]
      exact congrArg some (hkeeps.hvacMode hf)
    · rw [hlasts.durationFromRow_eq]
      exact hkeeps.duration hf

end BuildRow

variable {H : Type} {rt : AppRuntime H} {db db' : Db H}

def OverridesClamped (policy : AutomationPolicy) (db : Db H) : Prop :=
  ∀ row ∈ db.overrides, row.Clamped policy

variable [DecidableEq H]

theorem next_overridesClamped (hinj : rt.uuid4.Injective) {request : Request H}
    (hsame : request.runtime = rt) (h : next db request = some db') (hdb : StoreInvariant rt db)
    (hclamped : OverridesClamped rt.policy.automation db) :
    OverridesClamped rt.policy.automation db' := by
  subst hsame
  refine next_overrides_forall hinj (.refl _) h hdb hclamped (fun _ _ _ _ => by rintro _ ⟨⟩) ?_
  intro s latest roomId rowId commandId field payload now row _ hbuild
  exact buildOverrideRow_clamped hbuild

theorem ReachableUnder.overridesClamped (hinj : rt.uuid4.Injective) (h : ReachableUnder rt db) :
    OverridesClamped rt.policy.automation db := by
  obtain ⟨requests, hrun⟩ := h
  have hboth := hrun.invariant
    (I := fun db => StoreInvariant rt db ∧ OverridesClamped rt.policy.automation db)
    (fun db request db' hsame hn hi => by
      have hserved : ServedBy rt (fun _ _ => True) db request := ⟨hsame ▸ .refl rt, trivial⟩
      exact ⟨next_invariant hinj hserved hn hi.1,
        next_overridesClamped hinj hsame hn hi.1 hi.2⟩)
    ⟨.empty, by simp [OverridesClamped, Db.empty]⟩
  exact hboth.2

theorem field_commands_keep_other_settings_iff (hinj : rt.uuid4.Injective)
    (hdb : ReachableUnder rt db) {command : RoomCommand}
    {out : CommandProcessingResult × DbSession H}
    (h : applyMqttCommand rt (rt.session db) command = .ok out) (haccepted : out.1.accepted = true)
    (hfield : command.field ∈ settingFields)
    (hoff : command.field = "hvac-mode" → payloadText command.payload ≠ .ok "off")
    {old : OverrideRow} (hlatest : db.roomOverride command.roomKey = some old)
    (hold : old.RunsHvac (command.now.toUtc rt.zone)) :
    ∃ row, out.2.commit.overrides = db.overrides ++ [row] ∧
      (KeepsOthers command.field old row ↔
        KeepsZero rt.policy.automation command.field old) := by
  have hstore := hdb.reachable.invariant hinj
  have hmem : old ∈ db.overrides := (List.mem_filter.mp (RankedLog.latest_mem hlatest)).1
  have hshaped := hdb.reachable.overridesShaped hinj old hmem
  have heffect := applyMqttCommand_effect hinj rfl rfl hstore.registry h
  cases heffect with
  | rejected => cases haccepted
  | @accepted property room roomRow row t _ hopen hroom hrow =>
      obtain ⟨roomRow', t', hopen', hbuild⟩ := commandRow_eq_some hrow
      rw [hopen] at hopen'
      cases hopen'
      rw [hroom.latestOverrideRow_eq hstore, hlatest] at hbuild
      have hbefore : t.live.overrides = db.overrides := congrArg (·.2.1) hroom.session.logs.live
      exact ⟨row, congrArg (· ++ [row]) hbefore,
        buildOverrideRow_keepsOthers_iff hbuild hold hshaped (hdb.overridesClamped hinj old hmem)
          hfield hoff⟩

def demoFrostRuntime : AppRuntime RoomStateDocument :=
  { demoRuntime false with
    policy := { defaultPolicy with
      automation := { defaultPolicy.automation with occupiedMinimumTargetC := .finite 0 } } }

def demoFrostRun : List (Request RoomStateDocument) :=
  [⟨demoFrostRuntime, .applyMqttCommand (demoCommand "temperature" "0" (demoNow 10 0) 1000)⟩]

theorem demoFrostStore_reachable : ReachableUnder demoFrostRuntime (demoStore demoFrostRun) := by
  refine ⟨demoFrostRun, run_of_eq_some (fun request hrequest _ => ?_) (by decide +kernel)⟩
  rw [demoFrostRun, List.mem_singleton] at hrequest
  rw [hrequest]

def demoFrostOverride (field payload : String) :
    Option (CommandProcessingResult × DbSession RoomStateDocument) :=
  (applyMqttCommand demoFrostRuntime (demoFrostRuntime.session (demoStore demoFrostRun))
    (demoCommand field payload (demoNow 10 5) 1001)).toOption

theorem demoFrostRun_override :
    ∃ old, (demoStore demoFrostRun).roomOverride "214" = some old ∧
      old.RunsHvac (demoInstant 10 5) ∧ old.targetTemperatureC = some (.finite 0) := by
  have hsome : ((demoStore demoFrostRun).roomOverride "214").any (fun old =>
      old.controlMode = .manual && old.hvacMode ≠ some .off &&
        overrideRowIsActive old (demoInstant 10 5) &&
        old.targetTemperatureC = some (.finite 0)) = true := by decide +kernel
  obtain ⟨old, hold, hshown⟩ := (Option.any_eq_true _ _).mp hsome
  simp only [Bool.and_eq_true, decide_eq_true_eq] at hshown
  obtain ⟨⟨⟨hmanual, hon⟩, hactive⟩, htarget⟩ := hshown
  exact ⟨old, hold, ⟨hmanual, hon, hactive⟩, htarget⟩

theorem water_heater_keeps_zero_degrees :
    ∃ old out row, (demoStore demoFrostRun).roomOverride "214" = some old ∧
      demoFrostOverride "water-heater" "on" = some out ∧
      out.2.commit.overrides = (demoStore demoFrostRun).overrides ++ [row] ∧
      KeepsOthers "water-heater" old row := by
  obtain ⟨old, hlatest, hold, -⟩ := demoFrostRun_override
  have hsome : (demoFrostOverride "water-heater" "on").any (·.1.accepted) = true := by
    decide +kernel
  obtain ⟨out, hout, haccepted⟩ := (Option.any_eq_true _ _).mp hsome
  have hfree : demoFrostRuntime.uuid4.Injective := demoRuntime_uuid4_injective false
  obtain ⟨row, hrow, hiff⟩ := field_commands_keep_other_settings_iff hfree
    demoFrostStore_reachable (toOption_eq_some.mp hout) haccepted (by decide)
    (by simp [demoCommand]) hlatest hold
  exact ⟨old, out, row, hlatest, hout, hrow, hiff.mpr (by simp [KeepsZero, demoCommand])⟩

theorem mode_change_forgets_zero_degrees :
    ¬ ∀ (rt : AppRuntime RoomStateDocument) (db : Db RoomStateDocument) (command : RoomCommand)
        (out : CommandProcessingResult × DbSession RoomStateDocument) (old : OverrideRow),
      rt.uuid4.Injective → ReachableUnder rt db →
      applyMqttCommand rt (rt.session db) command = .ok out → out.1.accepted = true →
      command.field ∈ settingFields →
      (command.field = "hvac-mode" → payloadText command.payload ≠ .ok "off") →
      db.roomOverride command.roomKey = some old →
      old.RunsHvac (command.now.toUtc rt.zone) →
      ∃ row, out.2.commit.overrides = db.overrides ++ [row] ∧
        KeepsOthers command.field old row := by
  intro h
  obtain ⟨old, hlatest, hold, hzero⟩ := demoFrostRun_override
  have hsome : (demoFrostOverride "hvac-mode" "cool").any (fun out => out.1.accepted &&
      out.2.live.overrides.getLast?.any (·.targetTemperatureC = some (.finite 22))) = true := by
    decide +kernel
  obtain ⟨out, hout, hshown⟩ := (Option.any_eq_true _ _).mp hsome
  obtain ⟨haccepted, hwarm⟩ := Bool.and_eq_true_iff.mp hshown
  obtain ⟨row, hrow, hkept⟩ := h demoFrostRuntime (demoStore demoFrostRun)
    (demoCommand "hvac-mode" "cool" (demoNow 10 5) 1001) out old (demoRuntime_uuid4_injective false)
    demoFrostStore_reachable (toOption_eq_some.mp hout) haccepted (by decide) (by decide +kernel)
    hlatest hold
  rw [Session.commit_eq] at hrow
  have htarget := hkept.target (by decide)
  simp [hrow, htarget, hzero] at hwarm

end ClockOrchestrator
