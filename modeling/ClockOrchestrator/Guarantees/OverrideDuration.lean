import ClockOrchestrator.Guarantees.OverrideShape
import Mathlib.Algebra.Order.Ring.Int

namespace ClockOrchestrator

open Python UnitOfWork Trace

def OverrideRow.EndsWithin (row : OverrideRow) (maximum : ℕ) : Prop :=
  ∀ expires, row.expiresAt = some expires → expires - row.startsAt ≤ maximum * minuteMicros

def DurationOption.Within (duration : DurationOption) (maximum : ℕ) : Prop :=
  ∀ minutes, duration.minutes = some minutes → minutes ≤ maximum

theorem OverrideRow.Lasts.endsWithin_iff {row : OverrideRow} {duration : DurationOption}
    (h : row.Lasts duration) (maximum : ℕ) :
    row.EndsWithin maximum ↔ duration.Within maximum := by
  unfold OverrideRow.EndsWithin DurationOption.Within
  rw [h.2]
  cases duration.minutes with
  | none => simp
  | some minutes =>
      have hspan : row.startsAt + minutes * minuteMicros - row.startsAt = minutes * minuteMicros :=
        add_sub_cancel_left ..
      have hpos : (0 : ℤ) < minuteMicros := by decide
      simp only [Option.map_some, Option.some.injEq, forall_eq', hspan]
      rw [mul_le_mul_iff_of_pos_right hpos, Nat.cast_le]

def carriedDuration (latest : Option OverrideRow) (now : Instant) : DurationOption :=
  ((latest.filter (overrideRowIsActive · now)).map durationFromRow).getD defaultDuration

theorem currentDraft_duration (latest : Option OverrideRow) (now : Instant) :
    (currentDraft latest now).duration = carriedDuration latest now := by
  rw [currentDraft_eq, carriedDuration]
  cases latest.filter (overrideRowIsActive · now) with
  | none => rfl
  | some row => rfl

def MeetsMaximum (maximum : ℕ) (carried : DurationOption) (field text : String) : Prop :=
  field ∈ ["duration", "return-to-automatic"] ∨ (field = "mode" ∧ text = "automatic") ∨
    carried.Within maximum

section FieldDraft

variable {policy : AutomationPolicy} {base draft : OverrideDraft} {field text : String}

theorem parseDuration_within {duration : DurationOption}
    (h : parseDuration text policy = .ok duration) :
    duration.Within policy.manualOverrideMaxMinutes := by
  unfold parseDuration at h
  split at h
  · cases h
  · split at h
    · cases h
    · next hfits =>
        cases h
        intro minutes hminutes
        simpa [hminutes] using hfits

theorem fieldDraft_within_iff (h : fieldDraft policy base field text = .ok draft) :
    (draft.controlMode ≠ .automatic → draft.duration.Within policy.manualOverrideMaxMinutes) ↔
      MeetsMaximum policy.manualOverrideMaxMinutes base.duration field text := by
  unfold MeetsMaximum
  cases fieldDraft_drafts h with
  | returned => simp
  | @mode mode => cases mode <;> simp [modeDraft, ControlMode.value]
  | hvacMode => simp [hvacModeDraft]
  | temperature => simp [temperatureDraft]
  | duration _ hduration => simp [parseDuration_within hduration]
  | waterHeater => simp

end FieldDraft

section BuildRow

variable {policy : AutomationPolicy} {latest : Option OverrideRow}
  {boundary : Except PyError (Option BookingBoundary)} {roomId rowId commandId : UUID} {field : String}
  {payload : ByteArray} {now : Instant} {row : OverrideRow}

theorem buildOverrideRow_endsWithin_iff
    (h : buildOverrideRow policy latest boundary roomId rowId commandId field payload now =
      .ok row) :
    ∃ text, payloadText payload = .ok text ∧
      (row.EndsWithin policy.manualOverrideMaxMinutes ↔
        MeetsMaximum policy.manualOverrideMaxMinutes (carriedDuration latest now) field text) := by
  obtain ⟨text, draft, bound, htext, hdraft, -, rfl⟩ := buildOverrideRow_ok h
  refine ⟨text, htext, ?_⟩
  rw [← currentDraft_duration, ← fieldDraft_within_iff hdraft]
  by_cases hmode : draft.controlMode = .automatic
  · simp [OverrideRow.EndsWithin, overrideRowOfDraft, hmode]
  · rw [(overrideRowOfDraft_lasts hmode bound).endsWithin_iff]
    simp [hmode]

end BuildRow

variable {H : Type} {base rt : AppRuntime H} {db db' : Db H}

def StoresWithin (rt : AppRuntime H) (db : Db H) (command : RoomCommand) (stored : List OverrideRow) :
    Prop :=
  ∃ row text, stored = db.overrides ++ [row] ∧ payloadText command.payload = .ok text ∧
    (row.EndsWithin rt.policy.automation.manualOverrideMaxMinutes ↔
      MeetsMaximum rt.policy.automation.manualOverrideMaxMinutes
        (carriedDuration (foundOverride rt db command) (command.now.toUtc rt.zone)) command.field
        text)

theorem applyMqttCommand_storesWithin {command : RoomCommand}
    {out : CommandProcessingResult × DbSession H}
    (h : applyMqttCommand rt (rt.session db) command = .ok out) (ha : out.1.accepted = true) :
    StoresWithin rt db command out.2.live.overrides := by
  obtain ⟨row, hrow, hadded⟩ := applyMqttCommand_accepted h ha
  obtain ⟨roomRow, t, -, hbuild⟩ := commandRow_eq_some hrow
  obtain ⟨text, htext, hiff⟩ := buildOverrideRow_endsWithin_iff hbuild
  exact ⟨row, text, hadded, htext, hiff⟩

structure OverrideRow.Bounded (maximum : ℕ) (row : OverrideRow) : Prop where
  lasts : row.controlMode ≠ .automatic → row.Lasts (durationFromRow row)
  automatic : row.controlMode = .automatic → row.expiresAt = none
  within : 60 ≤ maximum → row.EndsWithin maximum

theorem OverrideRow.Bounded.endsWithin_iff {maximum : ℕ} {row : OverrideRow}
    (h : row.Bounded maximum) {expires : Instant} (hexpires : row.expiresAt = some expires) :
    row.EndsWithin maximum ↔ 60 ≤ maximum := by
  refine ⟨fun hends => ?_, h.within⟩
  have hmode : row.controlMode ≠ .automatic := by
    intro ha
    rw [h.automatic ha] at hexpires
    cases hexpires
  have hlasts := h.lasts hmode
  have hwithin := (hlasts.endsWithin_iff maximum).mp hends
  rw [hlasts.2] at hexpires
  unfold DurationOption.Within at hwithin
  cases hd : durationFromRow row with
  | untilCheckout =>
      rw [hd] at hexpires
      cases hexpires
  | minutes60 | minutes240 | minutes720 =>
      have hfits := hwithin _ (by rw [hd]; rfl)
      omega

theorem schedulerOverrideRow_bounded (maximum : ℕ) (id roomId commandId : UUID)
    (observedAt : Instant) :
    (schedulerOverrideRow id roomId commandId observedAt).Bounded maximum :=
  ⟨fun h => absurd rfl h, fun _ => rfl, fun _ => nofun⟩

theorem carriedDuration_within {maximum : ℕ} {latest : Option OverrideRow} (now : Instant)
    (hlatest : ∀ row, latest = some row → row.Bounded maximum) (hmaximum : 60 ≤ maximum) :
    (carriedDuration latest now).Within maximum := by
  unfold carriedDuration
  cases hfilter : latest.filter (overrideRowIsActive · now) with
  | none =>
      intro minutes hminutes
      cases hminutes
      exact hmaximum
  | some row =>
      obtain ⟨hrow, hactive⟩ := Option.filter_eq_some_iff.mp hfilter
      have hbounded := hlatest row hrow
      have hmode : row.controlMode ≠ .automatic := by
        intro ha
        simp [overrideRowIsActive, ha] at hactive
      exact ((hbounded.lasts hmode).endsWithin_iff maximum).mp (hbounded.within hmaximum)

def OverridesBounded (maximum : ℕ) (db : Db H) : Prop :=
  ∀ row ∈ db.overrides, row.Bounded maximum

variable [DecidableEq H]

theorem next_overridesBounded (hinj : base.uuid4.Injective) {guard : Db H → Request H → Prop}
    {request : Request H} (hserved : ServedBy base guard db request)
    (h : next db request = some db') (hdb : StoreInvariant base db)
    (hbounded : OverridesBounded request.runtime.policy.automation.manualOverrideMaxMinutes db) :
    OverridesBounded request.runtime.policy.automation.manualOverrideMaxMinutes db' := by
  refine next_overrides_forall hinj hserved.1 h hdb hbounded (schedulerOverrideRow_bounded _) ?_
  intro s latest roomId rowId commandId field payload now row hlatest hbuild
  obtain ⟨text, -, hiff⟩ := buildOverrideRow_endsWithin_iff hbuild
  refine ⟨buildOverrideRow_lasts hbuild, buildOverrideRow_automatic hbuild, fun hmaximum => ?_⟩
  exact hiff.mpr (.inr (.inr (carriedDuration_within _ hlatest hmaximum)))

def UnderMaximum (maximum : ℕ) (request : Request H) : Prop :=
  request.runtime.policy.automation.manualOverrideMaxMinutes = maximum

theorem run_overridesBounded (hinj : base.uuid4.Injective) {maximum : ℕ}
    {requests : List (Request H)}
    (h : Run next (ServedBy base fun _ => UnderMaximum maximum) (Db.empty H) requests db) :
    OverridesBounded maximum db := by
  have hrun := h.invariant (I := fun db => StoreInvariant base db ∧ OverridesBounded maximum db)
    (fun _ _ _ hserved hn hi => by
      refine ⟨next_invariant hinj hserved hn hi.1, ?_⟩
      have hmaximum := hserved.2
      unfold UnderMaximum at hmaximum
      exact hmaximum ▸ next_overridesBounded hinj hserved hn hi.1 (hmaximum ▸ hi.2))
    ⟨.empty, by simp [OverridesBounded, Db.empty]⟩
  exact hrun.2

theorem Run.command_step {guard : Db H → Request H → Prop} {start : Db H}
    {before after : List (Request H)} {command : RoomCommand}
    (h : Run next guard start (before ++ ⟨rt, .applyMqttCommand command⟩ :: after) db) :
    ∃ m out, Run next guard start before m ∧
      applyMqttCommand rt (rt.session m) command = .ok out := by
  obtain ⟨m, hbefore, hrest⟩ := h.split
  cases hrest with
  | cons hg hn hafter =>
      obtain ⟨out, hout, -⟩ := next_ok hn
      obtain ⟨result, hresult, -⟩ := map_ok hout
      exact ⟨m, result, hbefore, hresult⟩

theorem timed_overrides_within_maximum_iff (hinj : base.uuid4.Injective)
    {requests : List (Request H)}
    (h : Run next (ServedBy base fun _ _ => True) (Db.empty H) requests db) :
    (∀ before rt command after, requests = before ++ ⟨rt, .applyMqttCommand command⟩ :: after →
      ∃ m out, Run next (ServedBy base fun _ _ => True) (Db.empty H) before m ∧
        applyMqttCommand rt (rt.session m) command = .ok out ∧
        (out.1.accepted = true → StoresWithin rt m command out.2.commit.overrides)) ∧
    (∀ maximum, (∀ request ∈ requests, UnderMaximum maximum request) →
      ∀ row ∈ db.overrides, ∀ expires, row.expiresAt = some expires →
        (row.EndsWithin maximum ↔ 60 ≤ maximum)) := by
  refine ⟨?_, ?_⟩
  · rintro before rt command after rfl
    obtain ⟨m, out, hbefore, hout⟩ := Run.command_step h
    exact ⟨m, out, hbefore, hout, applyMqttCommand_storesWithin hout⟩
  · intro maximum hmaximum row hrow expires hexpires
    have hrun : Run next (ServedBy base fun _ => UnderMaximum maximum) (Db.empty H) requests db :=
      (h.with_actions hmaximum).mono fun _ _ hg => ⟨hg.1.1, hg.2⟩
    exact (run_overridesBounded hinj hrun row hrow).endsWithin_iff hexpires

theorem temperature_row_is_short_enough :
    ∃ row ∈ (demoStore demoTemperatureRun).overrides,
      row.expiresAt.isSome = true ∧ row.EndsWithin 720 := by
  have hrun : Run next (ServedBy (demoRuntime false) fun _ _ => True) (Db.empty _)
      demoTemperatureRun (demoStore demoTemperatureRun) := by
    refine run_of_eq_some (fun request hrequest _ => ?_) (by decide +kernel)
    simp only [demoTemperatureRun, List.mem_cons, List.not_mem_nil, or_false] at hrequest
    rcases hrequest with rfl | rfl
    · exact ⟨.refl _, trivial⟩
    · exact ⟨.refl _, trivial⟩
  have hmaximum : ∀ request ∈ demoTemperatureRun, UnderMaximum 720 request := by
    intro request hrequest
    simp only [demoTemperatureRun, List.mem_cons, List.not_mem_nil, or_false] at hrequest
    rcases hrequest with rfl | rfl <;> rfl
  have htimed : (demoStore demoTemperatureRun).overrides.any (·.expiresAt.isSome) = true := by
    decide +kernel
  obtain ⟨row, hrow, hsome⟩ := List.any_eq_true.mp htimed
  obtain ⟨expires, hexpires⟩ := Option.isSome_iff_exists.mp hsome
  refine ⟨row, hrow, hsome, ?_⟩
  exact ((timed_overrides_within_maximum_iff (demoRuntime_uuid4_injective false) hrun).2 720
    hmaximum row hrow expires hexpires).mpr (by decide)

def demoShortRuntime : AppRuntime RoomStateDocument :=
  { demoRuntime false with
    policy := { defaultPolicy with
      automation := { defaultPolicy.automation with
        manualOverrideMaxMinutes := 30, overrideMaxPositive := by decide } } }

def demoShortRun : List (Request RoomStateDocument) :=
  [⟨demoShortRuntime, .applyMqttCommand (demoCommand "mode" "manual" (demoNow 10 0) 1000)⟩]

theorem default_duration_exceeds_maximum :
    Run next (ServedBy (demoRuntime false) fun _ => UnderMaximum 30) (Db.empty _) demoShortRun
        (demoStore demoShortRun) ∧
      ∃ row ∈ (demoStore demoShortRun).overrides, row.expiresAt.isSome = true ∧
        ¬ row.EndsWithin 30 := by
  refine ⟨run_of_eq_some (fun request hrequest _ => ?_) (by decide +kernel), ?_⟩
  · simp only [demoShortRun, List.mem_singleton] at hrequest
    exact hrequest ▸ ⟨⟨rfl, rfl, rfl, rfl, rfl⟩, rfl⟩
  · have hstored : (demoStore demoShortRun).overrides.map (fun row => (row.startsAt, row.expiresAt)) =
        [(demoInstant 10 0, some (demoInstant 11 0))] := by decide +kernel
    obtain ⟨row, hrows, htimes⟩ := List.map_eq_singleton_iff.mp hstored
    simp only [Prod.mk.injEq] at htimes
    refine ⟨row, by simp [hrows], by simp [htimes.2], fun hends => ?_⟩
    have hspan := hends _ htimes.2
    rw [htimes.1] at hspan
    exact absurd hspan (by decide)

end ClockOrchestrator
