import ClockOrchestrator.RuntimeInvariants

namespace ClockOrchestrator

open Python UnitOfWork Trace

structure OverrideRow.Shaped (row : OverrideRow) : Prop where
  automatic : row.controlMode = .automatic → row.hvacMode = some .off ∧
    row.targetTemperatureC = none ∧ row.expiresAt = none ∧ row.untilCheckout = false
  off : row.controlMode = .off → row.hvacMode = some .off ∧ row.targetTemperatureC = none ∧
    row.waterHeaterEnabled = some false
  hvac : ∃ mode, row.hvacMode = some mode ∧ (mode = .off ↔ row.targetTemperatureC = none)
  ends : row.controlMode ≠ .automatic →
    (row.untilCheckout = false ∧ row.bookingId = none ∧ row.checkoutAt = none ∧
      ∃ expires, row.expiresAt = some expires ∧ row.startsAt < expires) ∨
    (row.untilCheckout = true ∧ row.expiresAt = none ∧ row.bookingId.isSome ∧
      ∃ checkout, row.checkoutAt = some checkout ∧ row.startsAt < checkout)

structure OverrideDraft.Shaped (draft : OverrideDraft) : Prop where
  balanced : draft.Balanced
  automatic : draft.controlMode = .automatic → draft.hvacMode = .off
  off : draft.controlMode = .off → draft.hvacMode = .off ∧ draft.waterHeaterEnabled = some false

theorem defaultOverrideDraft_shaped : defaultOverrideDraft.Shaped :=
  ⟨by simp [OverrideDraft.Balanced, defaultOverrideDraft], fun _ => rfl, nofun⟩

theorem currentDraft_shaped {latest : Option OverrideRow} (now : Instant)
    (h : ∀ row, latest = some row → row.Shaped) : (currentDraft latest now).Shaped := by
  rcases currentDraft_cases latest now with hdraft | ⟨row, hlatest, hactive, hdraft⟩
  · rw [hdraft]
    exact defaultOverrideDraft_shaped
  · have hrow := h row hlatest
    obtain ⟨mode, hhvac, hiff⟩ := hrow.hvac
    rw [hdraft]
    refine ⟨?_, fun ha => ?_, fun ho => ?_⟩
    · rw [OverrideDraft.Balanced, OverrideRow.draft, hhvac]
      exact hiff
    · rw [overrideRowIsActive_automatic ha] at hactive
      cases hactive
    · obtain ⟨hoff, -, hheater⟩ := hrow.off ho
      rw [OverrideRow.draft, hoff]
      exact ⟨rfl, hheater⟩

theorem fieldDraft_shaped {policy : AutomationPolicy} {base draft : OverrideDraft}
    {field text : String} (h : fieldDraft policy base field text = .ok draft)
    (hb : base.Shaped) : draft.Shaped := by
  have hbalanced := fieldDraft_balanced h hb.balanced
  cases fieldDraft_drafts h with
  | returned => exact ⟨hbalanced, fun _ => rfl, nofun⟩
  | @mode mode =>
      cases mode with
      | automatic => exact ⟨hbalanced, fun _ => rfl, nofun⟩
      | manual => exact ⟨hbalanced, nofun, nofun⟩
      | off => exact ⟨hbalanced, nofun, fun _ => ⟨rfl, rfl⟩⟩
  | hvacMode => exact ⟨hbalanced, nofun, nofun⟩
  | temperature => exact ⟨hbalanced, nofun, nofun⟩
  | duration => exact ⟨hbalanced, hb.automatic, hb.off⟩
  | waterHeater => exact ⟨hbalanced, nofun, nofun⟩

theorem overrideRowOfDraft_shaped {policy : AutomationPolicy} {draft : OverrideDraft}
    {boundary : Except PyError (Option BookingBoundary)} {bound : Option BookingBoundary}
    {roomId rowId commandId : UUID} {now : Instant}
    (hdraft : draft.Shaped) (hbound : overrideBoundary draft boundary = .ok bound)
    (hboundary : ∀ found, boundary = .ok (some found) → now < found.checkoutAt) :
    (overrideRowOfDraft policy draft bound roomId rowId commandId now).Shaped := by
  have hbalanced : draft.hvacMode = .off ↔ draft.targetTemperatureC = none := hdraft.balanced
  refine ⟨fun ha => ?_, fun ho => ?_, ⟨draft.hvacMode, rfl, ?_⟩, fun hmode => ?_⟩
  · change draft.controlMode = .automatic at ha
    have hoff := hdraft.automatic ha
    simp [overrideRowOfDraft, ha, hoff, hbalanced.mp hoff]
  · change draft.controlMode = .off at ho
    obtain ⟨hoff, hheater⟩ := hdraft.off ho
    simp [overrideRowOfDraft, hoff, hbalanced.mp hoff, hheater]
  · simpa [overrideRowOfDraft] using hbalanced
  · change draft.controlMode ≠ .automatic at hmode
    rcases overrideBoundary_ok hbound with ⟨hfree, rfl⟩ | ⟨-, hduration, found, hfound, rfl⟩
    · have htimed : draft.duration ≠ .untilCheckout := hfree.resolve_left hmode
      refine .inl ⟨by simp [overrideRowOfDraft, htimed], rfl, rfl, ?_⟩
      cases hd : draft.duration with
      | untilCheckout => exact absurd hd htimed
      | minutes60 | minutes240 | minutes720 =>
          simp [overrideRowOfDraft, hmode, hd, DurationOption.minutes, minuteMicros]
    · refine .inr ⟨by simp [overrideRowOfDraft, hmode, hduration], ?_, rfl, found.checkoutAt, rfl,
        hboundary found hfound⟩
      simp [overrideRowOfDraft, hduration, DurationOption.minutes]

section BuildRow

variable {policy : AutomationPolicy} {latest : Option OverrideRow}
  {boundary : Except PyError (Option BookingBoundary)} {roomId rowId commandId : UUID} {field : String}
  {payload : ByteArray} {now : Instant} {row : OverrideRow}

theorem buildOverrideRow_shaped
    (h : buildOverrideRow policy latest boundary roomId rowId commandId field payload now =
      .ok row) (hlatest : ∀ row, latest = some row → row.Shaped)
    (hboundary : ∀ found, boundary = .ok (some found) → now < found.checkoutAt) : row.Shaped := by
  obtain ⟨text, draft, bound, -, hdraft, hbound, rfl⟩ := buildOverrideRow_ok h
  exact overrideRowOfDraft_shaped (fieldDraft_shaped hdraft (currentDraft_shaped now hlatest))
    hbound hboundary

end BuildRow

theorem schedulerOverrideRow_shaped (id roomId commandId : UUID) (observedAt : Instant) :
    (schedulerOverrideRow id roomId commandId observedAt).Shaped :=
  ⟨fun _ => ⟨rfl, rfl, rfl, rfl⟩, nofun, ⟨.off, rfl, by simp [schedulerOverrideRow]⟩,
    fun h => absurd rfl h⟩

variable {H : Type} {base rt : AppRuntime H} {db db' : Db H}

theorem CommandEffect.stores {command : RoomCommand}
    {out : CommandProcessingResult × DbSession H} (h : CommandEffect base rt db command out) :
    out.2.live.overrides = db.overrides ∨
    ∃ roomRow t row, CommandRoom base db command.roomKey roomRow t ∧
      buildOverrideRow rt.policy.automation (latestOverrideRow t roomRow.id)
        (currentBookingBoundary rt.policy t roomRow.id (command.now.toUtc rt.zone)) roomRow.id
        (rt.uuid4 t.live.drawn) command.correlationId command.field command.payload
        (command.now.toUtc rt.zone) = .ok row ∧
      out.2.live.overrides = db.overrides ++ [row] := by
  cases h with
  | rejected ht _ => exact .inl (congrArg (·.2.1) ht.logs.live)
  | @accepted property room roomRow row t _ hopen hroom hrow =>
      obtain ⟨roomRow', t', hopen', hbuild⟩ := commandRow_eq_some hrow
      rw [hopen] at hopen'
      cases hopen'
      have hbefore : t.live.overrides = db.overrides := congrArg (·.2.1) hroom.session.logs.live
      exact .inr ⟨roomRow, t, row, hroom, hbuild, congrArg (· ++ [row]) hbefore⟩

theorem CommandEffect.overrides_forall {P : OverrideRow → Prop} {command : RoomCommand}
    {out : CommandProcessingResult × DbSession H} (h : CommandEffect base rt db command out)
    (hall : ∀ row ∈ db.overrides, P row)
    (hbuilt : ∀ (s : DbSession H) latest roomId rowId commandId field payload now row,
      (∀ old, latest = some old → P old) →
      buildOverrideRow rt.policy.automation latest (currentBookingBoundary rt.policy s roomId now)
        roomId rowId commandId field payload now = .ok row → P row) :
    ∀ row ∈ out.2.live.overrides, P row := by
  rcases h.stores with hsame | ⟨roomRow, t, row, hroom, hbuild, hadded⟩
  · rw [hsame]
    exact hall
  · rw [hadded, List.forall_mem_append, List.forall_mem_singleton]
    refine ⟨hall, hbuilt _ _ _ _ _ _ _ _ row (fun old hold => ?_) hbuild⟩
    rw [latestOverrideRow_of_logs hroom.session.logs] at hold
    exact hall old (List.mem_filter.mp (RankedLog.latest_mem hold)).1

variable [DecidableEq H]

theorem Evaluates.newOverrides {out : Outcome H} {rows : RegistryRows} {s : DbSession H}
    {r : Recalculation H} {observedAt : Instant} {correlationId : UUID}
    (h : Evaluates base rt db out rows s r observedAt correlationId) :
    ∃ new, out.db.overrides = db.overrides ++ new ∧
      ∀ row ∈ new, ∃ id roomId commandId,
        row = schedulerOverrideRow id roomId commandId observedAt := by
  obtain ⟨states, new, hp, -, -⟩ := h.rooms
  have hbefore : s.live.overrides = db.overrides := congrArg (·.2.1) h.opened.logs.live
  have hafter : out.db.overrides = r.session.live.overrides := congrArg (·.2.1) h.bookkeeps.logs
  exact ⟨new, by rw [hafter, hp.overrideRows, hbefore], hp.scheduled⟩

theorem next_overrides_forall (hinj : base.uuid4.Injective) {P : OverrideRow → Prop}
    {request : Request H} (hrestart : base.Restart request.runtime)
    (h : next db request = some db') (hdb : StoreInvariant base db)
    (hall : ∀ row ∈ db.overrides, P row)
    (hscheduled : ∀ id roomId commandId observedAt,
      P (schedulerOverrideRow id roomId commandId observedAt))
    (hbuilt : ∀ (s : DbSession H) latest roomId rowId commandId field payload now row,
      (∀ old, latest = some old → P old) →
      buildOverrideRow request.runtime.policy.automation latest
        (currentBookingBoundary request.runtime.policy s roomId now) roomId rowId commandId field
        payload now = .ok row → P row) :
    ∀ row ∈ db'.overrides, P row := by
  obtain ⟨out, hout, rfl⟩ := next_ok h
  rcases execute_cases hinj hrestart hdb hout with
    ⟨rows, s, r, observedAt, correlationId, he⟩ | ⟨command, result, -, he, rfl⟩
  · obtain ⟨new, hadded, hnew⟩ := he.newOverrides
    rw [hadded, List.forall_mem_append]
    refine ⟨hall, fun row hrow => ?_⟩
    obtain ⟨id, roomId, commandId, rfl⟩ := hnew row hrow
    exact hscheduled ..
  · exact he.overrides_forall hall hbuilt

def OverridesShaped (db : Db H) : Prop := ∀ row ∈ db.overrides, row.Shaped

theorem next_overridesShaped (hinj : base.uuid4.Injective) {guard : Db H → Request H → Prop}
    {request : Request H} (hserved : ServedBy base guard db request)
    (h : next db request = some db') (hdb : StoreInvariant base db) (hshaped : OverridesShaped db) :
    OverridesShaped db' := by
  refine next_overrides_forall hinj hserved.1 h hdb hshaped schedulerOverrideRow_shaped ?_
  intro s latest roomId rowId commandId field payload now row hlatest hbuild
  refine buildOverrideRow_shaped hbuild hlatest fun found hfound => ?_
  obtain ⟨-, -, -, -, -, -, -, -, hopen⟩ := currentBookingBoundary_eq_some hfound
  exact hopen

theorem Reachable.overridesShaped (hinj : base.uuid4.Injective) (hdb : Reachable base db) :
    OverridesShaped db := by
  obtain ⟨requests, hrun⟩ := hdb
  have h := hrun.invariant (I := fun db => StoreInvariant base db ∧ OverridesShaped db)
    (fun _ _ _ hserved hn hi => ⟨next_invariant hinj hserved hn hi.1,
      next_overridesShaped hinj hserved hn hi.1 hi.2⟩) ⟨.empty, by simp [OverridesShaped, Db.empty]⟩
  exact h.2

theorem stored_overrides_are_well_formed (hinj : base.uuid4.Injective) (hdb : Reachable base db) :
    ∀ row ∈ db.overrides, row.Shaped := by
  intro row hrow
  have hshaped := hdb.overridesShaped hinj
  exact hshaped row hrow

def demoTemperatureRun : List (Request RoomStateDocument) :=
  [demoRequest (.applyMqttCommand (demoCommand "mode" "manual" (demoNow 10 0) 1000)),
    demoRequest (.applyMqttCommand (demoCommand "temperature" "21.5" (demoNow 10 5) 1001))]

theorem demoTemperatureRun_reachable :
    Reachable (demoRuntime false) (demoStore demoTemperatureRun) := by
  refine ⟨demoTemperatureRun, run_of_eq_some (fun request hrequest _ => ?_) (by decide +kernel)⟩
  simp only [demoTemperatureRun, List.mem_cons, List.not_mem_nil, or_false] at hrequest
  rcases hrequest with rfl | rfl
  · exact ⟨.refl _, trivial⟩
  · exact ⟨.refl _, trivial⟩

theorem temperature_row_is_well_formed :
    (demoStore demoTemperatureRun).overrides.length = 2 ∧
      ∀ row ∈ (demoStore demoTemperatureRun).overrides, row.Shaped :=
  ⟨by decide +kernel, stored_overrides_are_well_formed (demoRuntime_uuid4_injective false)
    demoTemperatureRun_reachable⟩

end ClockOrchestrator
