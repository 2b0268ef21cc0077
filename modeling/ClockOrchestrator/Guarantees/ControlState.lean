import ClockOrchestrator.Guarantees.EventLog

namespace ClockOrchestrator

open Python UnitOfWork Trace RankedLog

variable {H : Type} {base rt : AppRuntime H} {db db' : Db H}

def Db.controlState (db : Db H) (topic roomKey : String) (now : Instant) : OutboxPayload :=
  (db.lastPayload topic).getD (.control (defaultControlStatePayload roomKey now))

structure ShowsOverride (payload : ControlPayload) (row : OverrideRow) (o : ManualOverride) :
    Prop where
  controlMode : payload.controlMode = o.controlMode
  hvacMode : payload.manualHvacMode = o.hvacMode
  temperature : payload.manualTargetTemperatureC = o.targetTemperatureC
  duration : row.Lasts payload.overrideDuration
  untilCheckout : payload.untilCheckout = o.untilCheckout
  expiry : payload.expiresAt.map Datetime.utc = o.expiresAt.or o.checkoutAt
  commandId : payload.commandId = some o.commandId

theorem controlStatePayloadFromOverride_inactive {roomKey : String} {row : Option OverrideRow}
    {now : Instant} (active : Option Bool)
    (h : ∀ r ∈ row, active.getD (overrideRowIsActive r now) = false) :
    controlStatePayloadFromOverride roomKey row now active =
      defaultControlStatePayload roomKey now := by
  unfold controlStatePayloadFromOverride
  cases row with
  | none => rfl
  | some r => simp [h r rfl]

theorem controlStatePayloadFromOverride_shows (roomKey : String) {row : OverrideRow}
    {now : Instant} (active : Option Bool) {clockBookingId : Option String} {o : ManualOverride}
    (h : active.getD (overrideRowIsActive row now) = true)
    (hduration : row.Lasts (durationFromRow row))
    (ho : manualOverrideFromRow row clockBookingId = some o) :
    (controlStatePayloadFromOverride roomKey (some row) now active).active = true ∧
      ShowsOverride (controlStatePayloadFromOverride roomKey (some row) now active) row o := by
  unfold manualOverrideFromRow at ho
  split at ho
  · cases ho
  · next hmode =>
      cases ho
      unfold controlStatePayloadFromOverride
      simp only [h, Bool.not_true, Bool.false_eq_true, if_false]
      refine ⟨by simpa using hmode, rfl, rfl, rfl, hduration, rfl, ?_, rfl⟩
      cases row.expiresAt <;> rfl

theorem controlStatePayloadFromOverride_updatedAt {roomKey : String} {row : OverrideRow}
    {now now' : Instant} {active active' : Option Bool}
    (h : active.getD (overrideRowIsActive row now) = true)
    (h' : active'.getD (overrideRowIsActive row now') = true) :
    controlStatePayloadFromOverride roomKey (some row) now' active' =
      { controlStatePayloadFromOverride roomKey (some row) now active with updatedAt := now' } := by
  unfold controlStatePayloadFromOverride
  simp only [h, h', Bool.not_true, Bool.false_eq_true, if_false]

theorem latestOverrideRow_session (rt : AppRuntime H) (db : Db H) (roomId : UUID) :
    latestOverrideRow (rt.session db) roomId = latest OverrideRow.rank (db.overridesOf roomId) :=
  latestOverrideRow_of_logs (.of_start rt.autoflush db Db.logs) roomId

theorem latestRoomState_session (rt : AppRuntime H) (db : Db H) (roomId : UUID) :
    latestRoomState (rt.session db) roomId = latest RoomStateRow.rank (db.statesOf roomId) :=
  latestRoomState_of_logs (.of_start rt.autoflush db Db.logs) roomId

theorem controlStatePayload_of_stored (hstore : RegistryStore base db)
    (hkey : rt.registry.property.key = base.registry.property.key)
    {roomId propertyId : UUID} {roomKey : String}
    (hc : (roomId, propertyId, roomKey) ∈ db.roomColumns) (now : Timestamp) :
    controlStatePayload rt (rt.session db) roomKey now =
      controlStatePayloadFromOverride roomKey (latest OverrideRow.rank (db.overridesOf roomId))
        (now.toUtc rt.zone)
        (shownActive (latest OverrideRow.rank (db.overridesOf roomId))
          (latest RoomStateRow.rank (db.statesOf roomId)) (now.toUtc rt.zone)) := by
  have hproperty := hstore.roomProperty _ hc
  obtain ⟨property, hproperties, hid, hpkey⟩ : ∃ p, db.properties = [p] ∧ p.id = propertyId ∧
      p.key = base.registry.property.key := by
    rcases hstore.property with hnone | ⟨id, hone⟩
    · rw [hnone] at hproperty
      cases hproperty
    · rw [hone, List.map_singleton, List.mem_singleton] at hproperty
      obtain ⟨p, hp, hcolumns⟩ := List.map_eq_singleton_iff.mp hone
      simp only [PropertyRow.columns, Prod.mk.injEq] at hcolumns
      exact ⟨p, hp, hcolumns.1.trans hproperty.symm, hcolumns.2⟩
  have hroom : ∃ row, (db.rooms.filter fun r => r.propertyId = property.id && r.key = roomKey).head?
      = some row ∧ row.id = roomId := by
    obtain ⟨row, hrow, hcolumns⟩ := List.mem_map.mp hc
    simp only [RoomRow.columns, Prod.mk.injEq] at hcolumns
    rw [List.head?_filter]
    refine ⟨row, (KeyedTable.find?_eq_some_of_unique ?_).mpr ⟨hrow, ?_⟩, hcolumns.1⟩
    · intro x hx y hy hpx hpy
      have hkeys : (db.rooms.map (·.key)).Nodup := by
        have := hstore.roomKeys
        rwa [Db.roomColumns, List.map_map] at this
      simp only [Bool.and_eq_true, decide_eq_true_eq] at hpx hpy
      exact KeyedTable.eq_of_key hkeys hx hy (hpx.2.trans hpy.2.symm)
    · simp [hid, hcolumns.2.1, hcolumns.2.2]
  obtain ⟨row, hrow, hrowId⟩ := hroom
  have hselect : ∀ {ρ : Type} (table : Db H → List ρ) (p : ρ → Bool),
      (rt.session db).select table p = (table db).filter p :=
    fun table p => Session.select_of_shows (.of_start _ db _) p
  unfold controlStatePayload
  rw [hselect, hproperties, List.filter_cons_of_pos (by simp [hpkey, hkey])]
  simp only [List.head?_cons]
  rw [hselect, hrow]
  simp only [latestOverrideRow_session, latestRoomState_session, hrowId]

variable [DecidableEq H] {loaded : LoadedBookings} {d : RoomDecision H} {observedAt : Instant}
  {correlationId : UUID}

theorem RoomLog.lastOverride_automatic (h : RoomLog base db d.roomId d.room.key)
    (hd : RoomDecided rt loaded d observedAt correlationId db db')
    (hw : RoomWritten rt loaded d observedAt correlationId db db')
    (hphase : d.state.phase ≠ .manualOverride) {row : OverrideRow}
    (hrow : (db'.overridesOf d.roomId).getLast? = some row) : row.controlMode = .automatic := by
  obtain ⟨id, commandId, hoverrides⟩ := hw.overrides
  rw [hoverrides] at hrow
  cases hended : endedOverrides d.latestOverride d.state with
  | true =>
      rw [if_pos hended, List.getLast?_append_of_ne_nil _ (List.cons_ne_nil _ _)] at hrow
      cases hrow
      rfl
  | false =>
      rw [if_neg (by simp [hended]), List.append_nil, ← h.latestOverride, ← hd.latestOverride]
        at hrow
      rw [hrow, endedOverrides, Option.any_some] at hended
      simpa [hphase] using hended

theorem RoomLog.lastPhase (hhash : base.stableHash.Injective) (hrt : base.Restart rt)
    (h : RoomLog base db d.roomId d.room.key) (h' : RoomLog base db' d.roomId d.room.key)
    (hd : RoomDecided rt loaded d observedAt correlationId db db')
    (hw : RoomWritten rt loaded d observedAt correlationId db db') :
    ∃ row, latest RoomStateRow.rank (db'.statesOf d.roomId) = some row ∧
      row.automationPhase = d.state.phase := by
  obtain ⟨row, hlast, hrow⟩ := h.lastState hd hw
  rw [hrt.stableHash] at hrow
  obtain ⟨a, -, z, state, stored, hrecords, -⟩ := PairedLogs.last h'.pms hlast
  have hphase := congrArg RoomStateDocument.phase (hrecords.document hhash hrow)
  exact ⟨row, h'.latestState.trans hlast, hrecords.phase.trans hphase⟩

theorem RoomLog.manualRow (h : RoomLog base db d.roomId d.room.key)
    (hd : RoomDecided rt loaded d observedAt correlationId db db')
    (hw : RoomWritten rt loaded d observedAt correlationId db db')
    (hphase : d.state.phase = .manualOverride) :
    ∃ row clockBookingId o, (db'.overridesOf d.roomId).getLast? = some row ∧
      d.latestOverride = some row ∧ d.override = some o ∧
      overrideRowIsActive row observedAt = true ∧
      manualOverrideFromRow row clockBookingId = some o := by
  obtain ⟨selected, o, -, ho, -, -⟩ := evaluateRoom_manual hd.state hphase
  obtain ⟨row, clockBookingId, hrow, hactive, hfrom, -⟩ :=
    activeOverrideFromRow_eq_some (hd.override.symm.trans ho)
  rw [Datetime.instant_inZone] at hactive
  refine ⟨row, clockBookingId, o, ?_, hrow, ho, hactive, hfrom⟩
  obtain ⟨id, commandId, hoverrides⟩ := hw.overrides
  rw [hoverrides, if_neg (by simp [endedOverrides, hrow, hphase]), List.append_nil,
    ← h.latestOverride, ← hd.latestOverride]
  exact hrow

structure TellsTheTruth (base rt : AppRuntime H) (db : Db H) (observedAt : Instant)
    (d : RoomDecision H) (payload : ControlPayload) : Prop where
  retained : db.controlState (base.topics.roomControlState d.room.key) d.room.key observedAt =
    .control payload
  active : payload.active = true ↔ d.state.phase = .manualOverride
  shows : d.state.phase = .manualOverride → ∃ row o, d.latestOverride = some row ∧
    d.override = some o ∧ ShowsOverride payload row o
  reconnect : ∀ now : Timestamp, now.toUtc rt.zone = observedAt →
    controlStatePayload rt (rt.session db) d.room.key now = { payload with updatedAt := observedAt }

omit [DecidableEq H] in
theorem TellsTheTruth.of_automatic {since : Instant} (hphase : d.state.phase ≠ .manualOverride)
    (hretained : db.controlState (base.topics.roomControlState d.room.key) d.room.key observedAt =
      .control (defaultControlStatePayload d.room.key since))
    (hreconnect : ∀ now : Timestamp, now.toUtc rt.zone = observedAt →
      controlStatePayload rt (rt.session db) d.room.key now =
        defaultControlStatePayload d.room.key observedAt) :
    ∃ payload, TellsTheTruth base rt db observedAt d payload := by
  refine ⟨_, hretained, ?_, fun hmanual => absurd hmanual hphase, hreconnect⟩
  exact ⟨fun hactive => Bool.noConfusion hactive, fun hmanual => absurd hmanual hphase⟩

omit [DecidableEq H] in
theorem RoomLog.controlState {roomId : UUID} {roomKey : String}
    (h : RoomLog base db roomId roomKey) (now : Instant) :
    db.controlState (base.topics.roomControlState roomKey) roomKey now =
      .control (controlStatePayloadFromOverride roomKey (db.overridesOf roomId).getLast?
        (((db.overridesOf roomId).getLast?.map (·.startsAt)).getD now) none) := by
  unfold Db.controlState Db.lastPayload
  cases hlast : (db.overridesOf roomId).getLast? with
  | none =>
      rw [PairedLogs.last_none h.controls hlast]
      rfl
  | some row =>
      obtain ⟨a, ha, hcontrol⟩ := PairedLogs.last h.controls hlast
      rw [ha, hcontrol]
      rfl

theorem RoomLog.tellsTheTruth (hhash : base.stableHash.Injective) (hrt : base.Restart rt)
    (hstore : RegistryStore base db') (h : RoomLog base db d.roomId d.room.key)
    (h' : RoomLog base db' d.roomId d.room.key)
    (hd : RoomDecided rt loaded d observedAt correlationId db db')
    (hw : RoomWritten rt loaded d observedAt correlationId db db') :
    ∃ payload, TellsTheTruth base rt db' observedAt d payload := by
  obtain ⟨propertyId, hcolumn⟩ := hd.column
  obtain ⟨stateRow, hstate, hstatePhase⟩ := h.lastPhase hhash hrt h' hd hw
  have hretained := h'.controlState observedAt
  have hreconnect := controlStatePayload_of_stored hstore hrt.propertyKey hcolumn
  rw [h'.latestOverride, hstate] at hreconnect
  by_cases hphase : d.state.phase = .manualOverride
  · obtain ⟨row, clockBookingId, o, hlast, hrow, ho, hactive, hfrom⟩ := h.manualRow hd hw hphase
    have hmode : row.controlMode ≠ .automatic := by
      intro hauto
      rw [overrideRowIsActive_automatic hauto] at hactive
      cases hactive
    obtain ⟨hstarts, hlasts⟩ := h'.starts row (List.mem_of_getLast? hlast) hmode
    obtain ⟨hon, hshows⟩ :=
      controlStatePayloadFromOverride_shows d.room.key none hstarts hlasts hfrom
    rw [hlast] at hretained
    refine ⟨_, hretained, ⟨fun _ => hphase, fun _ => hon⟩, fun _ => ⟨row, o, hrow, ho, hshows⟩, ?_⟩
    intro now hnow
    rw [hreconnect, hlast, hnow]
    refine controlStatePayloadFromOverride_updatedAt hstarts ?_
    simp [shownActive, hactive, hstatePhase, hphase]
  · have hauto : ∀ row ∈ (db'.overridesOf d.roomId).getLast?, row.controlMode = .automatic :=
      fun row hlast => h.lastOverride_automatic hd hw hphase hlast
    rw [controlStatePayloadFromOverride_inactive none
      fun row hrow => overrideRowIsActive_automatic (hauto row hrow) _] at hretained
    refine TellsTheTruth.of_automatic hphase hretained fun now hnow => ?_
    rw [hreconnect, hnow, controlStatePayloadFromOverride_inactive]
    intro row hrow
    have hidle := overrideRowIsActive_automatic (hauto row hrow) observedAt
    simp [shownActive, Option.mem_def.mp hrow, hidle]

theorem control_state_tells_the_truth (hinj : base.uuid4.Injective)
    (hhash : base.stableHash.Injective) {requests : List (Request H)} {request : Request H}
    (hrun : Run next (ServedBy base LaterThanStored) (Db.empty H) requests db)
    (hserved : ServedBy base LaterThanStored db request) {out : Outcome H}
    (hout : execute request.runtime db request.transaction = .ok out) {d : RoomDecision H}
    (hmem : d ∈ out.decisions) :
    ∃ payload, TellsTheTruth base request.runtime out.db
      (request.transaction.timestamp request.runtime.zone) d payload := by
  obtain ⟨hdb, hlogs⟩ := run_roomLogs hinj hrun
  have hnext := next_of_ok hout
  have hdb' := next_invariant hinj hserved hnext hdb
  have hlogs' := next_roomLogs hinj hserved hnext hdb hlogs
  obtain ⟨hgrowth, heffect⟩ := execute_logEffect hinj hserved.1 hdb hout
  cases heffect with
  | evaluated h =>
      have hd := h.decided d hmem
      obtain ⟨propertyId, hcolumn⟩ := hd.column
      exact (hlogs.grown hdb hdb'.registry hgrowth hcolumn).tellsTheTruth hhash hserved.1
        hdb'.registry (hlogs'.rooms _ _ _ hcolumn) hd (h.written d hmem)
  | commanded hidle => rw [hidle] at hmem; cases hmem
  | untouched hidle => rw [hidle] at hmem; cases hmem

theorem manual_room_tells_the_truth :
    ∃ out, execute (demoRuntime false) (demoStore demoOccupiedRun)
        (.evaluateAllRooms (demoNow 10 10) 2003) = .ok out ∧
      ∃ d ∈ out.decisions, (d.room = room214 ∧ d.state.phase = .manualOverride) ∧
        ∃ payload, TellsTheTruth (demoRuntime false) (demoRuntime false) out.db
          (demoInstant 10 10) d payload := by
  obtain ⟨out, hout, d, hd, hchecked⟩ := exists_decision (demoRuntime false)
    (demoStore demoOccupiedRun) (.evaluateAllRooms (demoNow 10 10) 2003)
    (p := fun d => decide (d.room = room214 ∧ d.state.phase = .manualOverride))
    (by decide +kernel)
  have hserved : ServedBy (demoRuntime false) LaterThanStored (demoStore demoOccupiedRun)
      (demoRequest (.evaluateAllRooms (demoNow 10 10) 2003)) := ⟨.refl _, by decide +kernel⟩
  have htruth := control_state_tells_the_truth (demoRuntime_uuid4_injective false)
    Function.injective_id demoOccupiedRun_run
    hserved hout hd
  exact ⟨out, hout, d, hd, of_decide_eq_true hchecked, htruth⟩

end ClockOrchestrator
