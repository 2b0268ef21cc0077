import ClockOrchestrator.Clock.RepeatedRun
import ClockOrchestrator.Guarantees.EventLog
import ClockOrchestrator.Guarantees.OverrideOrder
import ClockOrchestrator.Guarantees.SyncFreshness

namespace ClockOrchestrator

open Python UnitOfWork Trace RankedLog

variable {H : Type} {base rt : AppRuntime H} {db db' : Db H}

def CommandProcessingResult.evaluated (result : CommandProcessingResult) : Option (String × UUID) :=
  if result.accepted then result.roomKey.map fun roomKey => (roomKey, result.correlationId) else none

variable [DecidableEq H]

-- What handle_control_message leaves in the store, and the exception that it records: each of its
-- two transactions is rolled back alone.
def handleControlMessage (rt : AppRuntime H) (db : Db H) (command : RoomCommand) :
    Db H × Option PyError :=
  match execute rt db (.applyMqttCommand command) with
  | .error e => (db, some e)
  | .ok out =>
      match out.command.bind CommandProcessingResult.evaluated with
      | none => (out.db, none)
      | some (roomKey, correlationId) =>
          match execute rt out.db (.evaluateRoomKeys [roomKey] command.now correlationId) with
          | .error e => (out.db, some e)
          | .ok out' => (out'.db, none)

theorem accepted_command (hinj : base.uuid4.Injective) (hrt : base.Restart rt)
    (hdb : StoreInvariant base db) {command : RoomCommand} {out : Outcome H} {row : OverrideRow}
    (hout : execute rt db (.applyMqttCommand command) = .ok out)
    (hrow : commandRow rt db command (db.currentOverride command.roomKey) = some row) :
    CommandWritten base row command.roomKey (command.now.toUtc rt.zone) command.correlationId db
        out.db ∧
      out.command.bind CommandProcessingResult.evaluated =
        some (command.roomKey, command.correlationId) := by
  obtain ⟨result, hresult, rfl⟩ := map_ok hout
  have heffect := applyMqttCommand_effect hinj hrt.uuid4 hrt.propertyKey hdb.registry hresult
  have hwritten := heffect.written hrt.topics
  cases heffect with
  | @rejected property roomId roomKey error reason t ht hnone =>
      obtain ⟨roomRow, t', hopen, -⟩ := commandRow_eq_some hrow
      obtain ⟨hroom, hcommand⟩ := hnone roomRow t' hopen
      rw [hroom.latest_eq hdb, hrow] at hcommand
      cases hcommand
  | @accepted property room roomRow row' t hkey hopen hroom hcommand =>
      rw [hroom.latest_eq hdb, hrow] at hcommand
      cases hcommand
      have hbefore : t.live.overrides = db.overrides := congrArg (·.2.1) hroom.session.logs.live
      have hadded : (acceptCommand rt property room row command (command.now.toUtc rt.zone)
          t).live.overrides = db.overrides ++ [row] := congrArg (· ++ [row]) hbefore
      refine ⟨?_, ?_⟩
      · rcases hwritten with hsame | ⟨row', hrow'⟩
        · have hsame : _ = db.overrides := congrArg (·.2.1) hsame
          exact absurd (hadded.symm.trans hsame) (by simp)
        · have hlast := hadded.symm.trans hrow'.overrides
          simp only [List.append_cancel_left_eq, List.cons.injEq, and_true] at hlast
          subst hlast
          exact hrow'
      · simp [commandOutcome, CommandProcessingResult.evaluated, hkey]

theorem handleControlMessage_accepted (hinj : base.uuid4.Injective) (hrt : base.Restart rt)
    (hdb : StoreInvariant base db) {command : RoomCommand} {row : OverrideRow}
    (hrow : commandRow rt db command (db.currentOverride command.roomKey) = some row)
    (h : handleControlMessage rt db command = (db', none)) :
    ∃ out out', execute rt db (.applyMqttCommand command) = .ok out ∧
      execute rt out.db (.evaluateRoomKeys [command.roomKey] command.now command.correlationId) =
        .ok out' ∧ db' = out'.db := by
  unfold handleControlMessage at h
  cases hout : execute rt db (.applyMqttCommand command) with
  | error e =>
      rw [hout] at h
      cases h
  | ok out =>
      obtain ⟨-, hevaluated⟩ := accepted_command hinj hrt hdb hout hrow
      rw [hout] at h
      dsimp only at h
      rw [hevaluated] at h
      dsimp only at h
      cases hout' : execute rt out.db
          (.evaluateRoomKeys [command.roomKey] command.now command.correlationId) with
      | error e =>
          rw [hout'] at h
          cases h
      | ok out' =>
          rw [hout'] at h
          cases h
          exact ⟨out, out', rfl, hout', rfl⟩

omit [DecidableEq H] in
theorem loadNormalizedBookings_shows {s : DbSession H} (h : s.Shows Db.stays db.stays) (a : Bool)
    (property : PropertyRow) :
    (loadNormalizedBookings s property).bookings =
      (loadNormalizedBookings (Session.start a db) property).bookings := by
  have hbookings : s.Shows (·.bookings) db.bookings := h.map Prod.fst
  have hassignments : s.Shows (·.assignments) db.assignments := h.map Prod.snd
  have hbookings' := Session.Shows.of_start a db (·.bookings)
  have hassignments' := Session.Shows.of_start a db (·.assignments)
  unfold loadNormalizedBookings
  dsimp only
  rw [Session.select_of_shows hbookings, Session.select_of_shows hbookings',
    Session.select_of_shows hassignments, Session.select_of_shows hassignments']

theorem evaluated_room (hinj : base.uuid4.Injective) (hrt : base.Restart rt)
    (hdb : StoreInvariant base db) {roomKey : String} {now : Timestamp} {correlationId : UUID}
    {out : Outcome H} (hout : execute rt db (.evaluateRoomKeys [roomKey] now correlationId) = .ok out)
    {room : Room} (hroom : rt.registry.byKey roomKey = some room) :
    ∃ loaded d, d.room = room ∧
      RoomDecided rt loaded d (now.toUtc rt.zone) correlationId db out.db ∧
      RoomWritten rt loaded d (now.toUtc rt.zone) correlationId db out.db ∧
      db.roomColumns <+: out.db.roomColumns ∧
      ∀ property ∈ out.db.properties,
        loaded.bookings = (loadNormalizedBookings (rt.session out.db) property).bookings := by
  obtain ⟨sync, hsync, rfl⟩ := map_ok hout
  obtain ⟨rows, t, loaded, r, hrows, hr, rfl⟩ := evaluateRooms_ok hsync
  obtain ⟨hopened, hstays⟩ := ensureRegistry_opened hinj hrt hdb hrows
  obtain ⟨-, hkey⟩ := ensureRegistry_property hinj hrt hdb hrows
  have hevaluates : Evaluates base rt db (SyncOutcome.outcome (successOutcome
      (rt.uuid4 r.session.live.drawn) ⟨t, rows.roomIdsOfKeys [roomKey], 0, 0⟩ loaded r
      (r.session.modify (·.draw)))) rows t r (now.toUtc rt.zone) correlationId :=
    ⟨hopened, hr, rfl, ⟨rfl, rfl, Nat.le_succ _⟩, rfl, rfl⟩
  have heffect := hevaluates.effect hrt.topics
  obtain ⟨hkeeps, hkept⟩ := hevaluates.keeps
  obtain ⟨hmem, hroomKey⟩ := RoomRegistry.byKey_eq_some.mp hroom
  rw [← hopened.entries] at hmem
  obtain ⟨e, he, rfl⟩ := List.mem_map.mp hmem
  have haffected : e.2.id ∈ rows.roomIdsOfKeys [roomKey] :=
    List.mem_map_of_mem (List.mem_filter.mpr ⟨he, by simp [hroomKey]⟩)
  obtain ⟨d, hd, -, hdroom⟩ := hevaluates.decision_of_room haffected
    (hopened.rowsStored.domainRoomsById hopened.registry hopened.entries he)
  refine ⟨_, d, hdroom, heffect.decided d hd, heffect.written d hd, heffect.growth, ?_⟩
  intro property hproperty
  have hcolumns : property.columns ∈ [(rows.property.id, base.registry.property.key)] := by
    rw [← hopened.property, ← hkeeps.propertyColumns]
    exact List.mem_map_of_mem hproperty
  simp only [List.mem_singleton, PropertyRow.columns, Prod.mk.injEq] at hcolumns
  rw [loadNormalizedBookings_congr hcolumns.1.symm (hkey.trans hcolumns.2.symm),
    loadNormalizedBookings_shows hstays rt.autoflush]
  exact (loadNormalizedBookings_of_stays (hkept.trans hstays.live) rt.autoflush rt.autoflush
    property).symm

def overrideAt (rt : AppRuntime H) (db : Db H) (now : Instant) (row : OverrideRow) :
    Option ManualOverride :=
  activeOverrideFromRow rt.zone (rt.session db) (some row) (.inZone rt.zone now)

structure Obeyed (rt : AppRuntime H) (db db' : Db H) (command : RoomCommand) (row : OverrideRow)
    (room : Room) (state : RoomStateEvaluation) (intent : DesiredRoomIntent) : Prop where
  registered : rt.registry.byKey command.roomKey = some room
  evaluated : ∀ property ∈ db'.properties,
    evaluateRoom room (loadNormalizedBookings (rt.session db') property).bookings
      (.inZone rt.zone (command.now.toUtc rt.zone)) rt.policy
      (overrideAt rt db' (command.now.toUtc rt.zone) row) = .ok state
  derived : deriveRoomIntent state rt.policy (overrideAt rt db' (command.now.toUtc rt.zone) row)
    command.correlationId = .ok (some intent)
  recorded : ∃ stored, latest RoomStateRow.rank (db'.statesOf row.roomId) = some stored ∧
    stored.payloadHash = rt.stableHash (roomStateDocument rt.zone state (some intent))
  published : db'.statesOf row.roomId ≠ db.statesOf row.roomId →
    db'.lastPayload (rt.topics.roomPmsState room.key) =
        some (.pms (pmsStatePayload rt.zone state command.correlationId)) ∧
      ∃ version, db'.lastPayload (rt.topics.roomIntentState room.key) =
        some (.intent (modelDump rt.zone { intent with intentVersion := version }))

-- A row that did not make its room manual is ended at the reading at which it starts, so that only
-- the identifiers of the two rows tell which of them is in effect.
def InEffect (db' : Db H) (roomKey : String) (row : OverrideRow) (phase : AutomationPhase) : Prop :=
  if row.controlMode ≠ .automatic ∧ phase ≠ .manualOverride then
    ∃ ended : OverrideRow, ended.controlMode = .automatic ∧ ended.startsAt = row.startsAt ∧
      db'.currentOverride roomKey = some (if row.id < ended.id then ended else row)
  else db'.currentOverride roomKey = some row

section Evaluation

variable {mid : Db H} {command : RoomCommand} {row : OverrideRow} {loaded : LoadedBookings}
  {d : RoomDecision H} {observedAt : Instant} {correlationId : UUID} {intent : DesiredRoomIntent}

theorem RoomWritten.changed (hw : RoomWritten rt loaded d observedAt correlationId mid db')
    (hne : db'.statesOf d.roomId ≠ mid.statesOf d.roomId) : unchangedState rt d = false := by
  obtain ⟨drawnFrom, hstates⟩ := hw.states
  cases hunchanged : unchangedState rt d with
  | false => rfl
  | true => simp [hstates, hunchanged] at hne

theorem RoomWritten.published (hw : RoomWritten rt loaded d observedAt correlationId mid db')
    (hintent : d.intent = some intent) (hne : db'.statesOf d.roomId ≠ mid.statesOf d.roomId) :
    db'.lastPayload (rt.topics.roomPmsState d.room.key) =
        some (.pms (pmsStatePayload rt.zone d.state correlationId)) ∧
      ∃ version, db'.lastPayload (rt.topics.roomIntentState d.room.key) =
        some (.intent (modelDump rt.zone { intent with intentVersion := version })) := by
  have hchanged := hw.changed hne
  have hpms := hw.pms
  have hintents := hw.intents
  rw [hchanged] at hpms hintents
  rw [hintent] at hintents
  refine ⟨?_, persistedIntentVersion d, ?_⟩
  · simp [Db.lastPayload, hpms, pmsAnnouncement]
  · simp [Db.lastPayload, hintents, intentAnnouncement]

omit [DecidableEq H] in
theorem CommandWritten.room_eq (h : CommandWritten base row command.roomKey observedAt correlationId
    db mid) (hgrowth : mid.roomColumns <+: db'.roomColumns) (hstore : RegistryStore base db')
    (hkey : d.room.key = command.roomKey) {propertyId : UUID}
    (hcolumn : (d.roomId, propertyId, d.room.key) ∈ db'.roomColumns) : d.roomId = row.roomId := by
  obtain ⟨propertyId', hcolumn'⟩ := h.column
  rw [hkey] at hcolumn
  exact congrArg Prod.fst
    (KeyedTable.eq_of_key hstore.roomKeys hcolumn (hgrowth.subset hcolumn') rfl)

theorem RoomWritten.inEffect (hdb' : StoreInvariant base db')
    (hd : RoomDecided rt loaded d (command.now.toUtc rt.zone) correlationId mid db')
    (hw : RoomWritten rt loaded d (command.now.toUtc rt.zone) correlationId mid db')
    (hkey : d.room.key = command.roomKey) (hlatest : d.latestOverride = some row)
    (hstart : row.startsAt = command.now.toUtc rt.zone) :
    InEffect db' command.roomKey row d.state.phase := by
  obtain ⟨propertyId, hcolumn⟩ := hd.column
  obtain ⟨id, commandId, hoverrides⟩ := hw.overrides
  have hcurrent := hdb'.currentOverride_eq hdb'.registry List.prefix_rfl hcolumn
  have htop := hd.latestOverride.symm.trans hlatest
  have hended : endedOverrides d.latestOverride d.state =
      decide (row.controlMode ≠ .automatic ∧ d.state.phase ≠ .manualOverride) := by
    simp [endedOverrides, hlatest]
  rw [hended] at hoverrides
  rw [← hkey]
  unfold InEffect
  split
  · next hover =>
      rw [if_pos (decide_eq_true hover)] at hoverrides
      refine ⟨schedulerOverrideRow id d.roomId commandId (command.now.toUtc rt.zone), rfl,
        hstart.symm, ?_⟩
      rw [hcurrent, hoverrides, latest_concat htop]
      congr 2
      simp [OverrideRow.rank, Prod.Lex.toLex_lt_toLex, schedulerOverrideRow, hstart]
  · next hkept =>
      rw [if_neg (by simpa using hkept), List.append_nil] at hoverrides
      rw [hcurrent, hoverrides, htop]

end Evaluation

omit [DecidableEq H] in
theorem commandRow_registered {command : RoomCommand} {current : Option OverrideRow}
    {row : OverrideRow} (h : commandRow rt db command current = some row) :
    ∃ room, rt.registry.byKey command.roomKey = some room := by
  obtain ⟨roomRow, t, hopen, -⟩ := commandRow_eq_some h
  rw [← Option.ne_none_iff_exists']
  intro hnone
  rw [openCommandRoom_none hnone] at hopen
  cases hopen

theorem command_is_obeyed_at_once (hinj : base.uuid4.Injective) (hdb : Reachable base db)
    (hrt : base.Restart rt) {command : RoomCommand} {row : OverrideRow}
    (hinorder : OverridesInOrder db (commandRequest (rt, command)))
    (hlater : ∀ stored ∈ db.roomStates, stored.createdAt < command.now.toUtc rt.zone)
    (hrow : commandRow rt db command (db.currentOverride command.roomKey) = some row)
    (hhandled : handleControlMessage rt db command = (db', none)) :
    ∃ room state intent, Obeyed rt db db' command row room state intent ∧
      InEffect db' command.roomKey row state.phase := by
  have hstore := hdb.invariant hinj
  obtain ⟨room, hroom⟩ := commandRow_registered hrow
  obtain ⟨out, out', hout, hout', rfl⟩ := handleControlMessage_accepted hinj hrt hstore hrow hhandled
  have hnext : next db (commandRequest (rt, command)) = some out.db := next_of_ok hout
  have hcurrent := next_command hinj hrt hstore hnext hinorder command.roomKey
  rw [if_pos rfl, hrow, Option.some_or] at hcurrent
  have hmid : StoreInvariant base out.db := (hdb.execute hrt hout).invariant hinj
  have hend : StoreInvariant base out'.db := ((hdb.execute hrt hout).execute hrt hout').invariant hinj
  obtain ⟨hwritten, -⟩ := accepted_command hinj hrt hstore hout hrow
  obtain ⟨loaded, d, rfl, hd, hw, hgrowth, hloaded⟩ := evaluated_room hinj hrt hmid hout' hroom
  have hkey : d.room.key = command.roomKey := (RoomRegistry.byKey_eq_some.mp hroom).2
  obtain ⟨intent, hintent⟩ := hd.intent_some
  obtain ⟨propertyId, hcolumn⟩ := hd.column
  have hid : d.roomId = row.roomId := hwritten.room_eq hgrowth hend.registry hkey hcolumn
  have hlatest : d.latestOverride = some row := by
    obtain ⟨propertyId', hcolumn'⟩ := hwritten.column
    rw [hd.latestOverride, hid, ← hmid.currentOverride_eq hmid.registry List.prefix_rfl hcolumn']
    exact hcurrent
  have hoverride : d.override = overrideAt rt out'.db (command.now.toUtc rt.zone) row := by
    rw [hd.override, hlatest]
    rfl
  have hstates : ∀ stored ∈ out.db.roomStates, stored.createdAt < command.now.toUtc rt.zone := by
    intro stored hstored
    have hmem : stored ∈ out.db.statesOf stored.roomId :=
      List.mem_filter.mpr ⟨hstored, decide_eq_true rfl⟩
    rw [hwritten.states] at hmem
    exact hlater stored (List.mem_filter.mp hmem).1
  refine ⟨d.room, d.state, intent, ⟨hroom, ?_, ?_, ?_, ?_⟩,
    hw.inEffect hend hd hkey hlatest hwritten.startsAt⟩
  · intro property hproperty
    rw [← hoverride, ← hloaded property hproperty]
    exact hd.state
  · rw [← hoverride, ← hintent]
    exact hd.intent
  · rw [← hid, ← hintent]
    exact hw.latest_document hd hstates
  · rw [← hid, ← hwritten.states]
    exact hw.published hintent

def demoFirstPass : Request RoomStateDocument :=
  demoRequest (.applySyncResult (demoSyncResult [demoCheckedInStay] (demoNow 9 50)) 2000)

def demoManualCommand : RoomCommand := demoCommand "mode" "manual" (demoNow 10 0) 1000

theorem demoFirstPass_reachable : Reachable (demoRuntime false) (demoStore [demoFirstPass]) :=
  (Reachable.empty _).step (.refl _) (by decide +kernel : next (Db.empty _) demoFirstPass = _)

theorem manual_command_is_obeyed : ∃ db' row room state intent,
    handleControlMessage (demoRuntime false) (demoStore [demoFirstPass]) demoManualCommand =
      (db', none) ∧
    Obeyed (demoRuntime false) (demoStore [demoFirstPass]) db' demoManualCommand row room state intent ∧
    InEffect db' "214" row state.phase := by
  have hanswered : (handleControlMessage (demoRuntime false) (demoStore [demoFirstPass])
      demoManualCommand).2 = none := by
    decide +kernel
  have haccepted : (commandRow (demoRuntime false) (demoStore [demoFirstPass]) demoManualCommand
      ((demoStore [demoFirstPass]).currentOverride "214")).isSome = true := by
    decide +kernel
  obtain ⟨row, hrow⟩ := Option.isSome_iff_exists.mp haccepted
  obtain ⟨room, state, intent, hobeyed⟩ := command_is_obeyed_at_once
    (demoRuntime_uuid4_injective false) demoFirstPass_reachable (.refl _) (by decide +kernel)
    (by decide +kernel) hrow (Prod.ext rfl hanswered)
  exact ⟨_, row, room, state, intent, Prod.ext rfl hanswered, hobeyed⟩

end ClockOrchestrator
