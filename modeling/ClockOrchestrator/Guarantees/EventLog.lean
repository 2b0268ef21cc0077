import ClockOrchestrator.RoomHistory

namespace ClockOrchestrator

open Python UnitOfWork Trace RankedLog

variable {H : Type} {base rt : AppRuntime H} {db db' : Db H}

def OutboxPayload.stable : OutboxPayload → OutboxPayload
  | .pms p => .pms { p with effectiveFrom := (0, 0), correlationId := 0 }
  | .intent p => .intent { p with intentVersion := 0, effectiveFrom := (0, 0), correlationId := 0 }
  | .control p => .control p

def Db.lastPayload (db : Db H) (topic : String) : Option OutboxPayload :=
  (db.announced topic).getLast?.map (·.payload)

def StableIntent.payload (intent : StableIntent) : OutboxPayload :=
  .intent
    { schemaVersion := 1
      roomKey := intent.roomKey
      intentVersion := 0
      automationPhase := intent.automationPhase
      controlMode := intent.controlMode
      effectiveFrom := (0, 0)
      expiresAt := intent.expiresAt
      hvac := intent.hvac
      waterHeater := intent.waterHeater
      convectors := intent.convectors
      reason := intent.reason
      correlationId := 0 }

def RoomStateDocument.pmsPayload (document : RoomStateDocument) : OutboxPayload :=
  .pms
    { schemaVersion := 1
      roomKey := document.roomKey
      automationPhase := document.phase
      bookingStatus := document.booking.map (·.bookingStatus)
      clockBookingId := document.booking.map (·.clockBookingId)
      arrival := document.booking.map (·.arrival)
      departure := document.booking.map (·.departure)
      needsAttention := document.needsAttention
      attentionReason := document.attentionReason
      reason := document.reason
      effectiveFrom := (0, 0)
      expiresAt := document.expiresAt
      correlationId := 0 }

theorem pmsStatePayload_stable (z : Zone) (state : RoomStateEvaluation) (correlationId : UUID)
    (intent : Option DesiredRoomIntent) :
    (OutboxPayload.pms (pmsStatePayload z state correlationId)).stable =
      (roomStateDocument z state intent).pmsPayload := by
  cases hbooking : state.booking with
  | none => simp [OutboxPayload.stable, pmsStatePayload, RoomStateDocument.pmsPayload,
      roomStateDocument, hbooking]
  | some booking => simp [OutboxPayload.stable, pmsStatePayload, RoomStateDocument.pmsPayload,
      roomStateDocument, hashedBooking, hbooking]

theorem modelDump_stable (z : Zone) (state : RoomStateEvaluation) (intent : DesiredRoomIntent) :
    some (OutboxPayload.intent (modelDump z intent)).stable =
      (roomStateDocument z state (some intent)).intent.map StableIntent.payload := rfl

theorem modelDump_stable_version (z : Zone) (intent : DesiredRoomIntent) (version : ℕ) :
    (OutboxPayload.intent (modelDump z { intent with intentVersion := version })).stable =
      (OutboxPayload.intent (modelDump z intent)).stable := rfl

theorem RoomLog.latestState {roomId : UUID} {roomKey : String}
    (h : RoomLog base db roomId roomKey) :
    latest RoomStateRow.rank (db.statesOf roomId) = (db.statesOf roomId).getLast? := by
  refine latest_eq_getLast? (h.statesOrdered.imp fun {old new} hlt => ?_)
  exact Prod.Lex.toLex_lt_toLex.mpr (.inl hlt)

theorem RoomLog.latestOverride {roomId : UUID} {roomKey : String}
    (h : RoomLog base db roomId roomKey) :
    latest OverrideRow.rank (db.overridesOf roomId) = (db.overridesOf roomId).getLast? := by
  refine latest_eq_getLast? (h.overridesOrdered.imp fun {old new} hlt => ?_)
  exact Prod.Lex.toLex_lt_toLex.mpr (.inl hlt)

variable [DecidableEq H] {loaded : LoadedBookings} {d : RoomDecision H} {observedAt : Instant}
  {correlationId : UUID}

theorem RoomLog.lastState (h : RoomLog base db d.roomId d.room.key)
    (hd : RoomDecided rt loaded d observedAt correlationId db db')
    (hw : RoomWritten rt loaded d observedAt correlationId db db') :
    ∃ row, (db'.statesOf d.roomId).getLast? = some row ∧
      row.payloadHash = rt.stableHash (roomStateDocument rt.zone d.state d.intent) := by
  obtain ⟨drawnFrom, hstates⟩ := hw.states
  rw [hstates]
  cases hunchanged : unchangedState rt d with
  | true =>
      obtain ⟨row, hrow, hhash⟩ := (Option.any_eq_true _ _).mp hunchanged
      refine ⟨row, ?_, of_decide_eq_true hhash⟩
      rw [if_pos rfl, List.append_nil, ← h.latestState, ← hd.latestState]
      exact hrow
  | false =>
      refine ⟨roomStateRow rt d (decidedBooking loaded d) (persistedIntentVersion d) observedAt
        drawnFrom, ?_, rfl⟩
      rw [if_neg (by simp), List.getLast?_append_of_ne_nil _ (List.cons_ne_nil _ _)]
      rfl

omit [DecidableEq H] in
theorem RecordsState.document (hhash : base.stableHash.Injective) {row : RoomStateRow H} {z z' : Zone}
    {state state' : RoomStateEvaluation} {intent : DesiredRoomIntent}
    {intent' : Option DesiredRoomIntent} (h : RecordsState base row z state intent)
    (hrow : row.payloadHash = base.stableHash (roomStateDocument z' state' intent')) :
    roomStateDocument z state (some intent) = roomStateDocument z' state' intent' :=
  hhash (h.hash.symm.trans hrow)

structure Mirrored (base rt : AppRuntime H) (db : Db H) (out : Outcome H) (observedAt : Instant)
    (correlationId : UUID) (d : RoomDecision H) (loaded : LoadedBookings)
    (state : RoomStateEvaluation) (intent : DesiredRoomIntent) : Prop where
  loads : out.loaded = some loaded
  override : d.override = activeOverrideFromRow rt.zone (rt.session out.db)
    (latest OverrideRow.rank (db.overridesOf d.roomId)) (.inZone rt.zone observedAt)
  evaluated : evaluateRoom d.room loaded.bookings (.inZone rt.zone observedAt) rt.policy
    d.override = .ok state
  derived : deriveRoomIntent state rt.policy d.override correlationId = .ok (some intent)
  pms : (out.db.lastPayload (base.topics.roomPmsState d.room.key)).map OutboxPayload.stable =
    some (OutboxPayload.pms (pmsStatePayload rt.zone state correlationId)).stable
  intents : (out.db.lastPayload (base.topics.roomIntentState d.room.key)).map
    OutboxPayload.stable = some (OutboxPayload.intent (modelDump rt.zone intent)).stable

theorem RoomLog.mirrors (hhash : base.stableHash.Injective) (hrt : base.Restart rt)
    {intent : DesiredRoomIntent} (hintent : d.intent = some intent)
    (h : RoomLog base db d.roomId d.room.key) (h' : RoomLog base db' d.roomId d.room.key)
    (hd : RoomDecided rt loaded d observedAt correlationId db db')
    (hw : RoomWritten rt loaded d observedAt correlationId db db') :
    (db'.lastPayload (base.topics.roomPmsState d.room.key)).map OutboxPayload.stable =
        some (OutboxPayload.pms (pmsStatePayload rt.zone d.state correlationId)).stable ∧
      (db'.lastPayload (base.topics.roomIntentState d.room.key)).map OutboxPayload.stable =
        some (OutboxPayload.intent (modelDump rt.zone intent)).stable := by
  obtain ⟨row, hlast, hrow⟩ := h.lastState hd hw
  rw [hrt.stableHash, hintent] at hrow
  unfold Db.lastPayload
  constructor
  · obtain ⟨a, ha, z, state, stored, hrecords, hpms⟩ := PairedLogs.last h'.pms hlast
    have hdocument := hrecords.document hhash hrow
    rw [ha, hpms, Option.map_some, Option.map_some, pmsStatePayload_stable z state _ (some stored),
      pmsStatePayload_stable rt.zone d.state _ (some intent), hdocument]
  · obtain ⟨a, ha, z, state, stored, hrecords, hdump⟩ := PairedLogs.last h'.intents hlast
    have hdocument := hrecords.document hhash hrow
    rw [ha, hdump, Option.map_some, Option.map_some, modelDump_stable_version,
      modelDump_stable z state stored, modelDump_stable rt.zone d.state intent, hdocument]

def PmsOf (row : RoomStateRow H) (a : Announcement) : Prop :=
  a.createdAt = row.createdAt ∧ ∃ p, a.payload = .pms p

def IntentOf (row : RoomStateRow H) (a : Announcement) : Prop :=
  a.createdAt = row.createdAt ∧ ∃ p, a.payload = .intent p ∧ p.intentVersion = row.intentVersion

structure AnnouncedOnce (R : RoomStateRow H → Announcement → Prop)
    (rows rows' : List (RoomStateRow H)) (log log' : List Announcement) : Prop where
  grown : rows <+: rows' ∧ log <+: log'
  all : List.Forall₂ R rows' log'
  added : List.Forall₂ R (appended rows rows') (appended log log')

omit [DecidableEq H] in
theorem AnnouncedOnce.of_forall₂ {R : RoomStateRow H → Announcement → Prop}
    {rows rows' : List (RoomStateRow H)} {log log' : List Announcement} (hrows : rows <+: rows')
    (hlog : log <+: log') (h : List.Forall₂ R rows log) (h' : List.Forall₂ R rows' log') :
    AnnouncedOnce R rows rows' log log' := by
  refine ⟨⟨hrows, hlog⟩, h', ?_⟩
  unfold appended
  rw [h.length_eq]
  exact List.forall₂_drop _ h'

theorem RoomStep.grown {roomId : UUID} {roomKey : String} (htopics : rt.topics = base.topics)
    (h : RoomStep base rt observedAt correlationId db db' roomId roomKey) :
    db.statesOf roomId <+: db'.statesOf roomId ∧
      db.announced (base.topics.roomPmsState roomKey) <+:
        db'.announced (base.topics.roomPmsState roomKey) ∧
      db.announced (base.topics.roomIntentState roomKey) <+:
        db'.announced (base.topics.roomIntentState roomKey) := by
  cases h with
  | kept hrows hkept =>
      rw [hrows.1, hkept.pms, hkept.intent]
      exact ⟨List.prefix_rfl, List.prefix_rfl, List.prefix_rfl⟩
  | decided hid hkey hd hw =>
      subst hid hkey
      obtain ⟨drawnFrom, hstates⟩ := hw.states
      rw [hstates, ← htopics, hw.pms, hw.intents]
      exact ⟨List.prefix_append _ _, List.prefix_append _ _, List.prefix_append _ _⟩
  | commanded hid hw =>
      rw [hw.states, hw.announced, hw.announced]
      exact ⟨List.prefix_rfl, List.prefix_append _ _, List.prefix_append _ _⟩

theorem event_log_mirrors_evaluations (hinj : base.uuid4.Injective)
    (hhash : base.stableHash.Injective) {requests : List (Request H)} {request : Request H}
    (hrun : Run next (ServedBy base LaterThanStored) (Db.empty H) requests db)
    (hserved : ServedBy base LaterThanStored db request) {out : Outcome H}
    (hout : execute request.runtime db request.transaction = .ok out) :
    (∀ d ∈ out.decisions, ∃ loaded state intent,
      Mirrored base request.runtime db out
        (request.transaction.timestamp request.runtime.zone) request.transaction.correlation d
        loaded state intent) ∧
    ∀ roomId propertyId roomKey, (roomId, propertyId, roomKey) ∈ out.db.roomColumns →
      AnnouncedOnce PmsOf (db.statesOf roomId) (out.db.statesOf roomId)
          (db.announced (base.topics.roomPmsState roomKey))
          (out.db.announced (base.topics.roomPmsState roomKey)) ∧
        AnnouncedOnce IntentOf (db.statesOf roomId) (out.db.statesOf roomId)
          (db.announced (base.topics.roomIntentState roomKey))
          (out.db.announced (base.topics.roomIntentState roomKey)) := by
  obtain ⟨hdb, hlogs⟩ := run_roomLogs hinj hrun
  have hnext := next_of_ok hout
  have hdb' := next_invariant hinj hserved hnext hdb
  have hlogs' := next_roomLogs hinj hserved hnext hdb hlogs
  have hrt := hserved.1
  obtain ⟨hgrowth, heffect⟩ := execute_logEffect hinj hrt hdb hout
  constructor
  · intro d hmem
    cases heffect with
    | @evaluated loaded h =>
        have hd := h.decided d hmem
        have hw := h.written d hmem
        obtain ⟨propertyId, hcolumn⟩ := hd.column
        obtain ⟨intent, hintent⟩ := hd.intent_some
        have hlog := hlogs.grown hdb hdb'.registry hgrowth hcolumn
        have hlog' := hlogs'.rooms _ _ _ hcolumn
        obtain ⟨hpms, hintents⟩ := hlog.mirrors hhash hrt hintent hlog' hd hw
        refine ⟨loaded, d.state, intent, h.loads (List.ne_nil_of_mem hmem), ?_, hd.state, ?_, hpms,
          hintents⟩
        · rw [hd.override, hd.latestOverride]
        · rw [hd.intent, hintent]
    | commanded hidle => rw [hidle] at hmem; cases hmem
    | untouched hidle => rw [hidle] at hmem; cases hmem
  · intro roomId propertyId roomKey hcolumn
    have hlog := hlogs.grown hdb hdb'.registry hgrowth hcolumn
    have hlog' := hlogs'.rooms _ _ _ hcolumn
    obtain ⟨hstates, hpms, hintents⟩ := (heffect.roomStep hdb'.registry hcolumn).grown hrt.topics
    constructor
    · have hof : ∀ row a, AnnouncesPms base row a → PmsOf row a := by
        rintro row a ⟨z, state, intent, -, ha⟩
        rw [ha]
        exact ⟨rfl, _, rfl⟩
      exact .of_forall₂ hstates hpms (hlog.pms.imp hof) (hlog'.pms.imp hof)
    · have hof : ∀ row a, AnnouncesIntent base row a → IntentOf row a := by
        rintro row a ⟨z, state, intent, -, ha⟩
        rw [ha]
        exact ⟨rfl, _, rfl, rfl⟩
      exact .of_forall₂ hstates hintents (hlog.intents.imp hof) (hlog'.intents.imp hof)

def demoOccupiedRun : List (Request RoomStateDocument) :=
  [demoRequest (.applySyncResult (demoSyncResult [demoCheckedInStay] (demoNow 9 50)) 2001),
    demoRequest (.applyMqttCommand (demoCommand "mode" "manual" (demoNow 10 0) 1000)),
    demoRequest (.evaluateAllRooms (demoNow 10 5) 2002)]

theorem demoOccupiedRun_run :
    Run next (ServedBy (demoRuntime false) LaterThanStored) (Db.empty _) demoOccupiedRun
      (demoStore demoOccupiedRun) := by
  refine .cons (t := demoStore (demoOccupiedRun.take 1)) ⟨.refl _, ?_⟩ ?_
    (.cons (t := demoStore (demoOccupiedRun.take 2)) ⟨.refl _, ?_⟩ ?_
      (.cons ⟨.refl _, ?_⟩ ?_ (.nil _)))
  · decide +kernel
  · decide +kernel
  · decide +kernel
  · decide +kernel
  · decide +kernel
  · decide +kernel

theorem unchanged_room_is_mirrored :
    ∃ out, execute (demoRuntime false) (demoStore demoOccupiedRun)
        (.evaluateAllRooms (demoNow 10 10) 2003) = .ok out ∧
      ∃ d ∈ out.decisions, (d.room = room214 ∧ unchangedState (demoRuntime false) d = true ∧
          d.state.phase = .manualOverride) ∧
        ∃ loaded state intent, Mirrored (demoRuntime false) (demoRuntime false)
          (demoStore demoOccupiedRun) out (demoInstant 10 10) 2003 d loaded state intent := by
  obtain ⟨out, hout, d, hd, hchecked⟩ := exists_decision (demoRuntime false)
    (demoStore demoOccupiedRun) (.evaluateAllRooms (demoNow 10 10) 2003)
    (p := fun d => decide (d.room = room214 ∧ unchangedState (demoRuntime false) d = true ∧
      d.state.phase = .manualOverride)) (by decide +kernel)
  have hserved : ServedBy (demoRuntime false) LaterThanStored (demoStore demoOccupiedRun)
      (demoRequest (.evaluateAllRooms (demoNow 10 10) 2003)) := ⟨.refl _, by decide +kernel⟩
  have hmirrors := (event_log_mirrors_evaluations (demoRuntime_uuid4_injective false)
    Function.injective_id demoOccupiedRun_run
    hserved hout).1 d hd
  exact ⟨out, hout, d, hd, of_decide_eq_true hchecked, hmirrors⟩

end ClockOrchestrator
