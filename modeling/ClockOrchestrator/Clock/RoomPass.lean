import ClockOrchestrator.Clock.DbSync
import ClockOrchestrator.Persistence.Frames
import Mathlib.Data.List.Dedup

namespace ClockOrchestrator

open Python UnitOfWork

variable {H : Type} {rt : AppRuntime H} {rows : RegistryRows} {loaded : LoadedBookings}
  {observedAt : Instant} {correlationId : UUID}

def endedOverrides (row : Option OverrideRow) (state : RoomStateEvaluation) : Bool :=
  row.any fun r => r.controlMode ≠ .automatic && state.phase ≠ .manualOverride

def writeOverrideEnd (rt : AppRuntime H) (rows : RegistryRows) (roomId : UUID) (roomKey : String)
    (row : OverrideRow) (state : RoomStateEvaluation) (observedAt : Instant)
    (correlationId : UUID) (s : DbSession H) : DbSession H :=
  (s.modify (addSchedulerOverride rt roomId observedAt)).modify
    (addAuditEvent rt rows.property.id (some roomId) none
      (.overrideEnded roomKey row.commandId state.phase state.reason) observedAt correlationId)

variable (rt rows observedAt correlationId) in
theorem endInactiveOverrideIfNeeded_cases (s : DbSession H) (roomId : UUID) (roomKey : String)
    (latestOverride : Option OverrideRow) (state : RoomStateEvaluation) :
    (endInactiveOverrideIfNeeded rt rows s roomId roomKey latestOverride state observedAt
        correlationId).2 = s ∨
    ∃ row, latestOverride = some row ∧ row.controlMode ≠ .automatic ∧
      state.phase ≠ .manualOverride ∧
      (endInactiveOverrideIfNeeded rt rows s roomId roomKey latestOverride state observedAt
        correlationId).2 =
          writeOverrideEnd rt rows roomId roomKey row state observedAt correlationId s := by
  unfold endInactiveOverrideIfNeeded
  cases latestOverride with
  | none => exact .inl rfl
  | some row =>
      by_cases h : (decide (row.controlMode = .automatic) || decide (state.phase = .manualOverride))
        = true
      · exact .inl (by simp [h])
      · refine .inr ⟨row, rfl, ?_, ?_, ?_⟩
        · intro hc; simp [hc] at h
        · intro hc; simp [hc] at h
        · simp [h, writeOverrideEnd]

structure OnlyAnnounces (s s' : DbSession H) : Prop where
  flushed : s'.flushed = s.flushed
  autoflush : s'.autoflush = s.autoflush
  registry : KeepsRegistry s.live s'.live
  stays : s'.live.stays = s.live.stays
  roomStates : s'.live.roomStates = s.live.roomStates
  overrides : s'.live.overrides = s.live.overrides

namespace OnlyAnnounces

theorem refl (s : DbSession H) : OnlyAnnounces s s := ⟨rfl, rfl, .refl _, rfl, rfl, rfl⟩

theorem trans {s s' s'' : DbSession H} (h : OnlyAnnounces s s') (h' : OnlyAnnounces s' s'') :
    OnlyAnnounces s s'' :=
  ⟨h'.flushed.trans h.flushed, h'.autoflush.trans h.autoflush, h.registry.trans h'.registry,
    h'.stays.trans h.stays, h'.roomStates.trans h.roomStates, h'.overrides.trans h.overrides⟩

theorem audit (s : DbSession H) (propertyId : UUID) (roomId bookingId : Option UUID)
    (detail : AuditDetail) (at' : Instant) :
    OnlyAnnounces s (s.modify (addAuditEvent rt propertyId roomId bookingId detail at'
      correlationId)) :=
  ⟨rfl, rfl, ⟨rfl, rfl, Nat.le_succ _⟩, rfl, rfl, rfl⟩

theorem outbox (s : DbSession H) (topic : String) (payload : OutboxPayload) (at' : Instant) :
    OnlyAnnounces s (s.modify (addOutboxEvent rt topic payload at' correlationId)) :=
  ⟨rfl, rfl, ⟨rfl, rfl, Nat.le_succ _⟩, rfl, rfl, rfl⟩

end OnlyAnnounces

variable (rt observedAt correlationId) in
theorem controlEvent_announces (room : Room) (control : Option ControlPayload)
    (s : DbSession H) :
    OnlyAnnounces s (controlEvent rt room control observedAt correlationId s) := by
  cases control with
  | none => exact .refl s
  | some payload => exact .outbox s _ _ _

theorem controlEvent_intentVersions (room : Room) (control : Option ControlPayload)
    (s : DbSession H) (topic : String) :
    (controlEvent rt room control observedAt correlationId s).live.intentVersions topic =
      s.live.intentVersions topic := by
  cases control with
  | none => rfl
  | some payload => exact intentVersions_addOutbox_of_none _ rfl topic

theorem intentEvent_announces (room : Room) (intent : Option DesiredRoomIntent)
    (s : DbSession H) :
    OnlyAnnounces s (intentEvent rt room intent observedAt correlationId s) := by
  cases intent with
  | none => exact .refl s
  | some intent => exact .outbox s _ _ _

theorem intentEvent_intentVersions (room : Room) (intent : Option DesiredRoomIntent)
    (s : DbSession H) (topic : String) :
    (intentEvent rt room intent observedAt correlationId s).live.intentVersions topic =
      s.live.intentVersions topic ++
        if rt.topics.roomIntentState room.key = topic then
          (intent.map (·.intentVersion)).toList else [] := by
  cases intent with
  | none => simp [intentEvent]
  | some intent =>
      refine (intentVersions_addOutbox _ _ _).trans ?_
      rfl

theorem attentionAudit_announces (d : RoomDecision H) (bookingId : Option UUID)
    (s : DbSession H) :
    OnlyAnnounces s (attentionAudit rt rows d bookingId observedAt correlationId s) := by
  unfold attentionAudit
  split
  · exact .audit s _ _ _ _ _
  · exact .refl s

theorem attentionAudit_intentVersions (d : RoomDecision H) (bookingId : Option UUID)
    (s : DbSession H) (topic : String) :
    (attentionAudit rt rows d bookingId observedAt correlationId s).live.intentVersions topic =
      s.live.intentVersions topic := by
  unfold attentionAudit
  split <;> rfl

theorem pmsEvent_intentVersions (s : DbSession H) (t topic : String) (payload : PmsPayload) :
    (s.modify (addOutboxEvent rt t (.pms payload) observedAt correlationId)).live.intentVersions
        topic = s.live.intentVersions topic :=
  intentVersions_addOutbox_of_none _ rfl topic

structure PassEffect (rt : AppRuntime H) (d : RoomDecision H) (observedAt : Instant)
    (s s' : DbSession H) : Prop where
  flushed : s'.flushed = s.flushed
  autoflush : s'.autoflush = s.autoflush
  registry : KeepsRegistry s.live s'.live
  stays : s'.live.stays = s.live.stays
  overrides : s'.live.overrides = s.live.overrides ∨ ∃ id commandId,
    s'.live.overrides =
      s.live.overrides ++ [schedulerOverrideRow id d.roomId commandId observedAt]
  published :
    (s'.live.roomStates = s.live.roomStates ∧
      ∀ topic, s'.live.intentVersions topic = s.live.intentVersions topic) ∨
    ∃ row, row.roomId = d.roomId ∧ row.intentVersion = persistedIntentVersion d ∧
      s'.live.roomStates = s.live.roomStates ++ [row] ∧
      ∀ topic, s'.live.intentVersions topic = s.live.intentVersions topic ++
        if rt.topics.roomIntentState d.room.key = topic then
          (d.intent.map fun _ => persistedIntentVersion d).toList else []

variable (rt rows loaded observedAt correlationId) in
theorem publishDecision_effect (d : RoomDecision H) (control : Option ControlPayload)
    (s : DbSession H) :
    ∃ row, row.roomId = d.roomId ∧ row.intentVersion = persistedIntentVersion d ∧
      row.createdAt = observedAt ∧
      OnlyAnnounces (s.modify (·.addRoomState row))
        (publishDecision rt rows loaded d control observedAt correlationId s) ∧
      ∀ topic, (publishDecision rt rows loaded d control observedAt correlationId
          s).live.intentVersions topic = s.live.intentVersions topic ++
        if rt.topics.roomIntentState d.room.key = topic then
          (d.intent.map fun _ => persistedIntentVersion d).toList else [] := by
  refine ⟨roomStateRow rt d (d.state.booking.bind fun b =>
    loaded.idsByClockBookingId b.clockBookingId) (persistedIntentVersion d) observedAt s.live,
    rfl, rfl, rfl, ?_, ?_⟩
  · exact ((((OnlyAnnounces.outbox _ _ _ _).trans (intentEvent_announces ..)).trans
      (controlEvent_announces ..)).trans (attentionAudit_announces _ _ _))
  · intro topic
    unfold publishDecision
    rw [attentionAudit_intentVersions, controlEvent_intentVersions, intentEvent_intentVersions,
      pmsEvent_intentVersions, Option.map_map]
    rfl

variable (rt rows observedAt correlationId) in
theorem writeOverrideEnd_effect (d : RoomDecision H) (roomKey : String) (row : OverrideRow)
    (s : DbSession H) :
    ∃ id commandId,
      OnlyAnnounces (s.modify (·.addOverride
          (schedulerOverrideRow id d.roomId commandId observedAt)))
        (writeOverrideEnd rt rows d.roomId roomKey row d.state observedAt correlationId s) := by
  refine ⟨rt.uuid4 s.live.drawn, rt.uuid4 (s.live.drawn + 1), rfl, rfl, ⟨rfl, rfl, ?_⟩, rfl, rfl,
    rfl⟩
  change s.live.drawn + 1 ≤ s.live.drawn + 2 + 1
  omega

variable (rt rows observedAt correlationId) in
theorem overrideEnd_effect (d : RoomDecision H) (s : DbSession H) :
    ∃ new, (new = [] ∨ ∃ id commandId,
        new = [schedulerOverrideRow id d.roomId commandId observedAt]) ∧
      OnlyAnnounces (s.modify fun db => { db with overrides := db.overrides ++ new })
        (endInactiveOverrideIfNeeded rt rows s d.roomId d.room.key d.latestOverride d.state
          observedAt correlationId).2 ∧
      ∀ topic, (endInactiveOverrideIfNeeded rt rows s d.roomId d.room.key d.latestOverride d.state
        observedAt correlationId).2.live.intentVersions topic = s.live.intentVersions topic := by
  rcases endInactiveOverrideIfNeeded_cases rt rows observedAt correlationId
    s d.roomId d.room.key d.latestOverride d.state with
    h | ⟨row, -, -, -, h⟩
  · refine ⟨[], .inl rfl, ?_, fun topic => by rw [h]⟩
    rw [h]
    exact ⟨rfl, rfl, ⟨rfl, rfl, Nat.le_refl _⟩, rfl, rfl, (List.append_nil _).symm⟩
  · obtain ⟨id, commandId, ha⟩ := writeOverrideEnd_effect rt rows observedAt
      correlationId d d.room.key row s
    rw [h]
    refine ⟨_, .inr ⟨id, commandId, rfl⟩, ?_, fun topic => rfl⟩
    refine ⟨ha.flushed, ha.autoflush, ?_, ha.stays, ha.roomStates, ha.overrides⟩
    exact ⟨ha.registry.properties, ha.registry.rooms, (Nat.le_succ _).trans ha.registry.drawn⟩

theorem applyDecision_effect [DecidableEq H] (d : RoomDecision H) (s : DbSession H) :
    PassEffect rt d observedAt s
      (applyDecision rt rows loaded d observedAt correlationId s).2.2 := by
  obtain ⟨new, hnew, hend, hversions⟩ := overrideEnd_effect rt rows observedAt
    correlationId d s
  have hoverrides : s.live.overrides ++ new = s.live.overrides ∨ ∃ id commandId,
      s.live.overrides ++ new =
        s.live.overrides ++ [schedulerOverrideRow id d.roomId commandId observedAt] := by
    rcases hnew with rfl | ⟨id, commandId, rfl⟩
    · exact .inl (List.append_nil _)
    · exact .inr ⟨id, commandId, rfl⟩
  unfold applyDecision
  generalize endInactiveOverrideIfNeeded rt rows s d.roomId d.room.key d.latestOverride d.state
    observedAt correlationId = stage at hend hversions
  obtain ⟨control, m⟩ := stage
  dsimp only at hend hversions ⊢
  split
  · have h := hend.trans (controlEvent_announces rt observedAt correlationId
      d.room control m)
    refine ⟨h.flushed, h.autoflush, ?_, h.stays, ?_, .inl ⟨h.roomStates, fun topic => ?_⟩⟩
    · exact ⟨h.registry.properties, h.registry.rooms, h.registry.drawn⟩
    · rw [h.overrides]
      exact hoverrides
    · rw [controlEvent_intentVersions, hversions]
  · obtain ⟨row, hroom, hversion, -, h, hv⟩ := publishDecision_effect rt rows loaded
      observedAt correlationId d control m
    refine ⟨h.flushed.trans hend.flushed, h.autoflush.trans hend.autoflush, ?_,
      h.stays.trans hend.stays, ?_, .inr ⟨row, hroom, hversion, ?_, fun topic => ?_⟩⟩
    · exact ⟨h.registry.properties.trans hend.registry.properties,
        h.registry.rooms.trans hend.registry.rooms,
        (hend.registry.drawn.trans (Nat.le_succ _)).trans h.registry.drawn⟩
    · have ho := h.overrides.trans hend.overrides
      rw [ho]
      exact hoverrides
    · rw [h.roomStates]
      change m.live.roomStates ++ [row] = _
      rw [hend.roomStates]
      rfl
    · rw [hv, hversions]

structure Decided (rt : AppRuntime H) (s : DbSession H) (loaded : LoadedBookings)
    (observedAt : Instant) (correlationId : UUID) (d : RoomDecision H) : Prop where
  latestOverride : d.latestOverride = latestOverrideRow s d.roomId
  latestState : d.latestState = latestRoomState s d.roomId
  override : d.override =
    activeOverrideFromRow rt.zone s d.latestOverride (.inZone rt.zone observedAt)
  state : evaluateRoom d.room loaded.bookings (.inZone rt.zone observedAt) rt.policy d.override =
    .ok d.state
  intent : deriveRoomIntent d.state rt.policy d.override correlationId = .ok d.intent

theorem decideRoom_ok {s : DbSession H} {roomId : UUID} {room : Room} {d : RoomDecision H}
    (h : decideRoom rt s loaded roomId room observedAt correlationId = .ok d) :
    d.roomId = roomId ∧ d.room = room ∧ Decided rt s loaded observedAt correlationId d := by
  unfold decideRoom at h
  obtain ⟨state, hstate, h⟩ := bind_ok h
  obtain ⟨intent, hintent, h⟩ := bind_ok h
  cases h
  exact ⟨rfl, rfl, rfl, rfl, rfl, hstate, hintent⟩

theorem recalculateRoom_cases [DecidableEq H] {r r' : Recalculation H} {roomId : UUID}
    (h : recalculateRoom rt rows loaded observedAt correlationId r roomId = .ok r') :
    r' = r ∨ ∃ d, d.roomId = roomId ∧ rows.domainRoomsById roomId = some d.room ∧
      Decided rt r.session loaded observedAt correlationId d ∧
      r'.decisions = r.decisions ++ [d] ∧
      r'.session = (applyDecision rt rows loaded d observedAt correlationId r.session).2.2 := by
  unfold recalculateRoom at h
  split at h
  · next room _ hroom _ =>
      obtain ⟨d, hd, hr⟩ := bind_ok h
      obtain ⟨hid, hdroom, hdecided⟩ := decideRoom_ok hd
      cases hr
      exact .inr ⟨d, hid, hdroom ▸ hroom, hdecided, rfl, rfl⟩
  · cases h
    exact .inl rfl

theorem filter_nil_of_false {ρ : Type} {p : ρ → Bool} {new : List ρ}
    (h : ∀ row ∈ new, p row = false) : new.filter p = [] := by
  rw [List.filter_eq_nil_iff]
  intro row hrow
  simp [h row hrow]

structure PassProgress (s : DbSession H) (observedAt : Instant) (rest : List UUID)
    (r : Recalculation H) (states : List (RoomStateRow H)) (overrides : List OverrideRow) :
    Prop where
  flushed : r.session.flushed = s.flushed
  autoflush : r.session.autoflush = s.autoflush
  registry : KeepsRegistry s.live r.session.live
  stays : r.session.live.stays = s.live.stays
  roomStates : r.session.live.roomStates = s.live.roomStates ++ states
  overrideRows : r.session.live.overrides = s.live.overrides ++ overrides
  statesDone : ∀ row ∈ states, row.roomId ∉ rest
  overridesDone : ∀ row ∈ overrides, row.roomId ∉ rest
  scheduled : ∀ row ∈ overrides, ∃ id roomId commandId,
    row = schedulerOverrideRow id roomId commandId observedAt

namespace PassProgress

variable {s : DbSession H} {rest : List UUID} {r r' : Recalculation H}
  {states : List (RoomStateRow H)} {overrides : List OverrideRow} {roomId : UUID}

theorem states_free (h : PassProgress s observedAt (roomId :: rest) r states overrides) :
    ∀ row ∈ states, decide (row.roomId = roomId) = false := by
  intro row hrow
  have hdone := h.statesDone row hrow
  rw [List.mem_cons, not_or] at hdone
  exact decide_eq_false hdone.1

theorem latestRoomState_eq (h : PassProgress s observedAt (roomId :: rest) r states overrides)
    (hs : s.Shows Db.logs s.live.logs) :
    latestRoomState r.session roomId =
      RankedLog.latest RoomStateRow.rank (s.live.roomStates.filter (·.roomId = roomId)) := by
  have hflushed : r.session.flushed.roomStates = s.live.roomStates := by
    rw [h.flushed]
    exact (hs.map Prod.fst).flushed
  unfold latestRoomState
  rw [Session.select_of_pending (h.roomStates.trans (by rw [hflushed])) h.states_free,
    h.roomStates, List.filter_append, filter_nil_of_false h.states_free, List.append_nil]

theorem latestOverrideRow_eq (h : PassProgress s observedAt (roomId :: rest) r states overrides)
    (hs : s.Shows Db.logs s.live.logs) :
    latestOverrideRow r.session roomId =
      RankedLog.latest OverrideRow.rank (s.live.overrides.filter (·.roomId = roomId)) := by
  have hfree : ∀ row ∈ overrides, decide (row.roomId = roomId) = false := by
    intro row hrow
    have := h.overridesDone row hrow
    simp only [List.mem_cons, not_or] at this
    simp [this.1]
  have hflushed : r.session.flushed.overrides = s.live.overrides := by
    rw [h.flushed]
    exact (hs.map fun logs => logs.2.1).flushed
  unfold latestOverrideRow
  rw [Session.select_of_pending (h.overrideRows.trans (by rw [hflushed])) hfree, h.overrideRows,
    List.filter_append, (filter_nil_of_false hfree), List.append_nil]

theorem start (s : DbSession H) (observedAt : Instant) (rest : List UUID)
    (counts : RecalculationCounts) :
    PassProgress s observedAt rest ⟨s, [], counts, []⟩ [] [] :=
  ⟨rfl, rfl, .refl _, rfl, by simp, by simp, by simp, by simp, by simp⟩

theorem skip (h : PassProgress s observedAt (roomId :: rest) r states overrides) :
    PassProgress s observedAt rest r states overrides where
  flushed := h.flushed
  autoflush := h.autoflush
  registry := h.registry
  stays := h.stays
  roomStates := h.roomStates
  overrideRows := h.overrideRows
  statesDone := fun row hrow hr => h.statesDone row hrow (List.mem_cons_of_mem _ hr)
  overridesDone := fun row hrow hr => h.overridesDone row hrow (List.mem_cons_of_mem _ hr)
  scheduled := h.scheduled

theorem step (h : PassProgress s observedAt (roomId :: rest) r states overrides)
    (hfresh : roomId ∉ rest) {d : RoomDecision H} (hd : d.roomId = roomId)
    (he : PassEffect rt d observedAt r.session r'.session) :
    ∃ newStates newOverrides,
      PassProgress s observedAt rest r' (states ++ newStates) (overrides ++ newOverrides) ∧
      (∀ row ∈ newStates, row.roomId = roomId) ∧ (∀ row ∈ newOverrides, row.roomId = roomId) := by
  obtain ⟨newStates, hstates, hstatesDone⟩ : ∃ new, r'.session.live.roomStates =
      r.session.live.roomStates ++ new ∧ ∀ row ∈ new, row.roomId = roomId := by
    rcases he.published with ⟨hsame, -⟩ | ⟨row, hrow, -, hsame, -⟩
    · exact ⟨[], by simp [hsame], by simp⟩
    · exact ⟨[row], hsame, by simp [hrow, hd]⟩
  obtain ⟨newOverrides, hoverrides, hoverridesDone⟩ : ∃ new, r'.session.live.overrides =
      r.session.live.overrides ++ new ∧ ∀ row ∈ new, row.roomId = roomId ∧
        ∃ id roomId commandId, row = schedulerOverrideRow id roomId commandId observedAt := by
    rcases he.overrides with hsame | ⟨id, commandId, hsame⟩
    · exact ⟨[], by simp [hsame], by simp⟩
    · refine ⟨[_], hsame, ?_⟩
      intro row hrow
      rw [List.mem_singleton] at hrow
      exact ⟨by rw [hrow]; exact hd, _, _, _, hrow⟩
  have hk := h.skip
  refine ⟨newStates, newOverrides, ?_, hstatesDone, fun row hrow => (hoverridesDone row hrow).1⟩
  refine ⟨he.flushed.trans h.flushed, he.autoflush.trans h.autoflush,
    h.registry.trans he.registry, he.stays.trans h.stays, ?_, ?_, ?_, ?_, ?_⟩
  · rw [hstates, h.roomStates, List.append_assoc]
  · rw [hoverrides, h.overrideRows, List.append_assoc]
  · intro row hrow
    rcases List.mem_append.mp hrow with hrow | hrow
    · exact hk.statesDone row hrow
    · rw [hstatesDone row hrow]
      exact hfresh
  · intro row hrow
    rcases List.mem_append.mp hrow with hrow | hrow
    · exact hk.overridesDone row hrow
    · rw [(hoverridesDone row hrow).1]
      exact hfresh
  · intro row hrow
    rcases List.mem_append.mp hrow with hrow | hrow
    · exact h.scheduled row hrow
    · exact (hoverridesDone row hrow).2

end PassProgress

theorem sortedRoomIds_nodup (roomIds : List UUID) : (sortedRoomIds roomIds).Nodup := by
  unfold sortedRoomIds
  rw [(List.perm_insertionSort _ _).nodup_iff]
  exact List.nodup_dedup _

theorem recalculateRooms_ok [DecidableEq H] {s : DbSession H} {roomIds : List UUID}
    {out : Option LoadedBookings × Recalculation H}
    (h : recalculateRooms rt rows s roomIds observedAt correlationId = .ok out) :
    (roomIds = [] ∧ out = (none, ⟨s, [], ⟨0, 0, 0⟩, []⟩)) ∨
    (roomIds ≠ [] ∧ out.1 = some (loadNormalizedBookings s rows.property) ∧
      (sortedRoomIds roomIds).foldlM
        (recalculateRoom rt rows (loadNormalizedBookings s rows.property) observedAt
          correlationId) ⟨s, [], ⟨0, 0, 0⟩, []⟩ = .ok out.2) := by
  unfold recalculateRooms at h
  split at h
  · next hnil =>
      cases h
      exact .inl ⟨hnil, rfl⟩
  · next hne =>
      obtain ⟨r, hr, h⟩ := bind_ok h
      cases h
      exact .inr ⟨hne, rfl, hr⟩

structure PassStep [DecidableEq H] (rt : AppRuntime H) (rows : RegistryRows) (observedAt : Instant)
    (correlationId : UUID) (s : DbSession H) (roomId : UUID) (rest : List UUID)
    (r r' : Recalculation H) (states newStates : List (RoomStateRow H))
    (overrides newOverrides : List OverrideRow) (d : RoomDecision H) : Prop where
  before : PassProgress s observedAt (roomId :: rest) r states overrides
  after : PassProgress s observedAt rest r' (states ++ newStates) (overrides ++ newOverrides)
  decidedRoom : d.roomId = roomId
  room : rows.domainRoomsById roomId = some d.room
  decided : Decided rt r.session (loadNormalizedBookings s rows.property) observedAt
    correlationId d
  fresh : ∀ earlier ∈ r.decisions, earlier.roomId ≠ roomId
  decisions : r'.decisions = r.decisions ++ [d]
  applied : r'.session = (applyDecision rt rows (loadNormalizedBookings s rows.property) d
    observedAt correlationId r.session).2.2
  effect : PassEffect rt d observedAt r.session r'.session
  statesRoom : ∀ row ∈ newStates, row.roomId = roomId
  overridesRoom : ∀ row ∈ newOverrides, row.roomId = roomId

theorem recalculateRooms_induction [DecidableEq H] {s : DbSession H} {roomIds : List UUID}
    {out : Option LoadedBookings × Recalculation H}
    (h : recalculateRooms rt rows s roomIds observedAt correlationId = .ok out)
    {Q : Recalculation H → List (RoomStateRow H) → List OverrideRow → Prop}
    (hstart : Q ⟨s, [], ⟨0, 0, 0⟩, []⟩ [] [])
    (hstep : ∀ roomId rest r r' states newStates overrides newOverrides d,
      PassStep rt rows observedAt correlationId s roomId rest r r' states newStates overrides
        newOverrides d →
      Q r states overrides → Q r' (states ++ newStates) (overrides ++ newOverrides)) :
    ∃ states overrides, PassProgress s observedAt [] out.2 states overrides ∧
      Q out.2 states overrides := by
  rcases recalculateRooms_ok h with ⟨-, rfl⟩ | ⟨-, -, hfold⟩
  · exact ⟨[], [], .start s observedAt [] _, hstart⟩
  · have hrun := foldlM_rest (P := fun rest r => rest.Nodup ∧
      (∀ earlier ∈ r.decisions, earlier.roomId ∉ rest) ∧ ∃ states overrides,
        PassProgress s observedAt rest r states overrides ∧ Q r states overrides) ?_ hfold
      ⟨sortedRoomIds_nodup roomIds, by simp, [], [], .start s observedAt _ _, hstart⟩
    · exact hrun.2.2
    · rintro roomId rest r r' hroom ⟨hnodup, hdone, states, overrides, hp, hq⟩
      obtain ⟨hfresh, hrest⟩ := List.nodup_cons.mp hnodup
      have hothers : ∀ earlier ∈ r.decisions, earlier.roomId ≠ roomId ∧ earlier.roomId ∉ rest := by
        intro earlier hearlier
        simpa only [List.mem_cons, not_or] using hdone earlier hearlier
      refine ⟨hrest, ?_⟩
      rcases recalculateRoom_cases hroom with rfl | ⟨d, hid, hdomain, hdecided, hds, happlied⟩
      · exact ⟨fun earlier he => (hothers earlier he).2, states, overrides, hp.skip, hq⟩
      · have heffect : PassEffect rt d observedAt r.session r'.session :=
          happlied ▸ applyDecision_effect d r.session
        obtain ⟨newStates, newOverrides, hafter, hns, hno⟩ := hp.step hfresh hid heffect
        refine ⟨?_, _, _, hafter, hstep roomId rest r r' states newStates overrides newOverrides d
          ⟨hp, hafter, hid, hdomain, hdecided, fun earlier he => (hothers earlier he).1, hds,
            happlied, heffect, hns, hno⟩ hq⟩
        intro earlier hearlier
        rw [hds, List.mem_append, List.mem_singleton] at hearlier
        rcases hearlier with hearlier | rfl
        · exact (hothers earlier hearlier).2
        · rw [hid]
          exact hfresh

end ClockOrchestrator
