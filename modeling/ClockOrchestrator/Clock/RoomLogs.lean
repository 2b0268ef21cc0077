import ClockOrchestrator.Clock.RoomPass
import ClockOrchestrator.Persistence.Announcements

namespace ClockOrchestrator

open Python UnitOfWork

variable {H : Type} {rt : AppRuntime H} {rows : RegistryRows} {loaded : LoadedBookings}
  {observedAt : Instant} {correlationId : UUID}

def decidedBooking (loaded : LoadedBookings) (d : RoomDecision H) : Option UUID :=
  d.state.booking.bind fun b => loaded.idsByClockBookingId b.clockBookingId

def pmsAnnouncement (rt : AppRuntime H) (d : RoomDecision H) (observedAt : Instant)
    (correlationId : UUID) : Announcement :=
  ⟨.pms (pmsStatePayload rt.zone d.state correlationId), observedAt, correlationId⟩

def intentAnnouncement (rt : AppRuntime H) (d : RoomDecision H) (intent : DesiredRoomIntent)
    (observedAt : Instant) (correlationId : UUID) : Announcement :=
  ⟨.intent (modelDump rt.zone { intent with intentVersion := persistedIntentVersion d }),
    observedAt, correlationId⟩

def endAnnouncement (d : RoomDecision H) (observedAt : Instant) (correlationId : UUID) :
    Announcement :=
  ⟨.control (defaultControlStatePayload d.room.key observedAt), observedAt, correlationId⟩

structure PassLogs [DecidableEq H] (rt : AppRuntime H) (loaded : LoadedBookings)
    (d : RoomDecision H) (observedAt : Instant) (correlationId : UUID) (db db' : Db H) :
    Prop where
  states : ∃ drawnFrom : Db H, db'.roomStates = db.roomStates ++
    if unchangedState rt d then []
    else [roomStateRow rt d (decidedBooking loaded d) (persistedIntentVersion d) observedAt
      drawnFrom]
  overrides : ∃ id commandId, db'.overrides = db.overrides ++
    if endedOverrides d.latestOverride d.state then
      [schedulerOverrideRow id d.roomId commandId observedAt]
    else []
  announced : ∀ topic, db'.announced topic = db.announced topic ++
    ((if unchangedState rt d then [] else
      (if rt.topics.roomPmsState d.room.key = topic then
        [pmsAnnouncement rt d observedAt correlationId] else []) ++
      (if rt.topics.roomIntentState d.room.key = topic then
        (d.intent.map fun i => intentAnnouncement rt d i observedAt correlationId).toList
        else [])) ++
    if endedOverrides d.latestOverride d.state &&
        rt.topics.roomControlState d.room.key = topic then
      [endAnnouncement d observedAt correlationId]
    else [])

variable (rt rows observedAt correlationId) in
theorem endInactiveOverrideIfNeeded_ended (s : DbSession H) {d : RoomDecision H}
    (h : endedOverrides d.latestOverride d.state = true) :
    ∃ row, endInactiveOverrideIfNeeded rt rows s d.roomId d.room.key d.latestOverride d.state
        observedAt correlationId =
      (some (defaultControlStatePayload d.room.key observedAt),
        writeOverrideEnd rt rows d.roomId d.room.key row d.state observedAt correlationId s) := by
  obtain ⟨row, hrow, hended⟩ := (Option.any_eq_true _ _).mp h
  simp only [Bool.and_eq_true, decide_eq_true_eq, ne_eq] at hended
  refine ⟨row, ?_⟩
  unfold endInactiveOverrideIfNeeded
  simp [hrow, hended.1, hended.2, writeOverrideEnd]

theorem endInactiveOverrideIfNeeded_kept {s : DbSession H} {d : RoomDecision H}
    (h : endedOverrides d.latestOverride d.state = false) :
    endInactiveOverrideIfNeeded rt rows s d.roomId d.room.key d.latestOverride d.state
      observedAt correlationId = (none, s) := by
  unfold endedOverrides at h
  unfold endInactiveOverrideIfNeeded
  cases hrow : d.latestOverride with
  | none => rfl
  | some row =>
      rw [hrow, Option.any_some] at h
      by_cases hauto : row.controlMode = .automatic
      · simp [hauto]
      · have hphase : d.state.phase = .manualOverride := by simpa [hauto] using h
        simp [hphase]

theorem controlEvent_announced (room : Room) (control : Option ControlPayload) (s : DbSession H)
    (topic : String) :
    (controlEvent rt room control observedAt correlationId s).live.announced topic =
      s.live.announced topic ++ if rt.topics.roomControlState room.key = topic then
        (control.map fun p => ⟨.control p, observedAt, correlationId⟩).toList else [] := by
  cases control with
  | none => simp [controlEvent]
  | some payload => exact announced_addOutboxEvent ..

theorem intentEvent_announced (room : Room) (intent : Option DesiredRoomIntent)
    (s : DbSession H) (topic : String) :
    (intentEvent rt room intent observedAt correlationId s).live.announced topic =
      s.live.announced topic ++ if rt.topics.roomIntentState room.key = topic then
        (intent.map fun i => ⟨.intent (modelDump rt.zone i), observedAt, correlationId⟩).toList
        else [] := by
  cases intent with
  | none => simp [intentEvent]
  | some intent => exact announced_addOutboxEvent ..

theorem attentionAudit_announced (d : RoomDecision H) (bookingId : Option UUID)
    (s : DbSession H) (topic : String) :
    (attentionAudit rt rows d bookingId observedAt correlationId s).live.announced topic =
      s.live.announced topic := by
  unfold attentionAudit
  split <;> rfl

theorem publishDecision_announced (d : RoomDecision H) (control : Option ControlPayload)
    (s : DbSession H) (topic : String) :
    (publishDecision rt rows loaded d control observedAt correlationId s).live.announced topic =
      s.live.announced topic ++
        ((if rt.topics.roomPmsState d.room.key = topic then
          [pmsAnnouncement rt d observedAt correlationId] else []) ++
        (if rt.topics.roomIntentState d.room.key = topic then
          (d.intent.map fun i => intentAnnouncement rt d i observedAt correlationId).toList
          else [])) ++
        if rt.topics.roomControlState d.room.key = topic then
          (control.map fun p => ⟨.control p, observedAt, correlationId⟩).toList else [] := by
  unfold publishDecision
  rw [attentionAudit_announced, controlEvent_announced, intentEvent_announced, Option.map_map]
  congr 1
  rw [← List.append_assoc]
  congr 1
  exact announced_addOutboxEvent ..

variable (rt rows loaded observedAt correlationId) in
theorem publishDecision_announces (d : RoomDecision H) (control : Option ControlPayload)
    (s : DbSession H) :
    OnlyAnnounces (s.modify (·.addRoomState (roomStateRow rt d (decidedBooking loaded d)
        (persistedIntentVersion d) observedAt s.live)))
      (publishDecision rt rows loaded d control observedAt correlationId s) :=
  (((OnlyAnnounces.outbox _ _ _ _).trans (intentEvent_announces ..)).trans
    (controlEvent_announces ..)).trans (attentionAudit_announces _ _ _)

def settleDecision (rt : AppRuntime H) [DecidableEq H] (rows : RegistryRows)
    (loaded : LoadedBookings) (d : RoomDecision H) (control : Option ControlPayload)
    (observedAt : Instant) (correlationId : UUID) (m : DbSession H) : DbSession H :=
  if unchangedState rt d then controlEvent rt d.room control observedAt correlationId m
  else publishDecision rt rows loaded d control observedAt correlationId m

theorem applyDecision_session [DecidableEq H] (d : RoomDecision H) (s : DbSession H) :
    (applyDecision rt rows loaded d observedAt correlationId s).2.2 =
      settleDecision rt rows loaded d
        (endInactiveOverrideIfNeeded rt rows s d.roomId d.room.key d.latestOverride d.state
          observedAt correlationId).1 observedAt correlationId
        (endInactiveOverrideIfNeeded rt rows s d.roomId d.room.key d.latestOverride d.state
          observedAt correlationId).2 := by
  unfold applyDecision settleDecision
  dsimp only
  split <;> rfl

theorem settleDecision_roomStates [DecidableEq H] (d : RoomDecision H)
    (control : Option ControlPayload) (m : DbSession H) :
    (settleDecision rt rows loaded d control observedAt correlationId m).live.roomStates =
      m.live.roomStates ++ if unchangedState rt d then [] else
        [roomStateRow rt d (decidedBooking loaded d) (persistedIntentVersion d) observedAt
          m.live] := by
  unfold settleDecision
  split
  · rw [(controlEvent_announces rt observedAt correlationId d.room control m).roomStates,
      List.append_nil]
  · exact (publishDecision_announces rt rows loaded observedAt correlationId d control
      m).roomStates

theorem settleDecision_overrides [DecidableEq H] (d : RoomDecision H)
    (control : Option ControlPayload) (m : DbSession H) :
    (settleDecision rt rows loaded d control observedAt correlationId m).live.overrides =
      m.live.overrides := by
  unfold settleDecision
  split
  · exact (controlEvent_announces rt observedAt correlationId d.room control m).overrides
  · exact (publishDecision_announces rt rows loaded observedAt correlationId d control
      m).overrides

theorem settleDecision_announced [DecidableEq H] (d : RoomDecision H)
    (control : Option ControlPayload) (m : DbSession H) (topic : String) :
    (settleDecision rt rows loaded d control observedAt correlationId m).live.announced topic =
      m.live.announced topic ++ ((if unchangedState rt d then [] else
        (if rt.topics.roomPmsState d.room.key = topic then
          [pmsAnnouncement rt d observedAt correlationId] else []) ++
        (if rt.topics.roomIntentState d.room.key = topic then
          (d.intent.map fun i => intentAnnouncement rt d i observedAt correlationId).toList
          else [])) ++
        if rt.topics.roomControlState d.room.key = topic then
          (control.map fun p => ⟨.control p, observedAt, correlationId⟩).toList else []) := by
  unfold settleDecision
  split
  · rw [controlEvent_announced, List.nil_append]
  · rw [publishDecision_announced, List.append_assoc]

theorem applyDecision_logs [DecidableEq H] (d : RoomDecision H) (s : DbSession H) :
    PassLogs rt loaded d observedAt correlationId s.live
      (applyDecision rt rows loaded d observedAt correlationId s).2.2.live := by
  rw [applyDecision_session]
  cases hended : endedOverrides d.latestOverride d.state with
  | true =>
      obtain ⟨row, hend⟩ := endInactiveOverrideIfNeeded_ended rt rows observedAt correlationId s
        hended
      rw [hend]
      refine ⟨⟨_, settleDecision_roomStates ..⟩, ⟨rt.uuid4 s.live.drawn,
        rt.uuid4 (s.live.drawn + 1), ?_⟩, fun topic => ?_⟩
      · rw [settleDecision_overrides, hended, if_pos rfl]
        rfl
      · rw [settleDecision_announced, hended, Bool.true_and]
        simp only [decide_eq_true_eq]
        rfl
  | false =>
      rw [endInactiveOverrideIfNeeded_kept hended]
      refine ⟨⟨_, settleDecision_roomStates ..⟩, ⟨0, 0, ?_⟩, fun topic => ?_⟩
      · rw [settleDecision_overrides, hended, if_neg (by decide), List.append_nil]
      · rw [settleDecision_announced, hended]
        simp

def RowsKept (roomId : UUID) (db db' : Db H) : Prop :=
  db'.statesOf roomId = db.statesOf roomId ∧ db'.overridesOf roomId = db.overridesOf roomId

def TopicsKept (topics : MqttTopics) (roomKey : String) (db db' : Db H) : Prop :=
  ∀ topic ∈ topics.roomDocuments roomKey, db'.announced topic = db.announced topic

theorem RowsKept.trans {roomId : UUID} {db db' db'' : Db H} (h : RowsKept roomId db db')
    (h' : RowsKept roomId db' db'') : RowsKept roomId db db'' :=
  ⟨h'.1.trans h.1, h'.2.trans h.2⟩

theorem TopicsKept.trans {topics : MqttTopics} {roomKey : String} {db db' db'' : Db H}
    (h : TopicsKept topics roomKey db db') (h' : TopicsKept topics roomKey db' db'') :
    TopicsKept topics roomKey db db'' :=
  fun topic htopic => (h' topic htopic).trans (h topic htopic)

section Topics

variable {topics : MqttTopics} {roomKey : String} {db db' : Db H}

theorem TopicsKept.pms (h : TopicsKept topics roomKey db db') :
    db'.announced (topics.roomPmsState roomKey) = db.announced (topics.roomPmsState roomKey) :=
  h _ (by simp [MqttTopics.roomDocuments])

theorem TopicsKept.intent (h : TopicsKept topics roomKey db db') :
    db'.announced (topics.roomIntentState roomKey) =
      db.announced (topics.roomIntentState roomKey) :=
  h _ (by simp [MqttTopics.roomDocuments])

theorem TopicsKept.control (h : TopicsKept topics roomKey db db') :
    db'.announced (topics.roomControlState roomKey) =
      db.announced (topics.roomControlState roomKey) :=
  h _ (by simp [MqttTopics.roomDocuments])

end Topics

structure RoomWritten [DecidableEq H] (rt : AppRuntime H) (loaded : LoadedBookings)
    (d : RoomDecision H) (observedAt : Instant) (correlationId : UUID) (db db' : Db H) :
    Prop where
  states : ∃ drawnFrom : Db H, db'.statesOf d.roomId = db.statesOf d.roomId ++
    if unchangedState rt d then []
    else [roomStateRow rt d (decidedBooking loaded d) (persistedIntentVersion d) observedAt
      drawnFrom]
  overrides : ∃ id commandId, db'.overridesOf d.roomId = db.overridesOf d.roomId ++
    if endedOverrides d.latestOverride d.state then
      [schedulerOverrideRow id d.roomId commandId observedAt]
    else []
  pms : db'.announced (rt.topics.roomPmsState d.room.key) =
    db.announced (rt.topics.roomPmsState d.room.key) ++
      if unchangedState rt d then [] else [pmsAnnouncement rt d observedAt correlationId]
  intents : db'.announced (rt.topics.roomIntentState d.room.key) =
    db.announced (rt.topics.roomIntentState d.room.key) ++
      if unchangedState rt d then []
      else (d.intent.map fun i => intentAnnouncement rt d i observedAt correlationId).toList
  controls : db'.announced (rt.topics.roomControlState d.room.key) =
    db.announced (rt.topics.roomControlState d.room.key) ++
      if endedOverrides d.latestOverride d.state then
        [endAnnouncement d observedAt correlationId]
      else []

section Pass

variable [DecidableEq H] {d : RoomDecision H} {db db' db'' : Db H}

theorem PassLogs.written (h : PassLogs rt loaded d observedAt correlationId db db') :
    RoomWritten rt loaded d observedAt correlationId db db' := by
  obtain ⟨⟨drawnFrom, hstates⟩, ⟨id, commandId, hoverrides⟩, hannounced⟩ := h
  refine ⟨⟨drawnFrom, ?_⟩, ⟨id, commandId, ?_⟩, ?_, ?_, ?_⟩
  · rw [statesOf_append hstates]
    split <;> simp [roomStateRow]
  · rw [overridesOf_append hoverrides]
    split <;> simp [schedulerOverrideRow]
  · rw [hannounced]
    simp [rt.topics.roomIntentState_ne_roomPmsState,
      (rt.topics.roomPmsState_ne_roomControlState _ _).symm]
  · rw [hannounced]
    simp [(rt.topics.roomIntentState_ne_roomPmsState _ _).symm,
      (rt.topics.roomIntentState_ne_roomControlState _ _).symm]
  · rw [hannounced]
    simp [rt.topics.roomPmsState_ne_roomControlState,
      rt.topics.roomIntentState_ne_roomControlState]

theorem PassLogs.rowsKept (h : PassLogs rt loaded d observedAt correlationId db db')
    {roomId : UUID} (hne : d.roomId ≠ roomId) : RowsKept roomId db db' := by
  obtain ⟨⟨drawnFrom, hstates⟩, ⟨id, commandId, hoverrides⟩, -⟩ := h
  refine ⟨?_, ?_⟩
  · rw [statesOf_append hstates]
    split <;> simp [roomStateRow, hne]
  · rw [overridesOf_append hoverrides]
    split <;> simp [schedulerOverrideRow, hne]

theorem PassLogs.topicsKept (h : PassLogs rt loaded d observedAt correlationId db db')
    {roomKey : String} (hne : d.room.key ≠ roomKey) : TopicsKept rt.topics roomKey db db' := by
  intro topic htopic
  have hpms := (rt.topics.roomPmsState_injective).ne hne
  have hintent := (rt.topics.roomIntentState_injective).ne hne
  have hcontrol := (rt.topics.roomControlState_injective).ne hne
  rw [h.announced]
  simp only [MqttTopics.roomDocuments, List.mem_cons, List.not_mem_nil, or_false] at htopic
  rcases htopic with rfl | rfl | rfl
  · simp [hpms, rt.topics.roomIntentState_ne_roomPmsState,
      (rt.topics.roomPmsState_ne_roomControlState _ _).symm]
  · simp [hintent, (rt.topics.roomIntentState_ne_roomPmsState _ _).symm,
      (rt.topics.roomIntentState_ne_roomControlState _ _).symm]
  · simp [hcontrol, rt.topics.roomPmsState_ne_roomControlState,
      rt.topics.roomIntentState_ne_roomControlState]

theorem RoomWritten.after (h : RoomWritten rt loaded d observedAt correlationId db db')
    (hrows : RowsKept d.roomId db' db'') (htopics : TopicsKept rt.topics d.room.key db' db'') :
    RoomWritten rt loaded d observedAt correlationId db db'' where
  states := hrows.1.symm ▸ h.states
  overrides := hrows.2.symm ▸ h.overrides
  pms := htopics.pms.trans h.pms
  intents := htopics.intent.trans h.intents
  controls := htopics.control.trans h.controls

theorem RoomWritten.before (h : RoomWritten rt loaded d observedAt correlationId db' db'')
    (hrows : RowsKept d.roomId db db') (htopics : TopicsKept rt.topics d.room.key db db') :
    RoomWritten rt loaded d observedAt correlationId db db'' where
  states := hrows.1 ▸ h.states
  overrides := hrows.2 ▸ h.overrides
  pms := htopics.pms ▸ h.pms
  intents := htopics.intent ▸ h.intents
  controls := htopics.control ▸ h.controls

end Pass

end ClockOrchestrator
