import ClockOrchestrator.RuntimeInvariants
import ClockOrchestrator.Clock.RoomLogs

namespace ClockOrchestrator

open Python UnitOfWork Trace RankedLog

variable {H : Type} {base rt : AppRuntime H} {db : Db H}

theorem activeOverrideFromRow_congr (z : Zone) {s s' : DbSession H}
    (h : s.live.bookings = s'.live.bookings) (row : Option OverrideRow) (now : Datetime) :
    activeOverrideFromRow z s row now = activeOverrideFromRow z s' row now := by
  unfold activeOverrideFromRow getBooking
  rw [h]

theorem activeOverrideFromRow_eq_some {z : Zone} {s : DbSession H} {latest : Option OverrideRow}
    {now : Datetime} {o : ManualOverride}
    (h : activeOverrideFromRow z s latest now = some o) :
    ∃ row clockBookingId, latest = some row ∧ overrideRowIsActive row (now.instant z) = true ∧
      manualOverrideFromRow row clockBookingId = some o ∧
      (row.untilCheckout = true → ∃ bookingId booking, row.bookingId = some bookingId ∧
        getBooking s bookingId = some booking ∧ clockBookingId = some booking.clockBookingId) := by
  unfold activeOverrideFromRow at h
  split at h
  · cases h
  · next row =>
      split at h
      · cases h
      · next hactive =>
          have hactive : overrideRowIsActive row (now.instant z) = true := by simpa using hactive
          split at h
          · next bookingId _ hbooking =>
              split at h
              · cases h
              · next booking hfound =>
                  exact ⟨row, _, rfl, hactive, h, fun _ => ⟨bookingId, booking, hbooking, hfound, rfl⟩⟩
          · next hfree =>
              refine ⟨row, none, rfl, hactive, h, fun huntil => ?_⟩
              cases hbooking : row.bookingId with
              | some bookingId => exact absurd hbooking (hfree bookingId huntil)
              | none => simp [overrideRowIsActive, huntil, hbooking] at hactive

structure RoomDecided (rt : AppRuntime H) (loaded : LoadedBookings) (d : RoomDecision H)
    (observedAt : Instant) (correlationId : UUID) (db db' : Db H) : Prop where
  column : ∃ propertyId, (d.roomId, propertyId, d.room.key) ∈ db'.roomColumns
  latestState : d.latestState = latest RoomStateRow.rank (db.statesOf d.roomId)
  latestOverride : d.latestOverride = latest OverrideRow.rank (db.overridesOf d.roomId)
  override : d.override = activeOverrideFromRow rt.zone (rt.session db') d.latestOverride
    (.inZone rt.zone observedAt)
  state : evaluateRoom d.room loaded.bookings (.inZone rt.zone observedAt) rt.policy d.override =
    .ok d.state
  intent : deriveRoomIntent d.state rt.policy d.override correlationId = .ok d.intent

variable [DecidableEq H]

structure EvaluationEffect (base rt : AppRuntime H) (db : Db H) (out : Outcome H)
    (loaded : LoadedBookings) (observedAt : Instant) (correlationId : UUID) : Prop where
  growth : db.roomColumns <+: out.db.roomColumns
  loads : out.decisions ≠ [] → out.loaded = some loaded
  decided : ∀ d ∈ out.decisions, RoomDecided rt loaded d observedAt correlationId db out.db
  written : ∀ d ∈ out.decisions, RoomWritten rt loaded d observedAt correlationId db out.db
  rowsKept : ∀ roomId, (∀ d ∈ out.decisions, d.roomId ≠ roomId) → RowsKept roomId db out.db
  topicsKept : ∀ roomKey, (∀ d ∈ out.decisions, d.room.key ≠ roomKey) →
    TopicsKept base.topics roomKey db out.db

omit [DecidableEq H] in
theorem RoomDecided.after {loaded : LoadedBookings} {d : RoomDecision H} {observedAt : Instant}
    {correlationId : UUID} {db' db'' : Db H}
    (h : RoomDecided rt loaded d observedAt correlationId db db')
    (hkeeps : KeepsRegistry db' db'') (hstays : db''.stays = db'.stays) :
    RoomDecided rt loaded d observedAt correlationId db db'' where
  column := hkeeps.roomColumns ▸ h.column
  latestState := h.latestState
  latestOverride := h.latestOverride
  override := h.override.trans
    (activeOverrideFromRow_congr rt.zone (congrArg Prod.fst hstays).symm _ _)
  state := h.state
  intent := h.intent

omit [DecidableEq H] in
theorem rowsKept_of_logs {db' : Db H} (h : db'.logs = db.logs) (roomId : UUID) :
    RowsKept roomId db db' := by
  simp only [Db.logs, Prod.mk.injEq] at h
  unfold RowsKept Db.statesOf Db.overridesOf
  rw [h.1, h.2.1]
  exact ⟨rfl, rfl⟩

omit [DecidableEq H] in
theorem topicsKept_of_logs {db' : Db H} (h : db'.logs = db.logs) (topics : MqttTopics)
    (roomKey : String) : TopicsKept topics roomKey db db' := by
  simp only [Db.logs, Prod.mk.injEq] at h
  exact fun topic _ => announced_of_outbox h.2.2 topic

structure LoopEffect (base rt : AppRuntime H) (db : Db H) (loaded : LoadedBookings)
    (observedAt : Instant) (correlationId : UUID) (r : Recalculation H) : Prop where
  decided : ∀ d ∈ r.decisions, RoomDecided rt loaded d observedAt correlationId db r.session.live
  written : ∀ d ∈ r.decisions, RoomWritten rt loaded d observedAt correlationId db r.session.live
  rowsKept : ∀ roomId, (∀ d ∈ r.decisions, d.roomId ≠ roomId) → RowsKept roomId db r.session.live
  topicsKept : ∀ roomKey, (∀ d ∈ r.decisions, d.room.key ≠ roomKey) →
    TopicsKept base.topics roomKey db r.session.live

namespace LoopEffect

variable {loaded : LoadedBookings} {observedAt : Instant} {correlationId : UUID}
  {r r' : Recalculation H} {d : RoomDecision H}

theorem step (h : LoopEffect base rt db loaded observedAt correlationId r)
    (htopics : rt.topics = base.topics)
    (hlogs : PassLogs rt loaded d observedAt correlationId r.session.live r'.session.live)
    (hdecisions : r'.decisions = r.decisions ++ [d])
    (hkeeps : KeepsRegistry r.session.live r'.session.live)
    (hstays : r'.session.live.stays = r.session.live.stays)
    (hd : RoomDecided rt loaded d observedAt correlationId db r'.session.live)
    (hids : ∀ earlier ∈ r.decisions, earlier.roomId ≠ d.roomId)
    (hkeys : ∀ earlier ∈ r.decisions, earlier.room.key ≠ d.room.key) :
    LoopEffect base rt db loaded observedAt correlationId r' := by
  refine ⟨?_, ?_, ?_, ?_⟩
  · intro e he
    rw [hdecisions, List.mem_append, List.mem_singleton] at he
    rcases he with he | rfl
    · exact (h.decided e he).after hkeeps hstays
    · exact hd
  · intro e he
    rw [hdecisions, List.mem_append, List.mem_singleton] at he
    rcases he with he | rfl
    · exact (h.written e he).after (hlogs.rowsKept (hids e he).symm)
        (hlogs.topicsKept (hkeys e he).symm)
    · exact hlogs.written.before (h.rowsKept _ hids) (htopics ▸ h.topicsKept _ hkeys)
  · intro roomId hroom
    rw [hdecisions] at hroom
    exact (h.rowsKept roomId fun e he => hroom e (List.mem_append_left _ he)).trans
      (hlogs.rowsKept (hroom d (by simp)))
  · intro roomKey hroom
    rw [hdecisions] at hroom
    exact (h.topicsKept roomKey fun e he => hroom e (List.mem_append_left _ he)).trans
      (htopics ▸ hlogs.topicsKept (hroom d (by simp)))

end LoopEffect

theorem PassStep.roomDecided {rows : RegistryRows} {observedAt : Instant} {correlationId : UUID}
    {s : DbSession H} {roomId : UUID} {rest : List UUID} {r r' : Recalculation H}
    {states newStates : List (RoomStateRow H)} {overrides newOverrides : List OverrideRow}
    {d : RoomDecision H}
    (h : PassStep rt rows observedAt correlationId s roomId rest r r' states newStates overrides
      newOverrides d)
    (hopened : OpenedSession base rt db rows s) :
    RoomDecided rt (loadNormalizedBookings s rows.property) d observedAt correlationId db
      r'.session.live := by
  have hlogs := hopened.logs.live
  simp only [Db.logs, Prod.mk.injEq] at hlogs
  have hkeeps := h.before.registry.trans h.effect.registry
  have hbookings : r.session.live.bookings = r'.session.live.bookings :=
    congrArg Prod.fst h.effect.stays.symm
  have hcolumn := (hkeeps.rowsStored hopened.rowsStored).column_of_domainRoom h.room
  refine ⟨⟨rows.property.id, ?_⟩, ?_, ?_, ?_, h.decided.state, h.decided.intent⟩
  · rw [h.decidedRoom]
    exact hcolumn
  · rw [h.decided.latestState, h.decidedRoom, h.before.latestRoomState_eq hopened.logs.self,
      hlogs.1]
    rfl
  · rw [h.decided.latestOverride, h.decidedRoom, h.before.latestOverrideRow_eq hopened.logs.self,
      hlogs.2.1]
    rfl
  · exact h.decided.override.trans (activeOverrideFromRow_congr rt.zone hbookings _ _)

theorem Evaluates.effect {out : Outcome H} {rows : RegistryRows} {s : DbSession H}
    {r : Recalculation H} {observedAt : Instant} {correlationId : UUID}
    (h : Evaluates base rt db out rows s r observedAt correlationId)
    (htopics : rt.topics = base.topics) :
    EvaluationEffect base rt db out (loadNormalizedBookings s rows.property) observedAt
      correlationId := by
  have hrun := recalculateRooms_induction h.recalculated
    (Q := fun r _ _ => LoopEffect base rt db (loadNormalizedBookings s rows.property) observedAt
      correlationId r)
    ⟨by simp, by simp, fun roomId _ => rowsKept_of_logs h.opened.logs.live roomId,
      fun roomKey _ => topicsKept_of_logs h.opened.logs.live _ roomKey⟩ ?_
  · obtain ⟨states, overrides, hp, heffect⟩ := hrun
    have hkeeps := hp.registry.trans h.bookkeeps.registry
    refine ⟨hkeeps.roomColumns ▸ h.opened.growth, ?_, ?_, ?_, ?_, ?_⟩
    · intro hne
      rcases recalculateRooms_ok h.recalculated with ⟨-, heq⟩ | ⟨-, hloaded, -⟩
      · rw [h.decisions, (Prod.mk.inj heq).2] at hne
        exact absurd rfl hne
      · exact hloaded
    · intro d hd
      exact (heffect.decided d (h.decisions ▸ hd)).after h.bookkeeps.registry h.bookkeeps.stays
    · intro d hd
      exact (heffect.written d (h.decisions ▸ hd)).after (rowsKept_of_logs h.bookkeeps.logs _)
        (topicsKept_of_logs h.bookkeeps.logs _ _)
    · intro roomId hroom
      rw [h.decisions] at hroom
      exact (heffect.rowsKept roomId hroom).trans (rowsKept_of_logs h.bookkeeps.logs _)
    · intro roomKey hroom
      rw [h.decisions] at hroom
      exact (heffect.topicsKept roomKey hroom).trans (topicsKept_of_logs h.bookkeeps.logs _ _)
  · intro roomId rest r r' states newStates overrides newOverrides d hstep hq
    have hlogs : PassLogs rt (loadNormalizedBookings s rows.property) d observedAt correlationId
        r.session.live r'.session.live := hstep.applied ▸ applyDecision_logs d r.session
    have hd := hstep.roomDecided h.opened
    have hids : ∀ earlier ∈ r.decisions, earlier.roomId ≠ d.roomId := by
      rw [hstep.decidedRoom]
      exact hstep.fresh
    refine hq.step htopics hlogs hstep.decisions hstep.effect.registry hstep.effect.stays hd hids
      fun earlier he hkey => hids earlier he ?_
    obtain ⟨propertyId, hcolumn⟩ := hd.column
    obtain ⟨propertyId', hcolumn'⟩ := ((hq.decided earlier he).after hstep.effect.registry
      hstep.effect.stays).column
    have hstore := hstep.after.registry.store h.opened.registry
    have heq := KeyedTable.eq_of_key hstore.roomKeys hcolumn' hcolumn hkey
    exact congrArg Prod.fst heq

end ClockOrchestrator
