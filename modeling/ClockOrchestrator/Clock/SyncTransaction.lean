import ClockOrchestrator.Clock.SyncLoop
import ClockOrchestrator.Clock.RoomPass

namespace ClockOrchestrator

open Python UnitOfWork

variable {H : Type} {rt base : AppRuntime H}

structure OnlyBookkeeps (db db' : Db H) : Prop where
  registry : KeepsRegistry db db'
  stays : db'.stays = db.stays
  logs : db'.logs = db.logs

variable (rt) in
theorem advanceCursor_bookkeeps (property : PropertyRow) (s : DbSession H)
    (result : SyncRunResult) (observedAt : Instant) :
    OnlyBookkeeps s.live (advanceCursor rt property s result observedAt).live := by
  unfold advanceCursor
  split
  · exact ⟨⟨rfl, rfl, Nat.le_succ _⟩, rfl, rfl⟩
  · exact ⟨⟨rfl, rfl, Nat.le_refl _⟩, rfl, rfl⟩

def finishSync (rt : AppRuntime H) (rows : RegistryRows) (run : SyncRunRow)
    (result : SyncRunResult) (observedAt : Instant) (p : SyncProgress H) (s : DbSession H) :
    DbSession H :=
  (advanceCursor rt rows.property s result observedAt).modify
    (·.setSyncRun { run with processedBookings := p.processedBookings })

theorem finishSync_bookkeeps (rows : RegistryRows) (run : SyncRunRow) (result : SyncRunResult)
    (observedAt : Instant) (p : SyncProgress H) (s : DbSession H) :
    OnlyBookkeeps s.live (finishSync rt rows run result observedAt p s).live := by
  obtain ⟨hr, hs, hl⟩ := advanceCursor_bookkeeps rt rows.property s result observedAt
  exact ⟨⟨hr.properties, hr.rooms, hr.drawn⟩, hs, hl⟩

def openSync (rt : AppRuntime H) (rows : RegistryRows) (result : SyncRunResult)
    (correlationId : UUID) (s : DbSession H) : DbSession H :=
  (s.modify (·.addSyncRun (newSyncRun rt rows.property result correlationId s.live))).flush

variable [DecidableEq H]

theorem applySyncResult_ok {s : DbSession H} {result : SyncRunResult} {correlationId : UUID}
    {out : SyncOutcome H} (h : applySyncResult rt s result correlationId = .ok out) :
    ∃ rows t, ensureRegistry rt s = .ok (rows, t) ∧
      ((result.success = false ∧ out = failedOutcome
          (newSyncRun rt rows.property result correlationId t.live)
          (openSync rt rows result correlationId t)) ∨
        (result.success = true ∧ ∃ p loaded r,
          result.bookings.foldlM
              (processBooking rt rows (result.finishedAt.toUtc rt.zone) correlationId)
              ⟨openSync rt rows result correlationId t, [], 0, 0⟩ = .ok p ∧
            recalculateRooms rt rows p.session p.affectedRoomIds
              (result.finishedAt.toUtc rt.zone) correlationId = .ok (loaded, r) ∧
            out = successOutcome (newSyncRun rt rows.property result correlationId t.live).id p
              loaded r (finishSync rt rows
                (newSyncRun rt rows.property result correlationId t.live) result
                (result.finishedAt.toUtc rt.zone) p r.session))) := by
  unfold applySyncResult at h
  obtain ⟨⟨rows, t⟩, hrows, h⟩ := bind_ok h
  refine ⟨rows, t, hrows, ?_⟩
  dsimp only at h
  split at h
  · next hsuccess =>
      obtain ⟨p, hp, h⟩ := bind_ok h
      obtain ⟨⟨loaded, r⟩, hr, h⟩ := bind_ok h
      cases h
      exact .inr ⟨hsuccess, p, loaded, r, hp, hr, rfl⟩
  · next hfailed =>
      cases h
      exact .inl ⟨by simpa using hfailed, rfl⟩

theorem evaluateRooms_ok {s : DbSession H} {pick : RegistryRows → List UUID} {now : Timestamp}
    {correlationId : UUID} {out : SyncOutcome H}
    (h : evaluateRooms rt s pick now correlationId = .ok out) :
    ∃ rows t loaded r, ensureRegistry rt s = .ok (rows, t) ∧
      recalculateRooms rt rows t (pick rows) (now.toUtc rt.zone) correlationId =
        .ok (loaded, r) ∧
      out = successOutcome (rt.uuid4 r.session.live.drawn) ⟨t, pick rows, 0, 0⟩ loaded r
        (r.session.modify (·.draw)) := by
  unfold evaluateRooms at h
  obtain ⟨⟨rows, t⟩, hrows, h⟩ := bind_ok h
  obtain ⟨⟨loaded, r⟩, hr, h⟩ := bind_ok h
  cases h
  exact ⟨rows, t, loaded, r, hrows, hr, rfl⟩

end ClockOrchestrator
