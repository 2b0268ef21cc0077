import ClockOrchestrator.Clock.DbSync

namespace ClockOrchestrator

open Python UnitOfWork

structure PersistedSyncResult where
  syncRunId : UUID
  success : Bool
  processedBookings : ℕ
  affectedRoomKeys : List String
  roomStatesCreated : ℕ
  outboxEventsCreated : ℕ
  auditEventsCreated : ℕ
  deriving DecidableEq

structure SyncOutcome (H : Type) where
  session : DbSession H
  persisted : PersistedSyncResult
  affectedRoomIds : List UUID
  loaded : Option LoadedBookings
  decisions : List (RoomDecision H)

variable {H : Type}

def validateProperty (rt : AppRuntime H) (b : NormalizedBooking) : Except PyError Unit :=
  if b.propertyId ≠ rt.registry.property.key then
    .error (.valueError "normalized booking property_id does not match configured room registry")
  else .ok ()

structure SyncProgress (H : Type) where
  session : DbSession H
  affectedRoomIds : List UUID
  auditEventsCreated : ℕ
  processedBookings : ℕ

def auditIfWithoutRoom (rt : AppRuntime H) (rows : RegistryRows) (s : DbSession H)
    (booking : BookingRow) (b : NormalizedBooking) (observedAt : Instant)
    (correlationId : UUID) : Except PyError (ℕ × DbSession H) :=
  if b.hasPhysicalRoom then .ok (0, s)
  else auditUnassignedIfNeeded rt rows.property s booking b observedAt correlationId

def processBooking (rt : AppRuntime H) (rows : RegistryRows) (observedAt : Instant)
    (correlationId : UUID) (p : SyncProgress H) (b : NormalizedBooking) :
    Except PyError (SyncProgress H) := do
  validateProperty rt b
  let (booking, changed, s) := upsertBooking rt rows.property p.session b observedAt
  let (change, s) := syncAssignment rt rows s booking b observedAt correlationId
  let (audits, s) ← auditIfWithoutRoom rt rows s booking b observedAt correlationId
  return {
    session := s
    affectedRoomIds := p.affectedRoomIds ++ change.affectedRoomIds ++
      (if changed then change.currentRoomId.toList else [])
    auditEventsCreated := p.auditEventsCreated + change.auditEventsCreated + audits
    processedBookings := p.processedBookings + 1 }

def selectCursor (s : DbSession H) (property : PropertyRow) : Option SyncCursorRow :=
  (s.select (·.syncCursors) fun c =>
    c.propertyId = property.id && c.source = clockBookingsCursorSource).head?

def loadCursorState (rt : AppRuntime H) (s : DbSession H) : SyncCursorState :=
  match (s.select (·.properties) (·.key = rt.registry.property.key)).head? with
  | none => ⟨none, none⟩
  | some property =>
      match selectCursor s property with
      | none => ⟨none, none⟩
      | some cursor => ⟨cursor.lastSuccessAt.map fun u => .aware (.utc u), cursor.cursorValue⟩

def advanceCursor (rt : AppRuntime H) (property : PropertyRow) (s : DbSession H)
    (result : SyncRunResult) (observedAt : Instant) : DbSession H :=
  match selectCursor s property with
  | none =>
      s.modify fun db => db.addSyncCursor {
        id := rt.uuid4 db.drawn
        propertyId := property.id
        source := clockBookingsCursorSource
        cursorValue := result.nextCursor.cursorValue
        lastSuccessAt := result.nextCursor.lastSuccessAt.map (·.toUtc rt.zone)
        updatedAt := observedAt }
  | some cursor =>
      s.modify (·.setSyncCursor {
        cursor with
        cursorValue := result.nextCursor.cursorValue
        lastSuccessAt := result.nextCursor.lastSuccessAt.map (·.toUtc rt.zone)
        updatedAt := observedAt })

def newSyncRun (rt : AppRuntime H) (property : PropertyRow) (result : SyncRunResult)
    (correlationId : UUID) (db : Db H) : SyncRunRow where
  id := rt.uuid4 db.drawn
  propertyId := property.id
  startedAt := result.startedAt.toUtc rt.zone
  finishedAt := result.finishedAt.toUtc rt.zone
  status := if result.success then "success" else "failed"
  processedBookings := 0
  errorClassification := result.error
  correlationId := correlationId

def sortedKeys (keys : List String) : List String := keys.insertionSort (· ≤ ·)

def failedOutcome (run : SyncRunRow) (s : DbSession H) : SyncOutcome H where
  session := s
  persisted := ⟨run.id, false, 0, [], 0, 0, 0⟩
  affectedRoomIds := []
  loaded := none
  decisions := []

def successOutcome (syncRunId : UUID) (p : SyncProgress H) (loaded : Option LoadedBookings)
    (r : Recalculation H) (s : DbSession H) : SyncOutcome H where
  session := s
  persisted := {
    syncRunId := syncRunId
    success := true
    processedBookings := p.processedBookings
    affectedRoomKeys := sortedKeys r.affectedRoomKeys
    roomStatesCreated := r.counts.roomStatesCreated
    outboxEventsCreated := r.counts.outboxEventsCreated
    auditEventsCreated := p.auditEventsCreated + r.counts.auditEventsCreated }
  affectedRoomIds := p.affectedRoomIds
  loaded := loaded
  decisions := r.decisions

def applySyncResult (rt : AppRuntime H) [DecidableEq H] (s : DbSession H)
    (result : SyncRunResult) (correlationId : UUID) : Except PyError (SyncOutcome H) := do
  let now := result.finishedAt.toUtc rt.zone
  let (rows, s) ← ensureRegistry rt s
  let run := newSyncRun rt rows.property result correlationId s.live
  let s := (s.modify (·.addSyncRun run)).flush
  if result.success then
    let p ← result.bookings.foldlM (processBooking rt rows now correlationId) ⟨s, [], 0, 0⟩
    let (loaded, r) ← recalculateRooms rt rows p.session p.affectedRoomIds now correlationId
    let s := (advanceCursor rt rows.property r.session result now).modify
      (·.setSyncRun { run with processedBookings := p.processedBookings })
    return successOutcome run.id p loaded r s
  else return failedOutcome run s

-- evaluate_all_rooms and evaluate_room_keys differ in the rooms they pass on.
def evaluateRooms (rt : AppRuntime H) [DecidableEq H] (s : DbSession H)
    (pick : RegistryRows → List UUID) (now : Timestamp) (correlationId : UUID) :
    Except PyError (SyncOutcome H) := do
  let (rows, s) ← ensureRegistry rt s
  let (loaded, r) ← recalculateRooms rt rows s (pick rows) (now.toUtc rt.zone) correlationId
  return successOutcome (rt.uuid4 r.session.live.drawn) ⟨s, pick rows, 0, 0⟩ loaded r
    (r.session.modify (·.draw))

def evaluateAllRooms (rt : AppRuntime H) [DecidableEq H] (s : DbSession H) (now : Timestamp)
    (correlationId : UUID) : Except PyError (SyncOutcome H) :=
  evaluateRooms rt s (·.roomIds) now correlationId

def evaluateRoomKeys (rt : AppRuntime H) [DecidableEq H] (s : DbSession H)
    (roomKeys : List String) (now : Timestamp) (correlationId : UUID) :
    Except PyError (SyncOutcome H) :=
  evaluateRooms rt s (·.roomIdsOfKeys roomKeys) now correlationId

end ClockOrchestrator
