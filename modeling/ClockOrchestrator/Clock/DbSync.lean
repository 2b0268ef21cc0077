import ClockOrchestrator.Policy.Control
import ClockOrchestrator.Policy.Engine

namespace ClockOrchestrator

open Python UnitOfWork

structure SyncCursorState where
  lastSuccessAt : Option Timestamp
  cursorValue : Option String
  deriving DecidableEq

structure SyncRunResult where
  success : Bool
  bookings : List NormalizedBooking
  startedAt : Timestamp
  finishedAt : Timestamp
  nextCursor : SyncCursorState
  error : Option String
  deriving DecidableEq

def clockBookingsCursorSource : String := "clock_bookings"

structure AssignmentChange where
  affectedRoomIds : List UUID
  currentRoomId : Option UUID
  changed : Bool
  auditEventsCreated : ℕ
  deriving DecidableEq

structure LoadedBookings where
  bookings : List NormalizedBooking
  idsByClockBookingId : String → Option UUID

def assignmentIdentity (b : NormalizedBooking) : Option (Option String × Option String) :=
  if b.hasPhysicalRoom then some (b.physicalRoomId, b.physicalRoomNumber) else none

def assignmentRowIdentity (a : AssignmentRow) : Option String × Option String :=
  (a.clockRoomId, a.physicalRoomNumber)

variable {H : Type}

def resolveRoom (rows : RegistryRows) (b : NormalizedBooking) : Option RoomRow :=
  match (if truthy b.physicalRoomId then b.physicalRoomId.bind rows.roomsByClockId else none) with
  | some row => some row
  | none => if truthy b.physicalRoomNumber then b.physicalRoomNumber.bind rows.roomsByKey else none

def newBookingRow (z : Zone) (id propertyId : UUID) (b : NormalizedBooking)
    (observedAt : Instant) : BookingRow where
  id := id
  propertyId := propertyId
  clockBookingId := b.clockBookingId
  bookingNumber := b.bookingNumber
  externalSource := b.externalSource
  externalReference := b.externalReference
  bookingStatus := b.bookingStatus
  sourceBookingStatus := b.sourceBookingStatus
  arrivalDate := b.arrivalDate
  departureDate := b.departureDate
  createdAt := b.createdAt.map (·.toUtc z)
  updatedAt := b.updatedAt.map (·.toUtc z)
  statusChangedAt := b.statusChangedAt.map (·.toUtc z)
  roomTypeId := b.roomTypeId
  roomTypeName := b.roomTypeName
  adults := b.adults
  children := b.children
  firstSeenAt := (b.firstSeenAt.map (·.toUtc z)).getD observedAt
  lastSeenAt := (b.lastSeenAt.map (·.toUtc z)).getD observedAt
  payloadHash := b.payloadHash
  needsAttention := b.needsAttention
  attentionReason := b.attentionReason
  datesOrdered := b.datesOrdered
  unknownNeedsAttention := b.unknownNeedsAttention

def updatedBookingRow (z : Zone) (stored : BookingRow) (b : NormalizedBooking)
    (observedAt : Instant) : BookingRow :=
  { newBookingRow z stored.id stored.propertyId b observedAt with
    clockBookingId := stored.clockBookingId
    firstSeenAt := stored.firstSeenAt }

def upsertBooking (rt : AppRuntime H) (property : PropertyRow) (s : DbSession H)
    (b : NormalizedBooking) (observedAt : Instant) : BookingRow × Bool × DbSession H :=
  match (s.select (·.bookings) fun r =>
      r.propertyId = property.id && r.clockBookingId = b.clockBookingId).head? with
  | none =>
      let row := newBookingRow rt.zone (rt.uuid4 s.live.drawn) property.id b observedAt
      (row, true, (s.modify (·.addBooking row)).flush)
  | some stored =>
      let row := updatedBookingRow rt.zone stored b observedAt
      (row, stored.payloadHash ≠ b.payloadHash, (s.modify (·.setBooking row)).flush)

def currentAssignment (s : DbSession H) (bookingId : UUID) : Option AssignmentRow :=
  (s.select (·.assignments) fun a => a.bookingId = bookingId && a.isCurrent).head?

def endAssignment (a : AssignmentRow) (observedAt : Instant) : AssignmentRow :=
  { a with isCurrent := false, removedAt := some observedAt }

def removeAssignment (rt : AppRuntime H) (rows : RegistryRows) (s : DbSession H)
    (booking : BookingRow) (current : AssignmentRow) (observedAt : Instant)
    (correlationId : UUID) : AssignmentChange × DbSession H :=
  (⟨current.roomId.toList, none, true, 1⟩,
    (s.modify (·.setAssignment (endAssignment current observedAt))).modify
      (addAuditEvent rt rows.property.id current.roomId (some booking.id)
        (.assignmentRemoved booking.clockBookingId) observedAt correlationId))

def keepAssignment (s : DbSession H) (current : AssignmentRow) (newRoomId : Option UUID) :
    AssignmentChange × DbSession H :=
  if current.roomId ≠ newRoomId then
    (⟨current.roomId.toList ++ newRoomId.toList, newRoomId, true, 0⟩,
      s.modify (·.setAssignment { current with roomId := newRoomId }))
  else (⟨[], current.roomId, false, 0⟩, s)

def endCurrent (s : DbSession H) (current : Option AssignmentRow) (observedAt : Instant) :
    DbSession H :=
  match current with
  | some a => s.modify (·.setAssignment (endAssignment a observedAt))
  | none => s

def newAssignmentRow (rt : AppRuntime H) (db : Db H) (booking : BookingRow)
    (b : NormalizedBooking) (room : Option RoomRow) (observedAt : Instant) : AssignmentRow where
  id := rt.uuid4 db.drawn
  bookingId := booking.id
  roomId := room.map (·.id)
  clockRoomId := b.physicalRoomId
  physicalRoomNumber := b.physicalRoomNumber
  assignedAt := observedAt
  removedAt := none
  isCurrent := true

def auditNewAssignment (rt : AppRuntime H) (rows : RegistryRows) (booking : BookingRow)
    (b : NormalizedBooking) (room : Option RoomRow) (observedAt : Instant)
    (correlationId : UUID) (s : DbSession H) : DbSession H :=
  let s := s.modify (addAuditEvent rt rows.property.id (room.map (·.id)) (some booking.id)
    (.assignmentChanged booking.clockBookingId b.physicalRoomId b.physicalRoomNumber
      (room.map (·.key))) observedAt correlationId)
  if room.isNone then
    s.modify (addAuditEvent rt rows.property.id none (some booking.id)
      (.roomNotInRegistry booking.clockBookingId b.physicalRoomId b.physicalRoomNumber)
      observedAt correlationId)
  else s

def replaceAssignment (rt : AppRuntime H) (rows : RegistryRows) (s : DbSession H)
    (booking : BookingRow) (b : NormalizedBooking) (current : Option AssignmentRow)
    (room : Option RoomRow) (observedAt : Instant) (correlationId : UUID) :
    AssignmentChange × DbSession H :=
  let s := endCurrent s current observedAt
  let s := s.modify fun db => db.addAssignment (newAssignmentRow rt db booking b room observedAt)
  let s := auditNewAssignment rt rows booking b room observedAt correlationId s
  (⟨(current.bind (·.roomId)).toList ++ (room.map (·.id)).toList, room.map (·.id), true,
    if room.isNone then 2 else 1⟩, s)

def syncAssignment (rt : AppRuntime H) (rows : RegistryRows) (s : DbSession H)
    (booking : BookingRow) (b : NormalizedBooking) (observedAt : Instant)
    (correlationId : UUID) : AssignmentChange × DbSession H :=
  let newRoom := resolveRoom rows b
  match assignmentIdentity b, currentAssignment s booking.id with
  | none, none => (⟨[], none, false, 0⟩, s)
  | none, some current => removeAssignment rt rows s booking current observedAt correlationId
  | some identity, some current =>
      if assignmentRowIdentity current = identity then
        keepAssignment s current (newRoom.map (·.id))
      else
        replaceAssignment rt rows s booking b (some current) newRoom observedAt correlationId
  | some _, none =>
      replaceAssignment rt rows s booking b none newRoom observedAt correlationId

def auditUnassignedIfNeeded (rt : AppRuntime H) (property : PropertyRow) (s : DbSession H)
    (booking : BookingRow) (b : NormalizedBooking) (observedAt : Instant)
    (correlationId : UUID) : Except PyError (ℕ × DbSession H) := do
  let evaluation ← evaluateUnassignedBooking b (.inZone rt.zone observedAt) rt.policy
  match evaluation with
  | none => return (0, s)
  | some state =>
      return (1, s.modify (addAuditEvent rt property.id none (some booking.id)
        (.awaitingAssignment b.clockBookingId b.arrivalDate b.departureDate
          state.attentionReason) observedAt correlationId))

def normalizedFromRow (propertyKey : String) (row : BookingRow)
    (assignment : Option AssignmentRow) : NormalizedBooking where
  propertyId := propertyKey
  clockBookingId := row.clockBookingId
  bookingNumber := row.bookingNumber
  externalSource := row.externalSource
  externalReference := row.externalReference
  bookingStatus := row.bookingStatus
  sourceBookingStatus := row.sourceBookingStatus
  arrivalDate := row.arrivalDate
  departureDate := row.departureDate
  createdAt := row.createdAt.map fun u => .aware (.utc u)
  updatedAt := row.updatedAt.map fun u => .aware (.utc u)
  statusChangedAt := row.statusChangedAt.map fun u => .aware (.utc u)
  roomTypeId := row.roomTypeId
  roomTypeName := row.roomTypeName
  physicalRoomId := assignment.bind (·.clockRoomId)
  physicalRoomNumber := assignment.bind (·.physicalRoomNumber)
  adults := row.adults
  children := row.children
  firstSeenAt := some (.aware (.utc row.firstSeenAt))
  lastSeenAt := some (.aware (.utc row.lastSeenAt))
  payloadHash := row.payloadHash
  needsAttention := row.needsAttention
  attentionReason := row.attentionReason
  datesOrdered := row.datesOrdered
  unknownNeedsAttention := row.unknownNeedsAttention

-- The partial unique index leaves a booking at most one current row, so the dictionary
-- assignments_by_booking_id holds the first match.
def loadNormalizedBookings (s : DbSession H) (property : PropertyRow) : LoadedBookings :=
  let rows := s.select (·.bookings) (·.propertyId = property.id)
  let assignments := s.select (·.assignments) fun a =>
    a.bookingId ∈ rows.map (·.id) && a.isCurrent
  { bookings := rows.map fun row =>
      normalizedFromRow property.key row (assignments.find? (·.bookingId = row.id))
    idsByClockBookingId := fun clockBookingId =>
      (rows.find? (·.clockBookingId = clockBookingId)).map (·.id) }

def activeOverrideFromRow (z : Zone) (s : DbSession H) (row : Option OverrideRow)
    (now : Datetime) : Option ManualOverride :=
  match row with
  | none => none
  | some row =>
      if !overrideRowIsActive row (now.instant z) then none
      else match row.untilCheckout, row.bookingId with
        | true, some bookingId =>
            match getBooking s bookingId with
            | none => none
            | some booking => manualOverrideFromRow row (some booking.clockBookingId)
        | _, _ => manualOverrideFromRow row none

def schedulerOverrideRow (rowId roomId commandId : UUID) (observedAt : Instant) : OverrideRow where
  id := rowId
  roomId := roomId
  bookingId := none
  commandId := commandId
  controlMode := .automatic
  hvacMode := some .off
  targetTemperatureC := none
  waterHeaterEnabled := none
  startsAt := observedAt
  expiresAt := none
  checkoutAt := none
  untilCheckout := false
  createdBy := "policy_scheduler"

-- The row draws two identifiers, its primary key and its command id.
def addSchedulerOverride (rt : AppRuntime H) (roomId : UUID) (observedAt : Instant)
    (db : Db H) : Db H :=
  { db.addOverride (schedulerOverrideRow (rt.uuid4 db.drawn) roomId (rt.uuid4 (db.drawn + 1))
      observedAt) with drawn := db.drawn + 2 }

def endInactiveOverrideIfNeeded (rt : AppRuntime H) (rows : RegistryRows) (s : DbSession H)
    (roomId : UUID) (roomKey : String) (latestOverride : Option OverrideRow)
    (state : RoomStateEvaluation) (observedAt : Instant) (correlationId : UUID) :
    Option ControlPayload × DbSession H :=
  match latestOverride with
  | none => (none, s)
  | some row =>
      if row.controlMode = .automatic || state.phase = .manualOverride then (none, s)
      else
        (some (defaultControlStatePayload roomKey observedAt),
          (s.modify (addSchedulerOverride rt roomId observedAt)).modify
            (addAuditEvent rt rows.property.id (some roomId) none
              (.overrideEnded roomKey row.commandId state.phase state.reason) observedAt
              correlationId))

def nextIntentVersion (latest : Option (RoomStateRow H)) : ℕ :=
  match latest with
  | none => 1
  | some row => row.intentVersion + 1

structure RoomDecision (H : Type) where
  roomId : UUID
  room : Room
  latestOverride : Option OverrideRow
  override : Option ManualOverride
  state : RoomStateEvaluation
  intent : Option DesiredRoomIntent
  latestState : Option (RoomStateRow H)

def decideRoom (rt : AppRuntime H) (s : DbSession H) (loaded : LoadedBookings) (roomId : UUID)
    (room : Room) (observedAt : Instant) (correlationId : UUID) :
    Except PyError (RoomDecision H) := do
  let hotelNow := Datetime.inZone rt.zone observedAt
  let latestOverride := latestOverrideRow s roomId
  let override := activeOverrideFromRow rt.zone s latestOverride hotelNow
  let state ← evaluateRoom room loaded.bookings hotelNow rt.policy override
  let intent ← deriveRoomIntent state rt.policy override correlationId
  return ⟨roomId, room, latestOverride, override, state, intent, latestRoomState s roomId⟩

def controlEvent (rt : AppRuntime H) (room : Room) (control : Option ControlPayload)
    (observedAt : Instant) (correlationId : UUID) (s : DbSession H) : DbSession H :=
  match control with
  | none => s
  | some payload =>
      s.modify (addOutboxEvent rt (rt.topics.roomControlState room.key) (.control payload)
        observedAt correlationId)

def intentEvent (rt : AppRuntime H) (room : Room) (intent : Option DesiredRoomIntent)
    (observedAt : Instant) (correlationId : UUID) (s : DbSession H) : DbSession H :=
  match intent with
  | none => s
  | some intent =>
      s.modify (addOutboxEvent rt (rt.topics.roomIntentState room.key)
        (.intent (modelDump rt.zone intent)) observedAt correlationId)

def roomStateRow (rt : AppRuntime H) (d : RoomDecision H) (bookingId : Option UUID)
    (version : ℕ) (observedAt : Instant) (db : Db H) : RoomStateRow H where
  id := rt.uuid4 db.drawn
  roomId := d.roomId
  automationPhase := d.state.phase
  bookingId := bookingId
  needsAttention := d.state.needsAttention
  attentionReason := d.state.attentionReason
  effectiveFrom := d.state.effectiveFrom.instant rt.zone
  expiresAt := d.state.expiresAt.map (·.instant rt.zone)
  intentVersion := version
  payloadHash := rt.stableHash (roomStateDocument rt.zone d.state d.intent)
  createdAt := observedAt

def persistedIntentVersion (d : RoomDecision H) : ℕ :=
  match d.intent with
  | some _ => nextIntentVersion d.latestState
  | none => (d.latestState.map (·.intentVersion)).getD 0

def attentionAudit (rt : AppRuntime H) (rows : RegistryRows) (d : RoomDecision H)
    (bookingId : Option UUID) (observedAt : Instant) (correlationId : UUID)
    (s : DbSession H) : DbSession H :=
  if d.state.needsAttention then
    s.modify (addAuditEvent rt rows.property.id (some d.roomId) bookingId
      (.needsAttention d.room.key d.state.phase d.state.attentionReason) observedAt
      correlationId)
  else s

structure RecalculationCounts where
  roomStatesCreated : ℕ
  outboxEventsCreated : ℕ
  auditEventsCreated : ℕ
  deriving DecidableEq

def publishDecision (rt : AppRuntime H) (rows : RegistryRows) (loaded : LoadedBookings)
    (d : RoomDecision H) (control : Option ControlPayload) (observedAt : Instant)
    (correlationId : UUID) (s : DbSession H) : DbSession H :=
  let version := persistedIntentVersion d
  let bookingId := d.state.booking.bind fun b => loaded.idsByClockBookingId b.clockBookingId
  let s := s.modify fun db =>
    db.addRoomState (roomStateRow rt d bookingId version observedAt db)
  let s := s.modify (addOutboxEvent rt (rt.topics.roomPmsState d.room.key)
    (.pms (pmsStatePayload rt.zone d.state correlationId)) observedAt correlationId)
  let s := intentEvent rt d.room (d.intent.map fun i => { i with intentVersion := version })
    observedAt correlationId s
  let s := controlEvent rt d.room control observedAt correlationId s
  attentionAudit rt rows d bookingId observedAt correlationId s

def unchangedState (rt : AppRuntime H) [DecidableEq H] (d : RoomDecision H) : Bool :=
  d.latestState.any fun row =>
    row.payloadHash = rt.stableHash (roomStateDocument rt.zone d.state d.intent)

def optionCount {α : Type} (value : Option α) : ℕ := if value.isSome then 1 else 0

def applyDecision (rt : AppRuntime H) [DecidableEq H] (rows : RegistryRows)
    (loaded : LoadedBookings) (d : RoomDecision H) (observedAt : Instant)
    (correlationId : UUID) (s : DbSession H) : Option String × RecalculationCounts × DbSession H :=
  let (control, s) := endInactiveOverrideIfNeeded rt rows s d.roomId d.room.key d.latestOverride
    d.state observedAt correlationId
  if unchangedState rt d then
    (control.map fun _ => d.room.key, ⟨0, optionCount control, optionCount control⟩,
      controlEvent rt d.room control observedAt correlationId s)
  else
    (some d.room.key,
      ⟨1, 1 + optionCount d.intent + optionCount control,
        optionCount control + if d.state.needsAttention then 1 else 0⟩,
      publishDecision rt rows loaded d control observedAt correlationId s)

structure Recalculation (H : Type) where
  session : DbSession H
  affectedRoomKeys : List String
  counts : RecalculationCounts
  decisions : List (RoomDecision H)

def RecalculationCounts.add (a b : RecalculationCounts) : RecalculationCounts :=
  ⟨a.roomStatesCreated + b.roomStatesCreated, a.outboxEventsCreated + b.outboxEventsCreated,
    a.auditEventsCreated + b.auditEventsCreated⟩

def recalculateRoom (rt : AppRuntime H) [DecidableEq H] (rows : RegistryRows)
    (loaded : LoadedBookings) (observedAt : Instant) (correlationId : UUID)
    (r : Recalculation H) (roomId : UUID) : Except PyError (Recalculation H) :=
  match rows.domainRoomsById roomId, getRoom r.session roomId with
  | some room, some _ => do
      let d ← decideRoom rt r.session loaded roomId room observedAt correlationId
      let (key, counts, s) := applyDecision rt rows loaded d observedAt correlationId r.session
      return ⟨s, r.affectedRoomKeys ++ key.toList, r.counts.add counts, r.decisions ++ [d]⟩
  | _, _ => .ok r

def sortedRoomIds (roomIds : List UUID) : List UUID := roomIds.dedup.insertionSort (· ≤ ·)

def recalculateRooms (rt : AppRuntime H) [DecidableEq H] (rows : RegistryRows)
    (s : DbSession H) (roomIds : List UUID) (observedAt : Instant) (correlationId : UUID) :
    Except PyError (Option LoadedBookings × Recalculation H) :=
  let start : Recalculation H := ⟨s, [], ⟨0, 0, 0⟩, []⟩
  if roomIds = [] then .ok (none, start)
  else do
    let loaded := loadNormalizedBookings s rows.property
    let r ← (sortedRoomIds roomIds).foldlM
      (recalculateRoom rt rows loaded observedAt correlationId) start
    return (some loaded, r)

end ClockOrchestrator
