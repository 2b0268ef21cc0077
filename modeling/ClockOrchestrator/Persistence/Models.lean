import ClockOrchestrator.Domain.Models
import ClockOrchestrator.Mqtt.Topics
import ClockOrchestrator.Support.UnitOfWork
import ClockOrchestrator.Support.RankedLog
import ClockOrchestrator.Support.KeyedTable
import Mathlib.Data.Prod.Lex

namespace ClockOrchestrator

open Python UnitOfWork

structure PropertyRow where
  id : UUID
  key : String
  name : String
  timezone : String
  deriving DecidableEq

structure RoomRow where
  id : UUID
  propertyId : UUID
  key : String
  name : String
  entranceKey : String
  floor : Option String
  clockRoomId : Option String
  enabled : Bool
  deriving DecidableEq

@[ext]
structure BookingRow where
  id : UUID
  propertyId : UUID
  clockBookingId : String
  bookingNumber : Option String
  externalSource : Option String
  externalReference : Option String
  bookingStatus : BookingStatus
  sourceBookingStatus : String
  arrivalDate : Date
  departureDate : Date
  createdAt : Option Instant
  updatedAt : Option Instant
  statusChangedAt : Option Instant
  roomTypeId : Option String
  roomTypeName : Option String
  adults : Option ℕ
  children : Option ℕ
  firstSeenAt : Instant
  lastSeenAt : Instant
  payloadHash : String
  needsAttention : Bool
  attentionReason : AttentionReason
  datesOrdered : arrivalDate ≤ departureDate
  unknownNeedsAttention : bookingStatus = .unknown → needsAttention = true

instance : DecidableEq BookingRow :=
  fun _ _ => decidable_of_iff' _ BookingRow.ext_iff

structure AssignmentRow where
  id : UUID
  bookingId : UUID
  roomId : Option UUID
  clockRoomId : Option String
  physicalRoomNumber : Option String
  assignedAt : Instant
  removedAt : Option Instant
  isCurrent : Bool
  deriving DecidableEq

structure RoomStateRow (H : Type) where
  id : UUID
  roomId : UUID
  automationPhase : AutomationPhase
  bookingId : Option UUID
  needsAttention : Bool
  attentionReason : AttentionReason
  effectiveFrom : Instant
  expiresAt : Option Instant
  intentVersion : ℕ
  payloadHash : H
  createdAt : Instant
  deriving DecidableEq

structure OverrideRow where
  id : UUID
  roomId : UUID
  bookingId : Option UUID
  commandId : UUID
  controlMode : ControlMode
  hvacMode : Option ManualHvacMode
  targetTemperatureC : Option PyFloat
  waterHeaterEnabled : Option Bool
  startsAt : Instant
  expiresAt : Option Instant
  checkoutAt : Option Instant
  untilCheckout : Bool
  createdBy : String
  deriving DecidableEq

structure SyncCursorRow where
  id : UUID
  propertyId : UUID
  source : String
  cursorValue : Option String
  lastSuccessAt : Option Instant
  updatedAt : Instant
  deriving DecidableEq

structure SyncRunRow where
  id : UUID
  propertyId : UUID
  startedAt : Instant
  finishedAt : Instant
  status : String
  processedBookings : ℕ
  errorClassification : Option String
  correlationId : UUID
  deriving DecidableEq

structure PmsPayload where
  schemaVersion : ℕ
  roomKey : Option String
  automationPhase : AutomationPhase
  bookingStatus : Option BookingStatus
  clockBookingId : Option String
  arrival : Option Date
  departure : Option Date
  needsAttention : Bool
  attentionReason : AttentionReason
  reason : String
  effectiveFrom : Int × Int
  expiresAt : Option (Int × Int)
  correlationId : UUID
  deriving DecidableEq

structure IntentPayload where
  schemaVersion : ℕ
  roomKey : String
  intentVersion : ℕ
  automationPhase : AutomationPhase
  controlMode : ControlMode
  effectiveFrom : Int × Int
  expiresAt : Option (Int × Int)
  hvac : HvacIntent
  waterHeater : BinaryIntent
  convectors : BinaryIntent
  reason : String
  correlationId : UUID
  deriving DecidableEq

inductive DurationOption where
  | minutes60
  | minutes240
  | minutes720
  | untilCheckout
  deriving DecidableEq, Repr

structure ControlPayload where
  schemaVersion : ℕ
  roomKey : String
  controlMode : ControlMode
  manualHvacMode : ManualHvacMode
  manualTargetTemperatureC : Option PyFloat
  overrideDuration : DurationOption
  manualWaterHeaterEnabled : Bool
  active : Bool
  untilCheckout : Bool
  expiresAt : Option Instant
  commandId : Option UUID
  updatedAt : Instant
  deriving DecidableEq

inductive OutboxPayload where
  | pms (payload : PmsPayload)
  | intent (payload : IntentPayload)
  | control (payload : ControlPayload)
  deriving DecidableEq

def OutboxPayload.intentVersion : OutboxPayload → Option ℕ
  | .intent payload => some payload.intentVersion
  | .pms _ => none
  | .control _ => none

inductive OutboxStatus where
  | pending
  | publishing
  | retrying
  | published
  | deadLetter
  deriving DecidableEq, Repr

structure OutboxEvent where
  id : UUID
  topic : String
  payload : OutboxPayload
  qos : ℕ
  retain : Bool
  status : OutboxStatus
  attempts : ℕ
  nextAttemptAt : Option Instant
  lastError : Option String
  claimedAt : Option Instant
  claimedBy : Option String
  createdAt : Instant
  publishedAt : Option Instant
  correlationId : UUID
  deriving DecidableEq

inductive AuditDetail where
  | assignmentRemoved (clockBookingId : String)
  | assignmentChanged (clockBookingId : String) (clockRoomId physicalRoomNumber : Option String)
      (mappedRoom : Option String)
  | roomNotInRegistry (clockBookingId : String) (clockRoomId physicalRoomNumber : Option String)
  | awaitingAssignment (clockBookingId : String) (arrival departure : Date)
      (reason : AttentionReason)
  | needsAttention (roomKey : String) (phase : AutomationPhase) (reason : AttentionReason)
  | overrideEnded (roomKey : String) (previousCommandId : UUID) (phase : AutomationPhase)
      (reason : String)
  | commandAccepted (roomKey field : String) (controlMode : ControlMode) (commandId : UUID)
  | commandRejected (roomKey field reason : String) (commandId : UUID)
  deriving DecidableEq

structure AuditEvent where
  id : UUID
  propertyId : UUID
  roomId : Option UUID
  bookingId : Option UUID
  detail : AuditDetail
  createdAt : Instant
  correlationId : UUID
  deriving DecidableEq

-- drawn counts the row identifiers handed out so far.
structure Db (H : Type) where
  properties : List PropertyRow
  rooms : List RoomRow
  bookings : List BookingRow
  assignments : List AssignmentRow
  roomStates : List (RoomStateRow H)
  overrides : List OverrideRow
  syncCursors : List SyncCursorRow
  syncRuns : List SyncRunRow
  outbox : List OutboxEvent
  audit : List AuditEvent
  drawn : ℕ
  deriving DecidableEq

def Db.empty (H : Type) : Db H := ⟨[], [], [], [], [], [], [], [], [], [], 0⟩

abbrev DbSession (H : Type) := Session (Db H)

def RoomStateRow.rank {H : Type} (row : RoomStateRow H) : ℤ ×ₗ ℕ := toLex (row.createdAt, row.id)

def OverrideRow.rank (row : OverrideRow) : ℤ ×ₗ ℕ := toLex (row.startsAt, row.id)

variable {H : Type}

def latestRoomState (s : DbSession H) (roomId : UUID) : Option (RoomStateRow H) :=
  RankedLog.latest RoomStateRow.rank (s.select (·.roomStates) (·.roomId = roomId))

def latestOverrideRow (s : DbSession H) (roomId : UUID) : Option OverrideRow :=
  RankedLog.latest OverrideRow.rank (s.select (·.overrides) (·.roomId = roomId))

def getRoom (s : DbSession H) (roomId : UUID) : Option RoomRow :=
  s.live.rooms.find? (·.id = roomId)

def getBooking (s : DbSession H) (bookingId : UUID) : Option BookingRow :=
  s.live.bookings.find? (·.id = bookingId)

namespace Db

variable (db : Db H)

def draw : Db H := { db with drawn := db.drawn + 1 }

def addProperty (row : PropertyRow) : Db H :=
  { db with properties := db.properties ++ [row], drawn := db.drawn + 1 }

def setProperty (row : PropertyRow) : Db H :=
  { db with properties := KeyedTable.put (·.id) row db.properties }

def addRoom (row : RoomRow) : Db H :=
  { db with rooms := db.rooms ++ [row], drawn := db.drawn + 1 }

def setRoom (row : RoomRow) : Db H :=
  { db with rooms := KeyedTable.put (·.id) row db.rooms }

def addBooking (row : BookingRow) : Db H :=
  { db with bookings := db.bookings ++ [row], drawn := db.drawn + 1 }

def setBooking (row : BookingRow) : Db H :=
  { db with bookings := KeyedTable.put (·.id) row db.bookings }

def addAssignment (row : AssignmentRow) : Db H :=
  { db with assignments := db.assignments ++ [row], drawn := db.drawn + 1 }

def setAssignment (row : AssignmentRow) : Db H :=
  { db with assignments := KeyedTable.put (·.id) row db.assignments }

def addRoomState (row : RoomStateRow H) : Db H :=
  { db with roomStates := db.roomStates ++ [row], drawn := db.drawn + 1 }

def addOverride (row : OverrideRow) : Db H :=
  { db with overrides := db.overrides ++ [row], drawn := db.drawn + 1 }

def addSyncCursor (row : SyncCursorRow) : Db H :=
  { db with syncCursors := db.syncCursors ++ [row], drawn := db.drawn + 1 }

def setSyncCursor (row : SyncCursorRow) : Db H :=
  { db with syncCursors := KeyedTable.put (·.id) row db.syncCursors }

def addSyncRun (row : SyncRunRow) : Db H :=
  { db with syncRuns := db.syncRuns ++ [row], drawn := db.drawn + 1 }

def setSyncRun (row : SyncRunRow) : Db H :=
  { db with syncRuns := KeyedTable.put (·.id) row db.syncRuns }

def addOutbox (row : OutboxEvent) : Db H :=
  { db with outbox := db.outbox ++ [row], drawn := db.drawn + 1 }

def addAudit (row : AuditEvent) : Db H :=
  { db with audit := db.audit ++ [row], drawn := db.drawn + 1 }

end Db

end ClockOrchestrator
