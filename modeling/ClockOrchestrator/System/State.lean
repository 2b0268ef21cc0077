import ClockOrchestrator.Persistence.Frames
import ClockOrchestrator.Support.RankedGroups

namespace ClockOrchestrator

open Python RankedGroups

inductive SystemStatus where
  | starting
  | error
  | degraded
  | attention
  | online
  deriving DecidableEq

structure SystemState where
  schemaVersion : ℕ := 1
  status : SystemStatus
  version : String := "0.1.0"
  lastAttemptAt : Option Instant := none
  lastSuccessAt : Option Instant := none
  syncDurationSeconds : Option ℤ := none
  lagSeconds : Option ℤ := none
  mqttConnected : Bool
  roomsLoaded : ℕ := 0
  checkedInRooms : ℕ := 0
  expectedRooms : ℕ := 0
  arrivalsToday : ℕ := 0
  departuresToday : ℕ := 0
  unassignedArrivals : ℕ := 0
  roomConflicts : ℕ := 0
  activeManualOverrides : ℕ := 0
  roomsNeedingAttention : ℕ := 0
  pendingOutbox : ℕ := 0
  deadLetterOutbox : ℕ := 0
  updatedAt : Instant

def emptyState (now : Instant) (mqttConnected : Bool) : SystemState :=
  { status := .starting, mqttConnected := mqttConnected, updatedAt := now }

-- int() of a number of seconds drops the fraction, towards zero.
def wholeSeconds (micros : ℤ) : ℤ := micros.tdiv 1000000

section Queries

variable {H : Type} (db : Db H)

def latestRoomStates : List (RoomStateRow H) :=
  firsts (·.roomId) RoomStateRow.rank db.roomStates

def countBookings (propertyId : UUID) (status : BookingStatus) : ℕ :=
  (db.bookings.filter fun b => b.propertyId = propertyId ∧ b.bookingStatus = status).length

def countArrivals (propertyId : UUID) (now : Datetime) : ℕ :=
  (db.bookings.filter fun b => b.propertyId = propertyId ∧ b.arrivalDate = now.date).length

def countDepartures (propertyId : UUID) (now : Datetime) : ℕ :=
  (db.bookings.filter fun b => b.propertyId = propertyId ∧ b.departureDate = now.date).length

def countUnassignedArrivals (propertyId : UUID) : ℕ :=
  (db.bookings.filter fun b => b.propertyId = propertyId ∧ b.bookingStatus = .expected ∧
    ∀ a ∈ db.assignments, ¬ (a.bookingId = b.id ∧ a.isCurrent = true)).length

def countOutbox (statuses : List OutboxStatus) : ℕ :=
  (db.outbox.filter fun event => event.status ∈ statuses).length

def lastRun (propertyId : UUID) : Option SyncRunRow :=
  RankedLog.latest (fun run => toLex (run.startedAt, run.id))
    (db.syncRuns.filter (·.propertyId = propertyId))

def lastSuccess (propertyId : UUID) : Option SyncRunRow :=
  RankedLog.latest (fun run => toLex (run.finishedAt, run.id))
    (db.syncRuns.filter fun run => run.propertyId = propertyId ∧ run.status = "success")

end Queries

def systemStatus (mqttConnected mqttRequired lastSuccessSeen : Bool)
    (roomConflicts roomsNeedingAttention pendingOutbox deadLetterOutbox : ℕ) : SystemStatus :=
  if deadLetterOutbox ≠ 0 then .error
  else if (mqttRequired && !mqttConnected) || !lastSuccessSeen then .starting
  else if pendingOutbox ≠ 0 then .degraded
  else if roomConflicts ≠ 0 ∨ roomsNeedingAttention ≠ 0 then .attention
  else .online

def buildSystemState {H : Type} (zoneInfo : String → Zone) (db : Db H) (propertyKey : String)
    (now : Instant) (mqttConnected mqttRequired : Bool) : SystemState :=
  match db.properties.find? (·.key = propertyKey) with
  | none => emptyState now mqttConnected
  | some property =>
      let lastSuccess := lastSuccess db property.id
      let latestStates := latestRoomStates db
      let hotelNow := Datetime.inZone (zoneInfo property.timezone) now
      let roomConflicts := (latestStates.filter (·.automationPhase = .conflict)).length
      let roomsNeedingAttention := (latestStates.filter (·.needsAttention)).length
      let pendingOutbox := countOutbox db [.pending, .retrying, .publishing]
      let deadLetterOutbox := countOutbox db [.deadLetter]
      { status := systemStatus mqttConnected mqttRequired lastSuccess.isSome roomConflicts
          roomsNeedingAttention pendingOutbox deadLetterOutbox
        lastAttemptAt := (lastRun db property.id).map (·.startedAt)
        lastSuccessAt := lastSuccess.map (·.finishedAt)
        syncDurationSeconds := lastSuccess.map fun run => wholeSeconds (run.finishedAt - run.startedAt)
        lagSeconds := lastSuccess.map fun run => wholeSeconds (now - run.finishedAt)
        mqttConnected := mqttConnected
        roomsLoaded := (db.rooms.filter (·.propertyId = property.id)).length
        checkedInRooms := countBookings db property.id .checkedIn
        expectedRooms := countBookings db property.id .expected
        arrivalsToday := countArrivals db property.id hotelNow
        departuresToday := countDepartures db property.id hotelNow
        unassignedArrivals := countUnassignedArrivals db property.id
        roomConflicts := roomConflicts
        activeManualOverrides :=
          (latestStates.filter (·.automationPhase = .manualOverride)).length
        roomsNeedingAttention := roomsNeedingAttention
        pendingOutbox := pendingOutbox
        deadLetterOutbox := deadLetterOutbox
        updatedAt := now }

end ClockOrchestrator
