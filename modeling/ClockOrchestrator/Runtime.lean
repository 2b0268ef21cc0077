import ClockOrchestrator.Clock.ApplySync
import ClockOrchestrator.Support.Trace

namespace ClockOrchestrator

open Python UnitOfWork

inductive Transaction where
  | applySyncResult (result : SyncRunResult) (correlationId : UUID)
  | evaluateAllRooms (now : Timestamp) (correlationId : UUID)
  | evaluateRoomKeys (roomKeys : List String) (now : Timestamp) (correlationId : UUID)
  | applyMqttCommand (command : RoomCommand)

def Transaction.timestamp (z : Zone) : Transaction → Instant
  | .applySyncResult result _ => result.finishedAt.toUtc z
  | .evaluateAllRooms now _ => now.toUtc z
  | .evaluateRoomKeys _ now _ => now.toUtc z
  | .applyMqttCommand command => command.now.toUtc z

def Transaction.correlation : Transaction → UUID
  | .applySyncResult _ correlationId => correlationId
  | .evaluateAllRooms _ correlationId => correlationId
  | .evaluateRoomKeys _ _ correlationId => correlationId
  | .applyMqttCommand command => command.correlationId

structure Outcome (H : Type) where
  session : DbSession H
  sync : Option PersistedSyncResult
  command : Option CommandProcessingResult
  affectedRoomIds : List UUID
  loaded : Option LoadedBookings
  decisions : List (RoomDecision H)

variable {H : Type}

def Outcome.db (out : Outcome H) : Db H := out.session.commit

def SyncOutcome.outcome (out : SyncOutcome H) : Outcome H :=
  ⟨out.session, some out.persisted, none, out.affectedRoomIds, out.loaded, out.decisions⟩

def commandOutcome (out : CommandProcessingResult × DbSession H) : Outcome H :=
  ⟨out.2, none, some out.1, [], none, []⟩

def execute [DecidableEq H] (rt : AppRuntime H) (db : Db H) :
    Transaction → Except PyError (Outcome H)
  | .applySyncResult result correlationId =>
      (applySyncResult rt (rt.session db) result correlationId).map SyncOutcome.outcome
  | .evaluateAllRooms now correlationId =>
      (evaluateAllRooms rt (rt.session db) now correlationId).map SyncOutcome.outcome
  | .evaluateRoomKeys roomKeys now correlationId =>
      (evaluateRoomKeys rt (rt.session db) roomKeys now correlationId).map SyncOutcome.outcome
  | .applyMqttCommand command =>
      (applyMqttCommand rt (rt.session db) command).map commandOutcome

-- A process that was restarted with other rooms or another policy keeps its property, its
-- topics and its session factory.
structure AppRuntime.Restart (base rt : AppRuntime H) : Prop where
  propertyKey : rt.registry.property.key = base.registry.property.key
  topics : rt.topics = base.topics
  autoflush : rt.autoflush = base.autoflush
  uuid4 : rt.uuid4 = base.uuid4
  stableHash : rt.stableHash = base.stableHash

structure Request (H : Type) where
  runtime : AppRuntime H
  transaction : Transaction

-- An exception rolls the transaction back, so only a committed one is a step.
def next [DecidableEq H] (db : Db H) (request : Request H) : Option (Db H) :=
  match execute request.runtime db request.transaction with
  | .ok out => some out.db
  | .error _ => none

def ServedBy (base : AppRuntime H) (guard : Db H → Request H → Prop) (db : Db H)
    (request : Request H) : Prop :=
  base.Restart request.runtime ∧ guard db request

def Reachable [DecidableEq H] (base : AppRuntime H) (db : Db H) : Prop :=
  ∃ requests, Trace.Run next (ServedBy base fun _ _ => True) (Db.empty H) requests db

theorem Reachable.empty [DecidableEq H] (base : AppRuntime H) :
    Reachable base (Db.empty H) := ⟨[], .nil _⟩

theorem AppRuntime.Restart.refl (rt : AppRuntime H) : rt.Restart rt :=
  ⟨rfl, rfl, rfl, rfl, rfl⟩

theorem Reachable.step [DecidableEq H] {base : AppRuntime H} {db db' : Db H}
    {request : Request H} (h : Reachable base db) (hr : base.Restart request.runtime)
    (hn : next db request = some db') : Reachable base db' := by
  obtain ⟨requests, hrun⟩ := h
  exact ⟨requests ++ [request], hrun.append (.cons ⟨hr, trivial⟩ hn (.nil _))⟩

theorem next_of_ok [DecidableEq H] {db : Db H} {request : Request H} {out : Outcome H}
    (h : execute request.runtime db request.transaction = .ok out) :
    next db request = some out.db := by
  unfold next
  rw [h]

theorem Reachable.execute [DecidableEq H] {base rt : AppRuntime H} {db : Db H} {tx : Transaction}
    {out : Outcome H} (h : Reachable base db) (hr : base.Restart rt)
    (hout : execute rt db tx = .ok out) : Reachable base out.db := by
  have hnext : next db ⟨rt, tx⟩ = some out.db := next_of_ok hout
  exact h.step hr hnext

def room214 : Room where
  key := "214"
  name := "Apartment 214"
  entranceKey := "entrance_a"
  clockRoomId := some "clock-room-214"

def room215 : Room where
  key := "215"
  name := "Apartment 215"
  entranceKey := "entrance_a"
  clockRoomId := some "clock-room-215"

def demoRegistry : RoomRegistry where
  property := { key := "local_stay_razlog", name := "Local Stay Hotel & Suites" }
  entrances := [{ key := "entrance_a", name := "Entrance A" }]
  rooms := [room214, room215]

-- The digest of a document is the document, which no two documents share.
def demoRuntime (autoflush : Bool) : AppRuntime RoomStateDocument where
  registry := demoRegistry
  policy := defaultPolicy
  topics := ⟨"hotel/v1"⟩
  autoflush := autoflush
  uuid4 := id
  stableHash := id

theorem demoRuntime_uuid4_injective (autoflush : Bool) :
    (demoRuntime autoflush).uuid4.Injective := Function.injective_id

-- 8 November 2026 by ordinal day, and a reading of the clock on that day in UTC.
def demoDay : Date := 739928

def demoInstant (hour minute : ℕ) : Instant :=
  demoDay * dayMicros + (hour * 60 + minute) * minuteMicros

def demoNow (hour minute : ℕ) : Timestamp := .aware (.utc (demoInstant hour minute))

def demoCommand (field payload : String) (now : Timestamp) (correlationId : UUID) :
    RoomCommand where
  roomKey := "214"
  field := field
  payload := payload.toUTF8
  now := now
  correlationId := correlationId

def demoRequest (transaction : Transaction) : Request RoomStateDocument :=
  ⟨demoRuntime false, transaction⟩

def demoStore (requests : List (Request RoomStateDocument)) : Db RoomStateDocument :=
  (Trace.run next (Db.empty _) requests).getD (Db.empty _)

def demoStay : NormalizedBooking where
  propertyId := "local_stay_razlog"
  clockBookingId := "booking-1"
  bookingStatus := .expected
  sourceBookingStatus := "expected"
  arrivalDate := demoDay
  departureDate := demoDay + 2
  physicalRoomId := some "clock-room-214"
  payloadHash := "hash-1"

def demoCheckedInStay : NormalizedBooking :=
  { demoStay with bookingStatus := .checkedIn, unknownNeedsAttention := by decide }

def demoUnplacedStay : NormalizedBooking :=
  { demoStay with clockBookingId := "booking-2", physicalRoomId := none }

def demoSyncResult (bookings : List NormalizedBooking) (finishedAt : Timestamp) :
    SyncRunResult where
  success := true
  bookings := bookings
  startedAt := demoNow 9 40
  finishedAt := finishedAt
  nextCursor := ⟨none, none⟩
  error := none

end ClockOrchestrator
