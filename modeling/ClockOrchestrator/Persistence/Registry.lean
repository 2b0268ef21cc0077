import ClockOrchestrator.Persistence.Documents
import ClockOrchestrator.Support.PendingWrites

namespace ClockOrchestrator

open Python UnitOfWork

-- What one process works with: its configuration, the flush mode of its sessions, the
-- identifiers uuid4 will return and the digest of room state documents.
structure AppRuntime (H : Type) where
  registry : RoomRegistry
  policy : HotelPolicy
  topics : MqttTopics
  autoflush : Bool
  uuid4 : ℕ → UUID
  stableHash : RoomStateDocument → H

namespace AppRuntime

variable {H : Type} (rt : AppRuntime H)

def zone : Zone := rt.policy.zone

def session (db : Db H) : DbSession H := Session.start rt.autoflush db

end AppRuntime

variable {H : Type}

def ensureProperty (rt : AppRuntime H) (s : DbSession H) : PropertyRow × DbSession H :=
  match (s.select (·.properties) (·.key = rt.registry.property.key)).head? with
  | none =>
      let row : PropertyRow :=
        { id := rt.uuid4 s.live.drawn
          key := rt.registry.property.key
          name := rt.registry.property.name
          timezone := rt.registry.property.timezone }
      (row, (s.modify (·.addProperty row)).flush)
  | some stored =>
      let row : PropertyRow :=
        { stored with
          name := rt.registry.property.name
          timezone := rt.registry.property.timezone }
      (row, s.modify (·.setProperty row))

def RoomRow.clashes (row other : RoomRow) : Bool :=
  row.propertyId = other.propertyId &&
    (row.key = other.key || row.clockRoomId.isSome && row.clockRoomId = other.clockRoomId)

-- The unit of work sends its UPDATEs in the order of the primary keys and its INSERTs after them,
-- and the database checks the constraints at each of these statements.
def flushRooms (s : DbSession H) : Except PyError (DbSession H) :=
  match PendingWrites.write (·.id) RoomRow.clashes s.flushed.rooms s.live.rooms with
  | none => .error (.integrityError "rooms")
  | some _ => .ok s.flush

def autoflushRooms (s : DbSession H) : Except PyError (DbSession H) :=
  if s.autoflush then flushRooms s else .ok s

def newRoomRow (id propertyId : UUID) (room : Room) : RoomRow where
  id := id
  propertyId := propertyId
  key := room.key
  name := room.name
  entranceKey := room.entranceKey
  floor := room.floor
  clockRoomId := room.clockRoomId
  enabled := room.enabled

def RoomRow.configure (stored : RoomRow) (room : Room) : RoomRow :=
  { stored with
    name := room.name
    entranceKey := room.entranceKey
    floor := room.floor
    clockRoomId := room.clockRoomId
    enabled := room.enabled }

def ensureRoom (rt : AppRuntime H) (property : PropertyRow) (s : DbSession H) (room : Room) :
    Except PyError (RoomRow × DbSession H) := do
  let s ← autoflushRooms s
  match (s.select (·.rooms) fun r => r.propertyId = property.id && r.key = room.key).head? with
  | none =>
      let row := newRoomRow (rt.uuid4 s.live.drawn) property.id room
      let s ← flushRooms (s.modify (·.addRoom row))
      .ok (row, s)
  | some stored =>
      let row := stored.configure room
      .ok (row, s.modify (·.setRoom row))

structure RegistryRows where
  property : PropertyRow
  entries : List (Room × RoomRow)

namespace RegistryRows

variable (rows : RegistryRows)

def roomsByKey (key : String) : Option RoomRow :=
  (rows.entries.find? (·.1.key = key)).map Prod.snd

def roomsByClockId (clockRoomId : String) : Option RoomRow :=
  (rows.entries.find? fun e =>
    truthy e.1.clockRoomId && e.1.clockRoomId = some clockRoomId).map Prod.snd

def domainRoomsById (roomId : UUID) : Option Room :=
  (rows.entries.find? (·.2.id = roomId)).map Prod.fst

def roomIds : List UUID := rows.entries.map (·.2.id)

def roomIdsOfKeys (roomKeys : List String) : List UUID :=
  (rows.entries.filter (·.1.key ∈ roomKeys)).map (·.2.id)

end RegistryRows

def ensureRooms (rt : AppRuntime H) (property : PropertyRow) :
    DbSession H → List Room → Except PyError (List (Room × RoomRow) × DbSession H)
  | s, [] => .ok ([], s)
  | s, room :: rest => do
      let (row, s) ← ensureRoom rt property s room
      let (entries, s) ← ensureRooms rt property s rest
      .ok ((room, row) :: entries, s)

-- The UPDATEs that are still pending go out with the next flush or at the commit, and nothing in
-- between looks at a room: sending them here settles in the same way whether they pass.
def ensureRegistry (rt : AppRuntime H) (s : DbSession H) :
    Except PyError (RegistryRows × DbSession H) := do
  let (property, s) := ensureProperty rt s
  let (entries, s) ← ensureRooms rt property s rt.registry.rooms
  let s ← flushRooms s
  .ok (⟨property, entries⟩, s)

end ClockOrchestrator
