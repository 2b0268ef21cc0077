import ClockOrchestrator.Clock.DbSync
import ClockOrchestrator.Persistence.RegistryRows

namespace ClockOrchestrator

open Python UnitOfWork

def resolveIn {α : Type} (byClockId byKey : String → Option α) (b : NormalizedBooking) :
    Option α :=
  match (if truthy b.physicalRoomId then b.physicalRoomId.bind byClockId else none) with
  | some x => some x
  | none => if truthy b.physicalRoomNumber then b.physicalRoomNumber.bind byKey else none

theorem resolveIn_map {α β : Type} (f : α → β) (byClockId byKey : String → Option α)
    (b : NormalizedBooking) :
    resolveIn (fun id => (byClockId id).map f) (fun key => (byKey key).map f) b =
      (resolveIn byClockId byKey b).map f := by
  have hbind : ∀ (c : Bool) (o : Option String) (g : String → Option α),
      (if c = true then o.bind fun id => (g id).map f else none) =
        (if c = true then o.bind g else none).map f := by
    intro c o g
    cases c <;> cases o <;> rfl
  unfold resolveIn
  rw [hbind, hbind]
  cases (if truthy b.physicalRoomId = true then b.physicalRoomId.bind byClockId else none) <;> rfl

def hasClockId (clockRoomId : String) (room : Room) : Bool :=
  truthy room.clockRoomId && room.clockRoomId = some clockRoomId

def RoomRegistry.byClockId (registry : RoomRegistry) (clockRoomId : String) : Option Room :=
  registry.rooms.find? (hasClockId clockRoomId)

def RoomRegistry.resolve (registry : RoomRegistry) (b : NormalizedBooking) : Option Room :=
  resolveIn registry.byClockId registry.byKey b

def RegistryRows.resolveEntry (rows : RegistryRows) (b : NormalizedBooking) :
    Option (Room × RoomRow) :=
  resolveIn (fun id => rows.entries.find? fun e => hasClockId id e.1)
    (fun key => rows.entries.find? fun e => e.1.key = key) b

theorem resolveRoom_eq_resolveIn (rows : RegistryRows) (b : NormalizedBooking) :
    resolveRoom rows b = resolveIn rows.roomsByClockId rows.roomsByKey b := by
  unfold resolveRoom resolveIn
  cases (if truthy b.physicalRoomId = true then b.physicalRoomId.bind rows.roomsByClockId
    else none) <;> rfl

theorem resolveRoom_eq_resolveEntry (rows : RegistryRows) (b : NormalizedBooking) :
    resolveRoom rows b = (rows.resolveEntry b).map Prod.snd := by
  rw [resolveRoom_eq_resolveIn]
  exact resolveIn_map Prod.snd _ _ b

theorem resolve_eq_resolveEntry {registry : RoomRegistry} {rows : RegistryRows}
    (h : rows.entries.map Prod.fst = registry.rooms) (b : NormalizedBooking) :
    registry.resolve b = (rows.resolveEntry b).map Prod.fst := by
  have hclock : registry.byClockId =
      fun id => (rows.entries.find? fun e => hasClockId id e.1).map Prod.fst := by
    funext id
    rw [RoomRegistry.byClockId, ← h, List.find?_map]
    rfl
  have hkey : registry.byKey =
      fun key => (rows.entries.find? fun e => e.1.key = key).map Prod.fst := by
    funext key
    rw [RoomRegistry.byKey, ← h, List.find?_map]
    rfl
  rw [RoomRegistry.resolve, hclock, hkey]
  exact resolveIn_map Prod.fst _ _ b

theorem resolveIn_mem {α : Type} {byClockId byKey : String → Option α} {b : NormalizedBooking}
    {x : α} (h : resolveIn byClockId byKey b = some x) :
    (∃ id, byClockId id = some x) ∨ ∃ key, byKey key = some x := by
  unfold resolveIn at h
  split at h
  · next y hy =>
      split at hy
      · obtain ⟨id, -, hid⟩ := Option.bind_eq_some_iff.mp hy
        exact .inl ⟨id, hid.trans h⟩
      · cases hy
  · split at h
    · obtain ⟨key, -, hkey⟩ := Option.bind_eq_some_iff.mp h
      exact .inr ⟨key, hkey⟩
    · cases h

theorem RegistryRows.resolveEntry_mem {rows : RegistryRows} {b : NormalizedBooking}
    {e : Room × RoomRow} (h : rows.resolveEntry b = some e) : e ∈ rows.entries := by
  rcases resolveIn_mem h with ⟨_, hf⟩ | ⟨_, hf⟩
  · exact List.mem_of_find?_eq_some hf
  · exact List.mem_of_find?_eq_some hf

theorem RoomRegistry.byKey_eq_some {registry : RoomRegistry} {key : String}
    {room : Room} :
    registry.byKey key = some room ↔ room ∈ registry.rooms ∧ room.key = key := by
  unfold RoomRegistry.byKey
  rw [KeyedTable.find?_eq_some_of_unique, decide_eq_true_eq]
  intro x hx y hy hpx hpy
  exact KeyedTable.eq_of_key registry.uniqueRoomKeys hx hy
    ((of_decide_eq_true hpx).trans (of_decide_eq_true hpy).symm)

section Registry

variable {H : Type} {base rt : AppRuntime H} {db : Db H} {rows : RegistryRows}

theorem resolveRoom_room_iff (hstore : RegistryStore base db) (hrows : RowsStored rows db)
    (hfst : rows.entries.map Prod.fst = rt.registry.rooms) (b : NormalizedBooking) (room : Room) :
    (∃ row, resolveRoom rows b = some row ∧ rows.domainRoomsById row.id = some room) ↔
      rt.registry.resolve b = some room := by
  rw [resolveRoom_eq_resolveEntry, resolve_eq_resolveEntry hfst]
  cases he : rows.resolveEntry b with
  | none => simp
  | some e =>
      have hroom := hrows.domainRoomsById hstore hfst (RegistryRows.resolveEntry_mem he)
      simp [hroom]

end Registry

end ClockOrchestrator
