import ClockOrchestrator.Clock.RoomResolution
import ClockOrchestrator.Clock.SyncLoop

namespace ClockOrchestrator

open Python UnitOfWork

variable {H : Type} {base : AppRuntime H} {db : Db H} {rows rows' : RegistryRows}

def RegistryRows.ids (rows : RegistryRows) : List (Room × UUID) :=
  rows.entries.map fun e => (e.1, e.2.id)

theorem RegistryRows.domainRoomsById_eq (rows : RegistryRows) (roomId : UUID) :
    rows.domainRoomsById roomId = (rows.ids.find? (·.2 = roomId)).map Prod.fst := by
  unfold RegistryRows.domainRoomsById RegistryRows.ids
  rw [List.find?_map, Option.map_map]
  rfl

theorem RegistryRows.roomIds_eq (rows : RegistryRows) : rows.roomIds = rows.ids.map Prod.snd := by
  unfold RegistryRows.roomIds RegistryRows.ids
  rw [List.map_map]
  rfl

theorem RegistryRows.roomIdsOfKeys_eq (rows : RegistryRows) (roomKeys : List String) :
    rows.roomIdsOfKeys roomKeys = (rows.ids.filter (·.1.key ∈ roomKeys)).map Prod.snd := by
  unfold RegistryRows.roomIdsOfKeys RegistryRows.ids
  rw [List.filter_map, List.map_map]
  rfl

theorem mappedRoomId_eq (rows : RegistryRows) (b : NormalizedBooking) :
    mappedRoomId rows b =
      resolveIn (fun id => (rows.ids.find? fun e => hasClockId id e.1).map Prod.snd)
        (fun key => (rows.ids.find? fun e => e.1.key = key).map Prod.snd) b := by
  have hfind : ∀ p : Room → Bool, (rows.ids.find? fun e => p e.1).map Prod.snd =
      (rows.entries.find? fun e => p e.1).map (·.2.id) := by
    intro p
    unfold RegistryRows.ids
    rw [List.find?_map, Option.map_map]
    rfl
  have hclock : (fun id => (rows.ids.find? fun e => hasClockId id e.1).map Prod.snd) =
      fun id => (rows.entries.find? fun e => hasClockId id e.1).map (·.2.id) :=
    funext fun id => hfind (hasClockId id)
  have hkey : (fun key => (rows.ids.find? fun e => e.1.key = key).map Prod.snd) =
      fun key => (rows.entries.find? fun e => e.1.key = key).map (·.2.id) :=
    funext fun key => hfind fun room => decide (room.key = key)
  rw [hclock, hkey, resolveIn_map (fun e : Room × RoomRow => e.2.id), mappedRoomId,
    resolveRoom_eq_resolveEntry, Option.map_map]
  rfl

section Same

variable (h : rows.ids = rows'.ids)
include h

theorem domainRoomsById_of_ids (roomId : UUID) :
    rows.domainRoomsById roomId = rows'.domainRoomsById roomId := by
  rw [rows.domainRoomsById_eq, rows'.domainRoomsById_eq, h]

theorem mappedRoomId_of_ids (b : NormalizedBooking) : mappedRoomId rows b = mappedRoomId rows' b := by
  rw [mappedRoomId_eq, mappedRoomId_eq, h]

end Same

theorem map_eq_of_keys {α β γ : Type} {f : α → β} {g : α → γ} {xs ys : List α}
    (hf : xs.map f = ys.map f) (hg : ∀ x ∈ xs, ∀ y ∈ ys, f x = f y → g x = g y) :
    xs.map g = ys.map g := by
  induction xs generalizing ys with
  | nil =>
      rw [List.map_nil, eq_comm, List.map_eq_nil_iff] at hf
      rw [hf]
  | cons x rest ih =>
      cases ys with
      | nil => cases hf
      | cons y others =>
          rw [List.map_cons, List.map_cons, List.cons.injEq] at hf ⊢
          refine ⟨hg x List.mem_cons_self y List.mem_cons_self hf.1, ih hf.2 fun x' hx y' hy => ?_⟩
          exact hg x' (List.mem_cons_of_mem _ hx) y' (List.mem_cons_of_mem _ hy)

theorem RowsStored.ids_eq (hstore : RegistryStore base db) (h : RowsStored rows db)
    (h' : RowsStored rows' db)
    (hfst : rows.entries.map Prod.fst = rows'.entries.map Prod.fst) : rows.ids = rows'.ids := by
  refine map_eq_of_keys hfst fun e he e' he' heq => ?_
  have hkey : e.2.columns.2.2 = e'.2.columns.2.2 := by
    rw [h.columns e he, h'.columns e' he', heq]
  have hcolumns := KeyedTable.eq_of_key hstore.roomKeys (h.stored e he) (h'.stored e' he') hkey
  exact Prod.ext heq (congrArg Prod.fst hcolumns)

end ClockOrchestrator
