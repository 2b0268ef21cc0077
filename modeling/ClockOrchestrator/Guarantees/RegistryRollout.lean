import ClockOrchestrator.RuntimeInvariants

namespace ClockOrchestrator

open Python UnitOfWork PendingWrites

structure RoomSettings where
  key : String
  name : String
  entranceKey : String
  floor : Option String
  clockRoomId : Option String
  enabled : Bool
  deriving DecidableEq

def Room.settings (room : Room) : RoomSettings :=
  ⟨room.key, room.name, room.entranceKey, room.floor, room.clockRoomId, room.enabled⟩

def RoomRow.settings (row : RoomRow) : RoomSettings :=
  ⟨row.key, row.name, row.entranceKey, row.floor, row.clockRoomId, row.enabled⟩

def ClockIdFree (table : List RoomSettings) (room : RoomSettings) : Prop :=
  room.clockRoomId = none ∨ ∀ other ∈ table, other.key ≠ room.key →
    other.clockRoomId ≠ room.clockRoomId

instance (table : List RoomSettings) (room : RoomSettings) : Decidable (ClockIdFree table room) :=
  inferInstanceAs (Decidable (_ ∨ _))

structure RoomSlot where
  id : UUID
  settings : RoomSettings
  deriving DecidableEq

def RoomRow.slot (row : RoomRow) : RoomSlot := ⟨row.id, row.settings⟩

def RoomSlot.SharesClockId (x y : RoomSlot) : Prop :=
  x.settings.clockRoomId ≠ none ∧ x.settings.clockRoomId = y.settings.clockRoomId

instance (x y : RoomSlot) : Decidable (x.SharesClockId y) := inferInstanceAs (Decidable (_ ∧ _))

-- When a changed room is updated, those with smaller identifiers have their new Clock ids and the
-- others their old ones.
def UpdatesFit (stored live : List RoomSlot) : Prop :=
  ∀ q ∈ stored.zip live, q.1 ≠ q.2 → ∀ p ∈ stored.zip live, p.2.id ≠ q.2.id →
    ¬ q.2.SharesClockId (if p.2.id < q.2.id then p.2 else p.1)

instance (stored live : List RoomSlot) : Decidable (UpdatesFit stored live) :=
  inferInstanceAs (Decidable (∀ q ∈ _, _))

structure RoomTable where
  stored : List RoomSlot
  live : List RoomSlot
  drawn : ℕ

namespace RoomTable

variable (autoflush : Bool) (uuid4 : ℕ → UUID)

def keys (table : RoomTable) : List String := table.live.map (·.settings.key)

def commit (table : RoomTable) : RoomTable := ⟨table.live, table.live, table.drawn⟩

def place (table : RoomTable) (room : Room) : RoomTable :=
  match table.live.find? (·.settings.key = room.key) with
  | none =>
      let live := table.live ++ [⟨uuid4 table.drawn, room.settings⟩]
      ⟨live, live, table.drawn + 1⟩
  | some slot =>
      ⟨if autoflush then table.live else table.stored,
        KeyedTable.put (·.id) ⟨slot.id, room.settings⟩ table.live, table.drawn⟩

def Fits (table : RoomTable) (room : Room) : Prop :=
  (autoflush = true ∨ room.key ∉ table.keys → UpdatesFit table.stored table.live) ∧
    (room.key ∉ table.keys → ClockIdFree (table.live.map (·.settings)) room.settings)

instance (table : RoomTable) (room : Room) : Decidable (table.Fits autoflush room) :=
  inferInstanceAs (Decidable (_ ∧ _))

end RoomTable

variable {H : Type} {base rt : AppRuntime H} {db : Db H}

section Fit

variable (autoflush : Bool) (uuid4 : ℕ → UUID)

def placeRooms : RoomTable → List Room → RoomTable
  | table, [] => table
  | table, room :: rest => placeRooms (table.place autoflush uuid4 room) rest

def RoomsFit : RoomTable → List Room → Prop
  | table, [] => UpdatesFit table.stored table.live
  | table, room :: rest =>
      table.Fits autoflush room ∧ RoomsFit (table.place autoflush uuid4 room) rest

def RegistriesFit : RoomTable → List RoomRegistry → Prop
  | _, [] => True
  | table, registry :: rest => RoomsFit autoflush uuid4 table registry.rooms ∧
      RegistriesFit (placeRooms autoflush uuid4 table registry.rooms).commit rest

instance : (table : RoomTable) → (rooms : List Room) →
    Decidable (RoomsFit autoflush uuid4 table rooms)
  | table, [] => inferInstanceAs (Decidable (UpdatesFit table.stored table.live))
  | table, room :: rest =>
      have : Decidable (RoomsFit autoflush uuid4 (table.place autoflush uuid4 room) rest) :=
        instDecidableRoomsFit ..
      inferInstanceAs (Decidable (_ ∧ _))

instance : (table : RoomTable) → (registries : List RoomRegistry) →
    Decidable (RegistriesFit autoflush uuid4 table registries)
  | _, [] => .isTrue trivial
  | table, registry :: rest =>
      have : Decidable (RegistriesFit autoflush uuid4
          (placeRooms autoflush uuid4 table registry.rooms).commit rest) :=
        instDecidableRegistriesFit ..
      inferInstanceAs (Decidable (_ ∧ _))

end Fit

def Db.roomTable (db : Db H) : List RoomSettings := db.rooms.map (·.settings)

def Db.roomSlots (db : Db H) : List RoomSlot := db.rooms.map (·.slot)

def tableOf (s : DbSession H) : RoomTable := ⟨s.flushed.roomSlots, s.live.roomSlots, s.live.drawn⟩

def AppRuntime.configured (rt : AppRuntime H) (registry : RoomRegistry) : AppRuntime H :=
  { rt with registry := registry }

def rollOut (rt : AppRuntime H) (db : Db H) (registries : List RoomRegistry) :
    Except PyError (Db H) :=
  registries.foldlM (fun db registry =>
    (ensureRegistry (rt.configured registry) ((rt.configured registry).session db)).map
      (·.2.commit)) db

section Room

variable {property : PropertyRow} {s s' : DbSession H}

theorem RegistrySession.owner (hs : RegistrySession base s)
    (hp : s.live.propertyColumns = [(property.id, base.registry.property.key)]) {r : RoomRow}
    (hr : r.columns ∈ s.live.roomColumns) : r.propertyId = property.id := by
  have := hs.store.roomProperty r.columns hr
  simpa [hp, RoomRow.columns] using this

theorem RegistrySession.id_eq_iff (hs : RegistrySession base s) {r r' : RoomRow}
    (hr : r.columns ∈ s.live.roomColumns) (hr' : r'.columns ∈ s.live.roomColumns) :
    r.id = r'.id ↔ r.key = r'.key := by
  constructor
  · intro hid
    exact congrArg (·.2.2) (hs.store.column_unique hr hr' hid)
  · intro hkey
    exact congrArg Prod.fst (KeyedTable.eq_of_key hs.store.roomKeys hr hr' hkey)

theorem clashes_eq_false_iff {row other : RoomRow} (hproperty : row.propertyId = other.propertyId)
    (hkey : row.key ≠ other.key) :
    row.clashes other = false ↔ ¬ row.slot.SharesClockId other.slot := by
  unfold RoomRow.clashes
  rw [← Bool.not_eq_true]
  simp [hproperty, hkey, RoomSlot.SharesClockId, RoomRow.slot, RoomRow.settings,
    Option.isSome_iff_ne_none]

theorem slot_inj {row other : RoomRow} (hcolumns : row.columns = other.columns) :
    row.slot = other.slot ↔ row = other := by
  refine ⟨fun hslot => ?_, fun hsame => hsame ▸ rfl⟩
  simp only [RoomRow.columns, Prod.mk.injEq] at hcolumns
  simp only [RoomRow.slot, RoomRow.settings, RoomSlot.mk.injEq, RoomSettings.mk.injEq] at hslot
  cases row
  cases other
  simp_all

theorem updatesFit_iff (hs : RegistrySession base s)
    (hp : s.live.propertyColumns = [(property.id, base.registry.property.key)]) :
    UpdatesFit s.flushed.roomSlots s.live.roomSlots ↔
      ∀ q ∈ s.flushed.rooms.zip s.live.rooms, q.1 ≠ q.2 →
        Unblocked (·.id) RoomRow.clashes (s.flushed.rooms.zip s.live.rooms) q.2 := by
  have hcolumns : s.flushed.rooms.map (·.columns) = s.live.rooms.map (·.columns) := hs.rooms.flushed
  have hversions : ∀ p ∈ s.flushed.rooms.zip s.live.rooms, p.1.columns = p.2.columns :=
    (versioned_zip hcolumns (List.Nodup.of_map Prod.fst hs.store.roomIds.nodup)).keys
  have hlive : ∀ p ∈ s.flushed.rooms.zip s.live.rooms, p.2.columns ∈ s.live.roomColumns :=
    fun p hp => List.mem_map_of_mem (List.of_mem_zip hp).2
  unfold UpdatesFit Db.roomSlots
  rw [List.zip_map, List.forall_mem_map]
  refine forall_congr' fun q => forall_congr' fun hq => ?_
  rw [Prod.map_fst, Prod.map_snd, ne_eq, slot_inj (hversions q hq), List.forall_mem_map]
  refine forall_congr' fun _ => forall_congr' fun p => forall_congr' fun hpair => ?_
  refine forall_congr' fun hne => ?_
  have hversion : (if p.2.id < q.2.id then p.2 else p.1).columns = p.2.columns := by
    split
    · rfl
    · exact hversions p hpair
  have hmet : (if p.2.id < q.2.id then p.2 else p.1).columns ∈ s.live.roomColumns :=
    hversion ▸ hlive p hpair
  rw [clashes_eq_false_iff, apply_ite RoomRow.slot]
  · rfl
  · exact (hs.owner hp (hlive q hq)).trans (hs.owner hp hmet).symm
  · rw [ne_eq, ← hs.id_eq_iff (hlive q hq) hmet]
    intro hid
    exact hne ((congrArg Prod.fst hversion).symm.trans hid.symm)

theorem RegistrySession.roomIds_nodup (hs : RegistrySession base s) :
    (s.live.rooms.map (·.id)).Nodup := by
  rw [Db.map_room_id]
  exact hs.store.roomIds.nodup

theorem RegistrySession.roomIds_flushed (hs : RegistrySession base s) :
    s.flushed.rooms.map (·.id) = s.live.rooms.map (·.id) := by
  rw [Db.map_room_id, Db.map_room_id, hs.rooms.flushed]

theorem flushRooms_iff (hs : RegistrySession base s)
    (hp : s.live.propertyColumns = [(property.id, base.registry.property.key)]) :
    flushRooms s = .ok s.flush ↔ UpdatesFit s.flushed.roomSlots s.live.roomSlots := by
  rw [flushRooms_eq_ok, updatesFit_iff hs hp, and_iff_left rfl,
    write_kept_iff hs.roomIds_flushed hs.roomIds_nodup]

theorem flushRooms_addRoom_iff (hs : RegistrySession base s)
    (hp : s.live.propertyColumns = [(property.id, base.registry.property.key)]) {row : RoomRow}
    (hinj : base.uuid4.Injective) (hid : row.id = base.uuid4 s.live.drawn)
    (hproperty : row.propertyId = property.id) (hnew : row.key ∉ s.live.rooms.map (·.key)) :
    flushRooms (s.modify (·.addRoom row)) = .ok (s.modify (·.addRoom row)).flush ↔
      UpdatesFit s.flushed.roomSlots s.live.roomSlots ∧
        ClockIdFree s.live.roomTable row.settings := by
  have hrooms : (s.modify (·.addRoom row)).live.rooms = s.live.rooms ++ [row] := rfl
  have hstored : (s.modify (·.addRoom row)).flushed.rooms = s.flushed.rooms := rfl
  rw [flushRooms_eq_ok, updatesFit_iff hs hp, and_iff_left rfl, hrooms, hstored,
    write_inserted_iff hs.roomIds_flushed hs.roomIds_nodup, blocked_eq_false]
  refine and_congr_right fun _ => ?_
  have hfresh : ∀ r ∈ s.live.rooms, r.id ≠ row.id := by
    intro r hr heq
    refine hs.store.roomIds.notMem hinj (Nat.le_refl _) ?_
    rw [← hid, ← heq, ← Db.map_room_id]
    exact List.mem_map_of_mem hr
  have hother : ∀ r ∈ s.live.rooms, row.key ≠ r.key := fun r hr heq =>
    hnew (heq ▸ List.mem_map_of_mem hr)
  have howner : ∀ r ∈ s.live.rooms, row.propertyId = r.propertyId := fun r hr =>
    hproperty.trans (hs.owner hp (List.mem_map_of_mem hr)).symm
  unfold ClockIdFree Db.roomTable
  rw [List.forall_mem_map, ← forall_or_left]
  refine forall_congr' fun r => ?_
  constructor
  · intro h
    rw [or_iff_not_imp_left]
    intro hplaced hr hkey hsame
    have := (clashes_eq_false_iff (howner r hr) (hother r hr)).mp (h hr (hfresh r hr))
    exact this ⟨hplaced, hsame.symm⟩
  · intro h hr _
    rw [clashes_eq_false_iff (howner r hr) (hother r hr)]
    rintro ⟨hplaced, hsame⟩
    rcases h with hnone | hfree
    · exact hplaced hnone
    · exact hfree hr (hother r hr).symm hsame.symm

theorem updatesFit_self (slots : List RoomSlot) : UpdatesFit slots slots := by
  intro q hq hne
  rw [List.zip, List.zipWith_self] at hq
  obtain ⟨slot, -, rfl⟩ := List.mem_map.mp hq
  exact absurd rfl hne

theorem autoflushRooms_iff (hs : RegistrySession base s)
    (hp : s.live.propertyColumns = [(property.id, base.registry.property.key)]) :
    autoflushRooms s = .ok (if s.autoflush then s.flush else s) ↔
      (s.autoflush = true → UpdatesFit s.flushed.roomSlots s.live.roomSlots) := by
  unfold autoflushRooms
  split
  · next hauto => simp [hauto, flushRooms_iff hs hp]
  · next hauto => simp [hauto]

theorem autoflushRooms_eq {m : DbSession H} (h : autoflushRooms s = .ok m) :
    m = if s.autoflush then s.flush else s := by
  unfold autoflushRooms at h
  split at h
  · next hauto =>
      rw [if_pos hauto]
      exact flushRooms_ok h
  · next hauto =>
      cases h
      rw [if_neg hauto]

theorem find?_slot (db : Db H) (key : String) :
    db.roomSlots.find? (·.settings.key = key) = (db.rooms.find? (·.key = key)).map (·.slot) :=
  List.find?_map

theorem RegistrySession.select_eq (hs : RegistrySession base s)
    (hp : s.live.propertyColumns = [(property.id, base.registry.property.key)]) (key : String) :
    (s.select (·.rooms) fun r => r.propertyId = property.id && r.key = key).head? =
      s.live.rooms.find? (·.key = key) := by
  rw [select_room hs, List.head?_filter]
  refine List.find?_congr fun r hr => ?_
  simp [hs.owner hp (List.mem_map_of_mem hr)]

theorem slot_configure {stored : RoomRow} {room : Room} (hkey : stored.key = room.key) :
    (stored.configure room).slot = ⟨stored.id, room.settings⟩ := by
  simp [RoomRow.slot, RoomRow.settings, RoomRow.configure, Room.settings, hkey]

theorem ensureRoom_table (ha : s.autoflush = rt.autoflush) (hs : RegistrySession base s)
    (hp : s.live.propertyColumns = [(property.id, base.registry.property.key)]) {room : Room}
    {row : RoomRow} (h : ensureRoom rt property s room = .ok (row, s')) :
    tableOf s' = (tableOf s).place rt.autoflush rt.uuid4 room := by
  obtain ⟨m, hm, hcases⟩ := ensureRoom_ok h
  obtain ⟨hms, hlive⟩ := hs.autoflushRooms hm
  have hstored : m.flushed.roomSlots =
      if rt.autoflush then s.live.roomSlots else s.flushed.roomSlots := by
    rw [autoflushRooms_eq hm, ← ha]
    split <;> rfl
  rw [hms.select_eq (hlive ▸ hp)] at hcases
  unfold RoomTable.place tableOf
  dsimp only
  rw [find?_slot, ← hlive]
  rcases hcases with ⟨hnone, rfl, hflush⟩ | ⟨stored, hsome, rfl, rfl⟩
  · rw [hnone, flushRooms_ok hflush]
    simp [Db.roomSlots, Db.addRoom, newRoomRow, RoomRow.slot, RoomRow.settings, Room.settings]
  · have hkey : stored.key = room.key := by simpa using List.find?_some hsome
    have hput : (m.live.setRoom (stored.configure room)).roomSlots =
        KeyedTable.put (·.id) ⟨stored.id, room.settings⟩ m.live.roomSlots := by
      rw [← slot_configure hkey]
      exact KeyedTable.map_put_of_key fun _ => rfl
    simp only [hsome, Option.map_some, Session.live_modify, Session.flushed_modify, hput, hstored,
      ← hlive]
    rfl

theorem keys_tableOf (s : DbSession H) : (tableOf s).keys = s.live.rooms.map (·.key) := by
  unfold RoomTable.keys tableOf Db.roomSlots
  rw [List.map_map]
  rfl

theorem ensureRoom_opened_iff {m : DbSession H} (hinj : base.uuid4.Injective)
    (hu : rt.uuid4 = base.uuid4) (hm : autoflushRooms s = .ok m) (hms : RegistrySession base m)
    (hp : m.live.propertyColumns = [(property.id, base.registry.property.key)]) {room : Room} :
    (∃ out, ensureRoom rt property s room = .ok out) ↔
      (room.key ∉ m.live.rooms.map (·.key) →
        UpdatesFit m.flushed.roomSlots m.live.roomSlots ∧
          ClockIdFree m.live.roomTable room.settings) := by
  unfold ensureRoom
  rw [exists_bind_ok]
  simp only [hm, Except.ok.injEq, exists_eq_left', hms.select_eq hp]
  have hfound : room.key ∈ m.live.rooms.map (·.key) ↔
      (m.live.rooms.find? (·.key = room.key)).isSome = true := by
    simp [List.find?_isSome]
  rw [hfound]
  cases hfind : m.live.rooms.find? (·.key = room.key) with
  | some stored => simp
  | none =>
      have hnew : room.key ∉ m.live.rooms.map (·.key) := by
        rw [hfound, hfind]
        exact Bool.noConfusion
      let added := m.modify (·.addRoom (newRoomRow (rt.uuid4 m.live.drawn) property.id room))
      have hflush : flushRooms added = .ok added.flush ↔
          UpdatesFit m.flushed.roomSlots m.live.roomSlots ∧
            ClockIdFree m.live.roomTable room.settings :=
        flushRooms_addRoom_iff hms hp hinj (by rw [← hu]; rfl) rfl hnew
      simp only [Option.isSome_none, Bool.false_eq_true, not_false_eq_true, forall_const, ← hflush]
      rw [exists_bind_ok]
      constructor
      · rintro ⟨flushed, hok, -⟩
        exact flushRooms_ok hok ▸ hok
      · intro hok
        exact ⟨_, hok, _, rfl⟩

theorem ensureRoom_ok_iff (hinj : base.uuid4.Injective) (hu : rt.uuid4 = base.uuid4)
    (ha : s.autoflush = rt.autoflush) (hs : RegistrySession base s)
    (hp : s.live.propertyColumns = [(property.id, base.registry.property.key)]) {room : Room} :
    (∃ out, ensureRoom rt property s room = .ok out) ↔ (tableOf s).Fits rt.autoflush room := by
  have hopen := autoflushRooms_iff hs hp
  have htable : (tableOf s).live.map (·.settings) = s.live.roomTable := by
    simp [tableOf, Db.roomSlots, Db.roomTable, RoomRow.slot]
  unfold RoomTable.Fits
  rw [htable, keys_tableOf, ← ha]
  by_cases hfits : s.autoflush = true → UpdatesFit s.flushed.roomSlots s.live.roomSlots
  · have hm := hopen.mpr hfits
    obtain ⟨hms, hlive⟩ := hs.autoflushRooms hm
    rw [ensureRoom_opened_iff hinj hu hm hms (hlive ▸ hp), hlive]
    cases hauto : s.autoflush with
    | true =>
        have hstored := hfits hauto
        simp [tableOf, hstored, updatesFit_self]
    | false => simp [tableOf, imp_and]
  · refine iff_of_false ?_ fun h => hfits fun hauto => h.1 (.inl hauto)
    rintro ⟨⟨row, s'⟩, hok⟩
    obtain ⟨m, hm, -⟩ := ensureRoom_ok hok
    have heq := autoflushRooms_eq hm
    exact hfits (hopen.mp (heq ▸ hm))

theorem ensureRooms_table (hinj : base.uuid4.Injective) (hu : rt.uuid4 = base.uuid4)
    (ha : s.autoflush = rt.autoflush) (hs : RegistrySession base s)
    (hp : s.live.propertyColumns = [(property.id, base.registry.property.key)])
    {rooms : List Room} {entries : List (Room × RoomRow)}
    (h : ensureRooms rt property s rooms = .ok (entries, s')) :
    tableOf s' = placeRooms rt.autoflush rt.uuid4 (tableOf s) rooms := by
  induction rooms generalizing s entries with
  | nil =>
      cases h
      rfl
  | cons room rest ih =>
      obtain ⟨row, m, tail, hroom, hrest, rfl⟩ := ensureRooms_cons h
      obtain ⟨hm, hpm, -⟩ := ensureRoom_session hinj hu hroom hs hp
      rw [placeRooms, ← ensureRoom_table ha hs hp hroom]
      exact ih ((ensureRoom_autoflush hroom).trans ha) hm (hpm.trans hp) hrest

theorem ensureRooms_ok_iff (hinj : base.uuid4.Injective) (hu : rt.uuid4 = base.uuid4)
    (ha : s.autoflush = rt.autoflush) (hs : RegistrySession base s)
    (hp : s.live.propertyColumns = [(property.id, base.registry.property.key)])
    (rooms : List Room) :
    (∃ out, ensureRooms rt property s rooms = .ok out ∧ ∃ t, flushRooms out.2 = .ok t) ↔
      RoomsFit rt.autoflush rt.uuid4 (tableOf s) rooms := by
  induction rooms generalizing s with
  | nil =>
      rw [RoomsFit]
      refine Iff.trans ?_ (flushRooms_iff hs hp)
      constructor
      · rintro ⟨_, ⟨⟩, t, hok⟩
        exact flushRooms_ok hok ▸ hok
      · intro hok
        exact ⟨_, rfl, _, hok⟩
  | cons room rest ih =>
      rw [RoomsFit, ← ensureRoom_ok_iff hinj hu ha hs hp]
      have hnext : ∀ row m, ensureRoom rt property s room = .ok (row, m) →
          ((∃ out, ensureRooms rt property m rest = .ok out ∧ ∃ t, flushRooms out.2 = .ok t) ↔
            RoomsFit rt.autoflush rt.uuid4 ((tableOf s).place rt.autoflush rt.uuid4 room) rest) := by
        intro row m hroom
        obtain ⟨hm, hpm, -⟩ := ensureRoom_session hinj hu hroom hs hp
        rw [← ensureRoom_table ha hs hp hroom]
        exact ih ((ensureRoom_autoflush hroom).trans ha) hm (hpm.trans hp)
      constructor
      · rintro ⟨⟨entries, s'⟩, hok, hflush⟩
        obtain ⟨row, m, tail, hroom, hrest, -⟩ := ensureRooms_cons hok
        exact ⟨⟨_, hroom⟩, (hnext row m hroom).mp ⟨_, hrest, hflush⟩⟩
      · rintro ⟨⟨⟨row, m⟩, hroom⟩, hfits⟩
        obtain ⟨⟨tail, s'⟩, hrest, hflush⟩ := (hnext row m hroom).mpr hfits
        refine ⟨((room, row) :: tail, s'), ?_, hflush⟩
        unfold ensureRooms
        simp only [hroom, hrest, bind, Except.bind]

theorem ensureRoom_rooms (hs : RegistrySession base s)
    (hp : s.live.propertyColumns = [(property.id, base.registry.property.key)]) {room : Room}
    {row : RoomRow} (h : ensureRoom rt property s room = .ok (row, s')) :
    row ∈ s'.live.rooms ∧ row.settings = room.settings ∧
      ∀ r ∈ s.live.rooms, r.key ≠ room.key → r ∈ s'.live.rooms := by
  obtain ⟨m, hm, hcases⟩ := ensureRoom_ok h
  obtain ⟨hms, hlive⟩ := hs.autoflushRooms hm
  rw [hms.select_eq (hlive ▸ hp)] at hcases
  rw [← hlive]
  rcases hcases with ⟨-, hrow, hflush⟩ | ⟨stored, hsome, rfl, rfl⟩
  · rw [flushRooms_ok hflush]
    refine ⟨List.mem_append_right _ (List.mem_singleton_self row), hrow ▸ rfl, fun r hr _ => ?_⟩
    exact List.mem_append_left _ hr
  · have hkey : stored.key = room.key := by simpa using List.find?_some hsome
    have hstored := List.mem_of_find?_eq_some hsome
    refine ⟨?_, congrArg RoomSlot.settings (slot_configure hkey), fun r hr hother => ?_⟩
    · exact KeyedTable.mem_put.mpr (.inl ⟨rfl, List.mem_map.mpr ⟨stored, hstored, rfl⟩⟩)
    · refine KeyedTable.mem_put.mpr (.inr ⟨hr, fun hid => hother ?_⟩)
      have hsame := (hms.id_eq_iff (List.mem_map_of_mem hr) (List.mem_map_of_mem hstored)).mp hid
      exact hsame.trans hkey

theorem ensureRooms_rooms (hinj : base.uuid4.Injective) (hu : rt.uuid4 = base.uuid4)
    (hs : RegistrySession base s)
    (hp : s.live.propertyColumns = [(property.id, base.registry.property.key)])
    {rooms : List Room} (hkeys : (rooms.map (·.key)).Nodup) {entries : List (Room × RoomRow)}
    (h : ensureRooms rt property s rooms = .ok (entries, s')) :
    (∀ room ∈ rooms, ∃ row ∈ s'.live.rooms, row.settings = room.settings) ∧
      ∀ r ∈ s.live.rooms, r.key ∉ rooms.map (·.key) → r ∈ s'.live.rooms := by
  induction rooms generalizing s entries with
  | nil =>
      cases h
      exact ⟨by simp, fun r hr _ => hr⟩
  | cons room rest ih =>
      obtain ⟨hnew, hrestKeys⟩ := List.nodup_cons.mp hkeys
      obtain ⟨row, m, tail, hroom, hrest, rfl⟩ := ensureRooms_cons h
      obtain ⟨hm, hpm, -⟩ := ensureRoom_session hinj hu hroom hs hp
      obtain ⟨hrow, hsettings, hkept⟩ := ensureRoom_rooms hs hp hroom
      obtain ⟨hplaced, hothers⟩ := ih hm (hpm.trans hp) hrestKeys hrest
      refine ⟨List.forall_mem_cons.mpr ⟨⟨row, hothers row hrow ?_, hsettings⟩, hplaced⟩, ?_⟩
      · have hkey : row.key = room.key := congrArg RoomSettings.key hsettings
        rw [hkey]
        exact hnew
      · intro r hr hkey
        rw [List.map_cons, List.mem_cons, not_or] at hkey
        exact hothers r (hkept r hr hkey.1) hkey.2

end Room

section RollOut

def Db.roomsDrawn (db : Db H) : ℕ := if db.properties = [] then db.drawn + 1 else db.drawn

def Db.table (db : Db H) : RoomTable := ⟨db.roomSlots, db.roomSlots, db.roomsDrawn⟩

variable (rt) in
theorem ensureProperty_table (hk : rt.registry.property.key = base.registry.property.key)
    (hdb : RegistryStore base db) :
    tableOf (ensureProperty rt (rt.session db)).2 = db.table := by
  have hrooms := ensureProperty_rooms rt db
  have hdrawn : (ensureProperty rt (rt.session db)).2.live.drawn = db.roomsDrawn := by
    have hs : RegistrySession base (rt.session db) := .of_start rt.autoflush hdb
    unfold Db.roomsDrawn
    rcases hdb.property with hnone | ⟨id, hone⟩
    · rw [ensureProperty_new hs hnone, if_pos (List.map_eq_nil_iff.mp hnone)]
      rfl
    · have hsome : db.properties ≠ [] := by
        intro hnil
        simp [Db.propertyColumns, hnil] at hone
      rw [ensureProperty_stored hs (hk ▸ hone), if_neg hsome]
      rfl
  unfold tableOf Db.table Db.roomSlots
  rw [hrooms.flushed, hrooms.live, hdrawn]

variable (rt) in
theorem ensureRegistry_ok_iff (hinj : base.uuid4.Injective) (hu : rt.uuid4 = base.uuid4)
    (hk : rt.registry.property.key = base.registry.property.key) (hdb : RegistryStore base db) :
    (∃ out, ensureRegistry rt (rt.session db) = .ok out) ↔
      RoomsFit rt.autoflush rt.uuid4 db.table rt.registry.rooms := by
  obtain ⟨hm, hpm, -⟩ := ensureProperty_session hk (.of_start rt.autoflush hdb)
  rw [← ensureProperty_table rt hk hdb, ← ensureRooms_ok_iff hinj hu
    (ensureProperty_autoflush rt (rt.session db)) hm hpm]
  unfold ensureRegistry
  dsimp only
  rw [exists_bind_ok]
  refine exists_congr fun out => and_congr_right fun _ => ?_
  rw [exists_bind_ok]
  simp

theorem ensureRegistry_rooms {rows : RegistryRows} {t : DbSession H} (hinj : base.uuid4.Injective)
    (hu : rt.uuid4 = base.uuid4) (hk : rt.registry.property.key = base.registry.property.key)
    (hdb : RegistryStore base db) (h : ensureRegistry rt (rt.session db) = .ok (rows, t)) :
    ∀ room ∈ rt.registry.rooms, ∃ row ∈ t.live.rooms, row.settings = room.settings := by
  obtain ⟨u, hprop, hrooms, hflush⟩ := ensureRegistry_ok h
  obtain ⟨hm, hpm, -⟩ := ensureProperty_session hk (.of_start rt.autoflush hdb)
  rw [hprop] at hrooms
  rw [flushRooms_ok hflush]
  exact (ensureRooms_rooms hinj hu hm hpm rt.registry.uniqueRoomKeys hrooms).1

theorem ensureRegistry_table {rows : RegistryRows} {t : DbSession H} (hinj : base.uuid4.Injective)
    (hu : rt.uuid4 = base.uuid4) (hk : rt.registry.property.key = base.registry.property.key)
    (hdb : RegistryStore base db) (h : ensureRegistry rt (rt.session db) = .ok (rows, t)) :
    t.live.table = (placeRooms rt.autoflush rt.uuid4 db.table rt.registry.rooms).commit := by
  obtain ⟨-, hproperty, -⟩ := ensureRegistry_session hinj hu hk h (.of_start rt.autoflush hdb)
  obtain ⟨u, hprop, hrooms, hflush⟩ := ensureRegistry_ok h
  obtain ⟨hm, hpm, -⟩ := ensureProperty_session hk (.of_start rt.autoflush hdb)
  rw [hprop] at hrooms
  have htable := ensureRooms_table hinj hu (ensureProperty_autoflush rt (rt.session db)) hm hpm hrooms
  rw [ensureProperty_table rt hk hdb] at htable
  rw [flushRooms_ok hflush, Session.live_flush] at hproperty ⊢
  have hsome : u.live.properties ≠ [] := by
    intro hnil
    simp [Db.propertyColumns, hnil] at hproperty
  rw [← htable, Db.table, Db.roomsDrawn, if_neg hsome]
  rfl

end RollOut

theorem configured_ok_iff (hinj : base.uuid4.Injective) {registry : RoomRegistry}
    (hk : registry.property.key = base.registry.property.key) (hdb : RegistryStore base db) :
    (∃ out, ensureRegistry (base.configured registry) ((base.configured registry).session db) =
        .ok out) ↔
      RoomsFit base.autoflush base.uuid4 db.table registry.rooms :=
  ensureRegistry_ok_iff (base.configured registry) hinj rfl hk hdb

theorem configured_table (hinj : base.uuid4.Injective) {registry : RoomRegistry}
    (hk : registry.property.key = base.registry.property.key) (hdb : RegistryStore base db)
    {rows : RegistryRows} {t : DbSession H}
    (h : ensureRegistry (base.configured registry) ((base.configured registry).session db) =
      .ok (rows, t)) :
    RegistryStore base t.live ∧
      t.live.table = (placeRooms base.autoflush base.uuid4 db.table registry.rooms).commit := by
  have hk' : (base.configured registry).registry.property.key = base.registry.property.key := hk
  have hu : (base.configured registry).uuid4 = base.uuid4 := rfl
  obtain ⟨ht, -⟩ := ensureRegistry_session hinj hu hk' h (.of_start base.autoflush hdb)
  exact ⟨ht.store, ensureRegistry_table hinj hu hk' hdb h⟩

theorem rollOut_ok_iff (hinj : base.uuid4.Injective) {registries : List RoomRegistry}
    (hkey : ∀ registry ∈ registries, registry.property.key = base.registry.property.key)
    (hdb : RegistryStore base db) :
    (∃ db', rollOut base db registries = .ok db') ↔
      RegistriesFit base.autoflush base.uuid4 db.table registries := by
  induction registries generalizing db with
  | nil => exact iff_of_true ⟨db, rfl⟩ trivial
  | cons registry rest ih =>
      obtain ⟨hk, hrest⟩ := List.forall_mem_cons.mp hkey
      unfold rollOut
      rw [RegistriesFit, ← configured_ok_iff hinj hk hdb, List.foldlM_cons, exists_bind_ok]
      constructor
      · rintro ⟨m, hm, hok⟩
        obtain ⟨⟨rows, t⟩, hfirst, rfl⟩ := map_ok hm
        obtain ⟨hstore, htable⟩ := configured_table hinj hk hdb hfirst
        exact ⟨⟨_, hfirst⟩, htable ▸ (ih hrest hstore).mp hok⟩
      · rintro ⟨⟨⟨rows, t⟩, hfirst⟩, hfits⟩
        obtain ⟨hstore, htable⟩ := configured_table hinj hk hdb hfirst
        refine ⟨t.live, by rw [hfirst]; rfl, (ih hrest hstore).mpr ?_⟩
        rw [htable]
        exact hfits

section OneRoom

theorem updatesFit_put_iff {slots : List RoomSlot} {slot : RoomSlot} {settings : RoomSettings}
    (hids : (slots.map (·.id)).Nodup) (hslot : slot ∈ slots)
    (hapart : ∀ x ∈ slots, ∀ y ∈ slots, x.id ≠ y.id → ¬ x.SharesClockId y) :
    UpdatesFit slots (KeyedTable.put (·.id) ⟨slot.id, settings⟩ slots) ↔
      ∀ p ∈ slots, p.id ≠ slot.id → ¬ (⟨slot.id, settings⟩ : RoomSlot).SharesClockId p := by
  let update := fun r : RoomSlot => if r.id = slot.id then ⟨slot.id, settings⟩ else r
  have hother : ∀ p ∈ slots, p.id ≠ slot.id → update p = p := fun p _ hne => if_neg hne
  have hown : update slot = ⟨slot.id, settings⟩ := if_pos rfl
  have hid : ∀ p : RoomSlot, (update p).id = p.id := by
    intro p
    by_cases hp : p.id = slot.id
    · rw [show update p = _ from if_pos hp, hp]
    · rw [show update p = _ from if_neg hp]
  have hzip : slots.zip (KeyedTable.put (·.id) ⟨slot.id, settings⟩ slots) =
      slots.map fun r => (r, update r) := by
    change slots.zip (slots.map update) = _
    rw [List.zip_map_right, List.zip, List.zipWith_self, List.map_map]
    rfl
  unfold UpdatesFit
  rw [hzip]
  simp only [List.forall_mem_map, hid]
  constructor
  · intro h p hp hne
    by_cases hsame : slot = ⟨slot.id, settings⟩
    · rw [← hsame]
      exact hapart slot hslot p hp hne.symm
    · have hfree := h slot hslot (hown ▸ hsame) p hp hne
      rwa [hown, hother p hp hne, ite_self] at hfree
  · intro h r hr hchanged p hp hne
    by_cases hrow : r.id = slot.id
    · obtain rfl := KeyedTable.eq_of_key hids hr hslot hrow
      rw [hown, hother p hp hne, ite_self]
      exact h p hp hne
    · exact absurd (hother r hr hrow).symm hchanged

theorem RegistryStore.same_property (h : RegistryStore base db) {r r' : RoomRow}
    (hr : r ∈ db.rooms) (hr' : r' ∈ db.rooms) : r.propertyId = r'.propertyId := by
  have howner := h.roomProperty r.columns (List.mem_map_of_mem hr)
  have howner' := h.roomProperty r'.columns (List.mem_map_of_mem hr')
  rcases h.property with hnone | ⟨id, hone⟩
  · simp [hnone] at howner
  · simp only [hone, List.map_cons, List.map_nil, List.mem_singleton] at howner howner'
    exact howner.trans howner'.symm

theorem roomSlots_apart (hdb : RegistryStore base db) (hapart : db.RoomsApart) :
    ∀ x ∈ db.roomSlots, ∀ y ∈ db.roomSlots, x.id ≠ y.id → ¬ x.SharesClockId y := by
  simp only [Db.roomSlots, List.forall_mem_map]
  rintro r hr r' hr' hne ⟨hplaced, hsame⟩
  have heq := hapart.uniqueClockIds hdb r hr r' hr' (hdb.same_property hr hr') hplaced hsame
  exact hne (heq ▸ rfl)

theorem roomSlots_settings (db : Db H) : db.roomSlots.map (·.settings) = db.roomTable := by
  simp [Db.roomSlots, Db.roomTable, RoomRow.slot]

theorem roomSlots_free_iff (hdb : RegistryStore base db) {slot : RoomSlot} {room : Room}
    (hslot : slot ∈ db.roomSlots) (hkey : slot.settings.key = room.key) :
    (∀ p ∈ db.roomSlots, p.id ≠ slot.id →
        ¬ (⟨slot.id, room.settings⟩ : RoomSlot).SharesClockId p) ↔
      ClockIdFree db.roomTable room.settings := by
  have hs : RegistrySession base (Session.start false db) := .of_start false hdb
  have hsame : ∀ p ∈ db.roomSlots, p.id = slot.id ↔ p.settings.key = room.settings.key := by
    intro p hp
    obtain ⟨r, hr, rfl⟩ := List.mem_map.mp hp
    obtain ⟨stored, hstored, rfl⟩ := List.mem_map.mp hslot
    refine (hs.id_eq_iff (List.mem_map_of_mem hr) (List.mem_map_of_mem hstored)).trans ?_
    exact Eq.congr_right hkey
  rw [← roomSlots_settings, ClockIdFree, List.forall_mem_map, ← forall_or_left]
  refine forall_congr' fun p => ?_
  constructor
  · intro h
    rw [or_iff_not_imp_left]
    intro hplaced hp hother hequal
    exact h hp (fun hid => hother ((hsame p hp).mp hid)) ⟨hplaced, hequal.symm⟩
  · rintro (hnone | hfree) hp hne ⟨hplaced, hequal⟩
    · exact hplaced hnone
    · exact hfree hp (fun hkey => hne ((hsame p hp).mpr hkey)) hequal.symm

theorem roomsFit_single_iff {autoflush : Bool} {uuid4 : ℕ → UUID} (hdb : RegistryStore base db)
    (hapart : db.RoomsApart) (room : Room) :
    RoomsFit autoflush uuid4 db.table [room] ↔ ClockIdFree db.roomTable room.settings := by
  have hs : RegistrySession base (Session.start autoflush db) := .of_start autoflush hdb
  have hstart : db.table.Fits autoflush room ↔
      (room.key ∉ db.table.keys → ClockIdFree db.roomTable room.settings) := by
    rw [← roomSlots_settings]
    exact and_iff_right fun _ => updatesFit_self db.roomSlots
  rw [RoomsFit, RoomsFit, hstart]
  cases hfind : db.roomSlots.find? (·.settings.key = room.key) with
  | none =>
      have hnew : room.key ∉ db.table.keys := by
        intro hkey
        obtain ⟨slot, hslot, heq⟩ := List.mem_map.mp hkey
        exact List.find?_eq_none.mp hfind slot hslot (decide_eq_true heq)
      have hplaced : db.table.live.find? (·.settings.key = room.key) = none := hfind
      rw [RoomTable.place, hplaced, and_iff_left (updatesFit_self _)]
      exact forall_prop_of_true hnew
  | some slot =>
      have hslot := List.mem_of_find?_eq_some hfind
      have hkey : slot.settings.key = room.key := by simpa using List.find?_some hfind
      have hknown : room.key ∈ db.table.keys := hkey ▸ List.mem_map_of_mem hslot
      have hplaced : db.table.live.find? (·.settings.key = room.key) = some slot := hfind
      have hids : (db.roomSlots.map (·.id)).Nodup := by
        rw [Db.roomSlots, List.map_map]
        exact hs.roomIds_nodup
      rw [RoomTable.place, hplaced, and_iff_right fun hnew => absurd hknown hnew]
      change UpdatesFit (if autoflush then db.roomSlots else db.roomSlots) (KeyedTable.put (·.id)
        ⟨slot.id, room.settings⟩ db.roomSlots) ↔ _
      rw [ite_self, updatesFit_put_iff hids hslot (roomSlots_apart hdb hapart)]
      exact roomSlots_free_iff hdb hslot hkey

theorem ensureCommandRoom_single {property : PropertyRow} {s : DbSession H} {room : Room} :
    (∃ out, ensureCommandRoom rt property s room = .ok out) ↔
      ∃ out, ensureRooms rt property s [room] = .ok out ∧ ∃ t, flushRooms out.2 = .ok t := by
  constructor
  · rintro ⟨⟨row, s'⟩, h⟩
    obtain ⟨t, hroom, hflush⟩ := ensureCommandRoom_ok h
    refine ⟨([(room, row)], t), ?_, s', hflush⟩
    simp only [ensureRooms, hroom, bind, Except.bind]
  · rintro ⟨⟨entries, t⟩, h, u, hflush⟩
    obtain ⟨row, m, tail, hroom, hrest, -⟩ := ensureRooms_cons h
    cases hrest
    refine ⟨(row, u), ?_⟩
    simp only [ensureCommandRoom, hroom, hflush, bind, Except.bind]

variable (rt) in
theorem ensureCommandRoom_ok_iff (hinj : base.uuid4.Injective) (hu : rt.uuid4 = base.uuid4)
    (hk : rt.registry.property.key = base.registry.property.key) (hdb : RegistryStore base db)
    (hapart : db.RoomsApart) (room : Room) :
    (∃ out, ensureCommandRoom rt (ensureProperty rt (rt.session db)).1
        (ensureProperty rt (rt.session db)).2 room = .ok out) ↔
      ClockIdFree db.roomTable room.settings := by
  have hstart : RegistrySession base (rt.session db) := .of_start rt.autoflush hdb
  obtain ⟨hm, hpm, -⟩ := ensureProperty_session hk hstart
  rw [← roomsFit_single_iff hdb hapart, ← ensureProperty_table rt hk hdb, ensureCommandRoom_single]
  exact ensureRooms_ok_iff hinj hu (ensureProperty_autoflush rt (rt.session db)) hm hpm [room]

end OneRoom

structure RolledOut (db : Db H) (registries : List RoomRegistry) : Prop where
  keys : (db.rooms.map fun r => (r.propertyId, r.key)).Nodup
  clockIds : ∀ r ∈ db.rooms, ∀ r' ∈ db.rooms, r.propertyId = r'.propertyId →
    r.clockRoomId ≠ none → r.clockRoomId = r'.clockRoomId → r = r'
  configured : ∀ registry ∈ registries.getLast?, ∀ room ∈ registry.rooms,
    ∃ row ∈ db.rooms, row.settings = room.settings

theorem rollOut_rolledOut (hinj : base.uuid4.Injective) {registries : List RoomRegistry}
    (hkey : ∀ registry ∈ registries, registry.property.key = base.registry.property.key)
    (hdb : RegistryStore base db) (hapart : db.RoomsApart) {db' : Db H}
    (h : rollOut base db registries = .ok db') : RolledOut db' registries := by
  induction registries generalizing db with
  | nil =>
      cases h
      exact ⟨hdb.uniqueRoomKeys, hapart.uniqueClockIds hdb, by simp⟩
  | cons registry rest ih =>
      obtain ⟨hk, hrest⟩ := List.forall_mem_cons.mp hkey
      unfold rollOut at h
      rw [List.foldlM_cons] at h
      obtain ⟨m, hm, h⟩ := bind_ok h
      obtain ⟨⟨rows, t⟩, hfirst, rfl⟩ := map_ok hm
      have hk' : (base.configured registry).registry.property.key = base.registry.property.key := hk
      have hu : (base.configured registry).uuid4 = base.uuid4 := rfl
      obtain ⟨hstore, -⟩ := configured_table hinj hk hdb hfirst
      have hdone := ih hrest hstore (ensureRegistry_apart hinj hu hk' hfirst hdb hapart) h
      refine ⟨hdone.keys, hdone.clockIds, ?_⟩
      cases rest with
      | nil =>
          cases h
          intro last hlast room hroom
          cases hlast
          exact ensureRegistry_rooms hinj hu hk' hdb hfirst room hroom
      | cons second rest =>
          rw [List.getLast?_cons_cons]
          exact hdone.configured

theorem registries_roll_out_iff (hinj : base.uuid4.Injective) {registries : List RoomRegistry}
    (hkey : ∀ registry ∈ registries, registry.property.key = base.registry.property.key) :
    (∃ db, rollOut base (Db.empty H) registries = .ok db ∧ RolledOut db registries) ↔
      RegistriesFit base.autoflush base.uuid4 ⟨[], [], 1⟩ registries := by
  rw [show (⟨[], [], 1⟩ : RoomTable) = (Db.empty H).table from rfl, ← rollOut_ok_iff hinj hkey .empty]
  refine exists_congr fun db => and_iff_left_of_imp fun hok => ?_
  exact rollOut_rolledOut hinj hkey .empty .empty hok

def demoRenumbered : RoomRegistry where
  property := demoRegistry.property
  entrances := demoRegistry.entrances
  rooms := [{ room215 with clockRoomId := some "clock-room-214" }]

theorem same_registry_twice_rolls_out :
    ∃ db, rollOut (demoRuntime false) (Db.empty _) [demoRegistry, demoRegistry] = .ok db ∧
      RolledOut db [demoRegistry, demoRegistry] :=
  (registries_roll_out_iff (demoRuntime_uuid4_injective false) (by simp [demoRuntime])).mpr
    (by decide)

theorem reassigned_clock_id_fails :
    ∃ e, rollOut (demoRuntime false) (Db.empty _) [demoRegistry, demoRenumbered] = .error e :=
  ⟨.integrityError "rooms", rfl⟩

-- Room 214 moves on to a new Clock id and room 215 takes its old one. The row of room 214 has the
-- smaller identifier and is updated first, wherever its entry stands.
def demoMovedOn : RoomRegistry where
  property := demoRegistry.property
  entrances := demoRegistry.entrances
  rooms := [{ room215 with clockRoomId := some "clock-room-214" },
    { room214 with clockRoomId := some "clock-room-216" }]

example : (rollOut (demoRuntime false) (Db.empty _) [demoRegistry, demoMovedOn]).toOption.isSome :=
  by decide +kernel

end ClockOrchestrator
