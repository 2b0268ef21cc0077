import ClockOrchestrator.Persistence.Registry
import ClockOrchestrator.Support.FreshIds

namespace ClockOrchestrator

open Python UnitOfWork FreshIds

variable {H α : Type} {rt base : AppRuntime H}

def PropertyRow.columns (row : PropertyRow) : UUID × String := (row.id, row.key)

def RoomRow.columns (row : RoomRow) : UUID × UUID × String := (row.id, row.propertyId, row.key)

def Db.propertyColumns (db : Db H) : List (UUID × String) := db.properties.map (·.columns)

def Db.roomColumns (db : Db H) : List (UUID × UUID × String) := db.rooms.map (·.columns)

def Db.stays (db : Db H) : List BookingRow × List AssignmentRow := (db.bookings, db.assignments)

def Db.logs (db : Db H) : List (RoomStateRow H) × List OverrideRow × List OutboxEvent :=
  (db.roomStates, db.overrides, db.outbox)

structure IgnoresRegistry (f : Db H → α) : Prop where
  addProperty : ∀ db row, f (Db.addProperty db row) = f db
  setProperty : ∀ db row, f (Db.setProperty db row) = f db
  addRoom : ∀ db row, f (Db.addRoom db row) = f db
  setRoom : ∀ db row, f (Db.setRoom db row) = f db

theorem ignoresRegistry_stays : IgnoresRegistry (Db.stays (H := H)) :=
  ⟨fun _ _ => rfl, fun _ _ => rfl, fun _ _ => rfl, fun _ _ => rfl⟩

theorem ignoresRegistry_logs : IgnoresRegistry (Db.logs (H := H)) :=
  ⟨fun _ _ => rfl, fun _ _ => rfl, fun _ _ => rfl, fun _ _ => rfl⟩

variable (rt) in
theorem ensureProperty_shows {s : DbSession H} {f : Db H → α} {x : α} (hf : IgnoresRegistry f)
    (h : s.Shows f x) : (ensureProperty rt s).2.Shows f x := by
  unfold ensureProperty
  split
  · refine (h.modify ?_).flush
    exact hf.addProperty _ _
  · dsimp only
    refine h.modify ?_
    exact hf.setProperty _ _

theorem flushRooms_ok {s s' : DbSession H} (h : flushRooms s = .ok s') : s' = s.flush := by
  unfold flushRooms at h
  split at h
  · cases h
  · cases h
    rfl

theorem autoflushRooms_ok {s m : DbSession H} (h : autoflushRooms s = .ok m) :
    m = s ∨ m = s.flush := by
  unfold autoflushRooms at h
  split at h
  · exact .inr (flushRooms_ok h)
  · cases h
    exact .inl rfl

theorem ensureRoom_ok {property : PropertyRow} {room : Room} {row : RoomRow} {s s' : DbSession H}
    (h : ensureRoom rt property s room = .ok (row, s')) :
    ∃ m, autoflushRooms s = .ok m ∧
      ((m.select (·.rooms) fun r => r.propertyId = property.id && r.key = room.key).head? = none ∧
          row = newRoomRow (rt.uuid4 m.live.drawn) property.id room ∧
          flushRooms (m.modify (·.addRoom row)) = .ok s' ∨
        ∃ stored, (m.select (·.rooms) fun r =>
            r.propertyId = property.id && r.key = room.key).head? = some stored ∧
          row = stored.configure room ∧ s' = m.modify (·.setRoom row)) := by
  unfold ensureRoom at h
  obtain ⟨m, hm, h⟩ := bind_ok h
  refine ⟨m, hm, ?_⟩
  split at h
  · next hnone =>
      obtain ⟨t, ht, h⟩ := bind_ok h
      cases h
      exact .inl ⟨hnone, rfl, ht⟩
  · next stored hstored =>
      cases h
      exact .inr ⟨stored, hstored, rfl, rfl⟩

section Shows

variable {s s' : DbSession H} {f : Db H → α} {x : α}

theorem flushRooms_shows (h : flushRooms s = .ok s') (hs : s.Shows f x) : s'.Shows f x := by
  rw [flushRooms_ok h]
  exact hs.flush

theorem autoflushRooms_shows (h : autoflushRooms s = .ok s') (hs : s.Shows f x) :
    s'.Shows f x := by
  rcases autoflushRooms_ok h with rfl | rfl
  · exact hs
  · exact hs.flush

theorem ensureRoom_shows {property : PropertyRow} {room : Room} {row : RoomRow}
    (hf : IgnoresRegistry f) (h : ensureRoom rt property s room = .ok (row, s'))
    (hs : s.Shows f x) : s'.Shows f x := by
  obtain ⟨m, hm, hadded | hset⟩ := ensureRoom_ok h
  · obtain ⟨-, -, hflush⟩ := hadded
    refine flushRooms_shows hflush ((autoflushRooms_shows hm hs).modify ?_)
    exact hf.addRoom _ _
  · obtain ⟨stored, -, -, rfl⟩ := hset
    refine (autoflushRooms_shows hm hs).modify ?_
    exact hf.setRoom _ _

end Shows

theorem ensureRooms_cons {property : PropertyRow} {room : Room} {rest : List Room}
    {entries : List (Room × RoomRow)} {s s' : DbSession H}
    (h : ensureRooms rt property s (room :: rest) = .ok (entries, s')) :
    ∃ row m tail, ensureRoom rt property s room = .ok (row, m) ∧
      ensureRooms rt property m rest = .ok (tail, s') ∧ entries = (room, row) :: tail := by
  unfold ensureRooms at h
  obtain ⟨⟨row, m⟩, hroom, h⟩ := bind_ok h
  obtain ⟨⟨tail, t⟩, hrest, h⟩ := bind_ok h
  cases h
  exact ⟨row, m, tail, hroom, hrest, rfl⟩

theorem ensureRooms_shows {property : PropertyRow} {rooms : List Room}
    {entries : List (Room × RoomRow)} {s s' : DbSession H} {f : Db H → α} {x : α}
    (hf : IgnoresRegistry f) (h : ensureRooms rt property s rooms = .ok (entries, s'))
    (hs : s.Shows f x) : s'.Shows f x := by
  induction rooms generalizing s entries with
  | nil => cases h; exact hs
  | cons room rest ih =>
      obtain ⟨row, m, tail, hroom, hrest, -⟩ := ensureRooms_cons h
      exact ih hrest (ensureRoom_shows hf hroom hs)

theorem ensureRegistry_ok {s s' : DbSession H} {rows : RegistryRows}
    (h : ensureRegistry rt s = .ok (rows, s')) :
    ∃ t, rows.property = (ensureProperty rt s).1 ∧
      ensureRooms rt rows.property (ensureProperty rt s).2 rt.registry.rooms =
        .ok (rows.entries, t) ∧ flushRooms t = .ok s' := by
  unfold ensureRegistry at h
  obtain ⟨⟨entries, t⟩, hrooms, h⟩ := bind_ok h
  obtain ⟨u, hflush, h⟩ := bind_ok h
  cases h
  exact ⟨t, rfl, hrooms, hflush⟩

theorem ensureRegistry_shows {s s' : DbSession H} {rows : RegistryRows} {f : Db H → α} {x : α}
    (hf : IgnoresRegistry f) (h : ensureRegistry rt s = .ok (rows, s')) (hs : s.Shows f x) :
    s'.Shows f x := by
  obtain ⟨t, -, hrooms, hflush⟩ := ensureRegistry_ok h
  exact flushRooms_shows hflush (ensureRooms_shows hf hrooms (ensureProperty_shows rt hf hs))

variable (rt) in
theorem ensureProperty_autoflush (s : DbSession H) :
    (ensureProperty rt s).2.autoflush = s.autoflush := by
  unfold ensureProperty
  split <;> rfl

theorem flushRooms_autoflush {s s' : DbSession H} (h : flushRooms s = .ok s') :
    s'.autoflush = s.autoflush := by
  rw [flushRooms_ok h]
  rfl

theorem autoflushRooms_autoflush {s s' : DbSession H} (h : autoflushRooms s = .ok s') :
    s'.autoflush = s.autoflush := by
  rcases autoflushRooms_ok h with rfl | rfl <;> rfl

theorem ensureRoom_autoflush {property : PropertyRow} {room : Room} {row : RoomRow}
    {s s' : DbSession H} (h : ensureRoom rt property s room = .ok (row, s')) :
    s'.autoflush = s.autoflush := by
  obtain ⟨m, hm, hadded | hset⟩ := ensureRoom_ok h
  · obtain ⟨-, -, hflush⟩ := hadded
    have hsame := autoflushRooms_autoflush hm
    exact (flushRooms_autoflush hflush).trans hsame
  · obtain ⟨stored, -, -, rfl⟩ := hset
    have hsame := autoflushRooms_autoflush hm
    exact hsame

theorem ensureRooms_autoflush {property : PropertyRow} {rooms : List Room}
    {entries : List (Room × RoomRow)} {s s' : DbSession H}
    (h : ensureRooms rt property s rooms = .ok (entries, s')) : s'.autoflush = s.autoflush := by
  induction rooms generalizing s entries with
  | nil => cases h; rfl
  | cons room rest ih =>
      obtain ⟨row, m, tail, hroom, hrest, -⟩ := ensureRooms_cons h
      exact (ih hrest).trans (ensureRoom_autoflush hroom)

theorem ensureRegistry_autoflush {s s' : DbSession H} {rows : RegistryRows}
    (h : ensureRegistry rt s = .ok (rows, s')) : s'.autoflush = s.autoflush := by
  obtain ⟨t, -, hrooms, hflush⟩ := ensureRegistry_ok h
  exact (flushRooms_autoflush hflush).trans
    ((ensureRooms_autoflush hrooms).trans (ensureProperty_autoflush rt s))

structure RegistryStore (base : AppRuntime H) (db : Db H) : Prop where
  property : db.propertyColumns = [] ∨
    ∃ id, db.propertyColumns = [(id, base.registry.property.key)]
  roomProperty : ∀ c ∈ db.roomColumns, c.2.1 ∈ db.propertyColumns.map Prod.fst
  roomIds : Drawn base.uuid4 db.drawn (db.roomColumns.map Prod.fst)
  roomKeys : (db.roomColumns.map (·.2.2)).Nodup

structure RegistrySession (base : AppRuntime H) (s : DbSession H) : Prop where
  properties : s.Shows Db.propertyColumns s.live.propertyColumns
  rooms : s.Shows Db.roomColumns s.live.roomColumns
  store : RegistryStore base s.live

theorem RegistryStore.empty : RegistryStore base (Db.empty H) :=
  ⟨.inl rfl, by simp [Db.empty, Db.roomColumns], .nil, by simp [Db.empty, Db.roomColumns]⟩

theorem RegistryStore.of_columns {db db' : Db H} (h : RegistryStore base db)
    (hp : db'.propertyColumns = db.propertyColumns) (hr : db'.roomColumns = db.roomColumns)
    (hd : db.drawn ≤ db'.drawn) : RegistryStore base db' := by
  obtain ⟨property, roomProperty, roomIds, roomKeys⟩ := h
  refine ⟨hp ▸ property, ?_, ?_, hr ▸ roomKeys⟩
  · rw [hr, hp]; exact roomProperty
  · rw [hr]; exact roomIds.mono hd

theorem RegistrySession.flush {s : DbSession H} (h : RegistrySession base s) :
    RegistrySession base s.flush :=
  ⟨.of_flush s _, .of_flush s _, h.store⟩

theorem RegistrySession.autoflushRooms {s m : DbSession H} (h : RegistrySession base s)
    (hm : autoflushRooms s = .ok m) : RegistrySession base m ∧ m.live = s.live := by
  rcases autoflushRooms_ok hm with rfl | rfl
  · exact ⟨h, rfl⟩
  · exact ⟨h.flush, rfl⟩

theorem RegistrySession.of_start (a : Bool) {db : Db H} (h : RegistryStore base db) :
    RegistrySession base (Session.start a db) :=
  ⟨.of_start a db _, .of_start a db _, h⟩

def newPropertyRow (rt : AppRuntime H) (id : UUID) : PropertyRow :=
  ⟨id, rt.registry.property.key, rt.registry.property.name, rt.registry.property.timezone⟩

theorem ensureProperty_new {s : DbSession H} (hs : RegistrySession base s)
    (hnone : s.live.propertyColumns = []) :
    ensureProperty rt s = (newPropertyRow rt (rt.uuid4 s.live.drawn),
      (s.modify (·.addProperty (newPropertyRow rt (rt.uuid4 s.live.drawn)))).flush) := by
  have hselect := Session.select_of_columns hs.properties
    (p := fun r => decide (r.key = rt.registry.property.key))
    (fun x y hxy => by simp only [PropertyRow.columns, Prod.mk.injEq] at hxy; rw [hxy.2])
  have hlive : s.live.properties = [] := List.map_eq_nil_iff.mp hnone
  unfold ensureProperty
  rw [hselect, hlive]
  rfl

theorem ensureProperty_stored {s : DbSession H} (hs : RegistrySession base s) {id : UUID}
    (hone : s.live.propertyColumns = [(id, rt.registry.property.key)]) :
    ensureProperty rt s = (newPropertyRow rt id,
      s.modify (·.setProperty (newPropertyRow rt id))) := by
  have hselect := Session.select_of_columns hs.properties
    (p := fun r => decide (r.key = rt.registry.property.key))
    (fun x y hxy => by simp only [PropertyRow.columns, Prod.mk.injEq] at hxy; rw [hxy.2])
  obtain ⟨stored, hlive, hcol⟩ : ∃ r, s.live.properties = [r] ∧
      r.columns = (id, rt.registry.property.key) := by
    simpa [Db.propertyColumns, List.map_eq_singleton_iff] using hone
  simp only [PropertyRow.columns, Prod.mk.injEq] at hcol
  unfold ensureProperty
  rw [hselect, hlive, List.filter_cons_of_pos (by simpa using hcol.2)]
  simp [newPropertyRow, hcol.1, hcol.2]

theorem ensureProperty_session {s : DbSession H}
    (hk : rt.registry.property.key = base.registry.property.key)
    (hs : RegistrySession base s) :
    RegistrySession base (ensureProperty rt s).2 ∧
      (ensureProperty rt s).2.live.propertyColumns =
        [((ensureProperty rt s).1.id, base.registry.property.key)] ∧
      s.live.propertyColumns ⊆ (ensureProperty rt s).2.live.propertyColumns ∧
      (ensureProperty rt s).2.live.roomColumns = s.live.roomColumns ∧
      s.live.drawn ≤ (ensureProperty rt s).2.live.drawn := by
  obtain ⟨hprops, hrooms, hstore⟩ := id hs
  rcases hstore.property with hnone | ⟨id, hone⟩
  · rw [ensureProperty_new hs hnone]
    have hlive : s.live.properties = [] := List.map_eq_nil_iff.mp hnone
    have hcols : (s.live.addProperty (newPropertyRow rt (rt.uuid4 s.live.drawn))).propertyColumns =
        [(rt.uuid4 s.live.drawn, base.registry.property.key)] := by
      simp [Db.propertyColumns, Db.addProperty, hlive, PropertyRow.columns, newPropertyRow, hk]
    refine ⟨⟨.of_flush _ _, .of_flush _ _, .inr ⟨_, hcols⟩, ?_, ?_, hstore.roomKeys⟩, hcols, ?_,
      rfl, Nat.le_succ _⟩
    · intro c hc
      have := hstore.roomProperty c hc
      simp [hnone] at this
    · exact hstore.roomIds.mono (Nat.le_succ _)
    · rw [hnone]
      exact List.nil_subset _
  · rw [ensureProperty_stored hs (hk ▸ hone)]
    have hcols : (s.live.setProperty (newPropertyRow rt id)).propertyColumns =
        s.live.propertyColumns := by
      obtain ⟨stored, hlive, hcol⟩ : ∃ r, s.live.properties = [r] ∧
          r.columns = (id, base.registry.property.key) := by
        simpa [Db.propertyColumns, List.map_eq_singleton_iff] using hone
      simp only [PropertyRow.columns, Prod.mk.injEq] at hcol
      simp [Db.propertyColumns, Db.setProperty, KeyedTable.put, hlive, PropertyRow.columns,
        newPropertyRow, hcol.1, hcol.2, hk]
    refine ⟨⟨?_, ?_, ?_⟩, ?_, ?_, rfl, Nat.le_refl _⟩
    · refine ⟨hprops.flushed.trans hcols.symm, rfl⟩
    · exact ⟨hrooms.flushed, rfl⟩
    · exact hstore.of_columns hcols rfl (Nat.le_refl _)
    · exact hcols.trans hone
    · change s.live.propertyColumns ⊆ (s.live.setProperty (newPropertyRow rt id)).propertyColumns
      rw [hcols]
      exact List.Subset.refl _

theorem select_room {s : DbSession H} (hs : RegistrySession base s) (propertyId : UUID)
    (key : String) :
    s.select (·.rooms) (fun r => r.propertyId = propertyId && r.key = key) =
      s.live.rooms.filter fun r => r.propertyId = propertyId && r.key = key := by
  refine Session.select_of_columns hs.rooms fun x y hxy => ?_
  simp only [RoomRow.columns, Prod.mk.injEq] at hxy
  rw [hxy.2.1, hxy.2.2]

theorem addRoom_store {db : Db H} {row : RoomRow} {property : PropertyRow}
    (hinj : base.uuid4.Injective) (hstore : RegistryStore base db)
    (hp : db.propertyColumns = [(property.id, base.registry.property.key)])
    (hid : row.id = base.uuid4 db.drawn) (hrow : row.propertyId = property.id)
    (hnew : ∀ r ∈ db.rooms, ¬ (r.propertyId = property.id ∧ r.key = row.key)) :
    RegistryStore base (db.addRoom row) := by
  have hcols : (db.addRoom row).roomColumns = db.roomColumns ++ [row.columns] := by
    simp [Db.roomColumns, Db.addRoom]
  have howner : ∀ r ∈ db.rooms, r.propertyId = property.id := by
    intro r hr
    have := hstore.roomProperty r.columns (List.mem_map_of_mem hr)
    simpa [hp, RoomRow.columns] using this
  refine ⟨hstore.property, ?_, ?_, ?_⟩
  · intro c hc
    rw [hcols, List.mem_append, List.mem_singleton] at hc
    rcases hc with hc | rfl
    · exact hstore.roomProperty c hc
    · change row.columns.2.1 ∈ db.propertyColumns.map Prod.fst
      simp [hp, RoomRow.columns, hrow]
  · rw [hcols, List.map_append, List.map_singleton]
    change Drawn base.uuid4 (db.drawn + 1) (_ ++ [row.id])
    rw [hid]
    exact hstore.roomIds.append hinj
  · rw [hcols, List.map_append, List.map_singleton, List.nodup_append]
    refine ⟨hstore.roomKeys, by simp, ?_⟩
    intro k hk k' hk' he
    obtain ⟨c, hc, rfl⟩ := List.mem_map.mp hk
    obtain ⟨r, hr, rfl⟩ := List.mem_map.mp hc
    rw [List.mem_singleton.mp hk'] at he
    exact hnew r hr ⟨howner r hr, he⟩

theorem setRoom_columns {db : Db H} {row stored : RoomRow} (hstore : RegistryStore base db)
    (hmem : stored ∈ db.rooms) (hcols : row.columns = stored.columns) :
    (db.setRoom row).roomColumns = db.roomColumns := by
  have hn : (db.rooms.map (·.id)).Nodup := by
    have := hstore.roomIds.nodup
    rwa [Db.roomColumns, List.map_map] at this
  exact KeyedTable.map_put hn hmem (congrArg Prod.fst hcols) hcols

theorem ensureRoom_session {property : PropertyRow} {room : Room} {row : RoomRow}
    {s s' : DbSession H} (hinj : base.uuid4.Injective) (hu : rt.uuid4 = base.uuid4)
    (h : ensureRoom rt property s room = .ok (row, s')) (hs : RegistrySession base s)
    (hp : s.live.propertyColumns = [(property.id, base.registry.property.key)]) :
    RegistrySession base s' ∧ s'.live.propertyColumns = s.live.propertyColumns ∧
      s.live.roomColumns <+: s'.live.roomColumns ∧
      row.columns = (row.id, property.id, room.key) ∧ row.columns ∈ s'.live.roomColumns ∧
      s.live.drawn ≤ s'.live.drawn := by
  obtain ⟨m, hm, hcases⟩ := ensureRoom_ok h
  obtain ⟨hms, hlive⟩ := hs.autoflushRooms hm
  rw [← hlive] at hp ⊢
  rw [select_room hms] at hcases
  rcases hcases with ⟨hnone, hrow, hflush⟩ | ⟨stored, hsome, hrow, rfl⟩
  · rw [flushRooms_ok hflush]
    have hnew : ∀ r ∈ m.live.rooms, ¬ (r.propertyId = property.id ∧ r.key = room.key) := by
      intro r hr hc
      have := List.filter_eq_nil_iff.mp (List.head?_eq_none_iff.mp hnone) r hr
      simp [hc.1, hc.2] at this
    have hstore : RegistryStore base (m.live.addRoom row) :=
      addRoom_store hinj hms.store hp (by rw [hrow, ← hu]; rfl) (by rw [hrow]; rfl)
        (by rw [hrow]; exact hnew)
    refine ⟨⟨.of_flush _ _, .of_flush _ _, hstore⟩, rfl, ?_, by rw [hrow]; rfl, ?_, Nat.le_succ _⟩
    · exact ⟨[row.columns], by simp [Db.roomColumns, Db.addRoom]⟩
    · simp [Db.roomColumns, Db.addRoom]
  · obtain ⟨hmem, hkey⟩ := List.mem_filter.mp (List.mem_of_mem_head? hsome)
    simp only [Bool.and_eq_true, decide_eq_true_eq] at hkey
    have hsame : row.columns = stored.columns := by rw [hrow]; rfl
    have hcols := setRoom_columns hms.store hmem hsame
    refine ⟨⟨⟨hms.properties.flushed, rfl⟩, ⟨hms.rooms.flushed.trans hcols.symm, rfl⟩, ?_⟩, rfl,
      ?_, ?_, ?_, Nat.le_refl _⟩
    · exact hms.store.of_columns rfl hcols (Nat.le_refl _)
    · change m.live.roomColumns <+: (m.live.setRoom row).roomColumns
      exact hcols.symm ▸ List.prefix_rfl
    · rw [hrow]
      simp [RoomRow.columns, RoomRow.configure, hkey.1, hkey.2]
    · change row.columns ∈ (m.live.setRoom row).roomColumns
      rw [hcols, hsame]
      exact List.mem_map_of_mem hmem

structure RowsStored (rows : RegistryRows) (db : Db H) : Prop where
  columns : ∀ e ∈ rows.entries, e.2.columns = (e.2.id, rows.property.id, e.1.key)
  stored : ∀ e ∈ rows.entries, e.2.columns ∈ db.roomColumns

theorem ensureRooms_session {property : PropertyRow} {rooms : List Room}
    {entries : List (Room × RoomRow)} {s s' : DbSession H} (hinj : base.uuid4.Injective)
    (hu : rt.uuid4 = base.uuid4) (h : ensureRooms rt property s rooms = .ok (entries, s'))
    (hs : RegistrySession base s)
    (hp : s.live.propertyColumns = [(property.id, base.registry.property.key)]) :
    RegistrySession base s' ∧ s'.live.propertyColumns = s.live.propertyColumns ∧
      s.live.roomColumns <+: s'.live.roomColumns ∧ RowsStored ⟨property, entries⟩ s'.live ∧
      entries.map Prod.fst = rooms ∧ s.live.drawn ≤ s'.live.drawn := by
  induction rooms generalizing s entries with
  | nil =>
      cases h
      exact ⟨hs, rfl, List.prefix_rfl, ⟨by simp, by simp⟩, rfl, Nat.le_refl _⟩
  | cons room rest ih =>
      obtain ⟨row, m, tail, hroom, hrest, rfl⟩ := ensureRooms_cons h
      obtain ⟨hm, hpm, hprefix, hcols, hmem, hdrawn⟩ := ensureRoom_session hinj hu hroom hs hp
      obtain ⟨ht, hpt, hprefix', hstored, hfst, hdrawn'⟩ := ih hrest hm (hpm.trans hp)
      refine ⟨ht, hpt.trans hpm, hprefix.trans hprefix', ⟨?_, ?_⟩, by simp [hfst],
        hdrawn.trans hdrawn'⟩
      · intro e he
        rcases List.mem_cons.mp he with rfl | he
        · exact hcols
        · exact hstored.columns e he
      · intro e he
        rcases List.mem_cons.mp he with rfl | he
        · exact hprefix'.subset hmem
        · exact hstored.stored e he

theorem ensureRegistry_session {s s' : DbSession H} {rows : RegistryRows}
    (hinj : base.uuid4.Injective) (hu : rt.uuid4 = base.uuid4)
    (hk : rt.registry.property.key = base.registry.property.key)
    (h : ensureRegistry rt s = .ok (rows, s')) (hs : RegistrySession base s) :
    RegistrySession base s' ∧
      s'.live.propertyColumns = [(rows.property.id, base.registry.property.key)] ∧
      s.live.propertyColumns ⊆ s'.live.propertyColumns ∧
      s.live.roomColumns <+: s'.live.roomColumns ∧ RowsStored rows s'.live ∧
      rows.entries.map Prod.fst = rt.registry.rooms ∧ s.live.drawn ≤ s'.live.drawn := by
  obtain ⟨t, hprop, hrooms, hflush⟩ := ensureRegistry_ok h
  obtain ⟨hm, hpm, hsub, hrm, hdrawn⟩ := ensureProperty_session hk hs
  rw [← hprop] at hpm
  obtain ⟨ht, hpt, hprefix, hstored, hfst, hdrawn'⟩ := ensureRooms_session hinj hu hrooms hm hpm
  rw [flushRooms_ok hflush]
  have hproperty : t.live.propertyColumns = [(rows.property.id, base.registry.property.key)] :=
    hpt.trans hpm
  refine ⟨ht.flush, hproperty, ?_, ?_, hstored, hfst, hdrawn.trans hdrawn'⟩
  · change s.live.propertyColumns ⊆ t.live.propertyColumns
    exact hpt ▸ hsub
  · change s.live.roomColumns <+: t.live.roomColumns
    exact hrm ▸ hprefix

theorem RegistryStore.column_unique {db : Db H} (h : RegistryStore base db)
    {c c' : UUID × UUID × String} (hc : c ∈ db.roomColumns) (hc' : c' ∈ db.roomColumns)
    (hid : c.1 = c'.1) : c = c' :=
  KeyedTable.eq_of_key h.roomIds.nodup hc hc' hid

theorem RowsStored.key_eq {db : Db H} {rows : RegistryRows} (h : RowsStored rows db)
    (hstore : RegistryStore base db) {e e' : Room × RoomRow} (he : e ∈ rows.entries)
    (he' : e' ∈ rows.entries) (hid : e.2.id = e'.2.id) : e.1.key = e'.1.key := by
  have hcol := hstore.column_unique (h.stored e he) (h.stored e' he') hid
  rw [h.columns e he, h.columns e' he'] at hcol
  simp only [Prod.mk.injEq] at hcol
  exact hcol.2.2

theorem RowsStored.domainRoomsById {db : Db H} {rows : RegistryRows} {registry : RoomRegistry}
    (h : RowsStored rows db) (hstore : RegistryStore base db)
    (hfst : rows.entries.map Prod.fst = registry.rooms) {e : Room × RoomRow}
    (he : e ∈ rows.entries) : rows.domainRoomsById e.2.id = some e.1 := by
  have hkeys : (rows.entries.map (·.1.key)).Nodup := by
    have := registry.uniqueRoomKeys
    rwa [← hfst, List.map_map] at this
  have hfind : rows.entries.find? (·.2.id = e.2.id) = some e := by
    rw [KeyedTable.find?_eq_some_of_unique]
    · exact ⟨he, decide_eq_true rfl⟩
    · intro x hx y hy hpx hpy
      have hid := (of_decide_eq_true hpx).trans (of_decide_eq_true hpy).symm
      exact KeyedTable.eq_of_key hkeys hx hy (h.key_eq hstore hx hy hid)
  simp [RegistryRows.domainRoomsById, hfind]

theorem RowsStored.column_of_domainRoom {db : Db H} {rows : RegistryRows} {roomId : UUID}
    {room : Room} (h : RowsStored rows db) (hr : rows.domainRoomsById roomId = some room) :
    (roomId, rows.property.id, room.key) ∈ db.roomColumns := by
  unfold RegistryRows.domainRoomsById at hr
  obtain ⟨e, he, rfl⟩ := Option.map_eq_some_iff.mp hr
  have hmem := List.mem_of_find?_eq_some he
  have hid : e.2.id = roomId := by simpa using List.find?_some he
  have := h.stored e hmem
  rwa [h.columns e hmem, hid] at this

def Db.RoomsApart (db : Db H) : Prop := PendingWrites.Apart (·.id) RoomRow.clashes db.rooms

theorem Db.RoomsApart.empty : (Db.empty H).RoomsApart := by
  intro x hx
  cases hx

theorem RoomRow.clashes_comm (x y : RoomRow) : x.clashes y = y.clashes x := by
  unfold RoomRow.clashes
  rw [Bool.eq_iff_iff]
  simp only [Bool.and_eq_true, Bool.or_eq_true, decide_eq_true_eq, Option.isSome_iff_ne_none]
  constructor <;>
  · rintro ⟨hproperty, hkey | ⟨hplaced, hsame⟩⟩
    · exact ⟨hproperty.symm, .inl hkey.symm⟩
    · exact ⟨hproperty.symm, .inr ⟨hsame ▸ hplaced, hsame.symm⟩⟩

theorem Db.map_room_id (db : Db H) : db.rooms.map (·.id) = db.roomColumns.map Prod.fst := by
  rw [Db.roomColumns, List.map_map]
  rfl

theorem flushRooms_eq_ok {s s' : DbSession H} :
    flushRooms s = .ok s' ↔ (∃ written, PendingWrites.write (·.id) RoomRow.clashes s.flushed.rooms
      s.live.rooms = some written) ∧ s' = s.flush := by
  unfold flushRooms
  split
  · next hnone => simp [hnone]
  · next written hsome => simp [hsome, eq_comm]

theorem flushRooms_apart {s s' : DbSession H} (h : flushRooms s = .ok s')
    (hcolumns : s.flushed.roomColumns <+: s.live.roomColumns)
    (hn : (s.live.roomColumns.map Prod.fst).Nodup) (hs : s.flushed.RoomsApart) :
    s'.flushed.RoomsApart := by
  obtain ⟨⟨written, hwritten⟩, rfl⟩ := flushRooms_eq_ok.mp h
  obtain rfl : written = s.live.rooms := by
    refine PendingWrites.write_eq ?_ ?_ hwritten
    · rw [Db.map_room_id, Db.map_room_id]
      exact hcolumns.map Prod.fst
    · rw [Db.map_room_id]
      exact hn
  exact PendingWrites.write_apart RoomRow.clashes_comm hs hwritten

theorem RegistrySession.autoflushRooms_apart {s m : DbSession H} (hs : RegistrySession base s)
    (h : ClockOrchestrator.autoflushRooms s = .ok m) (hapart : s.flushed.RoomsApart) :
    m.flushed.RoomsApart := by
  unfold ClockOrchestrator.autoflushRooms at h
  split at h
  · exact flushRooms_apart h (hs.rooms.flushed ▸ List.prefix_rfl) hs.store.roomIds.nodup hapart
  · cases h
    exact hapart

theorem ensureRoom_apart {property : PropertyRow} {room : Room} {row : RoomRow}
    {s s' : DbSession H} (hinj : base.uuid4.Injective) (hu : rt.uuid4 = base.uuid4)
    (h : ensureRoom rt property s room = .ok (row, s')) (hs : RegistrySession base s)
    (hp : s.live.propertyColumns = [(property.id, base.registry.property.key)])
    (hapart : s.flushed.RoomsApart) : s'.flushed.RoomsApart := by
  have hsession := (ensureRoom_session hinj hu h hs hp).1
  obtain ⟨m, hm, hcases⟩ := ensureRoom_ok h
  have hopened := hs.autoflushRooms_apart hm hapart
  rcases hcases with ⟨-, -, hflush⟩ | ⟨stored, -, -, rfl⟩
  · have hlive : s'.live = m.live.addRoom row := by
      rw [flushRooms_ok hflush]
      rfl
    refine flushRooms_apart hflush ?_ ?_ hopened
    · refine ⟨[row.columns], ?_⟩
      change m.flushed.roomColumns ++ [row.columns] = (m.live.addRoom row).roomColumns
      rw [(hs.autoflushRooms hm).1.rooms.flushed]
      simp [Db.roomColumns, Db.addRoom]
    · change ((m.live.addRoom row).roomColumns.map Prod.fst).Nodup
      rw [← hlive]
      exact hsession.store.roomIds.nodup
  · exact hopened

theorem ensureRooms_apart {property : PropertyRow} {rooms : List Room}
    {entries : List (Room × RoomRow)} {s s' : DbSession H} (hinj : base.uuid4.Injective)
    (hu : rt.uuid4 = base.uuid4) (h : ensureRooms rt property s rooms = .ok (entries, s'))
    (hs : RegistrySession base s)
    (hp : s.live.propertyColumns = [(property.id, base.registry.property.key)])
    (hapart : s.flushed.RoomsApart) : s'.flushed.RoomsApart := by
  induction rooms generalizing s entries with
  | nil =>
      cases h
      exact hapart
  | cons room rest ih =>
      obtain ⟨row, m, tail, hroom, hrest, rfl⟩ := ensureRooms_cons h
      obtain ⟨hm, hpm, -⟩ := ensureRoom_session hinj hu hroom hs hp
      exact ih hrest hm (hpm.trans hp) (ensureRoom_apart hinj hu hroom hs hp hapart)

variable (rt) in
theorem ensureProperty_rooms (db : Db H) :
    (ensureProperty rt (rt.session db)).2.Shows (·.rooms) db.rooms := by
  unfold ensureProperty
  split <;> exact ⟨rfl, rfl⟩

theorem ensureRegistry_apart {db : Db H} {s' : DbSession H} {rows : RegistryRows}
    (hinj : base.uuid4.Injective) (hu : rt.uuid4 = base.uuid4)
    (hk : rt.registry.property.key = base.registry.property.key)
    (h : ensureRegistry rt (rt.session db) = .ok (rows, s')) (hdb : RegistryStore base db)
    (hapart : db.RoomsApart) : s'.live.RoomsApart := by
  obtain ⟨t, hprop, hrooms, hflush⟩ := ensureRegistry_ok h
  obtain ⟨hm, hpm, -⟩ := ensureProperty_session hk (.of_start rt.autoflush hdb)
  change ((ensureProperty rt (rt.session db)).2.live.propertyColumns = _) at hpm
  have hstart : (ensureProperty rt (rt.session db)).2.flushed.RoomsApart := by
    unfold Db.RoomsApart
    rw [(ensureProperty_rooms rt db).flushed]
    exact hapart
  rw [hprop] at hrooms
  obtain ⟨ht, -⟩ := ensureRooms_session hinj hu hrooms hm hpm
  have hdone := flushRooms_apart hflush (ht.rooms.flushed ▸ List.prefix_rfl)
    ht.store.roomIds.nodup (ensureRooms_apart hinj hu hrooms hm hpm hstart)
  rw [flushRooms_ok hflush] at hdone ⊢
  exact hdone

theorem RegistryStore.uniqueRoomKeys {db : Db H} (h : RegistryStore base db) :
    (db.rooms.map fun row => (row.propertyId, row.key)).Nodup := by
  have hkeys : (db.rooms.map fun row => (row.propertyId, row.key)).map Prod.snd =
      db.roomColumns.map (·.2.2) := by
    simp [Db.roomColumns, RoomRow.columns]
  refine List.Nodup.of_map Prod.snd ?_
  rw [hkeys]
  exact h.roomKeys

theorem Db.RoomsApart.uniqueClockIds {db : Db H} (h : db.RoomsApart) (hdb : RegistryStore base db) :
    ∀ r ∈ db.rooms, ∀ r' ∈ db.rooms, r.propertyId = r'.propertyId →
      r.clockRoomId ≠ none → r.clockRoomId = r'.clockRoomId → r = r' := by
  intro r hr r' hr' hproperty hplaced hsame
  by_contra hne
  have hids : (db.rooms.map (·.id)).Nodup := by
    rw [Db.map_room_id]
    exact hdb.roomIds.nodup
  have hapart := h r hr r' hr' fun hid => hne (KeyedTable.eq_of_key hids hr hr' hid)
  unfold RoomRow.clashes at hapart
  simp [hproperty, ← hsame, hplaced] at hapart

end ClockOrchestrator
