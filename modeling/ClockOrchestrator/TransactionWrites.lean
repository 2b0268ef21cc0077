import ClockOrchestrator.RuntimeInvariants
import Mathlib.Logic.Relation

namespace ClockOrchestrator

open Python UnitOfWork KeyedTable Relation

variable {H : Type} {rt : AppRuntime H} {observedAt : Instant} {correlationId : UUID}
  {db db' db'' : Db H}

def Db.propertyIds (db : Db H) : List UUID := db.properties.map (·.id)

def Db.roomIds (db : Db H) : List UUID := db.rooms.map (·.id)

def Db.bookingIds (db : Db H) : List UUID := db.bookings.map (·.id)

section References

variable (db : Db H)

def RoomRow.Refers (row : RoomRow) : Prop := row.propertyId ∈ db.propertyIds

def BookingRow.Refers (row : BookingRow) : Prop := row.propertyId ∈ db.propertyIds

def AssignmentRow.Refers (row : AssignmentRow) : Prop :=
  row.bookingId ∈ db.bookingIds ∧ ∀ roomId ∈ row.roomId, roomId ∈ db.roomIds

def RoomStateRow.Refers (row : RoomStateRow H) : Prop :=
  row.roomId ∈ db.roomIds ∧ ∀ bookingId ∈ row.bookingId, bookingId ∈ db.bookingIds

def OverrideRow.Refers (row : OverrideRow) : Prop :=
  row.roomId ∈ db.roomIds ∧ ∀ bookingId ∈ row.bookingId, bookingId ∈ db.bookingIds

def SyncCursorRow.Refers (row : SyncCursorRow) : Prop := row.propertyId ∈ db.propertyIds

def SyncRunRow.Refers (row : SyncRunRow) : Prop := row.propertyId ∈ db.propertyIds

def AuditEvent.Refers (row : AuditEvent) : Prop :=
  row.propertyId ∈ db.propertyIds ∧ (∀ roomId ∈ row.roomId, roomId ∈ db.roomIds) ∧
    ∀ bookingId ∈ row.bookingId, bookingId ∈ db.bookingIds

end References

inductive TableWrite (rt : AppRuntime H) (observedAt : Instant) (correlationId : UUID) :
    Db H → Db H → Prop
  | draw (db : Db H) : TableWrite rt observedAt correlationId db db.draw
  | addProperty (db : Db H) {row : PropertyRow} (hid : row.id = rt.uuid4 db.drawn) :
      TableWrite rt observedAt correlationId db (db.addProperty row)
  | setProperty (db : Db H) (row : PropertyRow) :
      TableWrite rt observedAt correlationId db (db.setProperty row)
  | addRoom (db : Db H) {row : RoomRow} (hid : row.id = rt.uuid4 db.drawn) (hrow : row.Refers db) :
      TableWrite rt observedAt correlationId db (db.addRoom row)
  | setRoom (db : Db H) {row : RoomRow} (hrow : row.Refers db) :
      TableWrite rt observedAt correlationId db (db.setRoom row)
  | addBooking (db : Db H) {row : BookingRow} (hid : row.id = rt.uuid4 db.drawn)
      (hrow : row.Refers db) : TableWrite rt observedAt correlationId db (db.addBooking row)
  | setBooking (db : Db H) {row : BookingRow} (hrow : row.Refers db) :
      TableWrite rt observedAt correlationId db (db.setBooking row)
  | addAssignment (db : Db H) {row : AssignmentRow} (hid : row.id = rt.uuid4 db.drawn)
      (hrow : row.Refers db) : TableWrite rt observedAt correlationId db (db.addAssignment row)
  | setAssignment (db : Db H) {row : AssignmentRow} (hrow : row.Refers db) :
      TableWrite rt observedAt correlationId db (db.setAssignment row)
  | addRoomState (db : Db H) {row : RoomStateRow H} (hid : row.id = rt.uuid4 db.drawn)
      (hrow : row.Refers db) : TableWrite rt observedAt correlationId db (db.addRoomState row)
  | addOverride (db : Db H) {row : OverrideRow} (hid : row.id = rt.uuid4 db.drawn)
      (hrow : row.Refers db) (hcommand : row.commandId = rt.uuid4 (db.drawn + 1) ∨
        row.commandId = correlationId ∧ correlationId ∉ db.overrides.map (·.commandId)) :
      TableWrite rt observedAt correlationId db (db.addOverride row)
  | addSyncCursor (db : Db H) {row : SyncCursorRow} (hid : row.id = rt.uuid4 db.drawn)
      (hrow : row.Refers db) : TableWrite rt observedAt correlationId db (db.addSyncCursor row)
  | setSyncCursor (db : Db H) {row : SyncCursorRow} (hrow : row.Refers db) :
      TableWrite rt observedAt correlationId db (db.setSyncCursor row)
  | addSyncRun (db : Db H) {row : SyncRunRow} (hid : row.id = rt.uuid4 db.drawn)
      (hrow : row.Refers db) : TableWrite rt observedAt correlationId db (db.addSyncRun row)
  | setSyncRun (db : Db H) {row : SyncRunRow} (hrow : row.Refers db) :
      TableWrite rt observedAt correlationId db (db.setSyncRun row)
  | addOutbox (db : Db H) (topic : String) (payload : OutboxPayload) :
      TableWrite rt observedAt correlationId db
        (addOutboxEvent rt topic payload observedAt correlationId db)
  | addAudit (db : Db H) {propertyId : UUID} {roomId bookingId : Option UUID}
      (detail : AuditDetail) (hproperty : propertyId ∈ db.propertyIds)
      (hroom : ∀ id ∈ roomId, id ∈ db.roomIds) (hbooking : ∀ id ∈ bookingId, id ∈ db.bookingIds) :
      TableWrite rt observedAt correlationId db
        (addAuditEvent rt propertyId roomId bookingId detail observedAt correlationId db)

abbrev Writes (rt : AppRuntime H) (observedAt : Instant) (correlationId : UUID) :
    Db H → Db H → Prop :=
  ReflTransGen (TableWrite rt observedAt correlationId)

structure Extends (db db' : Db H) : Prop where
  properties : db.propertyIds <+: db'.propertyIds
  rooms : db.roomIds <+: db'.roomIds
  bookings : db.bookingIds <+: db'.bookingIds
  assignments : db.assignments.map (·.id) <+: db'.assignments.map (·.id)
  roomStates : db.roomStates <+: db'.roomStates
  overrides : db.overrides <+: db'.overrides
  syncCursors : db.syncCursors.map (·.id) <+: db'.syncCursors.map (·.id)
  syncRuns : db.syncRuns.map (·.id) <+: db'.syncRuns.map (·.id)
  outbox : db.outbox <+: db'.outbox
  audit : db.audit <+: db'.audit
  drawn : db.drawn ≤ db'.drawn

namespace Extends

theorem refl (db : Db H) : Extends db db := by
  constructor <;> simp

theorem trans (h : Extends db db') (h' : Extends db' db'') : Extends db db'' where
  properties := h.properties.trans h'.properties
  rooms := h.rooms.trans h'.rooms
  bookings := h.bookings.trans h'.bookings
  assignments := h.assignments.trans h'.assignments
  roomStates := h.roomStates.trans h'.roomStates
  overrides := h.overrides.trans h'.overrides
  syncCursors := h.syncCursors.trans h'.syncCursors
  syncRuns := h.syncRuns.trans h'.syncRuns
  outbox := h.outbox.trans h'.outbox
  audit := h.audit.trans h'.audit
  drawn := h.drawn.trans h'.drawn

end Extends

theorem TableWrite.extends (h : TableWrite rt observedAt correlationId db db') :
    Extends db db' := by
  cases h <;> constructor <;>
    simp [Db.propertyIds, Db.roomIds, Db.bookingIds, Db.draw, Db.addProperty, Db.setProperty,
      Db.addRoom, Db.setRoom, Db.addBooking, Db.setBooking, Db.addAssignment, Db.setAssignment,
      Db.addRoomState, Db.addOverride, Db.addSyncCursor, Db.setSyncCursor, Db.addSyncRun,
      Db.setSyncRun, addOutboxEvent, Db.addOutbox, addAuditEvent, Db.addAudit, map_key_put]

theorem Writes.extends (h : Writes rt observedAt correlationId db db') : Extends db db' := by
  induction h with
  | refl => exact .refl db
  | tail _ hwrite ih => exact ih.trans hwrite.extends

structure References (db ids : Db H) : Prop where
  rooms : ∀ row ∈ db.rooms, row.Refers ids
  bookings : ∀ row ∈ db.bookings, row.Refers ids
  assignments : ∀ row ∈ db.assignments, row.Refers ids
  roomStates : ∀ row ∈ db.roomStates, row.Refers ids
  overrides : ∀ row ∈ db.overrides, row.Refers ids
  syncCursors : ∀ row ∈ db.syncCursors, row.Refers ids
  syncRuns : ∀ row ∈ db.syncRuns, row.Refers ids
  audit : ∀ row ∈ db.audit, row.Refers ids

theorem References.empty : References (Db.empty H) (Db.empty H) := by
  constructor <;> simp [Db.empty]

theorem References.mono (h : References db db') (hext : Extends db' db'') : References db db'' := by
  have hproperties := hext.properties.subset
  have hrooms := hext.rooms.subset
  have hbookings := hext.bookings.subset
  constructor
  · exact fun row hrow => hproperties (h.rooms row hrow)
  · exact fun row hrow => hproperties (h.bookings row hrow)
  · intro row hrow
    obtain ⟨hbooking, hroom⟩ := h.assignments row hrow
    exact ⟨hbookings hbooking, fun roomId hroomId => hrooms (hroom roomId hroomId)⟩
  · intro row hrow
    obtain ⟨hroom, hbooking⟩ := h.roomStates row hrow
    exact ⟨hrooms hroom, fun bookingId hbookingId => hbookings (hbooking bookingId hbookingId)⟩
  · intro row hrow
    obtain ⟨hroom, hbooking⟩ := h.overrides row hrow
    exact ⟨hrooms hroom, fun bookingId hbookingId => hbookings (hbooking bookingId hbookingId)⟩
  · exact fun row hrow => hproperties (h.syncCursors row hrow)
  · exact fun row hrow => hproperties (h.syncRuns row hrow)
  · intro row hrow
    obtain ⟨hproperty, hroom, hbooking⟩ := h.audit row hrow
    exact ⟨hproperties hproperty, fun roomId hroomId => hrooms (hroom roomId hroomId),
      fun bookingId hbookingId => hbookings (hbooking bookingId hbookingId)⟩

theorem TableWrite.references (h : TableWrite rt observedAt correlationId db db')
    (hdb : References db db) : References db' db' := by
  have hold := hdb.mono h.extends
  have hnew : ∀ {ρ : Type} {rows : List ρ} {row : ρ} {P : ρ → Prop}, (∀ r ∈ rows, P r) → P row →
      ∀ r ∈ rows ++ [row], P r := by
    intro ρ rows row P hrows hrow
    exact List.forall_mem_append.mpr ⟨hrows, List.forall_mem_singleton.mpr hrow⟩
  obtain ⟨hrooms, hbookings, hassignments, hstates, hoverrides, hcursors, hruns, haudit⟩ := hold
  cases h with
  | draw | addProperty | setProperty | addOutbox =>
      exact ⟨hrooms, hbookings, hassignments, hstates, hoverrides, hcursors, hruns, haudit⟩
  | addRoom hid hrow =>
      exact ⟨hnew hrooms hrow, hbookings, hassignments, hstates, hoverrides, hcursors, hruns, haudit⟩
  | setRoom hrow =>
      exact ⟨forall_mem_put hrooms hrow, hbookings, hassignments, hstates, hoverrides, hcursors,
        hruns, haudit⟩
  | addBooking hid hrow =>
      exact ⟨hrooms, hnew hbookings hrow, hassignments, hstates, hoverrides, hcursors, hruns, haudit⟩
  | setBooking hrow =>
      exact ⟨hrooms, forall_mem_put hbookings hrow, hassignments, hstates, hoverrides, hcursors,
        hruns, haudit⟩
  | addAssignment hid hrow =>
      exact ⟨hrooms, hbookings, hnew hassignments hrow, hstates, hoverrides, hcursors, hruns, haudit⟩
  | setAssignment hrow =>
      exact ⟨hrooms, hbookings, forall_mem_put hassignments hrow, hstates, hoverrides, hcursors,
        hruns, haudit⟩
  | addRoomState hid hrow =>
      exact ⟨hrooms, hbookings, hassignments, hnew hstates hrow, hoverrides, hcursors, hruns, haudit⟩
  | addOverride hid hrow hcommand =>
      exact ⟨hrooms, hbookings, hassignments, hstates, hnew hoverrides hrow, hcursors, hruns, haudit⟩
  | addSyncCursor hid hrow =>
      exact ⟨hrooms, hbookings, hassignments, hstates, hoverrides, hnew hcursors hrow, hruns, haudit⟩
  | setSyncCursor hrow =>
      exact ⟨hrooms, hbookings, hassignments, hstates, hoverrides, forall_mem_put hcursors hrow,
        hruns, haudit⟩
  | addSyncRun hid hrow =>
      exact ⟨hrooms, hbookings, hassignments, hstates, hoverrides, hcursors, hnew hruns hrow, haudit⟩
  | setSyncRun hrow =>
      exact ⟨hrooms, hbookings, hassignments, hstates, hoverrides, hcursors,
        forall_mem_put hruns hrow, haudit⟩
  | addAudit detail hproperty hroom hbooking =>
      exact ⟨hrooms, hbookings, hassignments, hstates, hoverrides, hcursors, hruns,
        hnew haudit ⟨hproperty, hroom, hbooking⟩⟩

theorem Writes.references (h : Writes rt observedAt correlationId db db') (hdb : References db db) :
    References db' db' := by
  induction h with
  | refl => exact hdb
  | tail _ hwrite ih => exact hwrite.references ih

def Enqueued (rt : AppRuntime H) (observedAt : Instant) (correlationId : UUID)
    (event : OutboxEvent) : Prop :=
  ∃ (db : Db H) (topic : String) (payload : OutboxPayload),
    event = outboxEvent rt db topic payload observedAt correlationId

theorem TableWrite.logs (h : TableWrite rt observedAt correlationId db db') :
    (∀ event ∈ db'.outbox, event ∈ db.outbox ∨ Enqueued rt observedAt correlationId event) ∧
      ∀ event ∈ db'.audit, event ∈ db.audit ∨
        event.createdAt = observedAt ∧ event.correlationId = correlationId := by
  cases h with
  | addOutbox topic payload =>
      refine ⟨?_, fun event hevent => .inl hevent⟩
      refine List.forall_mem_append.mpr ⟨fun event hevent => .inl hevent, ?_⟩
      exact List.forall_mem_singleton.mpr (.inr ⟨db, topic, payload, rfl⟩)
  | addAudit =>
      refine ⟨fun event hevent => .inl hevent, ?_⟩
      refine List.forall_mem_append.mpr ⟨fun event hevent => .inl hevent, ?_⟩
      exact List.forall_mem_singleton.mpr (.inr ⟨rfl, rfl⟩)
  | _ => exact ⟨fun event hevent => .inl hevent, fun event hevent => .inl hevent⟩

theorem Writes.logs (h : Writes rt observedAt correlationId db db') :
    (∀ event ∈ db'.outbox, event ∈ db.outbox ∨ Enqueued rt observedAt correlationId event) ∧
      ∀ event ∈ db'.audit, event ∈ db.audit ∨
        event.createdAt = observedAt ∧ event.correlationId = correlationId := by
  induction h with
  | refl => exact ⟨fun event hevent => .inl hevent, fun event hevent => .inl hevent⟩
  | tail _ hwrite ih =>
      obtain ⟨houtbox, haudit⟩ := hwrite.logs
      exact ⟨fun event hevent => (houtbox event hevent).elim (ih.1 event) .inr,
        fun event hevent => (haudit event hevent).elim (ih.2 event) .inr⟩

structure RegistryRows.StoredIn (rows : RegistryRows) (db : Db H) : Prop where
  property : rows.property.id ∈ db.propertyIds
  entries : ∀ e ∈ rows.entries, e.2.id ∈ db.roomIds

theorem RegistryRows.StoredIn.mono {rows : RegistryRows} (h : rows.StoredIn db)
    (hext : Extends db db') : rows.StoredIn db' :=
  ⟨hext.properties.subset h.property, fun e he => hext.rooms.subset (h.entries e he)⟩

section Registry

variable {s s' : DbSession H}

variable (rt observedAt correlationId) in
theorem ensureProperty_writes (s : DbSession H) :
    Writes rt observedAt correlationId s.live (ensureProperty rt s).2.live ∧
      (ensureProperty rt s).1.id ∈ (ensureProperty rt s).2.live.propertyIds := by
  unfold ensureProperty
  split
  · refine ⟨.single (.addProperty _ rfl), ?_⟩
    simp [Db.propertyIds, Db.addProperty]
  · next stored hstored =>
      refine ⟨.single (.setProperty _ _), ?_⟩
      simp only [Session.live_modify, Db.propertyIds, Db.setProperty, map_key_put]
      exact List.mem_map_of_mem (Session.mem_of_select (List.mem_of_mem_head? hstored))

theorem autoflushRooms_live {m : DbSession H} (h : autoflushRooms s = .ok m) :
    m.live = s.live := by
  rcases autoflushRooms_ok h with rfl | rfl <;> rfl

variable (rt observedAt correlationId) in
theorem ensureRoom_writes {property : PropertyRow} {room : Room} {row : RoomRow}
    (h : ensureRoom rt property s room = .ok (row, s')) (hs : References s.live s.live)
    (hproperty : property.id ∈ s.live.propertyIds) :
    Writes rt observedAt correlationId s.live s'.live ∧ row.id ∈ s'.live.roomIds := by
  obtain ⟨m, hm, hcases⟩ := ensureRoom_ok h
  rw [← autoflushRooms_live hm] at hs hproperty ⊢
  rcases hcases with ⟨-, hrow, hflush⟩ | ⟨stored, hstored, hrow, rfl⟩
  · rw [flushRooms_ok hflush]
    refine ⟨.single (.addRoom _ (by rw [hrow]; rfl) (by rw [hrow]; exact hproperty)), ?_⟩
    simp [Db.roomIds, Db.addRoom]
  · have hmem := Session.mem_of_select (List.mem_of_mem_head? hstored)
    refine ⟨.single (.setRoom _ (by rw [hrow]; exact hs.rooms stored hmem)), ?_⟩
    have hid : row.id = stored.id := by rw [hrow]; rfl
    simp only [Session.live_modify, Db.roomIds, Db.setRoom, map_key_put, hid]
    exact List.mem_map_of_mem hmem

variable (rt observedAt correlationId) in
theorem ensureCommandRoom_writes {property : PropertyRow} {room : Room} {row : RoomRow}
    (h : ensureCommandRoom rt property s room = .ok (row, s')) (hs : References s.live s.live)
    (hproperty : property.id ∈ s.live.propertyIds) :
    Writes rt observedAt correlationId s.live s'.live ∧ row.id ∈ s'.live.roomIds := by
  obtain ⟨t, hroom, hflush⟩ := ensureCommandRoom_ok h
  have hwrites := ensureRoom_writes rt observedAt correlationId hroom hs hproperty
  rw [flushRooms_ok hflush]
  exact hwrites

theorem ensureRooms_writes {property : PropertyRow} {rooms : List Room}
    {entries : List (Room × RoomRow)} (h : ensureRooms rt property s rooms = .ok (entries, s'))
    (hs : References s.live s.live) (hproperty : property.id ∈ s.live.propertyIds) :
    Writes rt observedAt correlationId s.live s'.live ∧
      RegistryRows.StoredIn ⟨property, entries⟩ s'.live := by
  induction rooms generalizing s entries with
  | nil =>
      cases h
      exact ⟨.refl, hproperty, by simp⟩
  | cons room rest ih =>
      obtain ⟨row, m, tail, hroom, hrest, rfl⟩ := ensureRooms_cons h
      obtain ⟨hwrites, hrow⟩ := ensureRoom_writes rt observedAt correlationId hroom hs hproperty
      obtain ⟨hwrites', hstored⟩ := ih hrest (hwrites.references hs)
        (hwrites.extends.properties.subset hproperty)
      refine ⟨hwrites.trans hwrites', hstored.property, List.forall_mem_cons.mpr ⟨?_, ?_⟩⟩
      · exact hwrites'.extends.rooms.subset hrow
      · exact hstored.entries

variable (rt observedAt correlationId) in
theorem ensureRegistry_writes {rows : RegistryRows} (h : ensureRegistry rt s = .ok (rows, s'))
    (hs : References s.live s.live) :
    Writes rt observedAt correlationId s.live s'.live ∧ rows.StoredIn s'.live := by
  obtain ⟨t, hproperty, hrooms, hflush⟩ := ensureRegistry_ok h
  obtain ⟨hwrites, hstored⟩ := ensureProperty_writes rt observedAt correlationId s
  rw [← hproperty] at hstored
  obtain ⟨hwrites', hrows⟩ := ensureRooms_writes hrooms (hwrites.references hs) hstored
  rw [flushRooms_ok hflush]
  exact ⟨hwrites.trans hwrites', hrows⟩

end Registry

section Bookings

variable {s s' : DbSession H} {rows : RegistryRows} {booking : BookingRow} {b : NormalizedBooking}

theorem RegistryRows.StoredIn.resolved (h : rows.StoredIn db) {room : RoomRow}
    (hroom : resolveRoom rows b = some room) : room.id ∈ db.roomIds := by
  have hfound : ∀ {p : Room × RoomRow → Bool}, (rows.entries.find? p).map Prod.snd = some room →
      room.id ∈ db.roomIds := by
    intro p hp
    obtain ⟨e, he, rfl⟩ := Option.map_eq_some_iff.mp hp
    exact h.entries e (List.mem_of_find?_eq_some he)
  unfold resolveRoom at hroom
  split at hroom
  · next found hclock =>
      cases hroom
      split at hclock
      · obtain ⟨clockRoomId, -, hclock⟩ := Option.bind_eq_some_iff.mp hclock
        exact hfound hclock
      · cases hclock
  · split at hroom
    · obtain ⟨number, -, hnumber⟩ := Option.bind_eq_some_iff.mp hroom
      exact hfound hnumber
    · cases hroom

variable (rt observedAt correlationId b) in
theorem upsertBooking_writes_row {property : PropertyRow} (hs : References s.live s.live)
    (hproperty : property.id ∈ s.live.propertyIds) :
    Writes rt observedAt correlationId s.live (upsertBooking rt property s b observedAt).2.2.live ∧
      (upsertBooking rt property s b observedAt).1.id ∈
        (upsertBooking rt property s b observedAt).2.2.live.bookingIds := by
  unfold upsertBooking
  split
  · refine ⟨.single (.addBooking _ rfl hproperty), ?_⟩
    simp [Db.bookingIds, Db.addBooking]
  · next stored hstored =>
      have hmem := Session.mem_of_select (List.mem_of_mem_head? hstored)
      refine ⟨.single (.setBooking _ (hs.bookings stored hmem)), ?_⟩
      have hid : stored.id ∈ s.live.bookingIds := List.mem_map_of_mem hmem
      simp only [Session.live_flush, Session.live_modify, Db.bookingIds, Db.setBooking, map_key_put]
      exact hid

variable (rt observedAt correlationId) in
theorem endCurrent_writes {current : Option AssignmentRow} (hs : References s.live s.live)
    (hcurrent : ∀ a ∈ current, a ∈ s.live.assignments) :
    Writes rt observedAt correlationId s.live (endCurrent s current observedAt).live := by
  cases current with
  | none => exact .refl
  | some a => exact .single (.setAssignment _ (hs.assignments a (hcurrent a rfl)))

theorem auditNewAssignment_writes (hrows : rows.StoredIn s.live)
    (hbooking : booking.id ∈ s.live.bookingIds) {room : Option RoomRow}
    (hroom : ∀ r ∈ room, r.id ∈ s.live.roomIds) :
    Writes rt observedAt correlationId s.live
      (auditNewAssignment rt rows booking b room observedAt correlationId s).live := by
  have hnamed : ∀ id ∈ room.map (·.id), id ∈ s.live.roomIds := by
    intro id hid
    obtain ⟨r, hr, rfl⟩ := Option.map_eq_some_iff.mp hid
    exact hroom r hr
  have hbookings : ∀ id ∈ some booking.id, id ∈ s.live.bookingIds := by
    rintro id ⟨⟩
    exact hbooking
  have hfirst : TableWrite rt observedAt correlationId s.live _ :=
    .addAudit s.live (.assignmentChanged booking.clockBookingId b.physicalRoomId
      b.physicalRoomNumber (room.map (·.key))) hrows.property hnamed hbookings
  unfold auditNewAssignment
  dsimp only
  split
  · exact (ReflTransGen.single hfirst).tail (.addAudit _ _ hrows.property (by simp) hbookings)
  · exact .single hfirst

theorem replaceAssignment_writes (hs : References s.live s.live) (hrows : rows.StoredIn s.live)
    (hbooking : booking.id ∈ s.live.bookingIds) {current : Option AssignmentRow}
    (hcurrent : ∀ a ∈ current, a ∈ s.live.assignments) {room : Option RoomRow}
    (hroom : ∀ r ∈ room, r.id ∈ s.live.roomIds) :
    Writes rt observedAt correlationId s.live
      (replaceAssignment rt rows s booking b current room observedAt correlationId).2.live := by
  have hended := endCurrent_writes rt observedAt correlationId hs hcurrent
  have hext := hended.extends
  let t := (endCurrent s current observedAt).modify fun db =>
    db.addAssignment (newAssignmentRow rt db booking b room observedAt)
  have hadded : TableWrite rt observedAt correlationId (endCurrent s current observedAt).live
      t.live := by
    refine .addAssignment _ rfl ⟨hext.bookings.subset hbooking, fun id hid => ?_⟩
    obtain ⟨r, hr, rfl⟩ := Option.map_eq_some_iff.mp hid
    exact hext.rooms.subset (hroom r hr)
  have hext' := hext.trans hadded.extends
  exact (hended.tail hadded).trans (auditNewAssignment_writes (s := t) (hrows.mono hext')
    (hext'.bookings.subset hbooking) fun r hr => hext'.rooms.subset (hroom r hr))

variable (rt observedAt correlationId b) in
theorem syncAssignment_writes (hs : References s.live s.live) (hrows : rows.StoredIn s.live)
    (hbooking : booking.id ∈ s.live.bookingIds) :
    Writes rt observedAt correlationId s.live
      (syncAssignment rt rows s booking b observedAt correlationId).2.live := by
  have hroom : ∀ r ∈ resolveRoom rows b, r.id ∈ s.live.roomIds := fun r hr => hrows.resolved hr
  unfold syncAssignment
  dsimp only
  split
  · exact .refl
  · next current hnone hcurrent =>
      have hmem := Session.mem_of_select (List.mem_of_mem_head? hcurrent)
      have hrow := hs.assignments current hmem
      have hended : TableWrite rt observedAt correlationId s.live
          (s.live.setAssignment (endAssignment current observedAt)) := .setAssignment _ hrow
      refine (ReflTransGen.single hended).tail (.addAudit _ _ ?_ ?_ ?_)
      · exact hrows.property
      · exact hrow.2
      · rintro id ⟨⟩
        exact hbooking
  · next identity current hidentity hcurrent =>
      have hmem := Session.mem_of_select (List.mem_of_mem_head? hcurrent)
      split
      · unfold keepAssignment
        split
        · refine .single (.setAssignment _ ⟨(hs.assignments current hmem).1, fun id hid => ?_⟩)
          obtain ⟨r, hr, rfl⟩ := Option.map_eq_some_iff.mp hid
          exact hroom r hr
        · exact .refl
      · refine replaceAssignment_writes hs hrows hbooking ?_ hroom
        rintro a ⟨⟩
        exact hmem
  · exact replaceAssignment_writes hs hrows hbooking (by simp) hroom

theorem processBooking_writes {p p' : SyncProgress H}
    (h : processBooking rt rows observedAt correlationId p b = .ok p')
    (hs : References p.session.live p.session.live) (hrows : rows.StoredIn p.session.live) :
    Writes rt observedAt correlationId p.session.live p'.session.live := by
  obtain ⟨hupsert, hbooking⟩ :=
    upsertBooking_writes_row rt observedAt correlationId b hs hrows.property
  unfold processBooking at h
  obtain ⟨_, -, h⟩ := bind_ok h
  generalize upsertBooking rt rows.property p.session b observedAt = upserted at h hupsert hbooking
  obtain ⟨row, changed, m⟩ := upserted
  dsimp only at h hupsert hbooking
  have hassign := syncAssignment_writes rt observedAt correlationId b (hupsert.references hs)
    (hrows.mono hupsert.extends) hbooking
  generalize syncAssignment rt rows m row b observedAt correlationId = assigned at h hassign
  obtain ⟨change, t⟩ := assigned
  dsimp only at h hassign
  obtain ⟨out, haudit, h⟩ := bind_ok h
  cases h
  have hext := hupsert.extends.trans hassign.extends
  refine (hupsert.trans hassign).trans ?_
  unfold auditIfWithoutRoom auditUnassignedIfNeeded at haudit
  split at haudit
  · cases haudit
    exact .refl
  · obtain ⟨evaluation, -, haudit⟩ := bind_ok haudit
    split at haudit
    · cases haudit
      exact .refl
    · cases haudit
      refine .single (.addAudit _ _ (hrows.mono hext).property (by simp) ?_)
      rintro id ⟨⟩
      exact hassign.extends.bookings.subset hbooking

theorem processBookings_writes {bookings : List NormalizedBooking} {p p' : SyncProgress H}
    (h : bookings.foldlM (processBooking rt rows observedAt correlationId) p = .ok p')
    (hs : References p.session.live p.session.live) (hrows : rows.StoredIn p.session.live) :
    Writes rt observedAt correlationId p.session.live p'.session.live := by
  refine foldlM_invariant (I := fun q : SyncProgress H =>
    Writes rt observedAt correlationId p.session.live q.session.live) ?_ h .refl
  intro b _ q q' hstep hq
  exact hq.trans (processBooking_writes hstep (hq.references hs) (hrows.mono hq.extends))

end Bookings

section Rooms

variable {s s' : DbSession H} {rows : RegistryRows} {loaded : LoadedBookings} {d : RoomDecision H}

theorem outbox_writes (s : DbSession H) (topic : String) (payload : OutboxPayload) :
    Writes rt observedAt correlationId s.live
      (s.modify (addOutboxEvent rt topic payload observedAt correlationId)).live :=
  .single (.addOutbox _ topic payload)

variable (rt observedAt correlationId) in
theorem controlEvent_writes (room : Room) (control : Option ControlPayload) (s : DbSession H) :
    Writes rt observedAt correlationId s.live
      (controlEvent rt room control observedAt correlationId s).live := by
  cases control with
  | none => exact .refl
  | some payload => exact outbox_writes s _ _

variable (rt observedAt correlationId) in
theorem intentEvent_writes (room : Room) (intent : Option DesiredRoomIntent) (s : DbSession H) :
    Writes rt observedAt correlationId s.live
      (intentEvent rt room intent observedAt correlationId s).live := by
  cases intent with
  | none => exact .refl
  | some intent => exact outbox_writes s _ _

variable (rt observedAt correlationId) in
theorem addSchedulerOverride_writes {roomId : UUID} (hroom : roomId ∈ db.roomIds) :
    Writes rt observedAt correlationId db (addSchedulerOverride rt roomId observedAt db) := by
  have hadded : TableWrite rt observedAt correlationId db (db.addOverride (schedulerOverrideRow
      (rt.uuid4 db.drawn) roomId (rt.uuid4 (db.drawn + 1)) observedAt)) :=
    .addOverride db rfl ⟨hroom, by simp [schedulerOverrideRow]⟩ (.inl rfl)
  exact (ReflTransGen.single hadded).tail (.draw _)

variable (rt observedAt correlationId) in
theorem endInactiveOverrideIfNeeded_writes (hrows : rows.StoredIn s.live) {roomId : UUID}
    (hroom : roomId ∈ s.live.roomIds) (roomKey : String) (latestOverride : Option OverrideRow)
    (state : RoomStateEvaluation) :
    Writes rt observedAt correlationId s.live (endInactiveOverrideIfNeeded rt rows s roomId roomKey
      latestOverride state observedAt correlationId).2.live := by
  rcases endInactiveOverrideIfNeeded_cases rt rows observedAt correlationId s roomId roomKey
    latestOverride state with hsame | ⟨row, -, -, -, hended⟩
  · rw [hsame]
  · rw [hended]
    have hadded := addSchedulerOverride_writes rt observedAt correlationId hroom
    refine hadded.tail (.addAudit _ _ ?_ ?_ (by simp))
    · exact hadded.extends.properties.subset hrows.property
    · rintro id ⟨⟩
      exact hadded.extends.rooms.subset hroom

def LoadedBookings.StoredIn (loaded : LoadedBookings) (db : Db H) : Prop :=
  ∀ clockBookingId, ∀ id ∈ loaded.idsByClockBookingId clockBookingId, id ∈ db.bookingIds

theorem loadNormalizedBookings_storedIn (s : DbSession H) (property : PropertyRow) :
    (loadNormalizedBookings s property).StoredIn s.live := by
  intro clockBookingId id hid
  obtain ⟨row, hrow, rfl⟩ := Option.map_eq_some_iff.mp hid
  exact List.mem_map_of_mem (Session.mem_of_select (List.mem_of_find?_eq_some hrow))

theorem attentionAudit_writes (hrows : rows.StoredIn s.live) (hroom : d.roomId ∈ s.live.roomIds)
    {bookingId : Option UUID} (hbooking : ∀ id ∈ bookingId, id ∈ s.live.bookingIds) :
    Writes rt observedAt correlationId s.live
      (attentionAudit rt rows d bookingId observedAt correlationId s).live := by
  unfold attentionAudit
  split
  · refine .single (.addAudit _ _ hrows.property ?_ hbooking)
    rintro id ⟨⟩
    exact hroom
  · exact .refl

theorem publishDecision_writes (hrows : rows.StoredIn s.live) (hroom : d.roomId ∈ s.live.roomIds)
    (hloaded : loaded.StoredIn s.live) (control : Option ControlPayload) :
    Writes rt observedAt correlationId s.live
      (publishDecision rt rows loaded d control observedAt correlationId s).live := by
  let bookingId := d.state.booking.bind fun b => loaded.idsByClockBookingId b.clockBookingId
  let t := s.modify fun db =>
    db.addRoomState (roomStateRow rt d bookingId (persistedIntentVersion d) observedAt db)
  have hbooking : ∀ id ∈ bookingId, id ∈ s.live.bookingIds := by
    intro id hid
    obtain ⟨b, -, hid⟩ := Option.bind_eq_some_iff.mp hid
    exact hloaded b.clockBookingId id hid
  have hstate : TableWrite rt observedAt correlationId s.live t.live :=
    .addRoomState _ rfl ⟨hroom, hbooking⟩
  have hpms := (ReflTransGen.single hstate).trans (outbox_writes t
    (rt.topics.roomPmsState d.room.key) (.pms (pmsStatePayload rt.zone d.state correlationId)))
  have hintent := hpms.trans (intentEvent_writes rt observedAt correlationId d.room
    (d.intent.map fun i => { i with intentVersion := persistedIntentVersion d }) _)
  have hcontrol := hintent.trans (controlEvent_writes rt observedAt correlationId d.room control _)
  have hext := Writes.extends hcontrol
  exact hcontrol.trans (attentionAudit_writes (hrows.mono hext) (hext.rooms.subset hroom)
    fun id hid => hext.bookings.subset (hbooking id hid))

variable [DecidableEq H]

theorem applyDecision_writes (hrows : rows.StoredIn s.live) (hroom : d.roomId ∈ s.live.roomIds)
    (hloaded : loaded.StoredIn s.live) :
    Writes rt observedAt correlationId s.live
      (applyDecision rt rows loaded d observedAt correlationId s).2.2.live := by
  have hended := endInactiveOverrideIfNeeded_writes rt observedAt correlationId hrows hroom
    d.room.key d.latestOverride d.state
  have hext := hended.extends
  unfold applyDecision
  dsimp only
  split
  · exact hended.trans (controlEvent_writes rt observedAt correlationId _ _ _)
  · exact hended.trans (publishDecision_writes (hrows.mono hext) (hext.rooms.subset hroom)
      (fun c id hid => hext.bookings.subset (hloaded c id hid)) _)

theorem recalculateRooms_writes {roomIds : List UUID}
    {out : Option LoadedBookings × Recalculation H}
    (h : recalculateRooms rt rows s roomIds observedAt correlationId = .ok out)
    (hrows : rows.StoredIn s.live) :
    Writes rt observedAt correlationId s.live out.2.session.live := by
  rcases recalculateRooms_ok h with ⟨-, rfl⟩ | ⟨-, -, hrun⟩
  · exact .refl
  · refine foldlM_invariant (I := fun r : Recalculation H =>
      Writes rt observedAt correlationId s.live r.session.live) ?_ hrun .refl
    intro roomId _ r r' hstep hr
    rcases recalculateRoom_cases hstep with rfl | ⟨d, hid, hroom, -, -, hsession⟩
    · exact hr
    · obtain ⟨e, he, -⟩ := Option.map_eq_some_iff.mp hroom
      have hentry := hrows.entries e (List.mem_of_find?_eq_some he)
      have hfound : e.2.id = roomId := by simpa using List.find?_some he
      have hext := hr.extends
      rw [hsession]
      refine hr.trans (applyDecision_writes (hrows.mono hext) ?_ ?_)
      · rw [hid, ← hfound]
        exact hext.rooms.subset hentry
      · intro c id hid
        exact hext.bookings.subset (loadNormalizedBookings_storedIn s rows.property c id hid)

end Rooms

section Transactions

variable {command : RoomCommand} {out : Outcome H}

theorem currentBookingBoundary_stored {policy : HotelPolicy} {s : DbSession H} {roomId : UUID}
    {now : Instant} {found : BookingBoundary}
    (h : currentBookingBoundary policy s roomId now = .ok (some found)) :
    found.bookingId ∈ s.live.bookingIds := by
  unfold currentBookingBoundary at h
  split at h
  · cases h
  · next booking hbooking =>
      obtain ⟨checkout, -, h⟩ := bind_ok h
      have hstored : booking ∈ s.live.bookings := by
        unfold boundaryBooking at hbooking
        obtain ⟨latest, -, hbooking⟩ := Option.bind_eq_some_iff.mp hbooking
        obtain ⟨bookingId, -, hbooking⟩ := Option.bind_eq_some_iff.mp hbooking
        obtain ⟨_, -, hbooking⟩ := Option.bind_eq_some_iff.mp hbooking
        exact List.mem_of_find?_eq_some hbooking
      split at h
      · cases h
        exact List.mem_map_of_mem hstored
      · cases h

theorem buildOverrideRow_refers {policy : HotelPolicy} {s : DbSession H} {latest : Option OverrideRow}
    {roomId rowId commandId : UUID} {field : String} {payload : ByteArray} {now : Instant}
    {row : OverrideRow}
    (h : buildOverrideRow policy.automation latest (currentBookingBoundary policy s roomId now)
      roomId rowId commandId field payload now = .ok row) (hroom : roomId ∈ s.live.roomIds) :
    row.id = rowId ∧ row.commandId = commandId ∧ row.Refers s.live := by
  obtain ⟨text, draft, bound, -, -, hbound, rfl⟩ := buildOverrideRow_ok h
  refine ⟨rfl, rfl, hroom, fun id hid => ?_⟩
  obtain ⟨found, rfl, rfl⟩ := Option.map_eq_some_iff.mp hid
  rcases overrideBoundary_ok hbound with ⟨-, hnone⟩ | ⟨-, -, current, hcurrent, hsome⟩
  · cases hnone
  · cases hsome
    exact currentBookingBoundary_stored hcurrent

theorem acceptCommand_writes {property : PropertyRow} {room : Room} {row : OverrideRow}
    {s : DbSession H} {now : Instant} (hproperty : property.id ∈ s.live.propertyIds)
    (hid : row.id = rt.uuid4 s.live.drawn) (hrow : row.Refers s.live)
    (hcommand : row.commandId = command.correlationId)
    (hfresh : command.correlationId ∉ s.live.overrides.map (·.commandId)) :
    Writes rt now command.correlationId s.live
      (acceptCommand rt property room row command now s).live := by
  have hadded : TableWrite rt now command.correlationId s.live (s.live.addOverride row) :=
    .addOverride _ hid hrow (.inr ⟨hcommand, hfresh⟩)
  have hevent := (ReflTransGen.single hadded).tail (.addOutbox _
    (rt.topics.roomControlState room.key)
    (.control (controlStatePayloadFromOverride room.key (some row) now none)))
  refine hevent.tail (.addAudit _ _ hproperty ?_ (by simp))
  rintro id ⟨⟩
  exact hrow.1

theorem applyMqttCommand_writes {result : CommandProcessingResult × DbSession H}
    (h : applyMqttCommand rt (rt.session db) command = .ok result) (hdb : References db db) :
    Writes rt (command.now.toUtc rt.zone) command.correlationId db result.2.live := by
  obtain ⟨hopened, hproperty⟩ := ensureProperty_writes rt (command.now.toUtc rt.zone)
    command.correlationId (rt.session db)
  unfold applyMqttCommand at h
  obtain ⟨now, hnow, h⟩ := bind_ok h
  obtain rfl := Datetime.checkedUtc_ok hnow
  generalize ensureProperty rt (rt.session db) = opened at h hopened hproperty
  obtain ⟨property, s⟩ := opened
  dsimp only at h hopened hproperty
  split at h
  · cases h
    exact hopened.tail (.addAudit _ _ hproperty (by simp) (by simp))
  · obtain ⟨⟨roomRow, t⟩, hensure, h⟩ := bind_ok h
    obtain ⟨hroomWrites, hroom⟩ := ensureCommandRoom_writes rt (command.now.toUtc rt.zone)
      command.correlationId hensure (hopened.references hdb) hproperty
    have hproperty' := hroomWrites.extends.properties.subset hproperty
    dsimp only at h
    split at h
    · split at h
      · cases h
        refine (hopened.trans hroomWrites).tail (.addAudit _ _ hproperty' ?_ (by simp))
        rintro id ⟨⟩
        exact hroom
      · cases h
    · next row hrow =>
        split at h
        · cases h
        · next hunused =>
            cases h
            obtain ⟨hid, hcommand, hrefers⟩ := buildOverrideRow_refers hrow hroom
            have hfresh : command.correlationId ∉ t.live.overrides.map (·.commandId) := by
              simpa using hunused
            exact (hopened.trans hroomWrites).trans
              (acceptCommand_writes hproperty' hid hrefers hcommand hfresh)

variable (rt observedAt correlationId) in
theorem advanceCursor_writes {property : PropertyRow} {s : DbSession H} (result : SyncRunResult)
    (hs : References s.live s.live) (hproperty : property.id ∈ s.live.propertyIds) :
    Writes rt observedAt correlationId s.live
      (advanceCursor rt property s result observedAt).live := by
  unfold advanceCursor
  split
  · exact .single (.addSyncCursor _ rfl hproperty)
  · next cursor hcursor =>
      have hmem := Session.mem_of_select (List.mem_of_mem_head? hcursor)
      exact .single (.setSyncCursor _ (hs.syncCursors cursor hmem))

variable [DecidableEq H]

theorem applySyncResult_writes {result : SyncRunResult} {out : SyncOutcome H}
    (h : applySyncResult rt (rt.session db) result correlationId = .ok out)
    (hdb : References db db) :
    Writes rt (result.finishedAt.toUtc rt.zone) correlationId db out.session.live := by
  obtain ⟨rows, t, hrows, hcases⟩ := applySyncResult_ok h
  obtain ⟨hopened, hstored⟩ := ensureRegistry_writes rt (result.finishedAt.toUtc rt.zone)
    correlationId hrows hdb
  have hrun : TableWrite rt (result.finishedAt.toUtc rt.zone) correlationId t.live
      (openSync rt rows result correlationId t).live := .addSyncRun _ rfl hstored.property
  have hstart := hopened.tail hrun
  have hstored' := hstored.mono hrun.extends
  rcases hcases with ⟨-, rfl⟩ | ⟨-, p, loaded, r, hp, hr, rfl⟩
  · exact hstart
  · have hbookings := processBookings_writes hp (Writes.references hstart hdb) hstored'
    have hrooms := recalculateRooms_writes hr (hstored'.mono hbookings.extends)
    have hloops := (hstart.trans hbookings).trans hrooms
    have hproperty := (hstored'.mono (hbookings.extends.trans hrooms.extends)).property
    have hcursor := advanceCursor_writes rt (result.finishedAt.toUtc rt.zone) correlationId result
      (Writes.references hloops hdb) hproperty
    refine (hloops.trans hcursor).tail (.setSyncRun _ ?_)
    exact hcursor.extends.properties.subset hproperty

theorem evaluateRooms_writes {pick : RegistryRows → List UUID} {now : Timestamp}
    {out : SyncOutcome H} (h : evaluateRooms rt (rt.session db) pick now correlationId = .ok out)
    (hdb : References db db) :
    Writes rt (now.toUtc rt.zone) correlationId db out.session.live := by
  obtain ⟨rows, t, loaded, r, hrows, hr, rfl⟩ := evaluateRooms_ok h
  obtain ⟨hopened, hstored⟩ := ensureRegistry_writes rt (now.toUtc rt.zone) correlationId hrows hdb
  exact (hopened.trans (recalculateRooms_writes hr hstored)).tail (.draw _)

theorem execute_writes {tx : Transaction} (h : execute rt db tx = .ok out) (hdb : References db db) :
    Writes rt (tx.timestamp rt.zone) tx.correlation db out.db := by
  cases tx with
  | applySyncResult result correlationId =>
      obtain ⟨sync, hsync, rfl⟩ := map_ok h
      exact applySyncResult_writes hsync hdb
  | evaluateAllRooms now correlationId =>
      obtain ⟨sync, hsync, rfl⟩ := map_ok h
      exact evaluateRooms_writes hsync hdb
  | evaluateRoomKeys roomKeys now correlationId =>
      obtain ⟨sync, hsync, rfl⟩ := map_ok h
      exact evaluateRooms_writes hsync hdb
  | applyMqttCommand command =>
      obtain ⟨result, hresult, rfl⟩ := map_ok h
      exact applyMqttCommand_writes hresult hdb

end Transactions

end ClockOrchestrator
