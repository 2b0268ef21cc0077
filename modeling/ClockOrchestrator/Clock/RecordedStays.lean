import ClockOrchestrator.Clock.RoomResolution
import ClockOrchestrator.Clock.StayHistory
import ClockOrchestrator.Support.Thinning
import Mathlib.Logic.Function.Basic

namespace ClockOrchestrator

open Python UnitOfWork Thinning

variable {H : Type} {rt base : AppRuntime H} {rows : RegistryRows} {observedAt : Instant}
  {correlationId : UUID} {db : Db H}

structure RecordedStay where
  booking : NormalizedBooking
  room : Option Room

def Db.roomOf (db : Db H) (registry : RoomRegistry) (roomId : UUID) : Option Room :=
  (db.rooms.find? (·.id = roomId)).bind fun row => registry.byKey row.key

def Db.recorded (db : Db H) (registry : RoomRegistry) (property : PropertyRow)
    (clockBookingId : String) : Option RecordedStay :=
  (db.stay property.id clockBookingId).map fun stay =>
    ⟨normalizedFromRow property.key stay.1 stay.2,
      (stay.2.bind (·.roomId)).bind (db.roomOf registry)⟩

def recordBooking (z : Zone) (registry : RoomRegistry) (before : Option RecordedStay)
    (b : NormalizedBooking) (observedAt : Instant) : RecordedStay where
  booking :=
    { b with
      createdAt := b.createdAt.map fun t => .aware (.utc (t.toUtc z))
      updatedAt := b.updatedAt.map fun t => .aware (.utc (t.toUtc z))
      statusChangedAt := b.statusChangedAt.map fun t => .aware (.utc (t.toUtc z))
      physicalRoomId := if b.hasPhysicalRoom then b.physicalRoomId else none
      physicalRoomNumber := if b.hasPhysicalRoom then b.physicalRoomNumber else none
      firstSeenAt :=
        match before with
        | some stay => stay.booking.firstSeenAt
        | none => some (.aware (.utc ((b.firstSeenAt.map (·.toUtc z)).getD observedAt)))
      lastSeenAt := some (.aware (.utc ((b.lastSeenAt.map (·.toUtc z)).getD observedAt))) }
  room := registry.resolve b

theorem assignmentIdentity_eq_none {b : NormalizedBooking} :
    assignmentIdentity b = none ↔ b.hasPhysicalRoom = false := by
  unfold assignmentIdentity
  cases b.hasPhysicalRoom <;> simp

theorem RoomRegistry.resolve_of_unplaced (registry : RoomRegistry) {b : NormalizedBooking}
    (h : b.hasPhysicalRoom = false) : registry.resolve b = none := by
  unfold NormalizedBooking.hasPhysicalRoom at h
  simp only [Bool.or_eq_false_iff] at h
  simp [RoomRegistry.resolve, resolveIn, h.1, h.2]

theorem assignmentIdentity_recordBooking (z : Zone) (registry : RoomRegistry)
    (before : Option RecordedStay) (b : NormalizedBooking) (observedAt : Instant) :
    assignmentIdentity (recordBooking z registry before b observedAt).booking =
      assignmentIdentity b := by
  cases hb : b.hasPhysicalRoom with
  | false =>
      refine (assignmentIdentity_eq_none.mpr ?_).trans (assignmentIdentity_eq_none.mpr hb).symm
      unfold NormalizedBooking.hasPhysicalRoom
      simp [recordBooking, hb, truthy]
  | true =>
      unfold assignmentIdentity
      rw [hb, if_pos rfl, if_pos]
      · simp [recordBooking, hb]
      · rw [← hb]
        unfold NormalizedBooking.hasPhysicalRoom
        simp [recordBooking, hb]

theorem RoomRegistry.resolve_of_identity (registry : RoomRegistry) {b b' : NormalizedBooking}
    (h : assignmentIdentity b = assignmentIdentity b') :
    registry.resolve b = registry.resolve b' := by
  cases hb : b.hasPhysicalRoom with
  | false =>
      have hb' := assignmentIdentity_eq_none.mp (h ▸ assignmentIdentity_eq_none.mpr hb)
      rw [registry.resolve_of_unplaced hb, registry.resolve_of_unplaced hb']
  | true =>
      cases hb' : b'.hasPhysicalRoom with
      | false =>
          rw [assignmentIdentity_eq_none.mpr hb', assignmentIdentity_eq_none, hb] at h
          cases h
      | true =>
          unfold assignmentIdentity at h
          simp only [hb, hb', if_true, Option.some.injEq, Prod.mk.injEq] at h
          simp only [RoomRegistry.resolve, resolveIn, h.1, h.2]

theorem normalizedFromRow_upsertedRow {z : Zone} {registry : RoomRegistry}
    {property : PropertyRow} {stored : Option BookingRow} {id : UUID} {b : NormalizedBooking}
    {before : Option RecordedStay} {a : Option AssignmentRow} {propertyKey : String}
    (hkey : b.propertyId = propertyKey)
    (hclock : ∀ row, stored = some row → row.clockBookingId = b.clockBookingId)
    (hbefore : before.map (·.booking.firstSeenAt) =
      stored.map fun row => some (.aware (.utc row.firstSeenAt)))
    (ha : a.map assignmentRowIdentity = assignmentIdentity b) :
    normalizedFromRow propertyKey (upsertedRow z property stored id b observedAt) a =
      (recordBooking z registry before b observedAt).booking := by
  have hids : a.bind (·.clockRoomId) = (if b.hasPhysicalRoom then b.physicalRoomId else none) ∧
      a.bind (·.physicalRoomNumber) =
        if b.hasPhysicalRoom then b.physicalRoomNumber else none := by
    unfold assignmentIdentity at ha
    cases hb : b.hasPhysicalRoom with
    | false =>
        rw [hb, if_neg Bool.false_ne_true, Option.map_eq_none_iff] at ha
        simp [ha]
    | true =>
        rw [hb, if_pos rfl] at ha
        obtain ⟨x, rfl, hx⟩ := Option.map_eq_some_iff.mp ha
        simp only [assignmentRowIdentity, Prod.mk.injEq] at hx
        simp [hx.1, hx.2]
  cases stored with
  | none =>
      cases before with
      | some stay => cases hbefore
      | none =>
          simp only [normalizedFromRow, upsertedRow, newBookingRow, recordBooking, hids.1, hids.2,
            hkey, Option.map_map]
          rfl
  | some row =>
      cases before with
      | none => cases hbefore
      | some stay =>
          simp only [Option.map_some, Option.some.injEq] at hbefore
          simp only [normalizedFromRow, upsertedRow, updatedBookingRow, newBookingRow,
            recordBooking, hids.1, hids.2, hkey, hbefore, hclock row rfl, Option.map_map]
          rfl

structure Records (registry : RoomRegistry) (rows : RegistryRows)
    (stays : String → Option RecordedStay) (db : Db H) : Prop where
  booking : ∀ clockBookingId, (stays clockBookingId).map (·.booking) =
    (db.stay rows.property.id clockBookingId).map fun stay =>
      normalizedFromRow rows.property.key stay.1 stay.2
  room : ∀ clockBookingId before room, stays clockBookingId = some before →
    before.room = some room → ∃ a roomId,
      (db.stay rows.property.id clockBookingId).bind Prod.snd = some a ∧
        a.roomId = some roomId ∧ rows.domainRoomsById roomId = some room

def RowsResolve (registry : RoomRegistry) (rows : RegistryRows) : Prop :=
  ∀ b room, (∃ row, resolveRoom rows b = some row ∧ rows.domainRoomsById row.id = some room) ↔
    registry.resolve b = some room

theorem mappedRoomId_of_resolve {registry : RoomRegistry} (hresolve : RowsResolve registry rows)
    {b : NormalizedBooking} {room : Room} (h : registry.resolve b = some room) :
    ∃ roomId, mappedRoomId rows b = some roomId ∧ rows.domainRoomsById roomId = some room := by
  obtain ⟨row, hrow, hroom⟩ := (hresolve b room).mpr h
  exact ⟨row.id, by rw [mappedRoomId, hrow]; rfl, hroom⟩

section Step

variable {p p' : SyncProgress H} {b : NormalizedBooking} {m : DbSession H} {row : BookingRow}
  {change : AssignmentChange} {stays : String → Option RecordedStay} {registry : RoomRegistry}

theorem Processed.recorded (h : Processed base rt rows b observedAt p p' m row change)
    (hkey : rows.property.key = rt.registry.property.key)
    (hrecords : Records registry rows stays p.session.live) :
    normalizedFromRow rows.property.key row (p'.session.live.currentOf row.id) =
      (recordBooking rt.zone registry (stays b.clockBookingId) b observedAt).booking := by
  rw [h.written]
  refine normalizedFromRow_upsertedRow (h.propertyId.trans hkey.symm) ?_ ?_ ?_
  · intro stored hstored
    have := List.find?_some hstored
    simp only [Bool.and_eq_true, decide_eq_true_eq] at this
    exact this.2
  · have := congrArg (Option.map NormalizedBooking.firstSeenAt)
      (hrecords.booking b.clockBookingId)
    rw [Option.map_map] at this
    refine this.trans ?_
    unfold Db.stay
    rw [Option.map_map, Option.map_map]
    rfl
  · rw [← h.written]
    exact h.assigned.own

theorem Processed.records (h : Processed base rt rows b observedAt p p' m row change)
    (hkey : rows.property.key = rt.registry.property.key)
    (hresolve : RowsResolve registry rows)
    (hrecords : Records registry rows stays p.session.live) :
    Records registry rows (Function.update stays b.clockBookingId
      (some (recordBooking rt.zone registry (stays b.clockBookingId) b observedAt)))
      p'.session.live := by
  constructor
  · intro clockBookingId
    by_cases hc : clockBookingId = b.clockBookingId
    · subst hc
      rw [Function.update_self, h.stay_own, Option.map_some, Option.map_some,
        h.recorded hkey hrecords]
    · rw [Function.update_of_ne hc, h.stay_other hc]
      exact hrecords.booking clockBookingId
  · intro clockBookingId before room hbefore hroom
    by_cases hc : clockBookingId = b.clockBookingId
    · subst hc
      rw [Function.update_self] at hbefore
      cases hbefore
      obtain ⟨roomId, hmapped, hdomain⟩ := mappedRoomId_of_resolve hresolve hroom
      have hplaced : assignmentIdentity b ≠ none := by
        intro hnone
        have := registry.resolve_of_unplaced (assignmentIdentity_eq_none.mp hnone)
        rw [show registry.resolve b = some room from hroom] at this
        cases this
      obtain ⟨identity, hidentity⟩ := Option.ne_none_iff_exists'.mp hplaced
      have hown := h.assigned.own
      rw [hidentity] at hown
      obtain ⟨a, ha, -⟩ := Option.map_eq_some_iff.mp hown
      refine ⟨a, roomId, ?_, (h.assigned.ownRoom a ha).trans hmapped, hdomain⟩
      rw [h.stay_own]
      exact ha
    · rw [Function.update_of_ne hc] at hbefore
      rw [h.stay_other hc]
      exact hrecords.room clockBookingId before room hbefore hroom

def Db.bookingsOf (db : Db H) (property : PropertyRow) : List NormalizedBooking :=
  (db.bookings.filter (·.propertyId = property.id)).map fun row =>
    normalizedFromRow property.key row (db.currentOf row.id)

theorem Processed.row_of_id (h : Processed base rt rows b observedAt p p' m row change)
    (hstore : StaysStore base p.session.live) {r : BookingRow}
    (hr : r ∈ p.session.live.bookings) (hid : r.id = row.id) :
    p.session.live.storedBooking rows.property.id b.clockBookingId = some r := by
  have hmem := h.upserted.table
  cases hs : p.session.live.storedBooking rows.property.id b.clockBookingId with
  | none =>
      rw [hs] at hmem
      have hnodup := h.upserted.store.bookingIds.nodup
      rw [show m.live.bookings = _ from hmem, List.map_append, List.nodup_append] at hnodup
      exact absurd hid (hnodup.2.2 _ (List.mem_map_of_mem hr) _ (List.mem_singleton.mpr rfl))
  | some old =>
      have hold := (hstore.storedBooking_eq_some.mp hs).1
      rw [hstore.booking_unique hr hold (hid.trans (h.upserted.sameId old hs))]

theorem Processed.currentOf_other (h : Processed base rt rows b observedAt p p' m row change)
    {bookingId : UUID} (hne : bookingId ≠ row.id) :
    p'.session.live.currentOf bookingId = p.session.live.currentOf bookingId := by
  rw [h.assigned.others _ hne, h.currentBefore]

theorem Processed.bookingsOf_new (h : Processed base rt rows b observedAt p p' m row change)
    (hstore : StaysStore base p.session.live)
    (hnone : p.session.live.storedBooking rows.property.id b.clockBookingId = none) :
    p'.session.live.bookingsOf rows.property = p.session.live.bookingsOf rows.property ++
      [normalizedFromRow rows.property.key row (p'.session.live.currentOf row.id)] := by
  have htable := h.upserted.table
  rw [hnone] at htable
  have hown : [row].filter (·.propertyId = rows.property.id) = [row] := by
    simp [h.upserted.propertyId]
  unfold Db.bookingsOf
  rw [h.assigned.bookings, show m.live.bookings = _ from htable, List.filter_append,
    List.map_append, hown, List.map_singleton]
  congr 1
  refine List.map_congr_left fun r hr => ?_
  have hne : r.id ≠ row.id := by
    intro hid
    rw [h.row_of_id hstore (List.mem_of_mem_filter hr) hid] at hnone
    cases hnone
  rw [h.currentOf_other hne]

theorem Processed.bookingsOf_stored (h : Processed base rt rows b observedAt p p' m row change)
    (hstore : StaysStore base p.session.live) {old : BookingRow}
    (hold : p.session.live.storedBooking rows.property.id b.clockBookingId = some old) :
    p'.session.live.bookingsOf rows.property =
      (p.session.live.bookings.filter (·.propertyId = rows.property.id)).map fun r =>
        if r.id = row.id then
          normalizedFromRow rows.property.key row (p'.session.live.currentOf row.id)
        else normalizedFromRow rows.property.key r (p.session.live.currentOf r.id) := by
  have htable := h.upserted.table
  rw [hold] at htable
  have hfilter : p.session.live.bookings.filter
      ((fun r : BookingRow => decide (r.propertyId = rows.property.id)) ∘
        fun r => if r.id = row.id then row else r) =
      p.session.live.bookings.filter (·.propertyId = rows.property.id) := by
    refine List.filter_congr fun r hr => ?_
    by_cases hid : r.id = row.id
    · have hstored := hstore.storedBooking_eq_some.mp (h.row_of_id hstore hr hid)
      simp [hid, h.upserted.propertyId, hstored.2.1]
    · simp [hid]
  unfold Db.bookingsOf
  rw [h.assigned.bookings, show m.live.bookings = _ from htable, KeyedTable.put,
    List.filter_map, List.map_map, hfilter]
  refine List.map_congr_left fun r _ => ?_
  simp only [Function.comp_apply]
  split
  · rfl
  · next hne => rw [h.currentOf_other hne]

theorem Processed.keepsVisible (h : Processed base rt rows b observedAt p p' m row change)
    (hstore : StaysStore base p.session.live)
    (hkey : rows.property.key = rt.registry.property.key)
    (hrecords : Records registry rows stays p.session.live) {β : Type}
    {view : NormalizedBooking → β} {q : NormalizedBooking → Bool} {after : RecordedStay}
    (hafter : after = recordBooking rt.zone registry (stays b.clockBookingId) b observedAt)
    (hnew : stays b.clockBookingId = none → q after.booking = false)
    (hstored : ∀ before, stays b.clockBookingId = some before →
      Alike view q before.booking after.booking) :
    visible view q (p'.session.live.bookingsOf rows.property) =
      visible view q (p.session.live.bookingsOf rows.property) := by
  have hrecorded := h.recorded hkey hrecords
  rw [← hafter] at hrecorded
  have hbooking := hrecords.booking b.clockBookingId
  unfold Db.stay at hbooking
  cases hs : p.session.live.storedBooking rows.property.id b.clockBookingId with
  | none =>
      rw [hs, Option.map_none, Option.map_none, Option.map_eq_none_iff] at hbooking
      have hunseen : visible view q [after.booking] = [] := by
        simp [visible, hnew hbooking]
      rw [h.bookingsOf_new hstore hs, visible_append, hrecorded, hunseen, List.append_nil]
  | some old =>
      rw [hs, Option.map_some, Option.map_some, Option.map_eq_some_iff] at hbooking
      obtain ⟨before, hbefore, hform⟩ := hbooking
      rw [h.bookingsOf_stored hstore hs, hrecorded]
      refine visible_map_congr fun r hr => ?_
      split
      · next hid =>
          have hrold := (h.row_of_id hstore (List.mem_of_mem_filter hr) hid).symm.trans hs
          cases hrold
          rw [← hform]
          exact (hstored before hbefore).symm
      · exact .refl _

end Step

end ClockOrchestrator
