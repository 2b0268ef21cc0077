import ClockOrchestrator.Clock.AssignmentMarks
import ClockOrchestrator.Guarantees.AffectedRooms

namespace ClockOrchestrator

open Python UnitOfWork

variable {H : Type} {base rt : AppRuntime H} {db : Db H} {rows : RegistryRows}
  {observedAt : Instant} {correlationId : UUID}

def inUtc (z : Zone) (t : Timestamp) : Timestamp := .aware (.utc (t.toUtc z))

def NormalizedBooking.normalForm (z : Zone) (b : NormalizedBooking) : NormalizedBooking :=
  { b with
    createdAt := b.createdAt.map (inUtc z)
    updatedAt := b.updatedAt.map (inUtc z)
    statusChangedAt := b.statusChangedAt.map (inUtc z)
    physicalRoomId := if b.hasPhysicalRoom then b.physicalRoomId else none
    physicalRoomNumber := if b.hasPhysicalRoom then b.physicalRoomNumber else none
    firstSeenAt := b.firstSeenAt.map (inUtc z)
    lastSeenAt := b.lastSeenAt.map (inUtc z) }

def NormalizedBooking.readBack (z : Zone) (observedAt : Instant) (firstSeenAt : Option Timestamp)
    (b : NormalizedBooking) : NormalizedBooking :=
  { b.normalForm z with
    firstSeenAt := firstSeenAt
    lastSeenAt := some (inUtc z (b.lastSeenAt.getD (.aware (.utc observedAt)))) }

def firstSeenAfter (z : Zone) (observedAt : Instant) (stored : Option NormalizedBooking)
    (entries : List NormalizedBooking) : Option Timestamp :=
  match stored with
  | some booking => booking.firstSeenAt
  | none => entries.head?.map fun b => inUtc z (b.firstSeenAt.getD (.aware (.utc observedAt)))

def SameButFirstSeen (z : Zone) (b loaded : NormalizedBooking) : Prop :=
  { loaded with firstSeenAt := none } = { b.normalForm z with firstSeenAt := none }

instance (z : Zone) (b loaded : NormalizedBooking) : Decidable (SameButFirstSeen z b loaded) :=
  inferInstanceAs (Decidable (_ = _))

def entriesOf (clockBookingId : String) (bookings : List NormalizedBooking) :
    List NormalizedBooking :=
  bookings.filter (·.clockBookingId = clockBookingId)

def loadedBookings (rt : AppRuntime H) (db : Db H) (property : PropertyRow)
    (clockBookingId : String) : List NormalizedBooking :=
  entriesOf clockBookingId (loadNormalizedBookings (rt.session db) property).bookings

section Entries

variable {z : Zone} {registry : RoomRegistry} {clockBookingId : String}

def recordEntries (z : Zone) (registry : RoomRegistry) (observedAt : Instant)
    (before : Option RecordedStay) (entries : List NormalizedBooking) : Option RecordedStay :=
  entries.foldl (fun before b => some (recordBooking z registry before b observedAt)) before

theorem getD_inUtc (z : Zone) (t : Option Timestamp) (observedAt : Instant) :
    Timestamp.aware (.utc ((t.map (·.toUtc z)).getD observedAt)) =
      inUtc z (t.getD (.aware (.utc observedAt))) := by
  cases t with
  | none => simp [inUtc]
  | some t => rfl

theorem recordBooking_readBack (z : Zone) (registry : RoomRegistry) (before : Option RecordedStay)
    (b : NormalizedBooking) (observedAt : Instant) :
    (recordBooking z registry before b observedAt).booking =
      b.readBack z observedAt (firstSeenAfter z observedAt (before.map (·.booking)) [b]) := by
  unfold recordBooking NormalizedBooking.readBack NormalizedBooking.normalForm firstSeenAfter
  rw [getD_inUtc, getD_inUtc]
  cases before with
  | none => rfl
  | some stay => rfl

variable (z registry observedAt) in
theorem recordEntries_firstSeen (before : Option RecordedStay) (entries : List NormalizedBooking) :
    ((recordEntries z registry observedAt before entries).map (·.booking)).bind (·.firstSeenAt) =
      firstSeenAfter z observedAt (before.map (·.booking)) entries := by
  induction entries generalizing before with
  | nil => cases before <;> rfl
  | cons b rest ih =>
      refine (ih _).trans ?_
      rw [Option.map_some, recordBooking_readBack]
      cases before <;> rfl

theorem recordEntries_last (before : Option RecordedStay) (entries : List NormalizedBooking)
    (last : NormalizedBooking) :
    (recordEntries z registry observedAt before (entries ++ [last])).map (·.booking) =
      some (last.readBack z observedAt
        (firstSeenAfter z observedAt (before.map (·.booking)) (entries ++ [last]))) := by
  have hseen := recordEntries_firstSeen observedAt z registry before (entries ++ [last])
  unfold recordEntries at hseen ⊢
  rw [List.foldl_append, List.foldl_cons, List.foldl_nil, Option.map_some,
    recordBooking_readBack] at hseen ⊢
  rw [← hseen]
  rfl

end Entries

section Loop

variable {p p' : SyncProgress H} {bookings : List NormalizedBooking}
  {stays : String → Option RecordedStay}

def recordBookings (z : Zone) (registry : RoomRegistry) (observedAt : Instant)
    (stays : String → Option RecordedStay) (bookings : List NormalizedBooking) :
    String → Option RecordedStay := fun clockBookingId =>
  recordEntries z registry observedAt (stays clockBookingId) (entriesOf clockBookingId bookings)

theorem recordBookings_cons (z : Zone) (registry : RoomRegistry) (b : NormalizedBooking)
    (rest : List NormalizedBooking) :
    recordBookings z registry observedAt stays (b :: rest) =
      recordBookings z registry observedAt (Function.update stays b.clockBookingId
        (some (recordBooking z registry (stays b.clockBookingId) b observedAt))) rest := by
  funext clockBookingId
  unfold recordBookings entriesOf
  by_cases h : b.clockBookingId = clockBookingId
  · subst h
    rw [List.filter_cons_of_pos (by simp), Function.update_self]
    rfl
  · rw [List.filter_cons_of_neg (by simp [h]), Function.update_of_ne (Ne.symm h)]

theorem LoopSession.records (hinj : base.uuid4.Injective) (hu : rt.uuid4 = base.uuid4)
    {s : DbSession H} (h : LoopSession base rows s p.session)
    (hb : bookings.foldlM (processBooking rt rows observedAt correlationId) p = .ok p')
    (hkey : rows.property.key = rt.registry.property.key)
    (hresolve : RowsResolve rt.registry rows)
    (hrecords : Records rt.registry rows stays p.session.live) :
    Records rt.registry rows (recordBookings rt.zone rt.registry observedAt stays bookings)
      p'.session.live := by
  induction bookings generalizing p stays with
  | nil =>
      cases hb
      exact hrecords
  | cons b rest ih =>
      rw [List.foldlM_cons] at hb
      obtain ⟨q, hq, hrest⟩ := bind_ok hb
      obtain ⟨hloop, m, row, change, hp⟩ := h.step hinj hu hq
      rw [recordBookings_cons]
      exact ih hloop hrest (hp.records hkey hresolve hrecords)

end Loop

theorem StaysStore.entriesOf_bookingsOf (h : StaysStore base db) (property : PropertyRow)
    (clockBookingId : String) :
    entriesOf clockBookingId (db.bookingsOf property) =
      ((db.stay property.id clockBookingId).map fun stay =>
        normalizedFromRow property.key stay.1 stay.2).toList := by
  have hunique : db.bookings.filter (fun r =>
      decide (r.propertyId = property.id) && decide (r.clockBookingId = clockBookingId)) =
        (db.storedBooking property.id clockBookingId).toList := by
    refine KeyedTable.filter_eq_toList (h.bookingIds.nodup.of_map _) fun x hx y hy hpx hpy => ?_
    simp only [Bool.and_eq_true, decide_eq_true_eq] at hpx hpy
    exact KeyedTable.eq_of_key h.bookingKeys hx hy (by simp [BookingRow.columns, hpx, hpy])
  unfold entriesOf Db.bookingsOf Db.stay
  rw [List.filter_map, List.filter_filter]
  have hsame : db.bookings.filter (fun r => ((fun b : NormalizedBooking =>
      decide (b.clockBookingId = clockBookingId)) ∘ fun row =>
        normalizedFromRow property.key row (db.currentOf row.id)) r &&
          decide (r.propertyId = property.id)) =
      (db.storedBooking property.id clockBookingId).toList := by
    rw [← hunique]
    exact List.filter_congr fun r _ => Bool.and_comm _ _
  rw [hsame]
  cases db.storedBooking property.id clockBookingId <;> rfl

theorem loadedBookings_eq (h : StaysStore base db) (property : PropertyRow)
    (clockBookingId : String) :
    loadedBookings rt db property clockBookingId =
      ((db.stay property.id clockBookingId).map fun stay =>
        normalizedFromRow property.key stay.1 stay.2).toList := by
  have hload : (loadNormalizedBookings (rt.session db) property).bookings =
      db.bookingsOf property := loadNormalizedBookings_start rt.autoflush property db
  unfold loadedBookings
  rw [hload, h.entriesOf_bookingsOf]

structure CurrentAssignments (db : Db H) : Prop where
  unique : ∀ a ∈ db.assignments, ∀ a' ∈ db.assignments, a.isCurrent = true →
    a'.isCurrent = true → a.bookingId = a'.bookingId → a = a'
  marked : db.AssignmentsMarked

def SyncMoment (rt : AppRuntime H) (db : Db H) (result : SyncRunResult) (correlationId : UUID)
    (s : DbSession H) : Prop :=
  ∃ rows t earlier later p, ensureRegistry rt (rt.session db) = .ok (rows, t) ∧
    result.bookings = earlier ++ later ∧
    earlier.foldlM (processBooking rt rows (result.finishedAt.toUtc rt.zone) correlationId)
      ⟨openSync rt rows result correlationId t, [], 0, 0⟩ = .ok p ∧ s = p.session

theorem LoopSession.flushed_current (hinj : base.uuid4.Injective) (hu : rt.uuid4 = base.uuid4)
    {s : DbSession H} {p p' : SyncProgress H} {bookings : List NormalizedBooking}
    (h : LoopSession base rows s p.session)
    (hb : bookings.foldlM (processBooking rt rows observedAt correlationId) p = .ok p')
    (hflushed : CurrentAssignments p.session.flushed) (hlive : CurrentAssignments p.session.live) :
    CurrentAssignments p'.session.flushed ∧ CurrentAssignments p'.session.live := by
  have hrun := foldlM_invariant
    (I := fun q : SyncProgress H => LoopSession base rows s q.session ∧
      CurrentAssignments q.session.flushed ∧ CurrentAssignments q.session.live)
    (fun q b q' _ hstep hi => by
      obtain ⟨hloop, hflushed, hlive⟩ := hi
      obtain ⟨hloop', m, row, change, hp⟩ := hloop.step hinj hu hstep
      refine ⟨hloop', ?_, hloop'.stays.oneCurrent, processBooking_marked hstep hlive.marked⟩
      rw [hp.assigned.flushed, hp.upserted.synced]
      refine ⟨hp.upserted.store.oneCurrent, ?_⟩
      unfold Db.AssignmentsMarked
      rw [hp.upserted.assignments]
      exact hlive.marked) hb ⟨h, hflushed, hlive⟩
  exact hrun.2

theorem SyncMoment.current (hinj : base.uuid4.Injective) (hrt : base.Restart rt)
    (hdb : StoreInvariant base db) (hcurrent : CurrentAssignments db) {result : SyncRunResult}
    {s : DbSession H} (h : SyncMoment rt db result correlationId s) :
    CurrentAssignments s.flushed ∧ CurrentAssignments s.live := by
  obtain ⟨rows, t, earlier, later, p, hrows, -, hp, rfl⟩ := h
  obtain ⟨hopened, hstays⟩ := ensureRegistry_opened hinj hrt hdb hrows
  have hopen := hopened.openSync result correlationId
  have hstart : CurrentAssignments (openSync rt rows result correlationId t).live :=
    ⟨hopen.stays.oneCurrent, hcurrent.marked.of_stays hstays.live⟩
  exact hopen.startLoop.flushed_current hinj hrt.uuid4 hp hstart hstart

variable [DecidableEq H]

theorem Reachable.current (hinj : base.uuid4.Injective) (hdb : Reachable base db) :
    CurrentAssignments db :=
  ⟨(hdb.invariant hinj).stays.oneCurrent, hdb.assignments_marked hinj⟩

theorem stored_bookings_load_back (hinj : base.uuid4.Injective) (hrt : base.Restart rt)
    (hdb : Reachable base db) {result : SyncRunResult} {out : Outcome H}
    (h : execute rt db (.applySyncResult result correlationId) = .ok out)
    (hsuccess : result.success = true) {property : PropertyRow}
    (hproperty : property ∈ out.db.properties) :
    (∀ clockBookingId last, (entriesOf clockBookingId result.bookings).getLast? = some last →
      loadedBookings rt out.db property clockBookingId =
        [last.readBack rt.zone (result.finishedAt.toUtc rt.zone)
          (firstSeenAfter rt.zone (result.finishedAt.toUtc rt.zone)
            (loadedBookings rt db property clockBookingId).head?
            (entriesOf clockBookingId result.bookings))]) ∧
    (∀ clockBookingId, entriesOf clockBookingId result.bookings = [] →
      loadedBookings rt out.db property clockBookingId =
        loadedBookings rt db property clockBookingId) ∧
    CurrentAssignments db ∧ CurrentAssignments out.db ∧
    ∀ s, SyncMoment rt db result correlationId s →
      CurrentAssignments s.flushed ∧ CurrentAssignments s.live := by
  have hstore := hdb.invariant hinj
  have hreached : Reachable base out.db := hdb.execute hrt h
  obtain ⟨rows, t, p, hsync⟩ := applySyncResult_applied hinj hrt hstore h hsuccess
  obtain ⟨hid, hkey⟩ := hsync.property_eq hproperty
  have hresolve : RowsResolve rt.registry rows :=
    resolveRoom_room_iff hsync.opened.registry hsync.opened.rowsStored hsync.opened.entries
  have hrecords := hsync.opened.startLoop.records hinj hrt.uuid4 hsync.processed
    (hsync.propertyKey.trans hrt.propertyKey.symm) hresolve
    (hsync.opened.records hsync.stays hid hkey)
  have hbefore : ∀ clockBookingId, loadedBookings rt db property clockBookingId =
      ((db.recorded rt.registry property clockBookingId).map (·.booking)).toList := by
    intro clockBookingId
    rw [loadedBookings_eq hstore.stays, Db.recorded, Option.map_map]
    rfl
  have hafter : ∀ clockBookingId, loadedBookings rt out.db property clockBookingId =
      ((recordEntries rt.zone rt.registry (result.finishedAt.toUtc rt.zone)
        (db.recorded rt.registry property clockBookingId)
        (entriesOf clockBookingId result.bookings)).map (·.booking)).toList := by
    intro clockBookingId
    rw [loadedBookings_eq (hreached.invariant hinj).stays, stay_of_stays hsync.committed, hid, hkey,
      ← hrecords.booking]
    rfl
  refine ⟨fun clockBookingId last hlast => ?_, fun clockBookingId hnone => ?_,
    hdb.current hinj, hreached.current hinj,
    fun s hs => hs.current hinj hrt hstore (hdb.current hinj)⟩
  · obtain ⟨init, hinit⟩ := List.getLast?_eq_some_iff.mp hlast
    rw [hafter, hbefore, hinit, recordEntries_last, Option.toList_some, Option.head?_toList]
  · rw [hafter, hbefore, hnone]
    rfl

def demoMovedTwice : Transaction :=
  .applySyncResult (demoSyncResult [demoStay, demoCheckedInStay] (demoNow 10 0)) 2001

theorem last_entry_is_read_back :
    ∃ out, execute (demoRuntime true) (Db.empty _) demoMovedTwice = .ok out ∧
      ∃ property ∈ out.db.properties, ∃ firstSeenAt,
        loadedBookings (demoRuntime true) out.db property "booking-1" =
          [demoCheckedInStay.readBack sofiaWinterTime (demoInstant 10 0) firstSeenAt] := by
  obtain ⟨out, hout, hstored⟩ := exists_outcome (demoRuntime true) (Db.empty _) demoMovedTwice
    (p := fun out => !out.db.properties.isEmpty) (by decide +kernel)
  obtain ⟨property, hproperty⟩ :=
    List.exists_mem_of_ne_nil out.db.properties (by simpa using hstored)
  exact ⟨out, hout, property, hproperty, _,
    (stored_bookings_load_back (demoRuntime_uuid4_injective true) (.refl _) (.empty _) hout rfl
      hproperty).1 "booking-1" demoCheckedInStay (by decide)⟩

theorem unseen_entry_is_read_back_as_seen :
    ∃ out, execute (demoRuntime true) (Db.empty _) (demoArrival demoStay) = .ok out ∧
      ∃ property ∈ out.db.properties,
        ∃ loaded ∈ loadedBookings (demoRuntime true) out.db property "booking-1",
          ¬ SameButFirstSeen sofiaWinterTime demoStay loaded := by
  obtain ⟨out, hout, hchecked⟩ := exists_outcome (demoRuntime true) (Db.empty _)
    (demoArrival demoStay) (p := fun out => out.db.properties.any fun property =>
      (loadedBookings (demoRuntime true) out.db property "booking-1").any fun loaded =>
        decide (¬ SameButFirstSeen sofiaWinterTime demoStay loaded))
    (by decide +kernel)
  obtain ⟨property, hproperty, hloaded⟩ := List.any_eq_true.mp hchecked
  obtain ⟨loaded, hmem, hdiffers⟩ := List.any_eq_true.mp hloaded
  exact ⟨out, hout, property, hproperty, loaded, hmem, of_decide_eq_true hdiffers⟩

end ClockOrchestrator
