import ClockOrchestrator.Clock.ApplySync
import ClockOrchestrator.Clock.Stays

namespace ClockOrchestrator

open Python UnitOfWork FreshIds

variable {H : Type} {rt base : AppRuntime H} {rows : RegistryRows} {observedAt : Instant}
  {correlationId : UUID}

structure WritesStays (s s' : DbSession H) : Prop where
  autoflush : s'.autoflush = s.autoflush
  registry : KeepsRegistry s.live s'.live
  logs : s'.live.logs = s.live.logs
  logsFlushed : s.flushed.logs = s.live.logs → s'.flushed.logs = s.live.logs

namespace WritesStays

theorem refl (s : DbSession H) : WritesStays s s := ⟨rfl, .refl _, rfl, id⟩

theorem trans {s s' s'' : DbSession H} (h : WritesStays s s') (h' : WritesStays s' s'') :
    WritesStays s s'' := by
  refine ⟨h'.autoflush.trans h.autoflush, h.registry.trans h'.registry, h'.logs.trans h.logs, ?_⟩
  intro hs
  rw [h'.logsFlushed ((h.logsFlushed hs).trans h.logs.symm), h.logs]

theorem modify (s : DbSession H) {g : Db H → Db H} (hr : KeepsRegistry s.live (g s.live))
    (hl : (g s.live).logs = s.live.logs) : WritesStays s (s.modify g) :=
  ⟨rfl, hr, hl, id⟩

theorem flush (s : DbSession H) : WritesStays s s.flush := ⟨rfl, .refl _, rfl, fun _ => rfl⟩

theorem audit (s : DbSession H) (propertyId : UUID) (roomId bookingId : Option UUID)
    (detail : AuditDetail) (at' : Instant) :
    WritesStays s (s.modify (addAuditEvent rt propertyId roomId bookingId detail at'
      correlationId)) :=
  .modify s ⟨rfl, rfl, Nat.le_succ _⟩ rfl

theorem setAssignment (s : DbSession H) (a : AssignmentRow) :
    WritesStays s (s.modify (·.setAssignment a)) :=
  .modify s ⟨rfl, rfl, Nat.le_refl _⟩ rfl

end WritesStays

def upsertedRow (z : Zone) (property : PropertyRow) (stored : Option BookingRow) (id : UUID)
    (b : NormalizedBooking) (observedAt : Instant) : BookingRow :=
  match stored with
  | none => newBookingRow z id property.id b observedAt
  | some row => updatedBookingRow z row b observedAt

theorem select_booking {s : DbSession H} (hs : s.Shows (·.bookings) s.live.bookings)
    (propertyId : UUID) (clockId : String) :
    (s.select (·.bookings) fun r =>
      r.propertyId = propertyId && r.clockBookingId = clockId).head? =
        s.live.storedBooking propertyId clockId := by
  rw [Session.select_of_shows hs, List.head?_filter]
  rfl

theorem upsertBooking_new {s : DbSession H} (hs : s.Shows (·.bookings) s.live.bookings)
    {property : PropertyRow} {b : NormalizedBooking}
    (hnone : s.live.storedBooking property.id b.clockBookingId = none) :
    upsertBooking rt property s b observedAt =
      (newBookingRow rt.zone (rt.uuid4 s.live.drawn) property.id b observedAt, true,
        (s.modify (·.addBooking (newBookingRow rt.zone (rt.uuid4 s.live.drawn) property.id b
          observedAt))).flush) := by
  unfold upsertBooking
  rw [select_booking hs, hnone]

theorem upsertBooking_stored {s : DbSession H} (hs : s.Shows (·.bookings) s.live.bookings)
    {property : PropertyRow} {b : NormalizedBooking} {stored : BookingRow}
    (hsome : s.live.storedBooking property.id b.clockBookingId = some stored) :
    upsertBooking rt property s b observedAt =
      (updatedBookingRow rt.zone stored b observedAt,
        decide (stored.payloadHash ≠ b.payloadHash),
        (s.modify (·.setBooking (updatedBookingRow rt.zone stored b observedAt))).flush) := by
  unfold upsertBooking
  rw [select_booking hs, hsome]

variable (rt observedAt) in
theorem upsertBooking_writes {s : DbSession H} (property : PropertyRow) (b : NormalizedBooking) :
    WritesStays s (upsertBooking rt property s b observedAt).2.2 := by
  unfold upsertBooking
  split
  · exact (WritesStays.modify s ⟨rfl, rfl, Nat.le_succ _⟩ rfl).trans (.flush _)
  · exact (WritesStays.modify s ⟨rfl, rfl, Nat.le_refl _⟩ rfl).trans (.flush _)

structure Upserted (base : AppRuntime H) (property : PropertyRow) (b : NormalizedBooking)
    (s s' : DbSession H) (row : BookingRow) : Prop where
  synced : s'.flushed = s'.live
  assignments : s'.live.assignments = s.live.assignments
  propertyId : row.propertyId = property.id
  clockBookingId : row.clockBookingId = b.clockBookingId
  stored : s'.live.storedBooking property.id b.clockBookingId = some row
  others : ∀ propertyId clockId, (propertyId, clockId) ≠ (property.id, b.clockBookingId) →
    s'.live.storedBooking propertyId clockId = s.live.storedBooking propertyId clockId
  sameId : ∀ old, s.live.storedBooking property.id b.clockBookingId = some old → row.id = old.id
  freshId : s.live.storedBooking property.id b.clockBookingId = none →
    s.live.currentOf row.id = none
  table : match s.live.storedBooking property.id b.clockBookingId with
    | none => s'.live.bookings = s.live.bookings ++ [row]
    | some _ => s'.live.bookings = KeyedTable.put (·.id) row s.live.bookings
  store : StaysStore base s'.live

theorem newBookingRow_free {db : Db H} (hinj : base.uuid4.Injective) (hstore : StaysStore base db)
    : db.currentOf (base.uuid4 db.drawn) = none := by
  refine List.find?_eq_none.mpr ?_
  intro a ha hp
  simp only [Bool.and_eq_true, decide_eq_true_eq] at hp
  have := hstore.assignmentBooking a ha
  rw [hp.1] at this
  exact hstore.bookingIds.notMem hinj (Nat.le_refl _) this

theorem addBooking_store {db : Db H} {row : BookingRow} (hinj : base.uuid4.Injective)
    (hstore : StaysStore base db) (hid : row.id = base.uuid4 db.drawn)
    (hproperty : row.propertyId ∈ db.propertyColumns.map Prod.fst)
    (hnone : db.storedBooking row.propertyId row.clockBookingId = none) :
    StaysStore base (db.addBooking row) := by
  have hmem : ∀ x, x ∈ (db.addBooking row).bookings → x ∈ db.bookings ∨ x = row := by
    intro x hx
    simpa [Db.addBooking] using hx
  refine ⟨?_, ?_, ?_, hstore.assignmentIds.mono (Nat.le_succ _), hstore.oneCurrent,
    hstore.placed, ?_⟩
  · change Drawn base.uuid4 (db.drawn + 1) ((db.bookings ++ [row]).map (·.id))
    rw [List.map_append, List.map_singleton, hid]
    exact hstore.bookingIds.append hinj
  · change ((db.bookings ++ [row]).map (·.columns)).Nodup
    rw [List.map_append, List.map_singleton, List.nodup_append]
    refine ⟨hstore.bookingKeys, by simp, ?_⟩
    intro c hc c' hc' he
    obtain ⟨r, hr, rfl⟩ := List.mem_map.mp hc
    rw [List.mem_singleton.mp hc'] at he
    simp only [BookingRow.columns, Prod.mk.injEq] at he
    have := List.find?_eq_none.mp hnone r hr
    simp [he.1, he.2] at this
  · intro x hx
    rcases hmem x hx with hx | rfl
    · exact hstore.bookingProperty x hx
    · exact hproperty
  · intro a ha
    have := hstore.assignmentBooking a ha
    change a.bookingId ∈ (db.bookings ++ [row]).map (·.id)
    rw [List.map_append]
    exact List.mem_append_left _ this

theorem setBooking_store {db : Db H} {row old : BookingRow} (hstore : StaysStore base db)
    (hold : old ∈ db.bookings) (hid : row.id = old.id) (hcols : row.columns = old.columns) :
    StaysStore base (db.setBooking row) := by
  refine ⟨?_, ?_, ?_, hstore.assignmentIds, hstore.oneCurrent, hstore.placed, ?_⟩
  · change Drawn base.uuid4 db.drawn ((KeyedTable.put (·.id) row db.bookings).map (·.id))
    rw [KeyedTable.map_key_put]
    exact hstore.bookingIds
  · change ((KeyedTable.put (·.id) row db.bookings).map (·.columns)).Nodup
    rw [KeyedTable.map_put hstore.bookingIds.nodup hold hid hcols]
    exact hstore.bookingKeys
  · intro x hx
    rcases KeyedTable.mem_put.mp hx with ⟨rfl, -⟩ | ⟨hx, -⟩
    · simp only [BookingRow.columns, Prod.mk.injEq] at hcols
      rw [hcols.1]
      exact hstore.bookingProperty old hold
    · exact hstore.bookingProperty x hx
  · intro a ha
    change a.bookingId ∈ (KeyedTable.put (·.id) row db.bookings).map (·.id)
    rw [KeyedTable.map_key_put]
    exact hstore.assignmentBooking a ha

theorem setBooking_storedBooking_other {db : Db H} {row old : BookingRow}
    (hstore : StaysStore base db) (hold : old ∈ db.bookings) (hid : row.id = old.id)
    (hcols : row.columns = old.columns) {propertyId : UUID} {clockId : String}
    (hne : (propertyId, clockId) ≠ old.columns) :
    (db.setBooking row).storedBooking propertyId clockId = db.storedBooking propertyId clockId := by
  have hcols' := hcols
  simp only [BookingRow.columns, Prod.mk.injEq] at hcols'
  have hput := KeyedTable.find?_put hstore.bookingIds.nodup hold hid
    (p := fun r => decide (r.propertyId = propertyId) && decide (r.clockBookingId = clockId))
    (by simp only [hcols'.1, hcols'.2])
  unfold Db.storedBooking Db.setBooking
  rw [hput]
  cases hf : db.bookings.find? fun r =>
      decide (r.propertyId = propertyId) && decide (r.clockBookingId = clockId) with
  | none => rfl
  | some x =>
      have hx := List.find?_some hf
      simp only [Bool.and_eq_true, decide_eq_true_eq] at hx
      have hxid : x.id ≠ row.id := by
        intro he
        have := hstore.booking_unique (List.mem_of_find?_eq_some hf) hold (he.trans hid)
        refine hne ?_
        rw [← this, BookingRow.columns, hx.1, hx.2]
      simp [hxid]

variable (observedAt) in
theorem upsertBooking_spec (hinj : base.uuid4.Injective) (hu : rt.uuid4 = base.uuid4)
    {s : DbSession H} (hs : s.Shows (·.bookings) s.live.bookings)
    (hstore : StaysStore base s.live) {property : PropertyRow}
    (hp : property.id ∈ s.live.propertyColumns.map Prod.fst) (b : NormalizedBooking) :
    Upserted base property b s (upsertBooking rt property s b observedAt).2.2
      (upsertBooking rt property s b observedAt).1 := by
  cases hf : s.live.storedBooking property.id b.clockBookingId with
  | none =>
      rw [upsertBooking_new hs hf]
      have hnew : StaysStore base (s.live.addBooking (newBookingRow rt.zone
          (rt.uuid4 s.live.drawn) property.id b observedAt)) :=
        addBooking_store hinj hstore (by rw [← hu]; rfl) hp hf
      refine ⟨rfl, rfl, rfl, rfl, ?_, ?_, ?_, ?_, by rw [hf]; rfl, hnew⟩
      · exact hnew.storedBooking_eq_some.mpr ⟨by simp [Db.addBooking], rfl, rfl⟩
      · intro propertyId clockId hne
        change (s.live.bookings ++ [_]).find? _ = _
        rw [List.find?_append]
        have : (newBookingRow rt.zone (rt.uuid4 s.live.drawn) property.id b
            observedAt).columns ≠ (propertyId, clockId) := Ne.symm hne
        simp only [BookingRow.columns, ne_eq, Prod.mk.injEq] at this
        simp [Db.storedBooking, this]
      · intro old hold
        rw [hf] at hold
        cases hold
      · intro _
        change s.live.currentOf (rt.uuid4 s.live.drawn) = none
        rw [hu]
        exact newBookingRow_free hinj hstore
  | some stored =>
      rw [upsertBooking_stored hs hf]
      obtain ⟨hmem, hpid, hclock⟩ := hstore.storedBooking_eq_some.mp hf
      generalize hrow : updatedBookingRow rt.zone stored b observedAt = row
      have hid : row.id = stored.id := by rw [← hrow]; rfl
      have hcols : row.columns = stored.columns := by rw [← hrow]; rfl
      have hrowp : row.propertyId = property.id := by rw [← hrow]; exact hpid
      have hrowc : row.clockBookingId = b.clockBookingId := by rw [← hrow]; exact hclock
      have hnew := setBooking_store hstore hmem hid hcols
      refine ⟨rfl, rfl, hrowp, hrowc, ?_, ?_, ?_, ?_, by rw [hf]; rfl, hnew⟩
      · refine hnew.storedBooking_eq_some.mpr ⟨KeyedTable.mem_put.mpr (.inl ⟨rfl, ?_⟩), hrowp,
          hrowc⟩
        rw [hid]
        exact List.mem_map_of_mem hmem
      · intro propertyId clockId hne
        refine setBooking_storedBooking_other hstore hmem hid hcols ?_
        rw [BookingRow.columns, hpid, hclock]
        exact hne
      · intro old hold
        rw [hf] at hold
        cases hold
        exact hid
      · intro hnone
        rw [hf] at hnone
        cases hnone

theorem currentAssignment_eq {s : DbSession H} (hs : s.Shows (·.assignments) s.live.assignments)
    (bookingId : UUID) : currentAssignment s bookingId = s.live.currentOf bookingId := by
  unfold currentAssignment
  rw [Session.select_of_shows hs, List.head?_filter]
  rfl

def mappedRoomId (rows : RegistryRows) (b : NormalizedBooking) : Option UUID :=
  (resolveRoom rows b).map (·.id)

structure Assigned (base : AppRuntime H) (rows : RegistryRows) (booking : BookingRow)
    (b : NormalizedBooking) (s s' : DbSession H) (change : AssignmentChange) : Prop where
  writes : WritesStays s s'
  flushed : s'.flushed = s.flushed
  bookings : s'.live.bookings = s.live.bookings
  others : ∀ bookingId, bookingId ≠ booking.id →
    s'.live.currentOf bookingId = s.live.currentOf bookingId
  own : (s'.live.currentOf booking.id).map assignmentRowIdentity = assignmentIdentity b
  ownRoom : ∀ a, s'.live.currentOf booking.id = some a → a.roomId = mappedRoomId rows b
  moved : (s.live.currentOf booking.id).map assignmentRowIdentity ≠ assignmentIdentity b →
    ∀ roomId, (∃ a, s.live.currentOf booking.id = some a ∧ a.roomId = some roomId) ∨
      (assignmentIdentity b ≠ none ∧ mappedRoomId rows b = some roomId) →
      roomId ∈ change.affectedRoomIds
  currentRoomId : change.currentRoomId =
    if assignmentIdentity b = none then none else mappedRoomId rows b
  columns : ∃ pending : List AssignmentRow, s'.live.assignments.map
      (fun a => (a.bookingId, assignmentRowIdentity a)) =
    s.live.assignments.map (fun a => (a.bookingId, assignmentRowIdentity a)) ++
      pending.map (fun a => (a.bookingId, assignmentRowIdentity a))
  store : StaysStore base s'.live

theorem endAssignment_revises (a : AssignmentRow) (observedAt : Instant) :
    Revises (endAssignment a observedAt) a := ⟨rfl, rfl, rfl⟩

theorem setAssignment_columns {db : Db H} {a new : AssignmentRow} (hstore : StaysStore base db)
    (ha : a ∈ db.assignments) (hr : Revises new a) :
    (db.setAssignment new).assignments.map (fun a => (a.bookingId, assignmentRowIdentity a)) =
      db.assignments.map (fun a => (a.bookingId, assignmentRowIdentity a)) :=
  KeyedTable.map_put hstore.assignmentIds.nodup ha hr.id (by rw [hr.bookingId, hr.identity])

theorem removeAssignment_spec {s : DbSession H} {booking : BookingRow} {b : NormalizedBooking}
    {current : AssignmentRow} (hstore : StaysStore base s.live)
    (hc : s.live.currentOf booking.id = some current) (hb : assignmentIdentity b = none) :
    Assigned base rows booking b s
      (removeAssignment rt rows s booking current observedAt correlationId).2
      (removeAssignment rt rows s booking current observedAt correlationId).1 := by
  obtain ⟨hmem, hid, hcurrent⟩ := hstore.currentOf_eq_some.mp hc
  have hr := endAssignment_revises current observedAt
  have hnone := setAssignment_currentOf_ended hstore hmem hcurrent hr rfl hid
  have hnew := setAssignment_store hstore hmem hcurrent hr
  refine ⟨?_, rfl, rfl, ?_, ?_, ?_, ?_, ?_, ⟨[], ?_⟩, ?_⟩
  · exact (WritesStays.setAssignment s _).trans (.audit _ _ _ _ _ _)
  · intro bookingId hne
    exact setAssignment_currentOf_other hstore hmem hr (hid ▸ hne)
  · change ((s.live.setAssignment _).currentOf booking.id).map _ = _
    rw [hnone, hb]
    rfl
  · intro a ha
    change (s.live.setAssignment _).currentOf booking.id = some a at ha
    rw [hnone] at ha
    cases ha
  · rintro - roomId (⟨a, ha, hroom⟩ | ⟨hne, -⟩)
    · rw [hc] at ha
      cases ha
      simp [removeAssignment, hroom]
    · exact absurd hb hne
  · simp [removeAssignment, hb]
  · rw [List.map_nil, List.append_nil]
    exact setAssignment_columns hstore hmem hr
  · exact hnew.of_tables rfl (fun _ h => h) (Nat.le_succ _)

theorem keepAssignment_spec {s : DbSession H} {booking : BookingRow} {b : NormalizedBooking}
    {current : AssignmentRow} (hstore : StaysStore base s.live)
    (hc : s.live.currentOf booking.id = some current)
    (hb : assignmentIdentity b = some (assignmentRowIdentity current)) :
    Assigned base rows booking b s (keepAssignment s current (mappedRoomId rows b)).2
      (keepAssignment s current (mappedRoomId rows b)).1 := by
  obtain ⟨hmem, hid, hcurrent⟩ := hstore.currentOf_eq_some.mp hc
  unfold keepAssignment
  split
  · have hr : Revises { current with roomId := mappedRoomId rows b } current := ⟨rfl, rfl, rfl⟩
    have hkept := setAssignment_currentOf_kept hstore hmem hcurrent hr hcurrent hid
    refine ⟨.setAssignment s _, rfl, rfl, ?_, ?_, ?_, ?_, ?_, ⟨[], ?_⟩, ?_⟩
    · intro bookingId hne
      exact setAssignment_currentOf_other hstore hmem hr (hid ▸ hne)
    · change ((s.live.setAssignment _).currentOf booking.id).map _ = _
      rw [hkept, hb]
      rfl
    · intro a ha
      change (s.live.setAssignment _).currentOf booking.id = some a at ha
      rw [hkept] at ha
      cases ha
      rfl
    · intro hne
      rw [hc, hb] at hne
      exact absurd rfl hne
    · simp [hb]
    · simpa using setAssignment_columns hstore hmem hr
    · exact setAssignment_store hstore hmem hcurrent hr
  · next hroom =>
      have hroom : current.roomId = mappedRoomId rows b := by simpa using hroom
      refine ⟨.refl s, rfl, rfl, fun _ _ => rfl, ?_, ?_, ?_, ?_, ⟨[], by simp⟩, hstore⟩
      · simp [hc, hb]
      · intro a ha
        rw [hc] at ha
        cases ha
        exact hroom
      · intro hne
        rw [hc, hb] at hne
        exact absurd rfl hne
      · simp [hb, hroom]

variable (observedAt) in
theorem endCurrent_spec {s : DbSession H} (hstore : StaysStore base s.live) {bookingId : UUID}
    {current : Option AssignmentRow} (hc : s.live.currentOf bookingId = current) :
    WritesStays s (endCurrent s current observedAt) ∧
      (endCurrent s current observedAt).flushed = s.flushed ∧
      (endCurrent s current observedAt).live.bookings = s.live.bookings ∧
      (∀ k, k ≠ bookingId →
        (endCurrent s current observedAt).live.currentOf k = s.live.currentOf k) ∧
      (endCurrent s current observedAt).live.currentOf bookingId = none ∧
      (endCurrent s current observedAt).live.assignments.map
          (fun a => (a.bookingId, assignmentRowIdentity a)) =
        s.live.assignments.map (fun a => (a.bookingId, assignmentRowIdentity a)) ∧
      StaysStore base (endCurrent s current observedAt).live := by
  cases current with
  | none => exact ⟨.refl s, rfl, rfl, fun _ _ => rfl, hc, rfl, hstore⟩
  | some a =>
      obtain ⟨hmem, hid, hcurrent⟩ := hstore.currentOf_eq_some.mp hc
      have hr := endAssignment_revises a observedAt
      refine ⟨.setAssignment s _, rfl, rfl, ?_, ?_, ?_, ?_⟩
      · intro k hne
        exact setAssignment_currentOf_other hstore hmem hr (hid ▸ hne)
      · exact setAssignment_currentOf_ended hstore hmem hcurrent hr rfl hid
      · exact setAssignment_columns hstore hmem hr
      · exact setAssignment_store hstore hmem hcurrent hr

variable (rt rows observedAt correlationId) in
theorem auditNewAssignment_keeps (booking : BookingRow) (b : NormalizedBooking)
    (room : Option RoomRow) (s : DbSession H) :
    WritesStays s (auditNewAssignment rt rows booking b room observedAt correlationId s) ∧
      (auditNewAssignment rt rows booking b room observedAt correlationId s).flushed =
        s.flushed ∧
      (auditNewAssignment rt rows booking b room observedAt correlationId s).live.stays =
        s.live.stays := by
  unfold auditNewAssignment
  split
  · exact ⟨(WritesStays.audit s _ _ _ _ _).trans (.audit _ _ _ _ _ _), rfl, rfl⟩
  · exact ⟨.audit s _ _ _ _ _, rfl, rfl⟩

theorem assignmentIdentity_some {b : NormalizedBooking}
    {identity : Option String × Option String} (h : assignmentIdentity b = some identity) :
    identity = (b.physicalRoomId, b.physicalRoomNumber) ∧
      (truthy b.physicalRoomId || truthy b.physicalRoomNumber) = true := by
  unfold assignmentIdentity at h
  split at h
  · next hplaced =>
      cases h
      exact ⟨rfl, hplaced⟩
  · cases h

theorem replaceAssignment_spec (hinj : base.uuid4.Injective) (hu : rt.uuid4 = base.uuid4)
    {s : DbSession H} {booking : BookingRow} {b : NormalizedBooking}
    {current : Option AssignmentRow} (hstore : StaysStore base s.live)
    (hc : s.live.currentOf booking.id = current) (hbooking : booking ∈ s.live.bookings)
    {identity : Option String × Option String} (hb : assignmentIdentity b = some identity) :
    Assigned base rows booking b s
      (replaceAssignment rt rows s booking b current (resolveRoom rows b) observedAt
        correlationId).2
      (replaceAssignment rt rows s booking b current (resolveRoom rows b) observedAt
        correlationId).1 := by
  obtain ⟨hidentity, hplaced⟩ := assignmentIdentity_some hb
  obtain ⟨hw, hf, hbookings, hothers, hnone, hcols, hended⟩ :=
    endCurrent_spec observedAt hstore hc
  unfold replaceAssignment
  generalize endCurrent s current observedAt = m at hw hf hbookings hothers hnone hcols hended
  dsimp only
  generalize hnew : newAssignmentRow rt m.live booking b (resolveRoom rows b) observedAt = new
  have hid : new.id = base.uuid4 m.live.drawn := by rw [← hnew, ← hu]; rfl
  have hnb : new.bookingId = booking.id := by rw [← hnew]; rfl
  have hni : assignmentRowIdentity new = identity := by rw [← hnew, hidentity]; rfl
  have hnr : new.roomId = mappedRoomId rows b := by rw [← hnew]; rfl
  have hnc : new.isCurrent = true := by rw [← hnew]; rfl
  have hnp : (truthy new.clockRoomId || truthy new.physicalRoomNumber) = true := by
    rw [← hnew]; exact hplaced
  have hadded := addAssignment_store hinj hended hid (hnb ▸ hnone) hnp
    (by rw [hnb, hbookings]; exact List.mem_map_of_mem hbooking)
  have hown := addAssignment_currentOf m.live hnc (hnb ▸ hnone)
  rw [hnb] at hown
  obtain ⟨hwa, hfa, hsa⟩ := auditNewAssignment_keeps rt rows observedAt correlationId booking b
    (resolveRoom rows b) (m.modify fun db => db.addAssignment
      (newAssignmentRow rt db booking b (resolveRoom rows b) observedAt))
  simp only [Session.live_modify, hnew, Db.stays, Prod.mk.injEq] at hsa
  have hcurrentOf : ∀ k, (auditNewAssignment rt rows booking b (resolveRoom rows b) observedAt
      correlationId (m.modify fun db => db.addAssignment (newAssignmentRow rt db booking b
        (resolveRoom rows b) observedAt))).live.currentOf k =
        (m.live.addAssignment new).currentOf k := by
    intro k
    unfold Db.currentOf
    rw [hsa.2]
  refine ⟨?_, hfa.trans hf, hsa.1.trans hbookings, ?_, ?_, ?_, ?_, ?_, ⟨[new], ?_⟩, ?_⟩
  · refine (hw.trans ?_).trans hwa
    exact .modify m ⟨rfl, rfl, Nat.le_succ _⟩ rfl
  · intro k hne
    rw [hcurrentOf, addAssignment_currentOf_other _ (hnb ▸ hne), hothers k hne]
  · rw [hcurrentOf, hown, Option.map_some, hni, hb]
  · intro a ha
    rw [hcurrentOf, hown] at ha
    cases ha
    exact hnr
  · rintro - roomId (⟨a, ha, hroom⟩ | ⟨-, hroom⟩)
    · rw [hc] at ha
      refine List.mem_append_left _ ?_
      simp [ha, hroom]
    · refine List.mem_append_right _ ?_
      rw [mappedRoomId] at hroom
      simp [hroom]
  · rw [hb]
    rfl
  · rw [hsa.2]
    simp only [Db.addAssignment, List.map_append, hcols]
  · exact hadded.of_tables (Prod.ext hsa.1 hsa.2)
      (fun id h => by rw [hwa.registry.propertyColumns]; exact h) hwa.registry.drawn

variable (rows observedAt correlationId) in
theorem syncAssignment_spec (hinj : base.uuid4.Injective) (hu : rt.uuid4 = base.uuid4)
    {s : DbSession H} (hs : s.Shows (·.assignments) s.live.assignments)
    (hstore : StaysStore base s.live) {booking : BookingRow}
    (hbooking : booking ∈ s.live.bookings) (b : NormalizedBooking) :
    Assigned base rows booking b s
      (syncAssignment rt rows s booking b observedAt correlationId).2
      (syncAssignment rt rows s booking b observedAt correlationId).1 := by
  unfold syncAssignment
  rw [currentAssignment_eq hs]
  cases hb : assignmentIdentity b with
  | none =>
      cases hc : s.live.currentOf booking.id with
      | none =>
          refine ⟨.refl s, rfl, rfl, fun _ _ => rfl, ?_, ?_, ?_, ?_, ⟨[], by simp⟩, hstore⟩
          · simp [hc, hb]
          · intro a ha
            rw [hc] at ha
            cases ha
          · intro hne
            rw [hc, hb] at hne
            exact absurd rfl hne
          · simp [hb]
      | some current => exact removeAssignment_spec hstore hc hb
  | some identity =>
      cases hc : s.live.currentOf booking.id with
      | none => exact replaceAssignment_spec hinj hu hstore hc hbooking hb
      | some current =>
          dsimp only
          split
          · next hsame => exact keepAssignment_spec hstore hc (hb.trans (congrArg some hsame.symm))
          · exact replaceAssignment_spec hinj hu hstore hc hbooking hb

theorem auditIfWithoutRoom_keeps {s : DbSession H} {booking : BookingRow}
    {b : NormalizedBooking} {out : ℕ × DbSession H}
    (h : auditIfWithoutRoom rt rows s booking b observedAt correlationId = .ok out) :
    WritesStays s out.2 ∧ out.2.flushed = s.flushed ∧ out.2.live.stays = s.live.stays := by
  unfold auditIfWithoutRoom at h
  split at h
  · cases h
    exact ⟨.refl s, rfl, rfl⟩
  · unfold auditUnassignedIfNeeded at h
    obtain ⟨evaluation, -, h⟩ := bind_ok h
    split at h
    · cases h
      exact ⟨.refl s, rfl, rfl⟩
    · cases h
      exact ⟨.audit s _ _ _ _ _, rfl, rfl⟩

def payloadChanged (stored : Option BookingRow) (b : NormalizedBooking) : Bool :=
  match stored with
  | none => true
  | some row => row.payloadHash ≠ b.payloadHash

variable (rt observedAt) in
theorem upsertBooking_row {s : DbSession H} (hs : s.Shows (·.bookings) s.live.bookings)
    (property : PropertyRow) (b : NormalizedBooking) :
    (upsertBooking rt property s b observedAt).1 =
        upsertedRow rt.zone property (s.live.storedBooking property.id b.clockBookingId)
          (rt.uuid4 s.live.drawn) b observedAt ∧
      (upsertBooking rt property s b observedAt).2.1 =
        payloadChanged (s.live.storedBooking property.id b.clockBookingId) b := by
  cases hf : s.live.storedBooking property.id b.clockBookingId with
  | none => rw [upsertBooking_new hs hf]; exact ⟨rfl, rfl⟩
  | some stored => rw [upsertBooking_stored hs hf]; exact ⟨rfl, rfl⟩

theorem Assigned.announce {booking : BookingRow} {b : NormalizedBooking} {s s' s'' : DbSession H}
    {change : AssignmentChange} (h : Assigned base rows booking b s s' change)
    (hw : WritesStays s' s'') (hf : s''.flushed = s'.flushed)
    (hs : s''.live.stays = s'.live.stays) : Assigned base rows booking b s s'' change := by
  simp only [Db.stays, Prod.mk.injEq] at hs
  have hcurrentOf : ∀ k, s''.live.currentOf k = s'.live.currentOf k := by
    intro k
    unfold Db.currentOf
    rw [hs.2]
  refine ⟨h.writes.trans hw, hf.trans h.flushed, hs.1.trans h.bookings, ?_, ?_, ?_, h.moved,
    h.currentRoomId, ?_, ?_⟩
  · intro k hne
    rw [hcurrentOf, h.others k hne]
  · rw [hcurrentOf, h.own]
  · intro a ha
    rw [hcurrentOf] at ha
    exact h.ownRoom a ha
  · rw [hs.2]
    exact h.columns
  · exact h.store.of_tables (Prod.ext hs.1 hs.2)
      (fun id hid => by rw [hw.registry.propertyColumns]; exact hid) hw.registry.drawn

structure Processed (base rt : AppRuntime H) (rows : RegistryRows) (b : NormalizedBooking)
    (observedAt : Instant) (p p' : SyncProgress H) (m : DbSession H) (row : BookingRow)
    (change : AssignmentChange) : Prop where
  propertyId : b.propertyId = rt.registry.property.key
  upserted : Upserted base rows.property b p.session m row
  upsertWrites : WritesStays p.session m
  written : row = upsertedRow rt.zone rows.property
    (p.session.live.storedBooking rows.property.id b.clockBookingId)
    (rt.uuid4 p.session.live.drawn) b observedAt
  assigned : Assigned base rows row b m p'.session change
  affected : p'.affectedRoomIds = p.affectedRoomIds ++ change.affectedRoomIds ++
    if payloadChanged (p.session.live.storedBooking rows.property.id b.clockBookingId) b then
      change.currentRoomId.toList else []

theorem processBooking_change (hinj : base.uuid4.Injective) (hu : rt.uuid4 = base.uuid4)
    {p p' : SyncProgress H} {b : NormalizedBooking}
    (h : processBooking rt rows observedAt correlationId p b = .ok p')
    (hs : p.session.Shows (·.bookings) p.session.live.bookings)
    (hstore : StaysStore base p.session.live)
    (hp : rows.property.id ∈ p.session.live.propertyColumns.map Prod.fst) :
    ∃ m row change, Processed base rt rows b observedAt p p' m row change ∧
      change = (syncAssignment rt rows m row b observedAt correlationId).1 := by
  unfold processBooking at h
  obtain ⟨_, hproperty, h⟩ := bind_ok h
  have hup := upsertBooking_spec observedAt hinj hu hs hstore hp b
  have hwrites := upsertBooking_writes rt observedAt (s := p.session) rows.property b
  obtain ⟨hrow, hchanged⟩ := upsertBooking_row rt observedAt hs rows.property b
  generalize upsertBooking rt rows.property p.session b observedAt = up
    at h hup hwrites hrow hchanged
  obtain ⟨row, changed, m⟩ := up
  dsimp only at h hup hwrites hrow hchanged
  have hmem := (hup.store.storedBooking_eq_some.mp hup.stored).1
  have hsynced : m.Shows (·.assignments) m.live.assignments := ⟨by rw [hup.synced], rfl⟩
  have hassign := syncAssignment_spec rows observedAt correlationId hinj hu hsynced hup.store
    hmem b
  generalize hcall : syncAssignment rt rows m row b observedAt correlationId = assigned
    at h hassign
  obtain ⟨change, t⟩ := assigned
  dsimp only at h hassign
  obtain ⟨out, haudit, h⟩ := bind_ok h
  cases h
  obtain ⟨hw, hf, hst⟩ := auditIfWithoutRoom_keeps haudit
  refine ⟨m, row, change, ⟨?_, hup, hwrites, hrow, hassign.announce hw hf hst, ?_⟩,
    by rw [hcall]⟩
  · unfold validateProperty at hproperty
    split at hproperty
    · cases hproperty
    · next hne => exact not_not.mp hne
  · rw [← hchanged]

theorem processBooking_ok (hinj : base.uuid4.Injective) (hu : rt.uuid4 = base.uuid4)
    {p p' : SyncProgress H} {b : NormalizedBooking}
    (h : processBooking rt rows observedAt correlationId p b = .ok p')
    (hs : p.session.Shows (·.bookings) p.session.live.bookings)
    (hstore : StaysStore base p.session.live)
    (hp : rows.property.id ∈ p.session.live.propertyColumns.map Prod.fst) :
    ∃ m row change, Processed base rt rows b observedAt p p' m row change := by
  obtain ⟨m, row, change, hprocessed, -⟩ := processBooking_change hinj hu h hs hstore hp
  exact ⟨m, row, change, hprocessed⟩

theorem Processed.bookings {b : NormalizedBooking} {p p' : SyncProgress H} {m : DbSession H}
    {row : BookingRow} {change : AssignmentChange}
    (h : Processed base rt rows b observedAt p p' m row change) :
    p'.session.Shows (·.bookings) p'.session.live.bookings := by
  refine ⟨?_, rfl⟩
  rw [h.assigned.flushed, h.upserted.synced, h.assigned.bookings]

theorem Processed.writes {b : NormalizedBooking} {p p' : SyncProgress H} {m : DbSession H}
    {row : BookingRow} {change : AssignmentChange}
    (h : Processed base rt rows b observedAt p p' m row change) :
    WritesStays p.session p'.session := h.upsertWrites.trans h.assigned.writes

theorem Processed.affected_grow {p p' : SyncProgress H} {b : NormalizedBooking}
    {m : DbSession H} {row : BookingRow} {change : AssignmentChange}
    (h : Processed base rt rows b observedAt p p' m row change) :
    p.affectedRoomIds ⊆ p'.affectedRoomIds := by
  intro roomId hroomId
  rw [h.affected]
  exact List.mem_append_left _ (List.mem_append_left _ hroomId)

structure LoopSession (base : AppRuntime H) (rows : RegistryRows) (s t : DbSession H) : Prop where
  writes : WritesStays s t
  bookings : t.Shows (·.bookings) t.live.bookings
  stays : StaysStore base t.live
  property : rows.property.id ∈ t.live.propertyColumns.map Prod.fst

theorem LoopSession.step (hinj : base.uuid4.Injective) (hu : rt.uuid4 = base.uuid4)
    {s : DbSession H} {p p' : SyncProgress H} {b : NormalizedBooking}
    (h : LoopSession base rows s p.session)
    (hb : processBooking rt rows observedAt correlationId p b = .ok p') :
    LoopSession base rows s p'.session ∧
      ∃ m row change, Processed base rt rows b observedAt p p' m row change := by
  obtain ⟨m, row, change, hp⟩ := processBooking_ok hinj hu hb h.bookings h.stays h.property
  refine ⟨⟨h.writes.trans hp.writes, hp.bookings, hp.assigned.store, ?_⟩, m, row, change, hp⟩
  rw [hp.writes.registry.propertyColumns]
  exact h.property

theorem LoopSession.run (hinj : base.uuid4.Injective) (hu : rt.uuid4 = base.uuid4)
    {s : DbSession H} {p p' : SyncProgress H} {bookings : List NormalizedBooking}
    (h : LoopSession base rows s p.session)
    (hb : bookings.foldlM (processBooking rt rows observedAt correlationId) p = .ok p') :
    LoopSession base rows s p'.session :=
  foldlM_invariant (I := fun p : SyncProgress H => LoopSession base rows s p.session)
    (fun _ _ _ _ hstep hi => (hi.step hinj hu hstep).1) hb h

end ClockOrchestrator
