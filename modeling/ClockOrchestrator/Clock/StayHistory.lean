import ClockOrchestrator.Clock.SyncLoop

namespace ClockOrchestrator

open Python UnitOfWork

variable {H : Type} {rt base : AppRuntime H} {rows : RegistryRows} {observedAt : Instant}
  {correlationId : UUID} {db : Db H}

def Db.stay (db : Db H) (propertyId : UUID) (clockBookingId : String) :
    Option (BookingRow × Option AssignmentRow) :=
  (db.storedBooking propertyId clockBookingId).map fun row => (row, db.currentOf row.id)

theorem stay_of_stays {db' : Db H} (h : db'.stays = db.stays) (propertyId : UUID)
    (clockBookingId : String) :
    db'.stay propertyId clockBookingId = db.stay propertyId clockBookingId := by
  simp only [Db.stays, Prod.mk.injEq] at h
  unfold Db.stay Db.storedBooking Db.currentOf
  rw [h.1, h.2]

section Step

variable {p p' : SyncProgress H} {b : NormalizedBooking} {m : DbSession H} {row : BookingRow}
  {change : AssignmentChange}

theorem Processed.storedBooking (h : Processed base rt rows b observedAt p p' m row change)
    (propertyId : UUID) (clockBookingId : String) :
    p'.session.live.storedBooking propertyId clockBookingId =
      m.live.storedBooking propertyId clockBookingId := by
  unfold Db.storedBooking
  rw [h.assigned.bookings]

theorem Processed.currentBefore (h : Processed base rt rows b observedAt p p' m row change)
    (bookingId : UUID) : m.live.currentOf bookingId = p.session.live.currentOf bookingId := by
  unfold Db.currentOf
  rw [h.upserted.assignments]

theorem Processed.other_id (h : Processed base rt rows b observedAt p p' m row change)
    {clockBookingId : String} (hne : clockBookingId ≠ b.clockBookingId) {other : BookingRow}
    (hother : p.session.live.storedBooking rows.property.id clockBookingId = some other) :
    other.id ≠ row.id := by
  intro hid
  rw [← h.upserted.others _ _ (by simp [hne])] at hother
  obtain ⟨hmem, -, hclock⟩ := h.upserted.store.storedBooking_eq_some.mp hother
  obtain ⟨hmem', -, hclock'⟩ := h.upserted.store.storedBooking_eq_some.mp h.upserted.stored
  have heq := h.upserted.store.booking_unique hmem hmem' hid
  exact hne (by rw [← hclock, heq, hclock'])

theorem Processed.stay_other (h : Processed base rt rows b observedAt p p' m row change)
    {clockBookingId : String} (hne : clockBookingId ≠ b.clockBookingId) :
    p'.session.live.stay rows.property.id clockBookingId =
      p.session.live.stay rows.property.id clockBookingId := by
  unfold Db.stay
  rw [h.storedBooking, h.upserted.others _ _ (by simp [hne])]
  cases hs : p.session.live.storedBooking rows.property.id clockBookingId with
  | none => rfl
  | some other =>
      rw [Option.map_some, Option.map_some, h.assigned.others _ (h.other_id hne hs),
        h.currentBefore]

theorem Processed.stay_own (h : Processed base rt rows b observedAt p p' m row change) :
    p'.session.live.stay rows.property.id b.clockBookingId =
      some (row, p'.session.live.currentOf row.id) := by
  unfold Db.stay
  rw [h.storedBooking, h.upserted.stored]
  rfl

theorem Processed.stay_before (h : Processed base rt rows b observedAt p p' m row change) :
    ((p.session.live.stay rows.property.id b.clockBookingId).bind Prod.snd) =
      m.live.currentOf row.id := by
  unfold Db.stay
  rw [h.currentBefore]
  cases hs : p.session.live.storedBooking rows.property.id b.clockBookingId with
  | none =>
      rw [h.upserted.freshId hs]
      rfl
  | some old =>
      rw [h.upserted.sameId old hs]
      rfl

end Step

def Db.identityOf (db : Db H) (propertyId : UUID) (clockBookingId : String) :
    Option (Option String × Option String) :=
  ((db.stay propertyId clockBookingId).bind Prod.snd).map assignmentRowIdentity

theorem identityOf_of_stays {db' : Db H} (h : db'.stays = db.stays) (propertyId : UUID)
    (clockBookingId : String) :
    db'.identityOf propertyId clockBookingId = db.identityOf propertyId clockBookingId := by
  unfold Db.identityOf
  rw [stay_of_stays h]

def identityAfter (before : Option (Option String × Option String)) (clockBookingId : String)
    (bookings : List NormalizedBooking) : Option (Option String × Option String) :=
  match bookings.reverse.find? (·.clockBookingId = clockBookingId) with
  | some entry => assignmentIdentity entry
  | none => before

theorem identityAfter_cons (before : Option (Option String × Option String))
    (clockBookingId : String) (b : NormalizedBooking) (rest : List NormalizedBooking) :
    identityAfter before clockBookingId (b :: rest) =
      identityAfter (if b.clockBookingId = clockBookingId then assignmentIdentity b else before)
        clockBookingId rest := by
  unfold identityAfter
  rw [List.reverse_cons, List.find?_append]
  cases rest.reverse.find? (·.clockBookingId = clockBookingId) with
  | some entry => rfl
  | none =>
      by_cases h : b.clockBookingId = clockBookingId <;> simp [h]

theorem Processed.identityOf {p p' : SyncProgress H} {b : NormalizedBooking} {m : DbSession H}
    {row : BookingRow} {change : AssignmentChange}
    (h : Processed base rt rows b observedAt p p' m row change) (clockBookingId : String) :
    p'.session.live.identityOf rows.property.id clockBookingId =
      if b.clockBookingId = clockBookingId then assignmentIdentity b
      else p.session.live.identityOf rows.property.id clockBookingId := by
  unfold Db.identityOf
  split
  · next heq =>
      rw [← heq, h.stay_own]
      exact h.assigned.own
  · next hne => rw [h.stay_other (Ne.symm hne)]

theorem LoopSession.identityOf (hinj : base.uuid4.Injective) (hu : rt.uuid4 = base.uuid4)
    {s : DbSession H} {p p' : SyncProgress H} {bookings : List NormalizedBooking}
    (h : LoopSession base rows s p.session)
    (hb : bookings.foldlM (processBooking rt rows observedAt correlationId) p = .ok p')
    (clockBookingId : String) :
    p'.session.live.identityOf rows.property.id clockBookingId =
      identityAfter (p.session.live.identityOf rows.property.id clockBookingId) clockBookingId
        bookings := by
  induction bookings generalizing p with
  | nil =>
      cases hb
      rfl
  | cons b rest ih =>
      rw [List.foldlM_cons] at hb
      obtain ⟨q, hq, hrest⟩ := bind_ok hb
      obtain ⟨hloop, m, row, change, hp⟩ := h.step hinj hu hq
      rw [ih hloop hrest, hp.identityOf, identityAfter_cons]

section Load

theorem normalizedFromRow_congr (propertyKey : String) (row : BookingRow)
    {a a' : Option AssignmentRow}
    (h : a.map assignmentRowIdentity = a'.map assignmentRowIdentity) :
    normalizedFromRow propertyKey row a = normalizedFromRow propertyKey row a' := by
  cases a with
  | none =>
      cases a' with
      | none => rfl
      | some x' => cases h
  | some x =>
      cases a' with
      | none => cases h
      | some x' =>
          simp only [Option.map_some, Option.some.injEq, assignmentRowIdentity,
            Prod.mk.injEq] at h
          simp only [normalizedFromRow, Option.bind_some, h.1, h.2]

theorem assignmentIdentity_normalizedFromRow (propertyKey : String) (row : BookingRow)
    {a : Option AssignmentRow}
    (h : ∀ x, a = some x → (truthy x.clockRoomId || truthy x.physicalRoomNumber) = true) :
    assignmentIdentity (normalizedFromRow propertyKey row a) = a.map assignmentRowIdentity := by
  cases a with
  | none => rfl
  | some x =>
      have hplaced := h x rfl
      unfold assignmentIdentity
      exact if_pos hplaced

theorem StaysStore.currentOf_placed (h : StaysStore base db) {bookingId : UUID}
    (x : AssignmentRow) (hx : db.currentOf bookingId = some x) :
    (truthy x.clockRoomId || truthy x.physicalRoomNumber) = true :=
  h.placed x (h.currentOf_eq_some.mp hx).1

variable (propertyId : UUID)

theorem currentOf_of_load {row : BookingRow}
    (hrow : row ∈ db.bookings.filter (·.propertyId = propertyId)) :
    (db.assignments.filter fun a =>
        decide (a.bookingId ∈ (db.bookings.filter (·.propertyId = propertyId)).map (·.id)) &&
          a.isCurrent).find? (·.bookingId = row.id) = db.currentOf row.id := by
  rw [List.find?_filter]
  refine List.find?_congr fun a _ => ?_
  by_cases ha : a.bookingId = row.id
  · simp only [ha, List.mem_map_of_mem hrow, decide_true, Bool.true_and, and_true,
      Bool.decide_eq_true]
  · simp [ha]

theorem loadNormalizedBookings_start (a : Bool) (property : PropertyRow) (db : Db H) :
    (loadNormalizedBookings (Session.start a db) property).bookings =
      (db.bookings.filter (·.propertyId = property.id)).map fun row =>
        normalizedFromRow property.key row (db.currentOf row.id) := by
  have hb := Session.select_of_shows (Session.Shows.of_start a db (·.bookings))
  have ha := Session.select_of_shows (Session.Shows.of_start a db (·.assignments))
  unfold loadNormalizedBookings
  dsimp only
  rw [hb, ha]
  refine List.map_congr_left fun row hrow => ?_
  rw [currentOf_of_load property.id hrow]

theorem find?_map_identity (rows : List AssignmentRow) (bookingId : UUID) :
    (rows.find? (·.bookingId = bookingId)).map assignmentRowIdentity =
      ((rows.map fun a => (a.bookingId, assignmentRowIdentity a)).find?
        (·.1 = bookingId)).map Prod.snd := by
  rw [List.find?_map, Option.map_map]
  rfl

theorem loadNormalizedBookings_pending {s : DbSession H} (hauto : s.autoflush = false)
    (hbookings : s.Shows (·.bookings) s.live.bookings) {pending : List AssignmentRow}
    (hcolumns : s.live.assignments.map (fun a => (a.bookingId, assignmentRowIdentity a)) =
      s.flushed.assignments.map (fun a => (a.bookingId, assignmentRowIdentity a)) ++
        pending.map (fun a => (a.bookingId, assignmentRowIdentity a)))
    (property : PropertyRow) :
    (loadNormalizedBookings s property).bookings =
      (s.flushed.bookings.filter (·.propertyId = property.id)).map fun row =>
        normalizedFromRow property.key row (s.flushed.currentOf row.id) := by
  have hb := Session.select_of_shows hbookings
  have hflushed : s.flushed.bookings = s.live.bookings := hbookings.flushed
  unfold loadNormalizedBookings
  dsimp only
  rw [hb, ← hflushed]
  refine List.map_congr_left fun row hrow => normalizedFromRow_congr _ _ ?_
  rw [← currentOf_of_load property.id hrow, find?_map_identity, find?_map_identity]
  unfold Session.select
  rw [hauto, if_neg Bool.false_ne_true, selectRows_map_of_columns _ hcolumns]

end Load

end ClockOrchestrator
