import ClockOrchestrator.Clock.SettledStays

namespace ClockOrchestrator

open Python UnitOfWork Replay

variable {H : Type} {rt base : AppRuntime H} {rows rows' : RegistryRows} {observedAt : Instant}
  {correlationId : UUID} {z : Zone} {db db' : Db H} {s : DbSession H} {p p' : SyncProgress H}
  {entries done : List NormalizedBooking} {clockBookingId : String} {b last : NormalizedBooking}

def lastEntry (clockBookingId : String) (entries : List NormalizedBooking) :
    Option NormalizedBooking :=
  entries.reverse.find? (·.clockBookingId = clockBookingId)

theorem lastEntry_concat (clockBookingId : String) (entries : List NormalizedBooking)
    (b : NormalizedBooking) :
    lastEntry clockBookingId (entries ++ [b]) =
      if b.clockBookingId = clockBookingId then some b else lastEntry clockBookingId entries := by
  unfold lastEntry
  rw [List.reverse_append, List.reverse_singleton, List.singleton_append, List.find?_cons]
  by_cases h : b.clockBookingId = clockBookingId <;> simp [h]

theorem lastEntry_some (h : lastEntry clockBookingId entries = some last) :
    last ∈ entries ∧ last.clockBookingId = clockBookingId :=
  ⟨List.mem_reverse.mp (List.mem_of_find?_eq_some h), by simpa using List.find?_some h⟩

theorem exists_lastEntry (hb : b ∈ entries) : ∃ last, lastEntry b.clockBookingId entries = some last := by
  refine Option.isSome_iff_exists.mp (List.find?_isSome.mpr ⟨b, List.mem_reverse.mpr hb, ?_⟩)
  simp

theorem lastEntry_twice (clockBookingId : String) (entries : List NormalizedBooking) :
    lastEntry clockBookingId (entries ++ entries) = lastEntry clockBookingId entries := by
  unfold lastEntry
  rw [List.reverse_append, List.find?_append, Option.or_self]

def SettledBy (z : Zone) (rows : RegistryRows) (observedAt : Instant) (db : Db H)
    (entries : List NormalizedBooking) : Prop :=
  ∀ clockBookingId last, lastEntry clockBookingId entries = some last →
    ∃ row current, Settled z rows observedAt db last row current

theorem SettledBy.nil (db : Db H) : SettledBy z rows observedAt db [] := by
  intro clockBookingId last hlast
  cases hlast

theorem SettledBy.congr (h : SettledBy z rows observedAt db entries) (hstays : db'.stays = db.stays) :
    SettledBy z rows observedAt db' entries := by
  intro clockBookingId last hlast
  obtain ⟨row, current, hsettled⟩ := h clockBookingId last hlast
  exact ⟨row, current, hsettled.congr (stay_of_stays hstays _ _)⟩

section Step

variable {m : DbSession H} {row : BookingRow} {change : AssignmentChange}

theorem SettledBy.step (h : SettledBy rt.zone rows observedAt p.session.live done)
    (hp : Processed base rt rows b observedAt p p' m row change) :
    SettledBy rt.zone rows observedAt p'.session.live (done ++ [b]) := by
  intro clockBookingId last hlast
  rw [lastEntry_concat] at hlast
  split at hlast
  · cases hlast
    exact ⟨row, _, hp.settles⟩
  · next hne =>
      obtain ⟨old, current, hsettled⟩ := h clockBookingId last hlast
      have hkey := (lastEntry_some hlast).2
      exact ⟨old, current, hp.keeps_settled (fun heq => hne (heq.symm.trans hkey)) hsettled⟩

theorem Processed.covers (hp : Processed base rt rows b observedAt p p' m row change)
    (h : SettledBy rt.zone rows observedAt p.session.live done)
    (hcovers : Covers (·.clockBookingId) signatureOf (placeOf rows) done p.affectedRoomIds) :
    Covers (·.clockBookingId) signatureOf (placeOf rows) (done ++ [b]) p'.affectedRoomIds := by
  refine hcovers.concat hp.affected_grow (placeOf_of_signature rows) fun e he hkey => ?_
  obtain ⟨last, hlast⟩ := exists_lastEntry he
  obtain ⟨old, current, hsettled⟩ := h _ _ hlast
  obtain ⟨hmem, hlastKey⟩ := lastEntry_some hlast
  have hkeys := hlastKey.trans hkey
  exact ⟨last, hmem, hkeys, hp.reports hkeys hsettled⟩

end Step

theorem LoopSession.settles (hinj : base.uuid4.Injective) (hu : rt.uuid4 = base.uuid4)
    (h : LoopSession base rows s p.session)
    (hb : entries.foldlM (processBooking rt rows observedAt correlationId) p = .ok p')
    (hsettled : SettledBy rt.zone rows observedAt p.session.live done)
    (hcovers : Covers (·.clockBookingId) signatureOf (placeOf rows) done p.affectedRoomIds) :
    SettledBy rt.zone rows observedAt p'.session.live (done ++ entries) ∧
      Covers (·.clockBookingId) signatureOf (placeOf rows) (done ++ entries)
        p'.affectedRoomIds := by
  induction entries generalizing p done with
  | nil =>
      cases hb
      rw [List.append_nil]
      exact ⟨hsettled, hcovers⟩
  | cons b rest ih =>
      rw [List.foldlM_cons] at hb
      obtain ⟨q, hq, hrest⟩ := bind_ok hb
      obtain ⟨hloop, m, row, change, hp⟩ := h.step hinj hu hq
      have hstep := ih hloop hrest (hsettled.step hp) (hp.covers hsettled hcovers)
      rwa [List.append_assoc, List.singleton_append] at hstep

def BookingRow.core (row : BookingRow) : UUID × UUID × String × Instant :=
  (row.id, row.propertyId, row.clockBookingId, row.firstSeenAt)

theorem Processed.cores {m : DbSession H} {row old : BookingRow} {change : AssignmentChange}
    (hp : Processed base rt rows b observedAt p p' m row change)
    (hstore : StaysStore base p.session.live)
    (hstored : p.session.live.storedBooking rows.property.id b.clockBookingId = some old) :
    p'.session.live.bookings.map (·.core) = p.session.live.bookings.map (·.core) := by
  have htable := hp.upserted.table
  have hwritten := hp.written
  rw [hstored] at htable hwritten
  rw [hp.assigned.bookings, show m.live.bookings = _ from htable]
  refine KeyedTable.map_put hstore.bookingIds.nodup (hstore.storedBooking_eq_some.mp hstored).1
    (hp.upserted.sameId old hstored) ?_
  rw [hwritten]
  rfl

structure Replaying (z : Zone) (rows : RegistryRows) (observedAt : Instant)
    (entries : List NormalizedBooking) (reported : List UUID) (db : Db H)
    (done : List NormalizedBooking) (p : SyncProgress H) : Prop where
  settled : SettledBy z rows observedAt p.session.live (entries ++ done)
  reported : p.affectedRoomIds ⊆ reported
  cores : p.session.live.bookings.map (·.core) = db.bookings.map (·.core)
  others : ∀ clockBookingId, lastEntry clockBookingId entries = none →
    p.session.live.stay rows.property.id clockBookingId =
      db.stay rows.property.id clockBookingId

theorem Replaying.step {reported : List UUID} {q : SyncProgress H} {m : DbSession H}
    {row : BookingRow} {change : AssignmentChange}
    (h : Replaying rt.zone rows observedAt entries reported db done p)
    (hdone : done ⊆ entries) (hb : b ∈ entries)
    (hcovers : Covers (·.clockBookingId) signatureOf (placeOf rows) entries reported)
    (hstore : StaysStore base p.session.live)
    (hp : Processed base rt rows b observedAt p q m row change)
    (hchange : change = (syncAssignment rt rows m row b observedAt correlationId).1) :
    Replaying rt.zone rows observedAt entries reported db (done ++ [b]) q := by
  obtain ⟨last, hlast⟩ := exists_lastEntry (List.mem_append_left done hb)
  obtain ⟨old, current, hsettled⟩ := h.settled _ _ hlast
  obtain ⟨hmem, hkey⟩ := lastEntry_some hlast
  have hlastMem : last ∈ entries := by
    rcases List.mem_append.mp hmem with hmem | hmem
    · exact hmem
    · exact hdone hmem
  refine ⟨?_, fun roomId hroom => ?_, ?_, fun other hnone => ?_⟩
  · rw [← List.append_assoc]
    exact h.settled.step hp
  · rcases hp.reports_only hchange hkey hsettled hroom with hroom | ⟨hsig, hroom | hroom⟩
    · exact h.reported hroom
    · exact hcovers last hlastMem b hb hkey hsig roomId hroom
    · exact hcovers b hb last hlastMem hkey.symm (Ne.symm hsig) roomId hroom
  · exact (hp.cores hstore (hp.finds hkey hsettled).1).trans h.cores
  · rw [← h.others other hnone]
    refine hp.stay_other ?_
    rintro rfl
    obtain ⟨found, hfound⟩ := exists_lastEntry hb
    rw [hnone] at hfound
    cases hfound

theorem LoopSession.replays (hinj : base.uuid4.Injective) (hu : rt.uuid4 = base.uuid4)
    {reported : List UUID} {todo : List NormalizedBooking}
    (h : LoopSession base rows s p.session)
    (hb : todo.foldlM (processBooking rt rows observedAt correlationId) p = .ok p')
    (hcovers : Covers (·.clockBookingId) signatureOf (placeOf rows) entries reported)
    (hdone : done ⊆ entries) (htodo : todo ⊆ entries)
    (hreplay : Replaying rt.zone rows observedAt entries reported db done p) :
    Replaying rt.zone rows observedAt entries reported db (done ++ todo) p' := by
  induction todo generalizing p done with
  | nil =>
      cases hb
      rw [List.append_nil]
      exact hreplay
  | cons b rest ih =>
      rw [List.foldlM_cons] at hb
      obtain ⟨q, hq, hrest⟩ := bind_ok hb
      obtain ⟨hloop, -⟩ := h.step hinj hu hq
      obtain ⟨m, row, change, hp, hchange⟩ :=
        processBooking_change hinj hu hq h.bookings h.stays h.property
      have hentry : b ∈ entries := htodo List.mem_cons_self
      have hdone' : done ++ [b] ⊆ entries :=
        List.append_subset.mpr ⟨hdone, by simpa using hentry⟩
      have hstep := ih hloop hrest hdone' (fun _ hx => htodo (List.mem_cons_of_mem b hx))
        (hreplay.step hdone hentry hcovers h.stays hp hchange)
      rwa [List.append_assoc, List.singleton_append] at hstep

theorem updatedBookingRow_of_core {row row' : BookingRow} (h : row.core = row'.core)
    (b : NormalizedBooking) :
    updatedBookingRow z row b observedAt = updatedBookingRow z row' b observedAt := by
  simp only [BookingRow.core, Prod.mk.injEq] at h
  simp only [updatedBookingRow, newBookingRow, h]

theorem StaysStore.stay_of_mem (h : StaysStore base db) {propertyId : UUID} {row : BookingRow}
    (hrow : row ∈ db.bookings) (hproperty : row.propertyId = propertyId) :
    db.stay propertyId row.clockBookingId = some (row, db.currentOf row.id) := by
  unfold Db.stay
  rw [h.storedBooking_eq_some.mpr ⟨hrow, hproperty, rfl⟩]
  rfl

theorem StaysStore.currentOf_unknown (h : StaysStore base db) {bookingId : UUID}
    (hnone : ∀ row ∈ db.bookings, row.id ≠ bookingId) : db.currentOf bookingId = none := by
  refine List.find?_eq_none.mpr fun a ha hcurrent => ?_
  simp only [Bool.and_eq_true, decide_eq_true_eq] at hcurrent
  obtain ⟨row, hrow, hid⟩ := List.mem_map.mp (h.assignmentBooking a ha)
  exact hnone row hrow (hid.trans hcurrent.1)

section Same

variable {reported : List UUID}
  (h : Replaying z rows observedAt entries reported db entries p)
  (hsettled : SettledBy z rows observedAt db entries) (hstore : StaysStore base db)
  (hstore' : StaysStore base p.session.live)
include h hsettled hstore hstore'

theorem Replaying.row_eq {row row' : BookingRow} (hrow : row ∈ db.bookings)
    (hrow' : row' ∈ p.session.live.bookings) (hproperty : row.propertyId = rows.property.id)
    (hcore : row'.core = row.core) :
    row' = row ∧ (p.session.live.currentOf row.id).map (·.placement) =
      (db.currentOf row.id).map (·.placement) := by
  simp only [BookingRow.core, Prod.mk.injEq] at hcore
  have hstay := hstore.stay_of_mem hrow hproperty
  have hstay' := hstore'.stay_of_mem hrow' (hcore.2.1.trans hproperty)
  rw [hcore.2.2.1] at hstay'
  cases hlast : lastEntry row.clockBookingId entries with
  | none =>
      have hsame := h.others _ hlast
      rw [hstay, hstay', Option.some.injEq, Prod.mk.injEq] at hsame
      refine ⟨hsame.1, ?_⟩
      rw [← hsame.2, hsame.1]
  | some last =>
      obtain ⟨found, current, hfound⟩ := hsettled _ _ hlast
      obtain ⟨found', current', hfound'⟩ := h.settled _ _ ((lastEntry_twice _ _).trans hlast)
      have hkey := (lastEntry_some hlast).2
      have heq := hfound.stay
      rw [hkey, hstay] at heq
      cases heq
      have heq' := hfound'.stay
      rw [hkey, hstay'] at heq'
      cases heq'
      have hrows : row' = row := by
        refine hfound'.written.trans (Eq.trans ?_ hfound.written.symm)
        exact updatedBookingRow_of_core (by simp [BookingRow.core, hcore]) last
      refine ⟨hrows, ?_⟩
      have hplaced := hfound'.placed
      rw [hrows] at hplaced
      exact hplaced.trans hfound.placed.symm

theorem Replaying.same (hproperty : ∀ row ∈ db.bookings, row.propertyId = rows.property.id) :
    p.session.live.bookings = db.bookings ∧ ∀ bookingId,
      (p.session.live.currentOf bookingId).map (·.placement) =
        (db.currentOf bookingId).map (·.placement) := by
  have hbookings : p.session.live.bookings = db.bookings := by
    have hrows := map_eq_of_keys (g := fun row => row) h.cores fun row' hrow' row hrow hcore =>
      (h.row_eq hsettled hstore hstore' hrow hrow' (hproperty row hrow) hcore).1
    rwa [List.map_id', List.map_id'] at hrows
  refine ⟨hbookings, fun bookingId => ?_⟩
  by_cases hknown : ∃ row ∈ db.bookings, row.id = bookingId
  · obtain ⟨row, hrow, rfl⟩ := hknown
    exact (h.row_eq hsettled hstore hstore' hrow (hbookings ▸ hrow) (hproperty row hrow) rfl).2
  · have hnone : ∀ row ∈ db.bookings, row.id ≠ bookingId :=
      fun row hrow hid => hknown ⟨row, hrow, hid⟩
    rw [hstore.currentOf_unknown hnone, hstore'.currentOf_unknown (hbookings.symm ▸ hnone)]

end Same

end ClockOrchestrator
