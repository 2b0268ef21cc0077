import ClockOrchestrator.Clock.RecordedStays
import ClockOrchestrator.Domain.EvaluationInput
import ClockOrchestrator.Guarantees.SyncFreshness
import ClockOrchestrator.Guarantees.RoomMatching

namespace ClockOrchestrator

open Python UnitOfWork Thinning

variable {H : Type} {base rt : AppRuntime H} {db : Db H} {rows : RegistryRows}
  {observedAt : Instant} {correlationId : UUID}

structure ReportedTo (registry : RoomRegistry) (before : Option RecordedStay)
    (after : RecordedStay) (room : Room) : Prop where
  entered : drivesRoom room after.booking = true → registry.resolve after.booking = some room
  left : ∀ old, before = some old → drivesRoom room old.booking = true →
    assignmentIdentity old.booking ≠ assignmentIdentity after.booking → old.room = some room
  kept : ∀ old, before = some old → drivesRoom room old.booking = true →
    assignmentIdentity old.booking = assignmentIdentity after.booking →
    registry.resolve old.booking = some room
  hashed : ∀ old, before = some old →
    (drivesRoom room old.booking || drivesRoom room after.booking) = true →
    assignmentIdentity old.booking = assignmentIdentity after.booking →
    old.booking.payloadHash ≠ after.booking.payloadHash

def EntryTracked (view : NormalizedBooking → NormalizedBooking) (registry : RoomRegistry)
    (before : Option RecordedStay) (after : RecordedStay) : Prop :=
  (∃ old, before = some old ∧ view old.booking = view after.booking) ∨
    ∀ room ∈ registry.rooms, ReportedTo registry before after room

def EntriesTracked (view : NormalizedBooking → NormalizedBooking) (z : Zone)
    (registry : RoomRegistry) (observedAt : Instant) :
    (String → Option RecordedStay) → List NormalizedBooking → Prop
  | _, [] => True
  | stays, b :: rest =>
      EntryTracked view registry (stays b.clockBookingId)
          (recordBooking z registry (stays b.clockBookingId) b observedAt) ∧
        EntriesTracked view z registry observedAt
          (Function.update stays b.clockBookingId
            (some (recordBooking z registry (stays b.clockBookingId) b observedAt))) rest

section Step

variable {p p' : SyncProgress H} {b : NormalizedBooking} {m : DbSession H} {row : BookingRow}
  {change : AssignmentChange} {stays : String → Option RecordedStay} {registry : RoomRegistry}
  {room : Room}

def NotAffected (rows : RegistryRows) (room : Room) (p : SyncProgress H) : Prop :=
  ∀ roomId, rows.domainRoomsById roomId = some room → roomId ∉ p.affectedRoomIds

theorem Processed.reports_resolved (h : Processed base rt rows b observedAt p p' m row change)
    (hresolve : RowsResolve registry rows) (hmiss : NotAffected rows room p')
    (hchanged : payloadChanged
      (p.session.live.storedBooking rows.property.id b.clockBookingId) b = true) :
    registry.resolve b ≠ some room := by
  intro hb
  obtain ⟨roomId, hmapped, hdomain⟩ := mappedRoomId_of_resolve hresolve hb
  refine hmiss roomId hdomain ?_
  have hplaced : assignmentIdentity b ≠ none := by
    intro hnone
    rw [registry.resolve_of_unplaced (assignmentIdentity_eq_none.mp hnone)] at hb
    cases hb
  rw [h.affected, if_pos hchanged, h.assigned.currentRoomId, if_neg hplaced, hmapped]
  simp

theorem Processed.reports_moved (h : Processed base rt rows b observedAt p p' m row change)
    (hmiss : NotAffected rows room p')
    (hmoved : (m.live.currentOf row.id).map assignmentRowIdentity ≠ assignmentIdentity b)
    {roomId : UUID} (hdomain : rows.domainRoomsById roomId = some room) :
    ¬ ((∃ a, m.live.currentOf row.id = some a ∧ a.roomId = some roomId) ∨
      (assignmentIdentity b ≠ none ∧ mappedRoomId rows b = some roomId)) := by
  intro hreported
  refine hmiss roomId hdomain ?_
  rw [h.affected]
  exact List.mem_append_left _ (List.mem_append_right _
    (h.assigned.moved hmoved roomId hreported))

theorem Processed.identity_before (h : Processed base rt rows b observedAt p p' m row change)
    (hstore : StaysStore base p.session.live)
    (hrecords : Records registry rows stays p.session.live) {before : RecordedStay}
    (hbefore : stays b.clockBookingId = some before) :
    assignmentIdentity before.booking = (m.live.currentOf row.id).map assignmentRowIdentity := by
  have hbooking := hrecords.booking b.clockBookingId
  rw [hbefore, Option.map_some, eq_comm, Option.map_eq_some_iff] at hbooking
  obtain ⟨⟨stored, a⟩, hstay, hform⟩ := hbooking
  have hcurrent := h.stay_before
  rw [hstay, Option.bind_some] at hcurrent
  rw [← hform, ← hcurrent]
  refine assignmentIdentity_normalizedFromRow _ _ fun x hx => ?_
  rw [hcurrent, h.currentBefore] at hx
  exact hstore.currentOf_placed x hx

theorem Processed.hash_before (hrecords : Records registry rows stays p.session.live)
    {before : RecordedStay} (hbefore : stays b.clockBookingId = some before)
    (hhash : before.booking.payloadHash ≠ b.payloadHash) :
    payloadChanged (p.session.live.storedBooking rows.property.id b.clockBookingId) b = true := by
  have hbooking := hrecords.booking b.clockBookingId
  rw [hbefore, Option.map_some, eq_comm, Option.map_eq_some_iff] at hbooking
  obtain ⟨⟨stored, a⟩, hstay, hform⟩ := hbooking
  obtain ⟨_, hstored, heq⟩ := Option.map_eq_some_iff.mp hstay
  cases heq
  rw [hstored]
  rw [← hform] at hhash
  exact decide_eq_true hhash

theorem Processed.undriven_of_same (h : Processed base rt rows b observedAt p p' m row change)
    (hresolve : RowsResolve registry rows)
    (hrecords : Records registry rows stays p.session.live) (hmiss : NotAffected rows room p')
    {before after : RecordedStay} (hbefore : stays b.clockBookingId = some before)
    (hresolved : registry.resolve after.booking = registry.resolve b)
    (hhash : after.booking.payloadHash = b.payloadHash)
    (hreported : ReportedTo registry (stays b.clockBookingId) after room)
    (hsame : assignmentIdentity before.booking = assignmentIdentity after.booking) :
    drivesRoom room after.booking = false ∧ drivesRoom room before.booking = false := by
  by_contra hundriven
  have hdrives : (drivesRoom room before.booking || drivesRoom room after.booking) = true := by
    cases hd : drivesRoom room before.booking with
    | true => rfl
    | false => simpa [hd] using hundriven
  have hchanged := hreported.hashed before hbefore hdrives hsame
  rw [hhash] at hchanged
  have hnot := h.reports_resolved hresolve hmiss
    (Processed.hash_before hrecords hbefore hchanged)
  rw [← hresolved] at hnot
  rcases (Bool.or_eq_true _ _).mp hdrives with hd | hd
  · have hkept := hreported.kept before hbefore hd hsame
    rw [registry.resolve_of_identity hsame] at hkept
    exact hnot hkept
  · exact hnot (hreported.entered hd)

theorem Processed.undriven_of_moved (h : Processed base rt rows b observedAt p p' m row change)
    (hresolve : RowsResolve registry rows)
    (hrecords : Records registry rows stays p.session.live) (hmiss : NotAffected rows room p')
    {before after : RecordedStay} (hbefore : stays b.clockBookingId = some before)
    (hresolved : registry.resolve after.booking = registry.resolve b)
    (hreported : ReportedTo registry (stays b.clockBookingId) after room)
    (hleft : assignmentIdentity before.booking ≠ assignmentIdentity after.booking)
    (hmoved : (m.live.currentOf row.id).map assignmentRowIdentity ≠ assignmentIdentity b) :
    drivesRoom room after.booking = false ∧ drivesRoom room before.booking = false := by
  constructor
  · by_contra hdrives
    have hb := hreported.entered (by simpa using hdrives)
    rw [hresolved] at hb
    obtain ⟨roomId, hmapped, hdomain⟩ := mappedRoomId_of_resolve hresolve hb
    refine h.reports_moved hmiss hmoved hdomain (.inr ⟨?_, hmapped⟩)
    intro hnone
    rw [registry.resolve_of_unplaced (assignmentIdentity_eq_none.mp hnone)] at hb
    cases hb
  · by_contra hdrives
    have hroom := hreported.left before hbefore (by simpa using hdrives) hleft
    obtain ⟨a, roomId, ha, hroomId, hdomain⟩ := hrecords.room _ _ _ hbefore hroom
    rw [h.stay_before] at ha
    exact h.reports_moved hmiss hmoved hdomain (.inl ⟨a, ha, hroomId⟩)

theorem Processed.unreported (h : Processed base rt rows b observedAt p p' m row change)
    (hstore : StaysStore base p.session.live) (hresolve : RowsResolve registry rows)
    (hrecords : Records registry rows stays p.session.live) (hmiss : NotAffected rows room p')
    {after : RecordedStay}
    (hafter : after = recordBooking rt.zone registry (stays b.clockBookingId) b observedAt)
    (hreported : ReportedTo registry (stays b.clockBookingId) after room) :
    drivesRoom room after.booking = false ∧ ∀ before, stays b.clockBookingId = some before →
      drivesRoom room before.booking = false := by
  have hidentity : assignmentIdentity after.booking = assignmentIdentity b := by
    rw [hafter]
    exact assignmentIdentity_recordBooking ..
  have hresolved : registry.resolve after.booking = registry.resolve b :=
    registry.resolve_of_identity hidentity
  cases hbefore : stays b.clockBookingId with
  | none =>
      refine ⟨?_, fun _ hnone => by cases hnone⟩
      have hnone := hrecords.booking b.clockBookingId
      rw [hbefore, Option.map_none, eq_comm, Option.map_eq_none_iff] at hnone
      have hstored := Option.map_eq_none_iff.mp hnone
      by_contra hdrives
      refine h.reports_resolved hresolve hmiss (by rw [hstored]; rfl) ?_
      rw [← hresolved]
      exact hreported.entered (by simpa using hdrives)
  | some before =>
      suffices hboth : drivesRoom room after.booking = false ∧
          drivesRoom room before.booking = false by
        refine ⟨hboth.1, fun x hx => ?_⟩
        cases hx
        exact hboth.2
      by_cases hsame : assignmentIdentity before.booking = assignmentIdentity after.booking
      · exact h.undriven_of_same hresolve hrecords hmiss hbefore hresolved (by rw [hafter]; rfl)
          hreported hsame
      · refine h.undriven_of_moved hresolve hrecords hmiss hbefore hresolved hreported hsame ?_
        rw [← h.identity_before hstore hrecords hbefore, ← hidentity]
        exact hsame

theorem Processed.unseen (h : Processed base rt rows b observedAt p p' m row change)
    (hstore : StaysStore base p.session.live)
    (hkey : rows.property.key = rt.registry.property.key) (hresolve : RowsResolve registry rows)
    (hrecords : Records registry rows stays p.session.live) (hmiss : NotAffected rows room p')
    (hroom : room ∈ registry.rooms) {view : NormalizedBooking → NormalizedBooking}
    (hview : KeepsEvaluated view)
    (htracked : EntryTracked view registry (stays b.clockBookingId)
      (recordBooking rt.zone registry (stays b.clockBookingId) b observedAt)) :
    visible view (drivesRoom room) (p'.session.live.bookingsOf rows.property) =
      visible view (drivesRoom room) (p.session.live.bookingsOf rows.property) := by
  rcases htracked with ⟨old, hold, hsame⟩ | hreported
  · refine h.keepsVisible hstore hkey hrecords rfl ?_ ?_
    · intro hnone
      rw [hold] at hnone
      cases hnone
    · intro before hbefore
      rw [hold] at hbefore
      cases hbefore
      refine .inr ⟨?_, hsame⟩
      rw [← hview.drivesRoom room old.booking, hsame, hview.drivesRoom]
  · obtain ⟨hafter, hbefore⟩ :=
      h.unreported hstore hresolve hrecords hmiss rfl (hreported room hroom)
    refine h.keepsVisible hstore hkey hrecords rfl (fun _ => hafter) ?_
    intro before hstays
    exact .inl ⟨hbefore before hstays, hafter⟩

end Step

theorem LoopSession.affected_grow (hinj : base.uuid4.Injective) (hu : rt.uuid4 = base.uuid4)
    {s : DbSession H} {p p' : SyncProgress H} {bookings : List NormalizedBooking}
    (h : LoopSession base rows s p.session)
    (hb : bookings.foldlM (processBooking rt rows observedAt correlationId) p = .ok p') :
    p.affectedRoomIds ⊆ p'.affectedRoomIds := by
  have hrun := foldlM_invariant
    (I := fun q : SyncProgress H =>
      LoopSession base rows s q.session ∧ p.affectedRoomIds ⊆ q.affectedRoomIds)
    (fun _ _ _ _ hstep hi => by
      obtain ⟨hloop, _, _, _, hp⟩ := hi.1.step hinj hu hstep
      exact ⟨hloop, List.Subset.trans hi.2 hp.affected_grow⟩) hb ⟨h, List.Subset.refl _⟩
  exact hrun.2

theorem LoopSession.unseen (hinj : base.uuid4.Injective) (hu : rt.uuid4 = base.uuid4)
    {s : DbSession H} {p p' : SyncProgress H} {bookings : List NormalizedBooking}
    (h : LoopSession base rows s p.session)
    (hb : bookings.foldlM (processBooking rt rows observedAt correlationId) p = .ok p')
    (hkey : rows.property.key = rt.registry.property.key)
    (hresolve : RowsResolve rt.registry rows) {stays : String → Option RecordedStay}
    (hrecords : Records rt.registry rows stays p.session.live)
    {view : NormalizedBooking → NormalizedBooking} (hview : KeepsEvaluated view)
    (htracked : EntriesTracked view rt.zone rt.registry observedAt stays bookings) {room : Room}
    (hroom : room ∈ rt.registry.rooms) (hmiss : NotAffected rows room p') :
    visible view (drivesRoom room) (p'.session.live.bookingsOf rows.property) =
      visible view (drivesRoom room) (p.session.live.bookingsOf rows.property) := by
  induction bookings generalizing p stays with
  | nil =>
      cases hb
      rfl
  | cons b rest ih =>
      rw [List.foldlM_cons] at hb
      obtain ⟨q, hq, hrest⟩ := bind_ok hb
      obtain ⟨hentry, hentries⟩ := htracked
      obtain ⟨hloop, m, row, change, hp⟩ := h.step hinj hu hq
      have hmissq : NotAffected rows room q := fun roomId hdomain hmem =>
        hmiss roomId hdomain (hloop.affected_grow hinj hu hrest hmem)
      rw [ih hloop hrest (hp.records hkey hresolve hrecords) hentries,
        hp.unseen h.stays hkey hresolve hrecords hmissq hroom hview hentry]

theorem OpenedSession.domainRoom_of_roomOf {t : DbSession H}
    (h : OpenedSession base rt db rows t) {roomId : UUID} {room : Room}
    (hroom : db.roomOf rt.registry roomId = some room) :
    rows.domainRoomsById roomId = some room := by
  unfold Db.roomOf at hroom
  obtain ⟨row, hrow, hkey⟩ := Option.bind_eq_some_iff.mp hroom
  obtain ⟨hmem, hkey⟩ := RoomRegistry.byKey_eq_some.mp hkey
  rw [← h.entries] at hmem
  obtain ⟨e, he, rfl⟩ := List.mem_map.mp hmem
  have hid : row.id = roomId := by simpa using List.find?_some hrow
  have hstored : row.columns ∈ t.live.roomColumns :=
    h.growth.subset (List.mem_map_of_mem (List.mem_of_find?_eq_some hrow))
  have hsame : row.columns = e.2.columns := by
    refine KeyedTable.eq_of_key h.registry.roomKeys hstored (h.rowsStored.stored e he) ?_
    rw [h.rowsStored.columns e he]
    exact hkey.symm
  have hids : row.id = e.2.id := congrArg Prod.fst hsame
  rw [← hid, hids]
  exact h.rowsStored.domainRoomsById h.registry h.entries he

theorem OpenedSession.records {t : DbSession H} (h : OpenedSession base rt db rows t)
    (hstays : t.live.stays = db.stays) {property : PropertyRow}
    (hid : property.id = rows.property.id) (hkey : property.key = rows.property.key) :
    Records rt.registry rows (db.recorded rt.registry property) t.live := by
  constructor
  · intro clockBookingId
    rw [stay_of_stays hstays, Db.recorded, Option.map_map, ← hid, ← hkey]
    rfl
  · intro clockBookingId before room hbefore hroom
    obtain ⟨stay, hstay, rfl⟩ := Option.map_eq_some_iff.mp hbefore
    obtain ⟨roomId, hroomId, hroomOf⟩ := Option.bind_eq_some_iff.mp hroom
    obtain ⟨a, ha, hroomId⟩ := Option.bind_eq_some_iff.mp hroomId
    refine ⟨a, roomId, ?_, hroomId, h.domainRoom_of_roomOf hroomOf⟩
    rw [stay_of_stays hstays, ← hid, hstay]
    exact ha

theorem bookingsOf_of_stays {db' : Db H} (h : db'.stays = db.stays) (property : PropertyRow) :
    db'.bookingsOf property = db.bookingsOf property := by
  simp only [Db.stays, Prod.mk.injEq] at h
  unfold Db.bookingsOf Db.currentOf
  rw [h.1, h.2]

theorem bookingsOf_congr {property property' : PropertyRow} (hid : property.id = property'.id)
    (hkey : property.key = property'.key) : db.bookingsOf property = db.bookingsOf property' := by
  unfold Db.bookingsOf
  rw [hid, hkey]

variable [DecidableEq H]

theorem changed_room_is_affected (hinj : base.uuid4.Injective) (hrt : base.Restart rt)
    (hdb : Reachable base db) {view : NormalizedBooking → NormalizedBooking}
    (hview : KeepsEvaluated view) {result : SyncRunResult} {correlationId : UUID}
    {out : Outcome H} (h : execute rt db (.applySyncResult result correlationId) = .ok out)
    (hsuccess : result.success = true) {property : PropertyRow}
    (hproperty : property ∈ out.db.properties)
    (htracked : EntriesTracked view rt.zone rt.registry (result.finishedAt.toUtc rt.zone)
      (db.recorded rt.registry property) result.bookings)
    {room : Room} (hroom : room ∈ rt.registry.rooms) (now : Datetime) (policy : HotelPolicy)
    (override : Option ManualOverride)
    (hdiffers : (evaluateRoom room (loadNormalizedBookings (rt.session db) property).bookings
        now policy override).map (·.view view) ≠
      (evaluateRoom room (loadNormalizedBookings (rt.session out.db) property).bookings
        now policy override).map (·.view view)) :
    ∃ row ∈ out.db.rooms, row.key = room.key ∧ row.id ∈ out.affectedRoomIds := by
  obtain ⟨rows, t, p, hsync⟩ := applySyncResult_applied hinj hrt (hdb.invariant hinj) h hsuccess
  obtain ⟨hid, hkey⟩ := hsync.property_eq hproperty
  have hresolve : RowsResolve rt.registry rows :=
    resolveRoom_room_iff hsync.opened.registry hsync.opened.rowsStored hsync.opened.entries
  have hrecords := hsync.opened.records hsync.stays hid hkey
  by_contra hnone
  have hmiss : NotAffected rows room p := by
    intro roomId hdomain hmem
    obtain ⟨row, hrow, hcolumns⟩ :=
      List.mem_map.mp (hsync.rowsStored.column_of_domainRoom hdomain)
    simp only [RoomRow.columns, Prod.mk.injEq] at hcolumns
    refine hnone ⟨row, hrow, hcolumns.2.2, ?_⟩
    rw [hsync.affected, hcolumns.1]
    exact hmem
  refine hdiffers (evaluateRoom_eq_of_view hview ?_ now policy override)
  have hunseen := hsync.opened.startLoop.unseen hinj hrt.uuid4 hsync.processed
    (hsync.propertyKey.trans hrt.propertyKey.symm) hresolve hrecords hview htracked hroom hmiss
  have hbefore : (loadNormalizedBookings (rt.session db) property).bookings =
      t.live.bookingsOf rows.property := by
    rw [bookingsOf_of_stays hsync.stays, ← bookingsOf_congr hid hkey]
    exact loadNormalizedBookings_start rt.autoflush property db
  have hafter : (loadNormalizedBookings (rt.session out.db) property).bookings =
      p.session.live.bookingsOf rows.property := by
    rw [← bookingsOf_of_stays hsync.committed, ← bookingsOf_congr hid hkey]
    exact loadNormalizedBookings_start rt.autoflush property out.db
  rw [hbefore, hafter, hunseen]

def demoState (db : Db RoomStateDocument) (property : PropertyRow) (room : Room) :
    Except PyError RoomStateEvaluation :=
  evaluateRoom room (loadNormalizedBookings ((demoRuntime true).session db) property).bookings
    (.inZone sofiaWinterTime (demoInstant 10 0)) defaultPolicy none

def demoPhase (db : Db RoomStateDocument) (property : PropertyRow) (room : Room) :
    Option AutomationPhase :=
  (demoState db property room).toOption.map (·.phase)

def demoArrival (b : NormalizedBooking) : Transaction :=
  .applySyncResult (demoSyncResult [b] (demoNow 10 0)) 2001

theorem demoState_ne {db db' : Db RoomStateDocument} {property : PropertyRow} {room : Room}
    (h : demoPhase db property room ≠ demoPhase db' property room) :
    (demoState db property room).map (·.view id) ≠ (demoState db' property room).map (·.view id) := by
  intro heq
  refine h ?_
  unfold demoPhase
  rw [← phase_of_view id, heq, phase_of_view]

theorem new_stay_is_tracked {stays : String → Option RecordedStay}
    (hnew : stays demoStay.clockBookingId = none) (observedAt : Instant) :
    EntriesTracked id sofiaWinterTime demoRegistry observedAt stays [demoStay] := by
  refine ⟨.inr fun room hroom => ?_, trivial⟩
  rw [hnew]
  refine ⟨?_, by simp, by simp, by simp⟩
  intro hdrives
  rcases List.mem_pair.mp hroom with rfl | rfl
  · rfl
  · change false = true at hdrives
    cases hdrives

theorem new_stay_room_is_affected :
    ∃ out, execute (demoRuntime true) (Db.empty _) (demoArrival demoStay) = .ok out ∧
      ∃ row ∈ out.db.rooms, row.key = "214" ∧ row.id ∈ out.affectedRoomIds := by
  obtain ⟨out, hout, hchecked⟩ := exists_outcome (demoRuntime true) (Db.empty _)
    (demoArrival demoStay) (p := fun out => out.db.properties.any fun property =>
      decide (demoPhase (Db.empty _) property room214 ≠ demoPhase out.db property room214))
    (by decide +kernel)
  obtain ⟨property, hproperty, hphase⟩ := List.any_eq_true.mp hchecked
  have hroom : room214 ∈ (demoRuntime true).registry.rooms := by decide
  exact ⟨out, hout, changed_room_is_affected (demoRuntime_uuid4_injective true) (.refl _)
    (.empty _) .id hout rfl hproperty (new_stay_is_tracked rfl _) hroom
    _ _ _ (demoState_ne (of_decide_eq_true hphase))⟩

theorem crossed_stay_room_is_missed :
    ∃ out, execute (demoRuntime true) (Db.empty _) (demoArrival demoCrossedStay) = .ok out ∧
      (∃ property ∈ out.db.properties,
        demoPhase (Db.empty _) property room215 = some .vacant ∧
        demoPhase out.db property room215 = some .preArrival) ∧
      ∀ row ∈ out.db.rooms, row.key = "215" → row.id ∉ out.affectedRoomIds := by
  obtain ⟨out, hout, hchecked⟩ := exists_outcome (demoRuntime true) (Db.empty _)
    (demoArrival demoCrossedStay) (p := fun out => decide (∃ property ∈ out.db.properties,
        demoPhase (Db.empty _) property room215 = some .vacant ∧
        demoPhase out.db property room215 = some .preArrival) &&
      decide (∀ row ∈ out.db.rooms, row.key = "215" → row.id ∉ out.affectedRoomIds))
    (by decide +kernel)
  simp only [Bool.and_eq_true, decide_eq_true_eq] at hchecked
  exact ⟨out, hout, hchecked⟩

end ClockOrchestrator
