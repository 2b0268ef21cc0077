import ClockOrchestrator.Guarantees.OverrideEnd
import ClockOrchestrator.Clock.EvaluationEffect
import ClockOrchestrator.Domain.EvaluationCases

namespace ClockOrchestrator

open Python UnitOfWork Trace RankedLog

variable {H : Type} {base rt : AppRuntime H} {db : Db H}

theorem getBooking_eq_some {s : DbSession H} {bookingId : UUID} {booking : BookingRow}
    (h : getBooking s bookingId = some booking) :
    booking ∈ s.live.bookings ∧ booking.id = bookingId := by
  unfold getBooking at h
  exact ⟨List.mem_of_find?_eq_some h, by simpa using List.find?_some h⟩

structure BoundBy (rt : AppRuntime H) (db : Db H) (command : RoomCommand) (row : OverrideRow)
    (bookingId : UUID) (checkout : Instant) : Prop where
  guest : row.bookingId = some bookingId
  boundary : row.checkoutAt = some checkout
  start : row.startsAt = command.now.toUtc rt.zone
  ahead : row.startsAt < checkout
  booked : ∃ state booking, latest RoomStateRow.rank (db.statesOf row.roomId) = some state ∧
    state.automationPhase ∈ boundaryPhases ∧ state.bookingId = some bookingId ∧
    booking ∈ db.bookings ∧ booking.id = bookingId

theorem CommandEffect.bound {command : RoomCommand}
    {out : CommandProcessingResult × DbSession H} (h : CommandEffect base rt db command out)
    {row : OverrideRow} (hnew : row ∉ db.overrides) (hrow : row ∈ out.2.live.overrides)
    (huntil : row.untilCheckout = true) :
    ∃ bookingId checkout, BoundBy rt db command row bookingId checkout := by
  cases h with
  | @rejected property roomId roomKey error reason t ht hnone =>
      have hsame : t.live.overrides = db.overrides := congrArg (·.2.1) ht.logs.live
      rw [← hsame] at hnew
      exact absurd hrow hnew
  | @accepted property room roomRow written t hkey hopen hroom hwritten =>
      have hsame : t.live.overrides = db.overrides := congrArg (·.2.1) hroom.session.logs.live
      change row ∈ t.live.overrides ++ [written] at hrow
      rw [hsame, List.mem_append, List.mem_singleton] at hrow
      obtain rfl := hrow.resolve_left hnew
      obtain ⟨roomRow', t', hopen', hbuild⟩ := commandRow_eq_some hwritten
      cases hopen.symm.trans hopen'
      obtain ⟨text, draft, bound, -, -, hbound, rfl⟩ := buildOverrideRow_ok hbuild
      simp only [overrideRowOfDraft, Bool.and_eq_true, decide_eq_true_eq] at huntil
      rcases overrideBoundary_ok hbound with ⟨hfree, -⟩ | ⟨-, -, found, hfound, rfl⟩
      · exact absurd huntil.2 (hfree.resolve_left huntil.1)
      · obtain ⟨state, bookingId, booking, hstate, hid, hphase, hbooking, hfoundId, hopen⟩ :=
          currentBookingBoundary_eq_some hfound
        obtain ⟨hmem, hbookingId⟩ := getBooking_eq_some hbooking
        rw [latestRoomState_of_logs hroom.session.logs] at hstate
        have hstays : t.live.bookings = db.bookings := congrArg Prod.fst hroom.session.stays.live
        refine ⟨bookingId, found.checkoutAt, ?_, rfl, rfl, hopen, state, booking, hstate, hphase,
          hid, ?_, hbookingId⟩
        · simp [overrideRowOfDraft, hfoundId, hbookingId]
        · rw [← hstays]
          exact hmem

variable [DecidableEq H]

theorem execute_bound (hinj : base.uuid4.Injective) (hrt : base.Restart rt)
    (hdb : StoreInvariant base db) {tx : Transaction} {out : Outcome H}
    (h : execute rt db tx = .ok out) {row : OverrideRow} (hnew : row ∉ db.overrides)
    (hrow : row ∈ out.db.overrides) (huntil : row.untilCheckout = true) :
    ∃ command bookingId checkout, tx = .applyMqttCommand command ∧
      BoundBy rt db command row bookingId checkout := by
  rcases execute_evaluates hinj hrt hdb h with
    ⟨rows, s, r, he⟩ | ⟨command, result, htx, he, rfl⟩
  · obtain ⟨states, overrides, hp, -, -⟩ := he.rooms
    have hbefore : s.live.overrides = db.overrides := congrArg (·.2.1) he.opened.logs.live
    have hafter : out.db.overrides = r.session.live.overrides :=
      congrArg (·.2.1) he.bookkeeps.logs
    rw [hafter, hp.overrideRows, hbefore, List.mem_append] at hrow
    obtain ⟨id, roomId, commandId, rfl⟩ := hp.scheduled row (hrow.resolve_left hnew)
    cases huntil
  · obtain ⟨bookingId, checkout, hbound⟩ := he.bound hnew hrow huntil
    exact ⟨command, bookingId, checkout, htx, hbound⟩

def WrittenDuring (base : AppRuntime H) (requests : List (Request H)) (row : OverrideRow)
    (bookingId : UUID) (checkout : Instant) : Prop :=
  ∃ before request after command db₀, requests = before ++ request :: after ∧
    Run next (ServedBy base fun _ _ => True) (Db.empty H) before db₀ ∧
    request.transaction = .applyMqttCommand command ∧
    BoundBy request.runtime db₀ command row bookingId checkout

theorem WrittenDuring.guest {requests : List (Request H)} {row : OverrideRow} {bookingId : UUID}
    {checkout : Instant} (h : WrittenDuring base requests row bookingId checkout) :
    row.bookingId = some bookingId ∧ row.checkoutAt = some checkout := by
  obtain ⟨before, request, after, command, db₀, -, -, -, hbound⟩ := h
  exact ⟨hbound.guest, hbound.boundary⟩

theorem run_writtenDuring (hinj : base.uuid4.Injective) {requests : List (Request H)}
    (hrun : Run next (ServedBy base fun _ _ => True) (Db.empty H) requests db)
    {row : OverrideRow} (hrow : row ∈ db.overrides) (huntil : row.untilCheckout = true) :
    ∃ bookingId checkout, WrittenDuring base requests row bookingId checkout := by
  obtain ⟨before, request, after, db₀, db₁, hsplit, hbefore, hserved, hnext, hnew, hstored⟩ :=
    hrun.exists_step (P := fun db => row ∈ db.overrides) (by simp [Db.empty]) hrow
  obtain ⟨out, hout, rfl⟩ := next_ok hnext
  obtain ⟨command, bookingId, checkout, htx, hbound⟩ := execute_bound hinj hserved.1
    (run_invariant hinj hbefore .empty) hout hnew hstored huntil
  exact ⟨bookingId, checkout, before, request, after, command, db₀, hsplit, hbefore, htx, hbound⟩

theorem Evaluates.loadedBooking {out : Outcome H} {rows : RegistryRows} {s : DbSession H}
    {r : Recalculation H} {observedAt : Instant} {correlationId : UUID}
    (h : Evaluates base rt db out rows s r observedAt correlationId)
    (hstays : StaysStore base out.db) {b : NormalizedBooking}
    (hb : b ∈ (loadNormalizedBookings s rows.property).bookings) :
    ∃ stored ∈ out.db.bookings, stored.propertyId = rows.property.id ∧
      stored.clockBookingId = b.clockBookingId ∧
      (loadNormalizedBookings s rows.property).idsByClockBookingId b.clockBookingId =
        some stored.id := by
  obtain ⟨states, overrides, hp, -, -⟩ := h.rooms
  have hcommitted : out.db.bookings = s.live.bookings :=
    congrArg Prod.fst (h.bookkeeps.stays.trans hp.stays)
  have hselect := Session.select_of_shows h.opened.bookings (·.propertyId = rows.property.id)
  unfold loadNormalizedBookings at hb ⊢
  dsimp only at hb ⊢
  rw [hselect] at hb ⊢
  obtain ⟨stored, hstored, rfl⟩ := List.mem_map.mp hb
  obtain ⟨hmem, hproperty⟩ := List.mem_filter.mp hstored
  rw [hcommitted]
  refine ⟨stored, hmem, of_decide_eq_true hproperty, rfl, ?_⟩
  have hfind : (s.live.bookings.filter (·.propertyId = rows.property.id)).find?
      (·.clockBookingId = stored.clockBookingId) = some stored := by
    refine (KeyedTable.find?_eq_some_of_unique ?_).mpr ⟨hstored, decide_eq_true rfl⟩
    intro x hx y hy hpx hpy
    obtain ⟨hx, hxp⟩ := List.mem_filter.mp hx
    obtain ⟨hy, hyp⟩ := List.mem_filter.mp hy
    simp only [decide_eq_true_eq] at hxp hyp hpx hpy
    rw [← hcommitted] at hx hy
    refine KeyedTable.eq_of_key hstays.bookingKeys hx hy ?_
    simp [BookingRow.columns, hxp, hyp, hpx, hpy]
  change (List.find? _ _).map _ = _
  rw [show (normalizedFromRow rows.property.key stored _).clockBookingId = stored.clockBookingId
    from rfl, hfind]
  rfl

theorem Evaluates.guest {out : Outcome H} {rows : RegistryRows} {s : DbSession H}
    {r : Recalculation H} {observedAt : Instant} {correlationId : UUID}
    (h : Evaluates base rt db out rows s r observedAt correlationId)
    (htopics : rt.topics = base.topics) (hdb : StoreInvariant base out.db)
    {d : RoomDecision H} (hd : d ∈ out.decisions) (hphase : d.state.phase = .manualOverride)
    {row : OverrideRow} (hrow : d.latestOverride = some row)
    (huntil : row.untilCheckout = true) :
    ∃ bookingId checkout booking, row.bookingId = some bookingId ∧
      row.checkoutAt = some checkout ∧ observedAt < checkout ∧ d.state.booking = some booking ∧
      booking ∈ (loadNormalizedBookings s rows.property).bookings ∧
      (loadNormalizedBookings s rows.property).idsByClockBookingId booking.clockBookingId =
        some bookingId := by
  have hdecided := (h.effect htopics).decided d hd
  obtain ⟨selected, o, hdrives, ho, hactive, hbooking⟩ := evaluateRoom_manual hdecided.state hphase
  obtain ⟨row', clockBookingId, hrow', hrowActive, hfrom, hbound⟩ :=
    activeOverrideFromRow_eq_some (hdecided.override.symm.trans ho)
  cases hrow.symm.trans hrow'
  obtain ⟨bookingId, bound, hbookingId, hfound, rfl⟩ := hbound huntil
  rw [Datetime.instant_inZone] at hrowActive
  obtain ⟨checkout, hcheckout, hopen⟩ : ∃ checkout, row.checkoutAt = some checkout ∧
      observedAt < checkout := by
    unfold overrideRowIsActive at hrowActive
    cases hcheckout : row.checkoutAt with
    | none => simp [huntil, hcheckout] at hrowActive
    | some checkout =>
        refine ⟨checkout, rfl, ?_⟩
        simp only [huntil, hbookingId, hcheckout, if_true] at hrowActive
        split at hrowActive
        · cases hrowActive
        · exact of_decide_eq_true hrowActive
  have hclock : bound.clockBookingId = selected.clockBookingId := by
    unfold manualOverrideFromRow at hfrom
    split at hfrom
    · cases hfrom
    · cases hfrom
      by_contra hne
      simp [ManualOverride.isActive, huntil, hne] at hactive
  have hselected : selected ∈ (loadNormalizedBookings s rows.property).bookings :=
    (mem_activeBookings_iff.mp hdrives.mem).1
  obtain ⟨stored, hstored, hproperty, hstoredClock, hids⟩ := h.loadedBooking hdb.stays hselected
  obtain ⟨hboundMem, hboundId⟩ : bound ∈ out.db.bookings ∧ bound.id = bookingId :=
    getBooking_eq_some hfound
  have hone : ∀ b ∈ out.db.bookings, b.propertyId = rows.property.id := by
    intro b hb
    have hcolumns : out.db.propertyColumns = [(rows.property.id, base.registry.property.key)] := by
      obtain ⟨states, overrides, hp, -, -⟩ := h.rooms
      exact (hp.registry.trans h.bookkeeps.registry).propertyColumns.trans h.opened.property
    have hmem := hdb.stays.bookingProperty b hb
    rw [hcolumns] at hmem
    exact List.mem_singleton.mp hmem
  have hsame : bound = stored := by
    refine KeyedTable.eq_of_key hdb.stays.bookingKeys hboundMem hstored ?_
    simp only [BookingRow.columns, Prod.mk.injEq]
    exact ⟨(hone bound hboundMem).trans hproperty.symm, hclock.trans hstoredClock.symm⟩
  refine ⟨bookingId, checkout, selected, hbookingId, hcheckout, hopen, hbooking, hselected, ?_⟩
  rw [hids, ← hsame, hboundId]

theorem until_checkout_override_stays_with_guest (hinj : base.uuid4.Injective)
    {requests : List (Request H)}
    (hrun : Run next (ServedBy base fun _ _ => True) (Db.empty H) requests db)
    (hrt : base.Restart rt) {tx : Transaction} {out : Outcome H}
    (hout : execute rt db tx = .ok out) {d : RoomDecision H} (hd : d ∈ out.decisions)
    (hphase : d.state.phase = .manualOverride) {row : OverrideRow}
    (hrow : d.latestOverride = some row) (huntil : row.untilCheckout = true) :
    ∃ bookingId checkout loaded booking,
      WrittenDuring base requests row bookingId checkout ∧ out.loaded = some loaded ∧
      d.state.booking = some booking ∧ booking ∈ loaded.bookings ∧
      loaded.idsByClockBookingId booking.clockBookingId = some bookingId ∧
      tx.timestamp rt.zone < checkout := by
  have hdb := run_invariant hinj hrun .empty
  have hstored : row ∈ db.overrides := by
    rw [execute_latestOverride hinj hrt hdb hout hd] at hrow
    exact (List.mem_filter.mp (latest_mem hrow)).1
  obtain ⟨bookingId, checkout, hwritten⟩ := run_writtenDuring hinj hrun hstored huntil
  rcases execute_evaluates hinj hrt hdb hout with
    ⟨rows, s, r, he⟩ | ⟨command, result, -, -, rfl⟩
  · obtain ⟨bookingId', checkout', booking, hid, hcheckout, hopen, hbooking, hmem, hids⟩ :=
      he.guest hrt.topics (he.invariant hdb) hd hphase hrow huntil
    cases hid.symm.trans hwritten.guest.1
    cases hcheckout.symm.trans hwritten.guest.2
    exact ⟨bookingId, checkout, _, booking, hwritten,
      (he.effect hrt.topics).loads (List.ne_nil_of_mem hd), hbooking, hmem, hids, hopen⟩
  · cases hd

def demoGuestRun : List (Request RoomStateDocument) :=
  [demoRequest (.applySyncResult (demoSyncResult [demoCheckedInStay] (demoNow 9 50)) 2001),
    demoRequest (.evaluateAllRooms (demoNow 10 0) 2002),
    demoRequest (.applyMqttCommand (demoCommand "mode" "manual" (demoNow 10 5) 1000)),
    demoRequest (.applyMqttCommand (demoCommand "duration" "until_checkout" (demoNow 10 10) 1001))]

theorem guest_keeps_the_override :
    ∃ out, execute (demoRuntime false) (demoStore demoGuestRun)
        (.evaluateAllRooms (demoNow 10 15) 2003) = .ok out ∧
      ∃ d ∈ out.decisions, ∃ row, d.latestOverride = some row ∧
        ∃ bookingId checkout loaded booking,
          WrittenDuring (demoRuntime false) demoGuestRun row bookingId checkout ∧
          out.loaded = some loaded ∧ d.state.booking = some booking ∧
          booking ∈ loaded.bookings ∧
          loaded.idsByClockBookingId booking.clockBookingId = some bookingId ∧
          demoInstant 10 15 < checkout := by
  have hrun : Run next (ServedBy (demoRuntime false) fun _ _ => True) (Db.empty _) demoGuestRun
      (demoStore demoGuestRun) := by
    refine run_of_eq_some ?_ (by decide +kernel)
    intro request hrequest db
    simp only [demoGuestRun, List.mem_cons, List.not_mem_nil, or_false] at hrequest
    rcases hrequest with rfl | rfl | rfl | rfl <;> exact ⟨.refl _, trivial⟩
  obtain ⟨out, hout, d, hd, hchecked⟩ := exists_decision (demoRuntime false)
    (demoStore demoGuestRun) (.evaluateAllRooms (demoNow 10 15) 2003)
    (p := fun d => decide (d.state.phase = .manualOverride ∧
      d.latestOverride.any (·.untilCheckout) = true)) (by decide +kernel)
  obtain ⟨hphase, hlatest⟩ := of_decide_eq_true hchecked
  obtain ⟨row, hrow, huntil⟩ := (Option.any_eq_true _ _).mp hlatest
  exact ⟨out, hout, d, hd, row, hrow,
    until_checkout_override_stays_with_guest (demoRuntime_uuid4_injective false) hrun (.refl _)
      hout hd hphase hrow huntil⟩

end ClockOrchestrator
