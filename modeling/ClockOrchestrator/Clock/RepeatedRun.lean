import ClockOrchestrator.Clock.RecordedStays
import ClockOrchestrator.Clock.RepeatedEntries
import ClockOrchestrator.Clock.RepeatedPass

namespace ClockOrchestrator

open Python UnitOfWork Replay

variable {H : Type} {base rt : AppRuntime H} {db db' : Db H} {rows rows' : RegistryRows}
  {observedAt : Instant} {correlationId correlationId' : UUID}

section Rows

structure SameRows (rows rows' : RegistryRows) : Prop where
  ids : rows.ids = rows'.ids
  propertyId : rows.property.id = rows'.property.id
  propertyKey : rows.property.key = rows'.property.key

variable (h : SameRows rows rows')
include h

theorem SameRows.placementOf (b : NormalizedBooking) : placementOf rows b = placementOf rows' b := by
  unfold ClockOrchestrator.placementOf
  rw [mappedRoomId_of_ids h.ids]

theorem SameRows.placeOf : placeOf rows = placeOf rows' := by
  funext b
  unfold ClockOrchestrator.placeOf
  rw [h.placementOf]

theorem SameRows.settledBy {z : Zone} {entries : List NormalizedBooking}
    (hsettled : SettledBy z rows observedAt db entries) :
    SettledBy z rows' observedAt db entries := by
  intro clockBookingId last hlast
  obtain ⟨row, current, hrow⟩ := hsettled clockBookingId last hlast
  refine ⟨row, current, ?_, hrow.written, hrow.placed.trans (h.placementOf last)⟩
  rw [← h.propertyId]
  exact hrow.stay

end Rows

section Stays

structure SameStays (db db' : Db H) : Prop where
  bookings : db'.bookings = db.bookings
  placements : ∀ bookingId, (db'.currentOf bookingId).map (·.placement) =
    (db.currentOf bookingId).map (·.placement)

theorem SameStays.of_stays (h : db'.stays = db.stays) : SameStays db db' := by
  simp only [Db.stays, Prod.mk.injEq] at h
  refine ⟨h.1, fun bookingId => ?_⟩
  unfold Db.currentOf
  rw [h.2]

theorem SameStays.symm (h : SameStays db db') : SameStays db' db :=
  ⟨h.bookings.symm, fun bookingId => (h.placements bookingId).symm⟩

theorem SameStays.trans {db'' : Db H} (h : SameStays db db') (h' : SameStays db' db'') :
    SameStays db db'' :=
  ⟨h'.bookings.trans h.bookings, fun bookingId =>
    (h'.placements bookingId).trans (h.placements bookingId)⟩

theorem SameStays.bookingsOf (h : SameStays db db') (hrows : SameRows rows rows') :
    db'.bookingsOf rows'.property = db.bookingsOf rows.property := by
  unfold Db.bookingsOf
  rw [h.bookings, hrows.propertyId, hrows.propertyKey]
  refine List.map_congr_left fun row _ => normalizedFromRow_congr _ _ ?_
  have hplaced := congrArg (Option.map Prod.snd) (h.placements row.id)
  rw [Option.map_map, Option.map_map] at hplaced
  exact hplaced

theorem loadNormalizedBookings_live {s : DbSession H} (h : s.autoflush = true)
    (property : PropertyRow) :
    (loadNormalizedBookings s property).bookings = s.live.bookingsOf property := by
  refine Eq.trans ?_ (loadNormalizedBookings_start true property s.live)
  unfold loadNormalizedBookings Session.select
  rw [h]
  rfl

end Stays

variable [DecidableEq H] {out out' : Outcome H} {s s' : DbSession H} {r r' : Recalculation H}

theorem Evaluates.keeps (h : Evaluates base rt db out rows s r observedAt correlationId) :
    KeepsRegistry s.live out.db ∧ out.db.stays = s.live.stays := by
  obtain ⟨states, overrides, hpass, -⟩ := recalculateRooms_induction h.recalculated
    (Q := fun _ _ _ => True) trivial (fun _ _ _ _ _ _ _ _ _ _ _ => trivial)
  exact ⟨hpass.registry.trans h.bookkeeps.registry, h.bookkeeps.stays.trans hpass.stays⟩

section Twice

variable (h : RoomsRun base rt db out rows s r observedAt correlationId)
  (h' : RoomsRun base rt out.db out' rows' s' r' observedAt correlationId')
include h h'

theorem RoomsRun.sameRows : SameRows rows rows' := by
  have hopened := h.evaluates.opened
  have hopened' := h'.evaluates.opened
  obtain ⟨hkeeps, -⟩ := h.evaluates.keeps
  have hproperty : (rows.property.id, base.registry.property.key) ∈ s'.live.propertyColumns := by
    refine h'.properties ?_
    rw [hkeeps.propertyColumns, hopened.property]
    exact List.mem_singleton_self _
  rw [hopened'.property, List.mem_singleton] at hproperty
  have hstored : RowsStored rows s'.live := by
    refine ⟨hopened.rowsStored.columns, fun e he => hopened'.growth.subset ?_⟩
    exact (hkeeps.rowsStored hopened.rowsStored).stored e he
  refine ⟨?_, congrArg Prod.fst hproperty, h.propertyKey.trans h'.propertyKey.symm⟩
  exact hstored.ids_eq hopened'.registry hopened'.rowsStored
    (hopened.entries.trans hopened'.entries.symm)

theorem RoomsRun.repeats (hrt : base.Restart rt) (hauto : base.autoflush = true)
    (hstates : ∀ row ∈ db.roomStates, row.createdAt < observedAt)
    (hoverrides : ∀ row ∈ db.overrides, row.startsAt < observedAt)
    (hstays : SameStays s.live s'.live) (haffected : out'.affectedRoomIds ⊆ out.affectedRoomIds) :
    out'.db.logs = out.db.logs ∧ SameStays out.db out'.db := by
  have hrows := h.sameRows h'
  have heffect := h.evaluates.effect hrt.topics
  have heffect' := h'.evaluates.effect hrt.topics
  have hkept : SameStays out.db out'.db := (SameStays.of_stays h.evaluates.keeps.2).symm.trans
    (hstays.trans (.of_stays h'.evaluates.keeps.2))
  have hloaded : (loadNormalizedBookings s' rows'.property).bookings =
      (loadNormalizedBookings s rows.property).bookings := by
    have hflushes := hrt.autoflush.trans hauto
    rw [loadNormalizedBookings_live (h'.autoflush.trans hflushes),
      loadNormalizedBookings_live (h.autoflush.trans hflushes)]
    exact hstays.bookingsOf hrows
  refine ⟨h'.evaluates.idle fun d' hd' => ?_, hkept⟩
  obtain ⟨hroomId, hroom⟩ := h'.evaluates.room_of_decision hd'
  rw [← domainRoomsById_of_ids hrows.ids] at hroom
  obtain ⟨d, hd, hdroomId, hdroom⟩ := h.evaluates.decision_of_room (haffected hroomId) hroom
  exact (heffect.decided d hd).idle_again (heffect.written d hd) (heffect'.decided d' hd') hstates
    hoverrides hdroomId.symm hdroom.symm hloaded hkept.bookings

end Twice

omit [DecidableEq H] in
theorem AppliedSync.again {result : SyncRunResult} {t t' : DbSession H} {p p' : SyncProgress H}
    (hinj : base.uuid4.Injective) (hrt : base.Restart rt)
    (hsync : AppliedSync base rt db result correlationId out rows t p)
    (hsync' : AppliedSync base rt out.db result correlationId' out' rows' t' p')
    (hrows : SameRows rows rows') :
    SameStays p.session.live p'.session.live ∧ p'.affectedRoomIds ⊆ p.affectedRoomIds := by
  obtain ⟨hsettled, hcovers⟩ := hsync.opened.startLoop.settles hinj hrt.uuid4 hsync.processed
    (.nil _) .nil
  have hstays : t'.live.stays = p.session.live.stays := hsync'.stays.trans hsync.committed
  rw [List.nil_append] at hsettled hcovers
  rw [hrows.placeOf] at hcovers
  have hsettled' := hrows.settledBy (hsettled.congr hstays)
  have hreplay := hsync'.opened.startLoop.replays hinj hrt.uuid4 hsync'.processed hcovers
    (List.nil_subset _) (List.Subset.refl _)
    ⟨by rwa [List.append_nil], List.nil_subset _, rfl, fun _ _ => rfl⟩
  rw [List.nil_append] at hreplay
  have hproperty : ∀ row ∈ t'.live.bookings, row.propertyId = rows'.property.id := by
    intro row hrow
    have hmem := hsync'.opened.stays.bookingProperty row hrow
    rw [hsync'.opened.property] at hmem
    exact List.mem_singleton.mp hmem
  obtain ⟨hbookings, hplacements⟩ := hreplay.same hsettled' hsync'.opened.stays hsync'.loop.stays
    hproperty
  exact ⟨(SameStays.of_stays hstays).trans ⟨hbookings, hplacements⟩, hreplay.reported⟩

end ClockOrchestrator
