import ClockOrchestrator.Clock.StayHistory
import ClockOrchestrator.RuntimeInvariants

namespace ClockOrchestrator

open Python UnitOfWork

variable {H : Type} {base rt : AppRuntime H} {db : Db H} {rows : RegistryRows}
  {observedAt : Instant} {correlationId : UUID}

theorem Processed.load_eq_iff {p p' : SyncProgress H} {b : NormalizedBooking} {m : DbSession H}
    {row : BookingRow} {change : AssignmentChange}
    (h : Processed base rt rows b observedAt p p' m row change)
    (hauto : p'.session.autoflush = false) (property : PropertyRow)
    (hp : property.id = rows.property.id) :
    (loadNormalizedBookings p'.session property).bookings =
        (loadNormalizedBookings (Session.start false p'.session.live) property).bookings ↔
      p.session.live.identityOf rows.property.id b.clockBookingId = assignmentIdentity b := by
  have hflushed : p'.session.flushed = m.live := h.assigned.flushed.trans h.upserted.synced
  obtain ⟨pending, hcolumns⟩ := h.assigned.columns
  rw [← hflushed] at hcolumns
  rw [loadNormalizedBookings_pending hauto h.bookings hcolumns, loadNormalizedBookings_start,
    hflushed, h.assigned.bookings, List.map_inj_left]
  have hown : row ∈ m.live.bookings.filter (·.propertyId = property.id) := by
    refine List.mem_filter.mpr ⟨(h.upserted.store.storedBooking_eq_some.mp h.upserted.stored).1, ?_⟩
    rw [hp]
    exact decide_eq_true h.upserted.propertyId
  have hidentity : p.session.live.identityOf rows.property.id b.clockBookingId =
      (m.live.currentOf row.id).map assignmentRowIdentity := by
    rw [Db.identityOf, h.stay_before]
  rw [hidentity, ← h.assigned.own]
  constructor
  · intro hall
    have heq := congrArg assignmentIdentity (hall row hown)
    rwa [assignmentIdentity_normalizedFromRow _ _ h.upserted.store.currentOf_placed,
      assignmentIdentity_normalizedFromRow _ _ h.assigned.store.currentOf_placed] at heq
  · intro heq other hother
    by_cases hid : other.id = row.id
    · rw [hid]
      exact normalizedFromRow_congr _ _ heq
    · rw [h.assigned.others _ hid]

theorem loadNormalizedBookings_congr {s : DbSession H} {property property' : PropertyRow}
    (hid : property.id = property'.id) (hkey : property.key = property'.key) :
    (loadNormalizedBookings s property).bookings =
      (loadNormalizedBookings s property').bookings := by
  unfold loadNormalizedBookings
  rw [hid, hkey]

theorem loadNormalizedBookings_of_stays {db' : Db H} (h : db'.stays = db.stays) (a a' : Bool)
    (property : PropertyRow) :
    (loadNormalizedBookings (Session.start a db') property).bookings =
      (loadNormalizedBookings (Session.start a' db) property).bookings := by
  simp only [Db.stays, Prod.mk.injEq] at h
  rw [loadNormalizedBookings_start, loadNormalizedBookings_start, h.1]
  unfold Db.currentOf
  rw [h.2]

def LastKeepsRoom (db : Db H) (property : PropertyRow) (bookings : List NormalizedBooking) :
    Prop :=
  ∀ last ∈ bookings.getLast?,
    identityAfter (db.identityOf property.id last.clockBookingId) last.clockBookingId
      bookings.dropLast = assignmentIdentity last

instance (db : Db H) (property : PropertyRow) (bookings : List NormalizedBooking) :
    Decidable (LastKeepsRoom db property bookings) :=
  inferInstanceAs (Decidable (∀ last ∈ _, _ = _))

variable [DecidableEq H]

theorem execute_loaded_success {result : SyncRunResult} {correlationId : UUID} {out : Outcome H}
    (h : execute rt db (.applySyncResult result correlationId) = .ok out)
    {loaded : LoadedBookings} (hloaded : out.loaded = some loaded) : result.success = true := by
  obtain ⟨sync, hsync, rfl⟩ := map_ok h
  obtain ⟨rows, t, -, ⟨-, rfl⟩ | ⟨hsuccess, -⟩⟩ := applySyncResult_ok hsync
  · cases hloaded
  · exact hsuccess

theorem evaluated_bookings_are_committed_iff (hinj : base.uuid4.Injective)
    (hauto : base.autoflush = false) (hrt : base.Restart rt) (hdb : Reachable base db)
    {result : SyncRunResult} {correlationId : UUID} {out : Outcome H}
    (h : execute rt db (.applySyncResult result correlationId) = .ok out)
    {loaded : LoadedBookings} (hloaded : out.loaded = some loaded) {property : PropertyRow}
    (hproperty : property ∈ out.db.properties) :
    loaded.bookings = (loadNormalizedBookings (rt.session out.db) property).bookings ↔
      LastKeepsRoom db property result.bookings := by
  obtain ⟨rows, t, p, hsync⟩ := applySyncResult_applied hinj hrt (hdb.invariant hinj) h
    (execute_loaded_success h hloaded)
  obtain ⟨hid, hkey⟩ := hsync.property_eq hproperty
  obtain ⟨hload, haffected⟩ := hsync.loaded loaded hloaded
  have hprocessed := hsync.processed
  rcases List.eq_nil_or_concat' result.bookings with hnil | ⟨init, last, hlist⟩
  · rw [hnil] at hprocessed
    cases hprocessed
    exact absurd rfl haffected
  · rw [hlist, List.foldlM_append] at hprocessed
    obtain ⟨q, hq, hlast⟩ := bind_ok hprocessed
    rw [List.foldlM_cons] at hlast
    obtain ⟨p', hp, hrest⟩ := bind_ok hlast
    cases hrest
    have hloop := hsync.opened.startLoop.run hinj hrt.uuid4 hq
    obtain ⟨-, m, row, change, hstep⟩ := hloop.step hinj hrt.uuid4 hp
    have hflush : p.session.autoflush = false :=
      hsync.loop.writes.autoflush.trans (hsync.autoflush.trans (hrt.autoflush.trans hauto))
    have hidentity := hsync.opened.startLoop.identityOf hinj hrt.uuid4 hq last.clockBookingId
    rw [identityOf_of_stays hsync.stays] at hidentity
    have hfresh : rt.session out.db = Session.start rt.autoflush out.db := rfl
    have hiff := hstep.load_eq_iff hflush property hid
    rw [← loadNormalizedBookings_of_stays hsync.committed rt.autoflush false, hidentity] at hiff
    rw [hload, ← loadNormalizedBookings_congr hid hkey, hfresh, LastKeepsRoom, hlist,
      List.getLast?_concat, List.dropLast_concat, hid]
    simpa only [Option.mem_def, Option.some.injEq, forall_eq'] using hiff

def demoCheckIn (bookings : List NormalizedBooking) : Transaction :=
  .applySyncResult (demoSyncResult bookings (demoNow 10 0)) 2001

theorem unplaced_last_booking_keeps_sync_fresh :
    ∃ out loaded, execute (demoRuntime false) (Db.empty _)
        (demoCheckIn [demoCheckedInStay, demoUnplacedStay]) = .ok out ∧
      out.loaded = some loaded ∧ ∃ property ∈ out.db.properties,
        loaded.bookings =
          (loadNormalizedBookings ((demoRuntime false).session out.db) property).bookings := by
  obtain ⟨out, hout, hchecked⟩ := exists_outcome (demoRuntime false) (Db.empty _)
    (demoCheckIn [demoCheckedInStay, demoUnplacedStay])
    (p := fun out => out.loaded.isSome && decide (out.db.properties ≠ [])) (by decide +kernel)
  simp only [Bool.and_eq_true, decide_eq_true_eq, Option.isSome_iff_exists] at hchecked
  obtain ⟨⟨loaded, hloaded⟩, hne⟩ := hchecked
  refine ⟨out, loaded, hout, hloaded, out.db.properties.head hne, List.head_mem hne,
    (evaluated_bookings_are_committed_iff (demoRuntime_uuid4_injective false) rfl (.refl _)
      (.empty _) hout hloaded (List.head_mem hne)).mpr ?_⟩
  intro last hlast
  cases hlast
  rfl

theorem last_assignment_is_evaluated_stale :
    ∃ out loaded, execute (demoRuntime false) (Db.empty _) (demoCheckIn [demoCheckedInStay]) =
        .ok out ∧
      out.loaded = some loaded ∧ ∃ property ∈ out.db.properties,
        loaded.bookings ≠
          (loadNormalizedBookings ((demoRuntime false).session out.db) property).bookings := by
  obtain ⟨out, hout, hchecked⟩ := exists_outcome (demoRuntime false) (Db.empty _)
    (demoCheckIn [demoCheckedInStay])
    (p := fun out => out.loaded.any fun (loaded : LoadedBookings) =>
      out.db.properties.any fun property => decide (loaded.bookings ≠
        (loadNormalizedBookings ((demoRuntime false).session out.db) property).bookings))
    (by decide +kernel)
  obtain ⟨loaded, hloaded, hp⟩ := (Option.any_eq_true _ _).mp hchecked
  obtain ⟨property, hproperty, hne⟩ := List.any_eq_true.mp hp
  exact ⟨out, loaded, hout, hloaded, property, hproperty, of_decide_eq_true hne⟩

end ClockOrchestrator
