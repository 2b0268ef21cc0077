import ClockOrchestrator.Clock.RepeatedRun

namespace ClockOrchestrator

open Python UnitOfWork

variable {H : Type} [DecidableEq H] {base rt : AppRuntime H} {db : Db H}
  {out out' : Outcome H}

inductive Repeats : Transaction → Transaction → Prop where
  | applySyncResult (result : SyncRunResult) (correlationId correlationId' : UUID)
      (hsuccess : result.success = true) :
      Repeats (.applySyncResult result correlationId) (.applySyncResult result correlationId')
  | evaluateAllRooms (now : Timestamp) (correlationId correlationId' : UUID) :
      Repeats (.evaluateAllRooms now correlationId) (.evaluateAllRooms now correlationId')
  | evaluateRoomKeys (roomKeys : List String) (now : Timestamp)
      (correlationId correlationId' : UUID) :
      Repeats (.evaluateRoomKeys roomKeys now correlationId)
        (.evaluateRoomKeys roomKeys now correlationId')

theorem applySyncResult_again (hinj : base.uuid4.Injective) (hrt : base.Restart rt)
    (hauto : base.autoflush = true) (hdb : StoreInvariant base db)
    (hafter : StoreInvariant base out.db) {result : SyncRunResult}
    {correlationId correlationId' : UUID} (hsuccess : result.success = true)
    (hstates : ∀ row ∈ db.roomStates, row.createdAt < result.finishedAt.toUtc rt.zone)
    (hoverrides : ∀ row ∈ db.overrides, row.startsAt < result.finishedAt.toUtc rt.zone)
    (h : execute rt db (.applySyncResult result correlationId) = .ok out)
    (h' : execute rt out.db (.applySyncResult result correlationId') = .ok out') :
    out'.db.logs = out.db.logs ∧ SameStays out.db out'.db := by
  obtain ⟨rows, t, p, r, hsync, hrun⟩ := applySyncResult_run hinj hrt hdb h hsuccess
  obtain ⟨rows', t', p', r', hsync', hrun'⟩ := applySyncResult_run hinj hrt hafter h' hsuccess
  obtain ⟨hstays, haffected⟩ := hsync.again hinj hrt hsync' (hrun.sameRows hrun')
  refine hrun.repeats hrun' hrt hauto hstates hoverrides hstays ?_
  rw [hsync.affected, hsync'.affected]
  exact haffected

theorem evaluateRooms_again (hinj : base.uuid4.Injective) (hrt : base.Restart rt)
    (hauto : base.autoflush = true) (hdb : StoreInvariant base db)
    (hafter : StoreInvariant base out.db) {pick : RegistryRows → List UUID}
    (hpick : ∀ rows rows' : RegistryRows, rows.ids = rows'.ids → pick rows = pick rows')
    {now : Timestamp} {correlationId correlationId' : UUID}
    (hstates : ∀ row ∈ db.roomStates, row.createdAt < now.toUtc rt.zone)
    (hoverrides : ∀ row ∈ db.overrides, row.startsAt < now.toUtc rt.zone)
    (h : (evaluateRooms rt (rt.session db) pick now correlationId).map SyncOutcome.outcome = .ok out)
    (h' : (evaluateRooms rt (rt.session out.db) pick now correlationId').map SyncOutcome.outcome =
      .ok out') :
    out'.db.logs = out.db.logs ∧ SameStays out.db out'.db := by
  obtain ⟨sync, hsync, rfl⟩ := map_ok h
  obtain ⟨sync', hsync', rfl⟩ := map_ok h'
  obtain ⟨rows, s, r, hrun, hstays, haffected⟩ := evaluateRooms_run hinj hrt hdb hsync
  obtain ⟨rows', s', r', hrun', hstays', haffected'⟩ := evaluateRooms_run hinj hrt hafter hsync'
  refine hrun.repeats hrun' hrt hauto hstates hoverrides (.of_stays ?_) ?_
  · exact hstays'.trans hrun.evaluates.keeps.2
  · change sync'.affectedRoomIds ⊆ sync.affectedRoomIds
    rw [haffected, haffected', hpick rows rows' (hrun.sameRows hrun').ids]
    exact List.Subset.refl _

theorem Repeats.again (hinj : base.uuid4.Injective) (hrt : base.Restart rt)
    (hauto : base.autoflush = true) (hdb : Reachable base db) {tx tx' : Transaction}
    (hrepeats : Repeats tx tx')
    (hstates : ∀ row ∈ db.roomStates, row.createdAt < tx.timestamp rt.zone)
    (hoverrides : ∀ row ∈ db.overrides, row.startsAt < tx.timestamp rt.zone)
    (h : execute rt db tx = .ok out) (h' : execute rt out.db tx' = .ok out') :
    out'.db.logs = out.db.logs ∧ SameStays out.db out'.db := by
  have hbefore := hdb.invariant hinj
  have hafter := (hdb.execute hrt h).invariant hinj
  cases hrepeats with
  | applySyncResult result correlationId correlationId' hsuccess =>
      exact applySyncResult_again hinj hrt hauto hbefore hafter hsuccess hstates hoverrides h h'
  | evaluateAllRooms now correlationId correlationId' =>
      refine evaluateRooms_again hinj hrt hauto hbefore hafter (fun rows rows' hids => ?_) hstates
        hoverrides h h'
      rw [rows.roomIds_eq, rows'.roomIds_eq, hids]
  | evaluateRoomKeys roomKeys now correlationId correlationId' =>
      refine evaluateRooms_again hinj hrt hauto hbefore hafter (fun rows rows' hids => ?_) hstates
        hoverrides h h'
      rw [rows.roomIdsOfKeys_eq, rows'.roomIdsOfKeys_eq, hids]

theorem repeated_input_changes_nothing (hinj : base.uuid4.Injective) (hrt : base.Restart rt)
    (hauto : base.autoflush = true) (hdb : Reachable base db) {tx tx' : Transaction}
    (hrepeats : Repeats tx tx')
    (hstates : ∀ row ∈ db.roomStates, row.createdAt < tx.timestamp rt.zone)
    (hoverrides : ∀ row ∈ db.overrides, row.startsAt < tx.timestamp rt.zone)
    {db' db'' : Db H} (h : next db ⟨rt, tx⟩ = some db')
    (hagain : db'' = (next db' ⟨rt, tx'⟩).getD db') :
    db''.roomStates = db'.roomStates ∧ db''.outbox = db'.outbox ∧
      db''.overrides = db'.overrides ∧ db''.bookings = db'.bookings ∧
      ∀ bookingId, (db''.currentOf bookingId).map (·.placement) =
        (db'.currentOf bookingId).map (·.placement) := by
  obtain ⟨out, hout, rfl⟩ := next_ok h
  subst hagain
  cases hnext : next out.db ⟨rt, tx'⟩ with
  | none => exact ⟨rfl, rfl, rfl, rfl, fun _ => rfl⟩
  | some db'' =>
      obtain ⟨out', hout', rfl⟩ := next_ok hnext
      obtain ⟨hlogs, hstays⟩ := hrepeats.again hinj hrt hauto hdb hstates hoverrides hout hout'
      simp only [Db.logs, Prod.mk.injEq] at hlogs
      exact ⟨hlogs.1, hlogs.2.2, hlogs.2.1, hstays.bookings, hstays.placements⟩

def demoRepeatedEntries (correlationId : UUID) : Transaction :=
  .applySyncResult (demoSyncResult [demoStay, demoCheckedInStay] (demoNow 10 0)) correlationId

theorem demo_sync_again_changes_nothing :
    ∃ out, execute (demoRuntime true) (Db.empty _) (demoRepeatedEntries 2301) = .ok out ∧
      out.db.outbox ≠ [] ∧
      ∃ db'', next out.db ⟨demoRuntime true, demoRepeatedEntries 2302⟩ = some db'' ∧
        db''.roomStates = out.db.roomStates ∧ db''.outbox = out.db.outbox ∧
        db''.overrides = out.db.overrides ∧ db''.bookings = out.db.bookings ∧
        ∀ bookingId, (db''.currentOf bookingId).map (·.placement) =
          (out.db.currentOf bookingId).map (·.placement) := by
  obtain ⟨out, hout, hchecked⟩ := exists_outcome (demoRuntime true) (Db.empty _)
    (demoRepeatedEntries 2301) (p := fun out => !out.db.outbox.isEmpty &&
      (next out.db ⟨demoRuntime true, demoRepeatedEntries 2302⟩).isSome) (by decide +kernel)
  simp only [Bool.and_eq_true, Bool.not_eq_true'] at hchecked
  obtain ⟨db'', hagain⟩ := Option.isSome_iff_exists.mp hchecked.2
  have hfirst : next (Db.empty _) ⟨demoRuntime true, demoRepeatedEntries 2301⟩ = some out.db :=
    next_of_ok hout
  refine ⟨out, hout, by simpa using hchecked.1, db'', hagain, ?_⟩
  refine repeated_input_changes_nothing (demoRuntime_uuid4_injective true) (.refl _) rfl (.empty _)
    (.applySyncResult _ 2301 2302 rfl) (by simp [Db.empty]) (by simp [Db.empty]) hfirst ?_
  rw [demoRepeatedEntries] at hagain
  rw [hagain, Option.getD_some]

end ClockOrchestrator
