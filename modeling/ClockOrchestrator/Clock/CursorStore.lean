import ClockOrchestrator.RuntimeInvariants

namespace ClockOrchestrator

open Python UnitOfWork

variable {H α : Type} {rt base : AppRuntime H} {rows : RegistryRows} {observedAt : Instant}
  {correlationId : UUID} {f : Db H → α} {x : α} {s s' : DbSession H}

structure Bystander (f : Db H → α) : Prop where
  registry : IgnoresRegistry f
  addBooking : ∀ db row, f (Db.addBooking db row) = f db
  setBooking : ∀ db row, f (Db.setBooking db row) = f db
  addAssignment : ∀ db row, f (Db.addAssignment db row) = f db
  setAssignment : ∀ db row, f (Db.setAssignment db row) = f db
  addRoomState : ∀ db row, f (Db.addRoomState db row) = f db
  addOverride : ∀ db row, f (Db.addOverride db row) = f db
  addOutbox : ∀ db row, f (Db.addOutbox db row) = f db
  addAudit : ∀ db row, f (Db.addAudit db row) = f db
  drawn : ∀ (db : Db H) drawn, f { db with drawn := drawn } = f db

theorem bystander_syncCursors : Bystander (fun db : Db H => db.syncCursors) :=
  ⟨⟨fun _ _ => rfl, fun _ _ => rfl, fun _ _ => rfl, fun _ _ => rfl⟩, fun _ _ => rfl,
    fun _ _ => rfl, fun _ _ => rfl, fun _ _ => rfl, fun _ _ => rfl, fun _ _ => rfl,
    fun _ _ => rfl, fun _ _ => rfl, fun _ _ => rfl⟩

section Loops

variable (hf : Bystander f)
include hf

theorem audit_shows (h : s.Shows f x) (propertyId : UUID) (roomId bookingId : Option UUID)
    (detail : AuditDetail) (at' : Instant) :
    (s.modify (addAuditEvent rt propertyId roomId bookingId detail at' correlationId)).Shows f x :=
  h.modify (hf.addAudit _ _)

theorem upsertBooking_shows (h : s.Shows f x) (property : PropertyRow) (b : NormalizedBooking) :
    (upsertBooking rt property s b observedAt).2.2.Shows f x := by
  rw [upsertBooking]
  split
  · exact (h.modify (hf.addBooking _ _)).flush
  · exact (h.modify (hf.setBooking _ _)).flush

theorem replaceAssignment_shows (h : s.Shows f x) (booking : BookingRow) (b : NormalizedBooking)
    (current : Option AssignmentRow) (room : Option RoomRow) :
    (replaceAssignment rt rows s booking b current room observedAt correlationId).2.Shows f x := by
  have hended : (endCurrent s current observedAt).Shows f x := by
    cases current with
    | none => exact h
    | some a =>
        exact h.modify (g := (·.setAssignment (endAssignment a observedAt))) (hf.setAssignment _ _)
  have hadded := hended.modify (g := fun db => db.addAssignment
    (newAssignmentRow rt db booking b room observedAt)) (hf.addAssignment _ _)
  simp only [replaceAssignment, auditNewAssignment]
  split
  · exact audit_shows hf (audit_shows hf hadded _ _ _ _ _) _ _ _ _ _
  · exact audit_shows hf hadded _ _ _ _ _

theorem syncAssignment_shows (h : s.Shows f x) (booking : BookingRow) (b : NormalizedBooking) :
    (syncAssignment rt rows s booking b observedAt correlationId).2.Shows f x := by
  simp only [syncAssignment]
  split
  · exact h
  · next current _ _ =>
      have hended := h.modify (g := (·.setAssignment (endAssignment current observedAt)))
        (hf.setAssignment _ _)
      exact audit_shows hf hended _ _ _ _ _
  · split
    · simp only [keepAssignment]
      split
      · exact h.modify (g := (·.setAssignment _)) (hf.setAssignment _ _)
      · exact h
    · exact replaceAssignment_shows hf h ..
  · exact replaceAssignment_shows hf h ..

theorem processBooking_shows {p p' : SyncProgress H} {b : NormalizedBooking}
    (h : processBooking rt rows observedAt correlationId p b = .ok p')
    (hs : p.session.Shows f x) : p'.session.Shows f x := by
  unfold processBooking at h
  obtain ⟨_, -, h⟩ := bind_ok h
  have hup : (upsertBooking rt rows.property p.session b observedAt).2.2.Shows f x :=
    upsertBooking_shows hf hs rows.property b
  generalize upsertBooking rt rows.property p.session b observedAt = up at h hup
  obtain ⟨row, changed, m⟩ := up
  dsimp only at h hup
  have hassigned : (syncAssignment rt rows m row b observedAt correlationId).2.Shows f x :=
    syncAssignment_shows hf hup row b
  generalize syncAssignment rt rows m row b observedAt correlationId = assigned at h hassigned
  obtain ⟨change, t⟩ := assigned
  dsimp only at h hassigned
  obtain ⟨out, haudit, h⟩ := bind_ok h
  cases h
  unfold auditIfWithoutRoom auditUnassignedIfNeeded at haudit
  split at haudit
  · cases haudit
    exact hassigned
  · obtain ⟨evaluation, -, haudit⟩ := bind_ok haudit
    split at haudit
    · cases haudit
      exact hassigned
    · cases haudit
      exact audit_shows hf hassigned _ _ _ _ _

theorem outbox_shows (h : s.Shows f x) (topic : String) (payload : OutboxPayload)
    (at' : Instant) : (s.modify (addOutboxEvent rt topic payload at' correlationId)).Shows f x :=
  h.modify (hf.addOutbox _ _)

theorem applyDecision_shows [DecidableEq H] (h : s.Shows f x) (loaded : LoadedBookings)
    (d : RoomDecision H) :
    (applyDecision rt rows loaded d observedAt correlationId s).2.2.Shows f x := by
  have hcontrol : ∀ (control : Option ControlPayload) {m : DbSession H}, m.Shows f x →
      (controlEvent rt d.room control observedAt correlationId m).Shows f x := by
    intro control m hm
    cases control with
    | none => exact hm
    | some payload => exact outbox_shows hf hm ..
  have hend : (endInactiveOverrideIfNeeded rt rows s d.roomId d.room.key d.latestOverride d.state
      observedAt correlationId).2.Shows f x := by
    rcases endInactiveOverrideIfNeeded_cases rt rows observedAt correlationId s d.roomId d.room.key
      d.latestOverride d.state with hsame | ⟨row, -, -, -, hended⟩
    · rw [hsame]
      exact h
    · rw [hended]
      refine audit_shows hf (h.modify ?_) _ _ _ _ _
      exact (hf.drawn _ _).trans (hf.addOverride _ _)
  simp only [applyDecision]
  split
  · exact hcontrol _ hend
  · simp only [publishDecision, attentionAudit]
    have hintent : ∀ (intent : Option DesiredRoomIntent) {m : DbSession H}, m.Shows f x →
        (intentEvent rt d.room intent observedAt correlationId m).Shows f x := by
      intro intent m hm
      cases intent with
      | none => exact hm
      | some intent => exact outbox_shows hf hm ..
    split
    · exact audit_shows hf (hcontrol _ (hintent _ (outbox_shows hf (hend.modify
        (hf.addRoomState _ _)) ..))) _ _ _ _ _
    · exact hcontrol _ (hintent _ (outbox_shows hf (hend.modify (hf.addRoomState _ _)) ..))

theorem recalculateRooms_shows [DecidableEq H] {roomIds : List UUID}
    {out : Option LoadedBookings × Recalculation H}
    (h : recalculateRooms rt rows s roomIds observedAt correlationId = .ok out)
    (hs : s.Shows f x) : out.2.session.Shows f x := by
  rcases recalculateRooms_ok h with ⟨-, rfl⟩ | ⟨-, -, hrun⟩
  · exact hs
  · refine foldlM_invariant (I := fun r : Recalculation H => r.session.Shows f x) ?_ hrun hs
    intro roomId _ r r' hstep hr
    rcases recalculateRoom_cases hstep with rfl | ⟨d, -, -, -, -, hsession⟩
    · exact hr
    · rw [hsession]
      exact applyDecision_shows hf hr _ d

theorem applyMqttCommand_keeps {db : Db H} {command : RoomCommand}
    {out : CommandProcessingResult × DbSession H}
    (h : applyMqttCommand rt (rt.session db) command = .ok out) : f out.2.live = f db := by
  have hopened : (ensureProperty rt (rt.session db)).2.Shows f (f db) :=
    ensureProperty_shows rt hf.registry (.of_start rt.autoflush db f)
  unfold applyMqttCommand at h
  obtain ⟨now, -, h⟩ := bind_ok h
  generalize ensureProperty rt (rt.session db) = opened at h hopened
  obtain ⟨property, s⟩ := opened
  dsimp only at h hopened
  split at h
  · cases h
    exact (hf.addAudit _ _).trans hopened.live
  · obtain ⟨⟨roomRow, t⟩, hensure, h⟩ := bind_ok h
    have ht := ensureCommandRoom_shows hf.registry hensure hopened
    dsimp only at h
    split at h
    · split at h
      · cases h
        exact (hf.addAudit _ _).trans ht.live
      · cases h
    · split at h
      · cases h
      · cases h
        exact (hf.addAudit _ _).trans ((hf.addOutbox _ _).trans ((hf.addOverride _ _).trans ht.live))

end Loops

def Db.storedCursor (db : Db H) : SyncCursorState :=
  match db.syncCursors with
  | [] => ⟨none, none⟩
  | cursor :: _ => ⟨cursor.lastSuccessAt.map fun u => .aware (.utc u), cursor.cursorValue⟩

structure CursorStore (db : Db H) : Prop where
  single : db.syncCursors.length ≤ 1
  source : ∀ cursor ∈ db.syncCursors, cursor.source = clockBookingsCursorSource
  owner : ∀ cursor ∈ db.syncCursors, cursor.propertyId ∈ db.propertyColumns.map Prod.fst

theorem CursorStore.empty : CursorStore (Db.empty H) :=
  ⟨Nat.zero_le 1, nofun, nofun⟩

theorem CursorStore.of_tables {db db' : Db H} (h : CursorStore db)
    (hcursors : db'.syncCursors = db.syncCursors)
    (hproperties : db.propertyColumns ⊆ db'.propertyColumns) : CursorStore db' := by
  obtain ⟨single, source, owner⟩ := h
  refine ⟨hcursors ▸ single, hcursors ▸ source, ?_⟩
  intro cursor hcursor
  exact List.map_subset Prod.fst hproperties (owner cursor (hcursors ▸ hcursor))

structure CursorSession (db : Db H) (s : DbSession H) : Prop where
  cursors : s.Shows (fun db => db.syncCursors) db.syncCursors
  properties : db.propertyColumns ⊆ s.live.propertyColumns

theorem selectCursor_eq {db : Db H} {property : PropertyRow} (hdb : CursorStore db)
    (hs : CursorSession db s)
    (hproperty : s.live.propertyColumns.map Prod.fst = [property.id]) :
    selectCursor s property = db.syncCursors.head? := by
  rw [selectCursor, Session.select_of_shows hs.cursors, List.filter_eq_self.mpr]
  intro cursor hcursor
  have howner := List.map_subset Prod.fst hs.properties (hdb.owner cursor hcursor)
  rw [hproperty] at howner
  simp [hdb.source cursor hcursor, List.mem_singleton.mp howner]

theorem loadCursorState_eq {db : Db H} (hdb : RegistryStore base db) (hc : CursorStore db)
    (hk : rt.registry.property.key = base.registry.property.key) :
    loadCursorState rt (rt.session db) = db.storedCursor := by
  have hselect := Session.select_of_shows (Session.Shows.of_start rt.autoflush db
    (fun db => db.properties)) (fun r => decide (r.key = rt.registry.property.key))
  unfold loadCursorState Db.storedCursor
  rw [AppRuntime.session, hselect]
  rcases hdb.property with hnone | ⟨id, hone⟩
  · have hempty : db.syncCursors = [] := by
      rw [List.eq_nil_iff_forall_not_mem]
      intro cursor hcursor
      have howner := hc.owner cursor hcursor
      rw [hnone] at howner
      cases howner
    rw [List.map_eq_nil_iff.mp hnone, hempty]
    rfl
  · obtain ⟨stored, hlive, hcolumns⟩ : ∃ r, db.properties = [r] ∧
        r.columns = (id, base.registry.property.key) := by
      simpa [Db.propertyColumns, List.map_eq_singleton_iff] using hone
    simp only [PropertyRow.columns, Prod.mk.injEq] at hcolumns
    have hproperty : (rt.session db).live.propertyColumns.map Prod.fst = [stored.id] := by
      change db.propertyColumns.map Prod.fst = [stored.id]
      rw [hone, hcolumns.1]
      rfl
    have hfound := selectCursor_eq hc ⟨.of_start rt.autoflush db _, List.Subset.refl _⟩ hproperty
    rw [hlive, List.filter_cons_of_pos (by rw [hcolumns.2, hk]; exact decide_eq_true rfl)]
    simp only [List.head?_cons, hfound]
    cases db.syncCursors <;> rfl

def advancedCursor (z : Zone) (cursor : SyncCursorState) : SyncCursorState :=
  ⟨cursor.lastSuccessAt.map fun t => .aware (.utc (t.toUtc z)), cursor.cursorValue⟩

theorem advanceCursor_cursors {db db' : Db H} {property : PropertyRow} {result : SyncRunResult}
    (hdb : CursorStore db) (hs : CursorSession db s)
    (hproperty : s.live.propertyColumns.map Prod.fst = [property.id])
    (hcursors : db'.syncCursors = (advanceCursor rt property s result observedAt).live.syncCursors)
    (hcolumns : db'.propertyColumns = s.live.propertyColumns) :
    CursorStore db' ∧ db'.storedCursor = advancedCursor rt.zone result.nextCursor := by
  have hselect := selectCursor_eq hdb hs hproperty
  have hlive := hs.cursors.live
  obtain ⟨new, hnew, hstate, hsource, howner⟩ : ∃ new : SyncCursorRow, db'.syncCursors = [new] ∧
      (⟨new.lastSuccessAt.map fun u => .aware (.utc u), new.cursorValue⟩ : SyncCursorState) =
        advancedCursor rt.zone result.nextCursor ∧
      new.source = clockBookingsCursorSource ∧ new.propertyId = property.id := by
    unfold advanceCursor at hcursors
    rw [hselect] at hcursors
    cases hstored : db.syncCursors with
    | nil =>
        rw [hstored] at hcursors hlive
        refine ⟨⟨rt.uuid4 s.live.drawn, property.id, clockBookingsCursorSource,
          result.nextCursor.cursorValue, result.nextCursor.lastSuccessAt.map (·.toUtc rt.zone),
          observedAt⟩, ?_, ?_, rfl, rfl⟩
        · simpa only [List.head?_nil, Session.live_modify, Db.addSyncCursor, hlive,
            List.nil_append] using hcursors
        · simp [advancedCursor, Option.map_map, Function.comp_def]
    | cons cursor rest =>
        obtain rfl : rest = [] := by
          have := hdb.single
          rw [hstored, List.length_cons] at this
          exact List.length_eq_zero_iff.mp (by omega)
        have hmem : cursor ∈ db.syncCursors := by rw [hstored]; exact List.mem_singleton_self _
        have howner := List.map_subset Prod.fst hs.properties (hdb.owner cursor hmem)
        rw [hproperty, List.mem_singleton] at howner
        rw [hstored] at hcursors hlive
        refine ⟨⟨cursor.id, cursor.propertyId, cursor.source, result.nextCursor.cursorValue,
          result.nextCursor.lastSuccessAt.map (·.toUtc rt.zone), observedAt⟩, ?_, ?_,
          hdb.source cursor hmem, howner⟩
        · simpa only [List.head?_cons, Session.live_modify, Db.setSyncCursor, KeyedTable.put, hlive,
            List.map_cons, List.map_nil, if_true] using hcursors
        · simp [advancedCursor, Option.map_map, Function.comp_def]
  refine ⟨⟨?_, ?_, ?_⟩, ?_⟩
  · rw [hnew]
    exact Nat.le_refl 1
  · rw [hnew]
    simpa using hsource
  · rw [hnew, hcolumns, hproperty]
    simpa using howner
  · rw [Db.storedCursor, hnew]
    exact hstate

section Transactions

variable [DecidableEq H] {db : Db H} {correlationId : UUID}

omit [DecidableEq H] in
theorem ensureRegistry_cursors (hinj : base.uuid4.Injective) (hrt : base.Restart rt)
    (hdb : RegistryStore base db) {rows : RegistryRows} {t : DbSession H}
    (h : ensureRegistry rt (rt.session db) = .ok (rows, t)) : CursorSession db t :=
  ⟨ensureRegistry_shows bystander_syncCursors.registry h (.of_start rt.autoflush db _),
    (ensureRegistry_session hinj hrt.uuid4 hrt.propertyKey h (.of_start rt.autoflush hdb)).2.2.1⟩

theorem recalculateRooms_cursors {roomIds : List UUID} {t : DbSession H}
    {out : Option LoadedBookings × Recalculation H}
    (h : recalculateRooms rt rows t roomIds observedAt correlationId = .ok out)
    (ht : CursorSession db t) :
    CursorSession db out.2.session ∧
      out.2.session.live.propertyColumns = t.live.propertyColumns := by
  obtain ⟨states, overrides, hpass, -⟩ := recalculateRooms_induction h
    (Q := fun _ _ _ => True) trivial (fun _ _ _ _ _ _ _ _ _ _ _ => trivial)
  have hcolumns : out.2.session.live.propertyColumns = t.live.propertyColumns :=
    hpass.registry.propertyColumns
  exact ⟨⟨recalculateRooms_shows bystander_syncCursors h ht.cursors, hcolumns ▸ ht.properties⟩,
    hcolumns⟩

theorem evaluateRooms_cursors (hinj : base.uuid4.Injective) (hrt : base.Restart rt)
    (hdb : StoreInvariant base db) (hc : CursorStore db) {pick : RegistryRows → List UUID}
    {now : Timestamp} {out : SyncOutcome H}
    (h : evaluateRooms rt (rt.session db) pick now correlationId = .ok out) :
    CursorStore out.outcome.db ∧ out.outcome.db.syncCursors = db.syncCursors := by
  obtain ⟨rows, t, loaded, r, hrows, hr, rfl⟩ := evaluateRooms_ok h
  have hdone := (recalculateRooms_cursors hr
    (ensureRegistry_cursors hinj hrt hdb.registry hrows)).1
  have hcursors : r.session.live.draw.syncCursors = db.syncCursors := hdone.cursors.live
  exact ⟨hc.of_tables hcursors hdone.properties, hcursors⟩

theorem applySyncResult_cursors (hinj : base.uuid4.Injective) (hrt : base.Restart rt)
    (hdb : StoreInvariant base db) (hc : CursorStore db) {result : SyncRunResult}
    {out : SyncOutcome H} (h : applySyncResult rt (rt.session db) result correlationId = .ok out) :
    CursorStore out.outcome.db ∧
      (result.success = false → out.outcome.db.syncCursors = db.syncCursors) ∧
      (result.success = true →
        out.outcome.db.storedCursor = advancedCursor rt.zone result.nextCursor) := by
  obtain ⟨rows, t, hrows, hout⟩ := applySyncResult_ok h
  have ht := ensureRegistry_cursors hinj hrt hdb.registry hrows
  have hopened := (ensureRegistry_opened hinj hrt hdb hrows).1.openSync result correlationId
  have hopen : CursorSession db (openSync rt rows result correlationId t) :=
    ⟨(ht.cursors.modify (g := fun db => db.addSyncRun
      (newSyncRun rt rows.property result correlationId t.live)) rfl).flush, ht.properties⟩
  rcases hout with ⟨hfailed, rfl⟩ | ⟨hsuccess, p, loaded, r, hp, hr, rfl⟩
  · have hcursors : (openSync rt rows result correlationId t).live.syncCursors = db.syncCursors :=
      hopen.cursors.live
    refine ⟨hc.of_tables hcursors hopen.properties, fun _ => hcursors, fun hsuccess => ?_⟩
    rw [hfailed] at hsuccess
    cases hsuccess
  · have hloop := hopened.startLoop.run hinj hrt.uuid4 hp
    have hcolumns : p.session.live.propertyColumns =
        (openSync rt rows result correlationId t).live.propertyColumns :=
      hloop.writes.registry.propertyColumns
    have hbookings : p.session.Shows (fun db => db.syncCursors) db.syncCursors := by
      refine foldlM_invariant (I := fun p : SyncProgress H =>
        p.session.Shows (fun db => db.syncCursors) db.syncCursors) ?_ hp hopen.cursors
      intro b _ q q' hstep hq
      exact processBooking_shows bystander_syncCursors hstep hq
    obtain ⟨hdone, hsame⟩ := recalculateRooms_cursors hr
      ⟨hbookings, hcolumns ▸ hopen.properties⟩
    have hproperty : r.session.live.propertyColumns.map Prod.fst = [rows.property.id] := by
      rw [hsame, hcolumns, hopened.property]
      rfl
    have hfinish : (finishSync rt rows (newSyncRun rt rows.property result correlationId t.live)
        result (result.finishedAt.toUtc rt.zone) p r.session).live.propertyColumns =
          r.session.live.propertyColumns := (finishSync_bookkeeps ..).registry.propertyColumns
    obtain ⟨hstore, hcursor⟩ := advanceCursor_cursors hc hdone hproperty
      (show (finishSync rt rows (newSyncRun rt rows.property result correlationId t.live) result
        (result.finishedAt.toUtc rt.zone) p r.session).live.syncCursors = _ from rfl) hfinish
    refine ⟨hstore, fun hfailed => ?_, fun _ => hcursor⟩
    rw [hsuccess] at hfailed
    cases hfailed

omit [DecidableEq H] in
theorem applyMqttCommand_cursors (hinj : base.uuid4.Injective) (hrt : base.Restart rt)
    (hdb : StoreInvariant base db) (hc : CursorStore db) {command : RoomCommand}
    {out : CommandProcessingResult × DbSession H}
    (h : applyMqttCommand rt (rt.session db) command = .ok out) :
    CursorStore out.2.live ∧ out.2.live.syncCursors = db.syncCursors := by
  obtain ⟨t, ht, hkeeps, -⟩ :=
    (applyMqttCommand_effect hinj hrt.uuid4 hrt.propertyKey hdb.registry h).tables
  have hcursors : out.2.live.syncCursors = db.syncCursors :=
    applyMqttCommand_keeps bystander_syncCursors h
  refine ⟨hc.of_tables hcursors ?_, hcursors⟩
  rw [hkeeps.propertyColumns]
  exact ht.properties

theorem execute_cursors (hinj : base.uuid4.Injective) (hrt : base.Restart rt)
    (hdb : StoreInvariant base db) (hc : CursorStore db) {tx : Transaction} {out : Outcome H}
    (h : execute rt db tx = .ok out) :
    CursorStore out.db ∧
      ((∀ result correlationId, tx = .applySyncResult result correlationId →
        result.success = false) → out.db.syncCursors = db.syncCursors) := by
  cases tx with
  | applySyncResult result correlationId =>
      obtain ⟨sync, hsync, rfl⟩ := map_ok h
      obtain ⟨hstore, hfailed, -⟩ := applySyncResult_cursors hinj hrt hdb hc hsync
      exact ⟨hstore, fun hfails => hfailed (hfails result correlationId rfl)⟩
  | evaluateAllRooms now correlationId =>
      obtain ⟨sync, hsync, rfl⟩ := map_ok h
      obtain ⟨hstore, hsame⟩ := evaluateRooms_cursors hinj hrt hdb hc hsync
      exact ⟨hstore, fun _ => hsame⟩
  | evaluateRoomKeys roomKeys now correlationId =>
      obtain ⟨sync, hsync, rfl⟩ := map_ok h
      obtain ⟨hstore, hsame⟩ := evaluateRooms_cursors hinj hrt hdb hc hsync
      exact ⟨hstore, fun _ => hsame⟩
  | applyMqttCommand command =>
      obtain ⟨result, hresult, rfl⟩ := map_ok h
      obtain ⟨hstore, hsame⟩ := applyMqttCommand_cursors hinj hrt hdb hc hresult
      exact ⟨hstore, fun _ => hsame⟩

theorem Reachable.cursors (hinj : base.uuid4.Injective) (h : Reachable base db) :
    CursorStore db := by
  obtain ⟨requests, hrun⟩ := h
  refine (hrun.invariant (I := fun db => StoreInvariant base db ∧ CursorStore db) ?_
    ⟨.empty, .empty⟩).2
  intro s request t hserved hnext hs
  refine ⟨next_invariant hinj hserved hnext hs.1, ?_⟩
  obtain ⟨out, hout, rfl⟩ := next_ok hnext
  exact (execute_cursors hinj hserved.1 hs.1 hs.2 hout).1

end Transactions

end ClockOrchestrator
