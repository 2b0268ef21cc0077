import ClockOrchestrator.Runtime
import ClockOrchestrator.Clock.SyncTransaction
import ClockOrchestrator.Policy.CommandEffect

namespace ClockOrchestrator

open Python UnitOfWork Trace

variable {H : Type} {rt base : AppRuntime H} {db : Db H}

structure StoreInvariant (base : AppRuntime H) (db : Db H) : Prop where
  registry : RegistryStore base db
  stays : StaysStore base db
  overrides : ∀ row ∈ db.overrides, row.WellFormed
  overrideRooms : ∀ row ∈ db.overrides, row.roomId ∈ db.roomColumns.map Prod.fst
  stateRooms : ∀ row ∈ db.roomStates, row.roomId ∈ db.roomColumns.map Prod.fst
  roomsApart : db.RoomsApart

structure OpenedSession (base rt : AppRuntime H) (db : Db H) (rows : RegistryRows)
    (s : DbSession H) : Prop where
  registry : RegistryStore base s.live
  rowsStored : RowsStored rows s.live
  property : s.live.propertyColumns = [(rows.property.id, base.registry.property.key)]
  entries : rows.entries.map Prod.fst = rt.registry.rooms
  growth : db.roomColumns <+: s.live.roomColumns
  logs : s.Shows Db.logs db.logs
  bookings : s.Shows (·.bookings) s.live.bookings
  stays : StaysStore base s.live
  roomsApart : s.live.RoomsApart

theorem Db.RoomsApart.of_rooms {db' : Db H} (h : db.RoomsApart) (hrooms : db'.rooms = db.rooms) :
    db'.RoomsApart := by
  unfold Db.RoomsApart
  rw [hrooms]
  exact h

theorem ensureRegistry_opened (hinj : base.uuid4.Injective) (hrt : base.Restart rt)
    (hdb : StoreInvariant base db) {rows : RegistryRows} {t : DbSession H}
    (h : ensureRegistry rt (rt.session db) = .ok (rows, t)) :
    OpenedSession base rt db rows t ∧ t.Shows Db.stays db.stays := by
  obtain ⟨ht, hp, hsub, hgrowth, hrows, hfst, hdrawn⟩ := ensureRegistry_session hinj hrt.uuid4
    hrt.propertyKey h (.of_start rt.autoflush hdb.registry)
  have hlogs := ensureRegistry_shows ignoresRegistry_logs h (.of_start rt.autoflush db Db.logs)
  have hstays := ensureRegistry_shows ignoresRegistry_stays h (.of_start rt.autoflush db Db.stays)
  have hbookings := hstays.map Prod.fst
  refine ⟨⟨ht.store, hrows, hp, hfst, hgrowth, hlogs, ?_, ?_, ?_⟩, hstays⟩
  · exact hbookings.self
  · exact hdb.stays.of_tables hstays.live (List.map_subset Prod.fst hsub) hdrawn
  · exact ensureRegistry_apart hinj hrt.uuid4 hrt.propertyKey h hdb.registry hdb.roomsApart

theorem OpenedSession.openSync {rows : RegistryRows} {t : DbSession H}
    (h : OpenedSession base rt db rows t) (result : SyncRunResult) (correlationId : UUID) :
    OpenedSession base rt db rows (openSync rt rows result correlationId t) where
  registry := h.registry.of_columns rfl rfl (Nat.le_succ _)
  rowsStored := ⟨h.rowsStored.columns, h.rowsStored.stored⟩
  property := h.property
  entries := h.entries
  growth := h.growth
  logs := ⟨h.logs.live, h.logs.live⟩
  bookings := ⟨rfl, rfl⟩
  stays := h.stays.of_tables rfl (fun _ hid => hid) (Nat.le_succ _)
  roomsApart := h.roomsApart

theorem OpenedSession.loop {rows : RegistryRows} {t t' : DbSession H}
    (h : OpenedSession base rt db rows t) (hl : LoopSession base rows t t') :
    OpenedSession base rt db rows t' where
  registry := hl.writes.registry.store h.registry
  rowsStored := hl.writes.registry.rowsStored h.rowsStored
  property := hl.writes.registry.propertyColumns.trans h.property
  entries := h.entries
  growth := by rw [hl.writes.registry.roomColumns]; exact h.growth
  logs := by
    refine ⟨?_, hl.writes.logs.trans h.logs.live⟩
    exact (hl.writes.logsFlushed h.logs.self.flushed).trans h.logs.live
  bookings := hl.bookings
  stays := hl.stays
  roomsApart := h.roomsApart.of_rooms hl.writes.registry.rooms

theorem OpenedSession.startLoop {rows : RegistryRows} {t : DbSession H}
    (h : OpenedSession base rt db rows t) : LoopSession base rows t t :=
  ⟨.refl t, h.bookings, h.stays, by rw [h.property]; simp⟩

variable [DecidableEq H]

structure Evaluates (base rt : AppRuntime H) (db : Db H) (out : Outcome H)
    (rows : RegistryRows) (s : DbSession H) (r : Recalculation H) (observedAt : Instant)
    (correlationId : UUID) : Prop where
  opened : OpenedSession base rt db rows s
  recalculated : recalculateRooms rt rows s out.affectedRoomIds observedAt correlationId =
    .ok (out.loaded, r)
  decisions : out.decisions = r.decisions
  bookkeeps : OnlyBookkeeps r.session.live out.db

structure AppliedSync (base rt : AppRuntime H) (db : Db H) (result : SyncRunResult)
    (correlationId : UUID) (out : Outcome H) (rows : RegistryRows) (t : DbSession H)
    (p : SyncProgress H) : Prop where
  opened : OpenedSession base rt db rows t
  stays : t.live.stays = db.stays
  autoflush : t.autoflush = rt.autoflush
  processed : result.bookings.foldlM
    (processBooking rt rows (result.finishedAt.toUtc rt.zone) correlationId) ⟨t, [], 0, 0⟩ = .ok p
  loop : LoopSession base rows t p.session
  affected : out.affectedRoomIds = p.affectedRoomIds
  loaded : ∀ loaded, out.loaded = some loaded →
    loaded = loadNormalizedBookings p.session rows.property ∧ p.affectedRoomIds ≠ []
  committed : out.db.stays = p.session.live.stays
  property : out.db.propertyColumns = [(rows.property.id, base.registry.property.key)]
  propertyKey : rows.property.key = base.registry.property.key
  rowsStored : RowsStored rows out.db

structure RoomsRun (base rt : AppRuntime H) (db : Db H) (out : Outcome H) (rows : RegistryRows)
    (s : DbSession H) (r : Recalculation H) (observedAt : Instant) (correlationId : UUID) :
    Prop where
  evaluates : Evaluates base rt db out rows s r observedAt correlationId
  properties : db.propertyColumns ⊆ s.live.propertyColumns
  propertyKey : rows.property.key = base.registry.property.key
  autoflush : s.autoflush = rt.autoflush

omit [DecidableEq H] in
theorem ensureProperty_key {s : DbSession H} (hs : RegistrySession base s)
    (hk : rt.registry.property.key = base.registry.property.key) :
    (ensureProperty rt s).1.key = base.registry.property.key := by
  rcases hs.store.property with hnone | ⟨id, hone⟩
  · rw [ensureProperty_new hs hnone]
    exact hk
  · rw [ensureProperty_stored hs (hk ▸ hone)]
    exact hk

omit [DecidableEq H] in
theorem ensureRegistry_property (hinj : base.uuid4.Injective) (hrt : base.Restart rt)
    (hdb : StoreInvariant base db) {rows : RegistryRows} {t : DbSession H}
    (h : ensureRegistry rt (rt.session db) = .ok (rows, t)) :
    db.propertyColumns ⊆ t.live.propertyColumns ∧
      rows.property.key = base.registry.property.key := by
  have hstart : RegistrySession base (rt.session db) := .of_start rt.autoflush hdb.registry
  obtain ⟨-, -, hsub, -⟩ := ensureRegistry_session hinj hrt.uuid4 hrt.propertyKey h hstart
  refine ⟨hsub, ?_⟩
  obtain ⟨_, hproperty, -⟩ := ensureRegistry_ok h
  rw [hproperty]
  exact ensureProperty_key hstart hrt.propertyKey

theorem applySyncResult_run (hinj : base.uuid4.Injective) (hrt : base.Restart rt)
    (hdb : StoreInvariant base db) {result : SyncRunResult} {correlationId : UUID}
    {out : Outcome H} (h : execute rt db (.applySyncResult result correlationId) = .ok out)
    (hsuccess : result.success = true) :
    ∃ rows t p r, AppliedSync base rt db result correlationId out rows t p ∧
      RoomsRun base rt db out rows p.session r (result.finishedAt.toUtc rt.zone) correlationId := by
  obtain ⟨sync, hsync, rfl⟩ := map_ok h
  obtain ⟨rows, t, hrows, hout⟩ := applySyncResult_ok hsync
  obtain ⟨hopened, hstays⟩ := ensureRegistry_opened hinj hrt hdb hrows
  obtain ⟨hproperties, hkey⟩ := ensureRegistry_property hinj hrt hdb hrows
  have hopen := hopened.openSync result correlationId
  have hauto := ensureRegistry_autoflush hrows
  rcases hout with ⟨hfailed, -⟩ | ⟨-, p, loaded, r, hp, hr, rfl⟩
  · rw [hsuccess] at hfailed
    cases hfailed
  · have hloop := hopen.startLoop.run hinj hrt.uuid4 hp
    obtain ⟨states, overrides, hpass, -⟩ := recalculateRooms_induction hr
      (Q := fun _ _ _ => True) trivial (fun _ _ _ _ _ _ _ _ _ _ _ => trivial)
    have hfinish : OnlyBookkeeps r.session.live (finishSync rt rows
        (newSyncRun rt rows.property result correlationId t.live) result
        (result.finishedAt.toUtc rt.zone) p r.session).live := finishSync_bookkeeps ..
    refine ⟨rows, openSync rt rows result correlationId t, p, r, ⟨hopen, hstays.live, hauto, hp,
      hloop, rfl, ?_, hfinish.stays.trans hpass.stays, ?_, hkey, ?_⟩,
      ⟨hopen.loop hloop, hr, rfl, hfinish⟩, ?_, hkey, hloop.writes.autoflush.trans hauto⟩
    · intro found hfound
      rcases recalculateRooms_ok hr with ⟨-, heq⟩ | ⟨hne, hloaded, -⟩
      · cases heq
        cases hfound
      · exact ⟨Option.some.inj (hfound.symm.trans hloaded), hne⟩
    · exact (hpass.registry.trans hfinish.registry).propertyColumns.trans (hopen.loop hloop).property
    · exact (hpass.registry.trans hfinish.registry).rowsStored (hopen.loop hloop).rowsStored
    · rw [hloop.writes.registry.propertyColumns]
      exact hproperties

theorem applySyncResult_applied (hinj : base.uuid4.Injective) (hrt : base.Restart rt)
    (hdb : StoreInvariant base db) {result : SyncRunResult} {correlationId : UUID}
    {out : Outcome H} (h : execute rt db (.applySyncResult result correlationId) = .ok out)
    (hsuccess : result.success = true) :
    ∃ rows t p, AppliedSync base rt db result correlationId out rows t p := by
  obtain ⟨rows, t, p, r, hsync, -⟩ := applySyncResult_run hinj hrt hdb h hsuccess
  exact ⟨rows, t, p, hsync⟩

omit [DecidableEq H] in
theorem AppliedSync.property_eq {result : SyncRunResult} {correlationId : UUID} {out : Outcome H}
    {rows : RegistryRows} {t : DbSession H} {p : SyncProgress H}
    (h : AppliedSync base rt db result correlationId out rows t p) {property : PropertyRow}
    (hproperty : property ∈ out.db.properties) :
    property.id = rows.property.id ∧ property.key = rows.property.key := by
  have hmem : property.columns ∈ out.db.propertyColumns := List.mem_map_of_mem hproperty
  rw [h.property, List.mem_singleton] at hmem
  simp only [PropertyRow.columns, Prod.mk.injEq] at hmem
  exact ⟨hmem.1, hmem.2.trans h.propertyKey.symm⟩

theorem applySyncResult_evaluates (hinj : base.uuid4.Injective) (hrt : base.Restart rt)
    (hdb : StoreInvariant base db) {result : SyncRunResult} {correlationId : UUID}
    {out : SyncOutcome H}
    (h : applySyncResult rt (rt.session db) result correlationId = .ok out) :
    ∃ rows s r, Evaluates base rt db out.outcome rows s r
      (result.finishedAt.toUtc rt.zone) correlationId := by
  obtain ⟨rows, t, hrows, hout⟩ := applySyncResult_ok h
  have hopened := (ensureRegistry_opened hinj hrt hdb hrows).1.openSync result correlationId
  rcases hout with ⟨-, rfl⟩ | ⟨-, p, loaded, r, hp, hr, rfl⟩
  · refine ⟨rows, _, ⟨openSync rt rows result correlationId t, [], ⟨0, 0, 0⟩, []⟩, hopened, rfl,
      rfl, ⟨.refl _, rfl, rfl⟩⟩
  · have hloop := hopened.startLoop.run hinj hrt.uuid4 hp
    exact ⟨rows, p.session, r, hopened.loop hloop, hr, rfl, finishSync_bookkeeps ..⟩

theorem evaluateRooms_run (hinj : base.uuid4.Injective) (hrt : base.Restart rt)
    (hdb : StoreInvariant base db) {pick : RegistryRows → List UUID} {now : Timestamp}
    {correlationId : UUID} {out : SyncOutcome H}
    (h : evaluateRooms rt (rt.session db) pick now correlationId = .ok out) :
    ∃ rows s r, RoomsRun base rt db out.outcome rows s r (now.toUtc rt.zone) correlationId ∧
      s.live.stays = db.stays ∧ out.affectedRoomIds = pick rows := by
  obtain ⟨rows, t, loaded, r, hrows, hr, rfl⟩ := evaluateRooms_ok h
  obtain ⟨hopened, hstays⟩ := ensureRegistry_opened hinj hrt hdb hrows
  obtain ⟨hproperties, hkey⟩ := ensureRegistry_property hinj hrt hdb hrows
  exact ⟨rows, t, r, ⟨⟨hopened, hr, rfl, ⟨rfl, rfl, Nat.le_succ _⟩, rfl, rfl⟩, hproperties, hkey,
    ensureRegistry_autoflush hrows⟩, hstays.live, rfl⟩

theorem evaluateRooms_evaluates (hinj : base.uuid4.Injective) (hrt : base.Restart rt)
    (hdb : StoreInvariant base db) {pick : RegistryRows → List UUID} {now : Timestamp}
    {correlationId : UUID} {out : SyncOutcome H}
    (h : evaluateRooms rt (rt.session db) pick now correlationId = .ok out) :
    ∃ rows s r, Evaluates base rt db out.outcome rows s r (now.toUtc rt.zone) correlationId := by
  obtain ⟨rows, s, r, hrun, -⟩ := evaluateRooms_run hinj hrt hdb h
  exact ⟨rows, s, r, hrun.evaluates⟩

theorem execute_evaluates (hinj : base.uuid4.Injective) (hrt : base.Restart rt)
    (hdb : StoreInvariant base db) {tx : Transaction} {out : Outcome H}
    (h : execute rt db tx = .ok out) :
    (∃ rows s r, Evaluates base rt db out rows s r (tx.timestamp rt.zone) tx.correlation) ∨
    ∃ command result, tx = .applyMqttCommand command ∧
      CommandEffect base rt db command result ∧ out = commandOutcome result := by
  cases tx with
  | applySyncResult result correlationId =>
      obtain ⟨sync, hsync, rfl⟩ := map_ok h
      exact .inl (applySyncResult_evaluates hinj hrt hdb hsync)
  | evaluateAllRooms now correlationId =>
      obtain ⟨sync, hsync, rfl⟩ := map_ok h
      exact .inl (evaluateRooms_evaluates hinj hrt hdb hsync)
  | evaluateRoomKeys roomKeys now correlationId =>
      obtain ⟨sync, hsync, rfl⟩ := map_ok h
      exact .inl (evaluateRooms_evaluates hinj hrt hdb hsync)
  | applyMqttCommand command =>
      obtain ⟨result, hresult, rfl⟩ := map_ok h
      exact .inr ⟨command, result, rfl,
        applyMqttCommand_effect hinj hrt.uuid4 hrt.propertyKey hdb.registry hresult, rfl⟩

theorem execute_cases (hinj : base.uuid4.Injective) (hrt : base.Restart rt)
    (hdb : StoreInvariant base db) {tx : Transaction} {out : Outcome H}
    (h : execute rt db tx = .ok out) :
    (∃ rows s r observedAt correlationId,
      Evaluates base rt db out rows s r observedAt correlationId) ∨
    ∃ command result, tx = .applyMqttCommand command ∧
      CommandEffect base rt db command result ∧ out = commandOutcome result :=
  (execute_evaluates hinj hrt hdb h).imp (fun ⟨rows, s, r, he⟩ => ⟨rows, s, r, _, _, he⟩) id

theorem schedulerOverrideRow_wellFormed (id roomId commandId : UUID) (observedAt : Instant) :
    (schedulerOverrideRow id roomId commandId observedAt).WellFormed :=
  ⟨by simp [schedulerOverrideRow], by simp [schedulerOverrideRow]⟩

theorem mem_roomIds_of_prefix {xs ys : List (UUID × UUID × String)} (h : xs <+: ys) {id : UUID}
    (hid : id ∈ xs.map Prod.fst) : id ∈ ys.map Prod.fst :=
  List.map_subset Prod.fst h.subset hid

theorem Evaluates.rooms {out : Outcome H} {rows : RegistryRows} {s : DbSession H}
    {r : Recalculation H} {observedAt : Instant} {correlationId : UUID}
    (h : Evaluates base rt db out rows s r observedAt correlationId) :
    ∃ states overrides, PassProgress s observedAt [] r states overrides ∧
      (∀ row ∈ states, row.roomId ∈ s.live.roomColumns.map Prod.fst) ∧
      (∀ row ∈ overrides, row.roomId ∈ s.live.roomColumns.map Prod.fst) := by
  refine recalculateRooms_induction h.recalculated
    (Q := fun _ states overrides =>
      (∀ row ∈ states, row.roomId ∈ s.live.roomColumns.map Prod.fst) ∧
      (∀ row ∈ overrides, row.roomId ∈ s.live.roomColumns.map Prod.fst)) ⟨by simp, by simp⟩ ?_
  rintro roomId rest r r' states newStates overrides newOverrides d hstep ⟨hs, ho⟩
  have hroom := List.mem_map_of_mem (f := Prod.fst)
    (h.opened.rowsStored.column_of_domainRoom hstep.room)
  refine ⟨?_, ?_⟩
  · intro row hrow
    rcases List.mem_append.mp hrow with hrow | hrow
    · exact hs row hrow
    · rw [hstep.statesRoom row hrow]
      exact hroom
  · intro row hrow
    rcases List.mem_append.mp hrow with hrow | hrow
    · exact ho row hrow
    · rw [hstep.overridesRoom row hrow]
      exact hroom

theorem Evaluates.invariant {out : Outcome H} {rows : RegistryRows} {s : DbSession H}
    {r : Recalculation H} {observedAt : Instant} {correlationId : UUID}
    (h : Evaluates base rt db out rows s r observedAt correlationId)
    (hdb : StoreInvariant base db) : StoreInvariant base out.db := by
  obtain ⟨states, overrides, hp, hstates, hoverrides⟩ := h.rooms
  have hlogs := h.opened.logs.live
  have hafter := h.bookkeeps.logs
  simp only [Db.logs, Prod.mk.injEq] at hlogs hafter
  have hkeeps := hp.registry.trans h.bookkeeps.registry
  have hcolumns : out.db.roomColumns = s.live.roomColumns := hkeeps.roomColumns
  have hold : ∀ id ∈ db.roomColumns.map Prod.fst, id ∈ out.db.roomColumns.map Prod.fst := by
    intro id hid
    rw [hcolumns]
    exact mem_roomIds_of_prefix h.opened.growth hid
  have houtOverrides : out.db.overrides = db.overrides ++ overrides := by
    rw [hafter.2.1, hp.overrideRows, hlogs.2.1]
  have houtStates : out.db.roomStates = db.roomStates ++ states := by
    rw [hafter.1, hp.roomStates, hlogs.1]
  refine ⟨hkeeps.store h.opened.registry, ?_, ?_, ?_, ?_,
    h.opened.roomsApart.of_rooms hkeeps.rooms⟩
  · exact h.opened.stays.of_tables (h.bookkeeps.stays.trans hp.stays)
      (fun id hid => by rw [hkeeps.propertyColumns]; exact hid) hkeeps.drawn
  · intro row hrow
    rw [houtOverrides, List.mem_append] at hrow
    rcases hrow with hrow | hrow
    · exact hdb.overrides row hrow
    · obtain ⟨id, roomId, commandId, rfl⟩ := hp.scheduled row hrow
      exact schedulerOverrideRow_wellFormed ..
  · intro row hrow
    rw [houtOverrides, List.mem_append] at hrow
    rcases hrow with hrow | hrow
    · exact hold _ (hdb.overrideRooms row hrow)
    · rw [hcolumns]
      exact hoverrides row hrow
  · intro row hrow
    rw [houtStates, List.mem_append] at hrow
    rcases hrow with hrow | hrow
    · exact hold _ (hdb.stateRooms row hrow)
    · rw [hcolumns]
      exact hstates row hrow

omit [DecidableEq H] in
theorem CommandEffect.invariant {command : RoomCommand}
    {out : CommandProcessingResult × DbSession H} (h : CommandEffect base rt db command out)
    (hdb : StoreInvariant base db) : StoreInvariant base out.2.live := by
  obtain ⟨t, ht, hkeeps, hstays, hstates, -, hoverrides⟩ := h.tables
  have hcolumns := hkeeps.roomColumns
  have hold : ∀ id ∈ db.roomColumns.map Prod.fst, id ∈ out.2.live.roomColumns.map Prod.fst := by
    intro id hid
    rw [hcolumns]
    exact mem_roomIds_of_prefix ht.growth hid
  have hproperties : ∀ id ∈ db.propertyColumns.map Prod.fst,
      id ∈ out.2.live.propertyColumns.map Prod.fst := by
    rw [hkeeps.propertyColumns]
    exact List.map_subset Prod.fst ht.properties
  refine ⟨hkeeps.store ht.registry.store,
    hdb.stays.of_tables hstays hproperties (ht.drawn.trans hkeeps.drawn), ?_, ?_, ?_,
    (ht.apart hdb.roomsApart).of_rooms hkeeps.rooms⟩
  · rcases hoverrides with hsame | ⟨row, hadded, -, hwell⟩
    · rw [hsame]
      exact hdb.overrides
    · intro old hold'
      rw [hadded, List.mem_append, List.mem_singleton] at hold'
      rcases hold' with hold' | rfl
      · exact hdb.overrides old hold'
      · exact hwell hdb.overrides
  · rcases hoverrides with hsame | ⟨row, hadded, hroom, -⟩
    · rw [hsame]
      exact fun row hrow => hold _ (hdb.overrideRooms row hrow)
    · intro old hold'
      rw [hadded, List.mem_append, List.mem_singleton] at hold'
      rcases hold' with hold' | rfl
      · exact hold _ (hdb.overrideRooms old hold')
      · rw [hcolumns]
        exact hroom
  · rw [hstates]
    exact fun row hrow => hold _ (hdb.stateRooms row hrow)

omit [DecidableEq H] in
theorem StoreInvariant.empty : StoreInvariant base (Db.empty H) :=
  ⟨.empty, .empty, by simp [Db.empty], by simp [Db.empty], by simp [Db.empty], .empty⟩

variable (rt db) in
theorem exists_outcome (tx : Transaction) {p : Outcome H → Bool}
    (h : (execute rt db tx).toOption.any p = true) :
    ∃ out, execute rt db tx = .ok out ∧ p out = true := by
  obtain ⟨out, hout, hp⟩ := (Option.any_eq_true _ _).mp h
  exact ⟨out, toOption_eq_some.mp hout, hp⟩

variable (rt db) in
theorem exists_decision (tx : Transaction) {p : RoomDecision H → Bool}
    (h : ((execute rt db tx).toOption.any fun out => out.decisions.any p) = true) :
    ∃ out, execute rt db tx = .ok out ∧ ∃ d ∈ out.decisions, p d = true := by
  obtain ⟨out, hout, hp⟩ := exists_outcome rt db tx h
  exact ⟨out, hout, List.any_eq_true.mp hp⟩

theorem next_ok {db' : Db H} {request : Request H} (h : next db request = some db') :
    ∃ out, execute request.runtime db request.transaction = .ok out ∧ out.db = db' := by
  unfold next at h
  split at h
  · next out hout =>
      cases h
      exact ⟨out, hout, rfl⟩
  · cases h

theorem next_invariant (hinj : base.uuid4.Injective) {guard : Db H → Request H → Prop}
    {db' : Db H} {request : Request H} (hserved : ServedBy base guard db request)
    (h : next db request = some db') (hdb : StoreInvariant base db) : StoreInvariant base db' := by
  obtain ⟨out, hout, rfl⟩ := next_ok h
  rcases execute_cases hinj hserved.1 hdb hout with
    ⟨rows, s, r, observedAt, correlationId, he⟩ | ⟨command, result, -, he, rfl⟩
  · exact he.invariant hdb
  · exact he.invariant hdb

theorem run_invariant (hinj : base.uuid4.Injective) {guard : Db H → Request H → Prop}
    {db db' : Db H} {requests : List (Request H)}
    (h : Run next (ServedBy base guard) db requests db') (hdb : StoreInvariant base db) :
    StoreInvariant base db' :=
  h.invariant (fun _ _ _ hg hn hi => next_invariant hinj hg hn hi) hdb

theorem Reachable.invariant (hinj : base.uuid4.Injective) (h : Reachable base db) :
    StoreInvariant base db := by
  obtain ⟨requests, hrun⟩ := h
  exact run_invariant hinj hrun .empty

end ClockOrchestrator
