import ClockOrchestrator.Clock.CursorStore
import ClockOrchestrator.TransactionWrites
import ClockOrchestrator.Guarantees.OutboxRecovery

namespace ClockOrchestrator

open Python UnitOfWork KeyedTable FreshIds Trace

variable {H : Type} {base rt : AppRuntime H} {observedAt : Instant} {correlationId : UUID}
  {db db' : Db H}

def Db.ids (db : Db H) : List UUID :=
  db.propertyIds ++ db.roomIds ++ db.bookingIds ++ db.assignments.map (·.id) ++
    db.roomStates.map (·.id) ++ db.overrides.map (·.id) ++ db.syncCursors.map (·.id) ++
    db.syncRuns.map (·.id) ++ db.outbox.map (·.id) ++ db.audit.map (·.id)

theorem TableWrite.ids (h : TableWrite rt observedAt correlationId db db') :
    (db'.ids = db.ids ∧ db.drawn ≤ db'.drawn) ∨
      (db'.ids.Perm (db.ids ++ [rt.uuid4 db.drawn]) ∧ db'.drawn = db.drawn + 1) := by
  have hcount : ∀ {xs ys : List UUID}, (∀ id, xs.count id = ys.count id) → xs.Perm ys :=
    fun h => List.perm_iff_count.mpr h
  cases h with
  | draw => exact .inl ⟨rfl, Nat.le_succ _⟩
  | setProperty | setRoom | setBooking | setAssignment | setSyncCursor | setSyncRun =>
      left
      simp [Db.ids, Db.propertyIds, Db.roomIds, Db.bookingIds, Db.setProperty, Db.setRoom,
        Db.setBooking, Db.setAssignment, Db.setSyncCursor, Db.setSyncRun, map_key_put]
  | addProperty hid | addRoom hid | addBooking hid | addAssignment hid | addRoomState hid
  | addOverride hid | addSyncCursor hid | addSyncRun hid =>
      right
      refine ⟨hcount fun id => ?_, rfl⟩
      simp only [Db.ids, Db.propertyIds, Db.roomIds, Db.bookingIds, Db.addProperty, Db.addRoom,
        Db.addBooking, Db.addAssignment, Db.addRoomState, Db.addOverride, Db.addSyncCursor,
        Db.addSyncRun, List.map_append, List.map_cons, List.map_nil, List.count_append, hid]
      omega
  | addOutbox | addAudit =>
      right
      refine ⟨hcount fun id => ?_, rfl⟩
      simp only [Db.ids, Db.propertyIds, Db.roomIds, Db.bookingIds, addOutboxEvent, Db.addOutbox,
        outboxEvent, addAuditEvent, Db.addAudit, List.map_append, List.map_cons, List.map_nil,
        List.count_append]
      omega

theorem Writes.drawn (hinj : rt.uuid4.Injective) (h : Writes rt observedAt correlationId db db')
    (hdb : Drawn rt.uuid4 db.drawn db.ids) : Drawn rt.uuid4 db'.drawn db'.ids := by
  induction h with
  | refl => exact hdb
  | tail _ hwrite ih =>
      rcases hwrite.ids with ⟨hids, hle⟩ | ⟨hperm, hnext⟩
      · rw [hids]
        exact ih.mono hle
      · rw [hnext]
        exact (ih.append hinj).perm hperm

-- The keys that persistence/models.py declares, that of the commands apart.
structure Db.KeepsSchema (db : Db H) : Prop where
  primaryKeys : db.ids.Nodup
  references : References db db
  propertyKeys : (db.properties.map (·.key)).Nodup
  roomKeys : (db.rooms.map fun row => (row.propertyId, row.key)).Nodup
  roomClockIds : ∀ row ∈ db.rooms, ∀ other ∈ db.rooms, row.propertyId = other.propertyId →
    row.clockRoomId ≠ none → row.clockRoomId = other.clockRoomId → row = other
  bookingKeys : (db.bookings.map fun row => (row.propertyId, row.clockBookingId)).Nodup
  currentAssignments : ((db.assignments.filter (·.isCurrent)).map (·.bookingId)).Nodup
  cursorSources : (db.syncCursors.map fun row => (row.propertyId, row.source)).Nodup

-- A command's row carries its correlation id and one of the scheduler an id of its own, which no
-- statement compares with the others.
structure Db.CommandIds (uuid4 : ℕ → UUID) (db : Db H) : Prop where
  unique : (db.overrides.map (·.commandId)).Nodup
  drawn : ∀ k, uuid4 k ∈ db.overrides.map (·.commandId) → k ≤ db.drawn

theorem Db.CommandIds.of_overrides {uuid4 : ℕ → UUID} (h : db.CommandIds uuid4)
    (hsame : db'.overrides = db.overrides) (hdrawn : db.drawn ≤ db'.drawn) :
    db'.CommandIds uuid4 := by
  obtain ⟨unique, drawn⟩ := h
  rw [← hsame] at unique drawn
  exact ⟨unique, fun k hk => (drawn k hk).trans hdrawn⟩

theorem TableWrite.commandIds (hinj : rt.uuid4.Injective) (hforeign : ∀ k, correlationId ≠ rt.uuid4 k)
    (h : TableWrite rt observedAt correlationId db db') (hdb : db.CommandIds rt.uuid4) :
    db'.CommandIds rt.uuid4 := by
  have hdrawn := h.extends.drawn
  cases h with
  | @addOverride row hid hrow hcommand =>
      have hids : (db.addOverride row).overrides.map (·.commandId) =
          db.overrides.map (·.commandId) ++ [row.commandId] := List.map_append
      have hnew : row.commandId ∉ db.overrides.map (·.commandId) := by
        rcases hcommand with heq | ⟨heq, hfresh⟩
        · rw [heq]
          exact fun hmem => absurd (hdb.drawn _ hmem) (by omega)
        · rw [heq]
          exact hfresh
      refine ⟨?_, fun k hk => ?_⟩
      · rw [hids, List.nodup_append]
        refine ⟨hdb.unique, List.nodup_singleton _, fun x hx y hy heq => ?_⟩
        rw [List.mem_singleton.mp hy] at heq
        exact hnew (heq ▸ hx)
      · rw [hids, List.mem_append, List.mem_singleton] at hk
        rcases hk with hold | hk
        · exact (hdb.drawn k hold).trans hdrawn
        · rcases hcommand with heq | ⟨heq, -⟩
          · exact (hinj (hk.trans heq)).le
          · exact absurd (hk.trans heq).symm (hforeign k)
  | _ => exact hdb.of_overrides rfl hdrawn

theorem Writes.commandIds (hinj : rt.uuid4.Injective) (hforeign : ∀ k, correlationId ≠ rt.uuid4 k)
    (h : Writes rt observedAt correlationId db db') (hdb : db.CommandIds rt.uuid4) :
    db'.CommandIds rt.uuid4 := by
  induction h with
  | refl => exact hdb
  | tail _ hwrite ih => exact hwrite.commandIds hinj hforeign ih

theorem RegistryStore.propertyKeys (h : RegistryStore base db) :
    (db.properties.map (·.key)).Nodup := by
  have hkeys : db.properties.map (·.key) = db.propertyColumns.map Prod.snd := by
    simp [Db.propertyColumns, PropertyRow.columns]
  rw [hkeys]
  rcases h.property with hnone | ⟨id, hone⟩
  · simp [hnone]
  · simp [hone]

theorem StaysStore.currentAssignments (h : StaysStore base db) :
    ((db.assignments.filter (·.isCurrent)).map (·.bookingId)).Nodup := by
  have hrows : (db.assignments.filter (·.isCurrent)).Nodup :=
    (List.Nodup.of_map _ h.assignmentIds.nodup).filter _
  refine hrows.map_on ?_
  intro a ha a' ha' hbooking
  obtain ⟨hmem, hcurrent⟩ := List.mem_filter.mp ha
  obtain ⟨hmem', hcurrent'⟩ := List.mem_filter.mp ha'
  exact h.oneCurrent a hmem a' hmem' hcurrent hcurrent' hbooking

theorem CursorStore.cursorSources (h : CursorStore db) :
    (db.syncCursors.map fun row => (row.propertyId, row.source)).Nodup := by
  have hsingle := h.single
  rcases hcursors : db.syncCursors with _ | ⟨cursor, _ | ⟨second, rest⟩⟩
  · simp
  · simp
  · simp [hcursors] at hsingle

structure Referenced (base : AppRuntime H) (db : Db H) : Prop where
  references : References db db
  ids : Drawn base.uuid4 db.drawn db.ids

namespace Referenced

theorem empty : Referenced base (Db.empty H) :=
  ⟨.empty, by simpa [Db.ids, Db.empty, Db.propertyIds, Db.roomIds, Db.bookingIds] using .nil⟩

variable [DecidableEq H] {guard : Db H → Request H → Prop}

theorem step (hinj : base.uuid4.Injective) {request : Request H}
    (hserved : ServedBy base guard db request) (h : next db request = some db')
    (hdb : Referenced base db) : Referenced base db' ∧ Extends db db' := by
  obtain ⟨out, hout, rfl⟩ := next_ok h
  have hwrites := execute_writes hout hdb.references
  have huuid := hserved.1.uuid4
  have hids := hwrites.drawn (huuid ▸ hinj) (huuid ▸ hdb.ids)
  exact ⟨⟨hwrites.references hdb.references, huuid ▸ hids⟩, hwrites.extends⟩

theorem commandIds (hinj : base.uuid4.Injective) {requests : List (Request H)}
    (h : Run next (ServedBy base guard) db requests db') (hdb : Referenced base db)
    (hforeign : ∀ request ∈ requests, ∀ k, request.transaction.correlation ≠ base.uuid4 k)
    (hids : db.CommandIds base.uuid4) : db'.CommandIds base.uuid4 := by
  refine ((h.with_actions hforeign).invariant
    (I := fun t => Referenced base t ∧ t.CommandIds base.uuid4) ?_ ⟨hdb, hids⟩).2
  rintro t request t' ⟨hserved, hother⟩ hnext ⟨ht, hcommands⟩
  refine ⟨(ht.step hinj hserved hnext).1, ?_⟩
  obtain ⟨out, hout, rfl⟩ := next_ok hnext
  rw [← hserved.1.uuid4] at hcommands hother hinj ⊢
  exact (execute_writes hout ht.references).commandIds hinj hother hcommands

theorem run (hinj : base.uuid4.Injective) {requests : List (Request H)}
    (h : Run next (ServedBy base guard) db requests db') (hdb : Referenced base db) :
    Referenced base db' ∧ Extends db db' := by
  refine h.invariant (I := fun t => Referenced base t ∧ Extends db t) ?_ ⟨hdb, .refl db⟩
  intro t request t' hserved hnext ht
  obtain ⟨hreferenced, hextends⟩ := ht.1.step hinj hserved hnext
  exact ⟨hreferenced, ht.2.trans hextends⟩

end Referenced

variable [DecidableEq H]

theorem store_keeps_schema (hinj : base.uuid4.Injective) (hdb : Reachable base db)
    {requests : List (Request H)}
    (h : Run next (ServedBy base fun _ _ => True) db requests db') :
    db'.KeepsSchema ∧ Extends db db' ∧
      ((∀ request ∈ requests, ∀ k, request.transaction.correlation ≠ base.uuid4 k) →
        db.CommandIds base.uuid4 → db'.CommandIds base.uuid4) := by
  obtain ⟨before, hbefore⟩ := hdb
  have hstart := (Referenced.empty.run hinj hbefore).1
  obtain ⟨hend, hextends⟩ := hstart.run hinj h
  have hreachable : Reachable base db' := ⟨before ++ requests, hbefore.append h⟩
  have hstore := hreachable.invariant hinj
  exact ⟨⟨hend.ids.nodup, hend.references, hstore.registry.propertyKeys,
    hstore.registry.uniqueRoomKeys, hstore.roomsApart.uniqueClockIds hstore.registry,
    hstore.stays.bookingKeys, hstore.stays.currentAssignments,
    (hreachable.cursors hinj).cursorSources⟩, hextends, hstart.commandIds hinj h⟩

def Request.Wrote (request : Request H) (createdAt : Instant) (correlationId : UUID) : Prop :=
  createdAt = request.transaction.timestamp request.runtime.zone ∧
    correlationId = request.transaction.correlation

omit [DecidableEq H] in
theorem Enqueued.wrote {request : Request H} {event : OutboxEvent}
    (h : Enqueued request.runtime (request.transaction.timestamp request.runtime.zone)
      request.transaction.correlation event) :
    request.Wrote event.createdAt event.correlationId := by
  obtain ⟨stored, topic, payload, rfl⟩ := h
  exact ⟨rfl, rfl⟩

theorem events_are_traceable {guard : Db H → Request H → Prop} {requests : List (Request H)}
    (h : Run next (ServedBy base guard) (Db.empty H) requests db) :
    (∀ event ∈ db.outbox, ∃ request ∈ requests, request.Wrote event.createdAt event.correlationId) ∧
      ∀ event ∈ db.audit, ∃ request ∈ requests,
        request.Wrote event.createdAt event.correlationId := by
  refine (h.invariant_past (I := fun requests db => References db db ∧
    (∀ event ∈ db.outbox, ∃ request ∈ requests,
      request.Wrote event.createdAt event.correlationId) ∧
    ∀ event ∈ db.audit, ∃ request ∈ requests,
      request.Wrote event.createdAt event.correlationId) ?_ ⟨.empty, by simp [Db.empty]⟩).2
  intro before request t t' _ _ hnext ht
  obtain ⟨hreferences, houtbox, haudit⟩ := ht
  obtain ⟨out, hout, rfl⟩ := next_ok hnext
  have hwrites := execute_writes hout hreferences
  have hlast : request ∈ before ++ [request] := by simp
  refine ⟨hwrites.references hreferences, fun event hevent => ?_, fun event hevent => ?_⟩
  · rcases hwrites.logs.1 event hevent with hold | hnew
    · obtain ⟨writer, hwriter, hwrote⟩ := houtbox event hold
      exact ⟨writer, List.mem_append_left _ hwriter, hwrote⟩
    · exact ⟨request, hlast, hnew.wrote⟩
  · rcases hwrites.logs.2 event hevent with hold | hnew
    · obtain ⟨writer, hwriter, hwrote⟩ := haudit event hold
      exact ⟨writer, List.mem_append_left _ hwriter, hwrote⟩
    · exact ⟨request, hlast, hnew⟩

def demoDrawing : AppRuntime RoomStateDocument :=
  { demoRuntime false with uuid4 := fun k => 2 * k }

theorem demoDrawing_uuid4_injective : demoDrawing.uuid4.Injective := by
  intro k l h
  change 2 * k = 2 * l at h
  omega

def demoStays : List (Request RoomStateDocument) :=
  [⟨demoDrawing,
      .applySyncResult (demoSyncResult [demoStay, demoUnplacedStay] (demoNow 9 50)) 2001⟩,
    ⟨demoDrawing, .applyMqttCommand (demoCommand "mode" "manual" (demoNow 10 0) 1001)⟩,
    ⟨demoDrawing, .evaluateAllRooms (demoNow 10 5) 2003⟩]

theorem demoStays_foreign :
    ∀ request ∈ demoStays, ∀ k, request.transaction.correlation ≠ demoDrawing.uuid4 k := by
  have hodd : ∀ request ∈ demoStays, request.transaction.correlation % 2 = 1 := by decide
  intro request hrequest k heq
  have hrest := hodd request hrequest
  rw [heq] at hrest
  change 2 * k % 2 = 1 at hrest
  omega

theorem demoStays_run : ∃ db, Run next (ServedBy demoDrawing fun _ _ => True)
    (Db.empty _) demoStays db ∧ db.overrides.length = 1 ∧ db.assignments.length = 1 := by
  have hends : (Trace.run next (Db.empty _) demoStays).any fun db =>
      decide (db.overrides.length = 1 ∧ db.assignments.length = 1) := by
    decide +kernel
  obtain ⟨db, hdb, hrows⟩ := (Option.any_eq_true _ _).mp hends
  have hruntime : ∀ request ∈ demoStays, request.runtime = demoDrawing := by
    simp [demoStays]
  refine ⟨db, run_of_eq_some ?_ hdb, of_decide_eq_true hrows⟩
  intro request hrequest s
  exact ⟨(hruntime request hrequest).symm ▸ .refl _, trivial⟩

theorem commanded_stays_keep_schema : ∃ db : Db RoomStateDocument, db.KeepsSchema ∧
    db.CommandIds demoDrawing.uuid4 ∧ db.overrides.length = 1 ∧ db.assignments.length = 1 := by
  obtain ⟨db, hrun, hrows⟩ := demoStays_run
  obtain ⟨hschema, -, hcommands⟩ :=
    store_keeps_schema demoDrawing_uuid4_injective (Reachable.empty _) hrun
  have hempty : (Db.empty RoomStateDocument).CommandIds demoDrawing.uuid4 :=
    ⟨by simp [Db.empty], by simp [Db.empty]⟩
  exact ⟨db, hschema, hcommands demoStays_foreign hempty, hrows⟩

theorem stay_events_are_traceable : ∃ db : Db RoomStateDocument, db.overrides.length = 1 ∧
    ∀ event ∈ db.outbox, ∃ request ∈ demoStays,
      request.Wrote event.createdAt event.correlationId := by
  obtain ⟨db, hrun, hrows, -⟩ := demoStays_run
  exact ⟨db, hrows, (events_are_traceable hrun).1⟩

end ClockOrchestrator
