import ClockOrchestrator.Clock.EvaluationEffect
import ClockOrchestrator.Domain.EvaluationCases
import ClockOrchestrator.Support.PairedLogs

namespace ClockOrchestrator

open Python UnitOfWork Trace RankedLog

variable {H : Type} {base rt : AppRuntime H} {db db' : Db H}

def controlAnnouncement (roomKey : String) (row : OverrideRow) (correlationId : UUID) :
    Announcement :=
  ⟨.control (controlStatePayloadFromOverride roomKey (some row) row.startsAt none), row.startsAt,
    correlationId⟩

def OverrideRow.Starts (row : OverrideRow) : Prop :=
  row.controlMode ≠ .automatic → overrideRowIsActive row row.startsAt = true ∧
    row.Lasts (durationFromRow row)

structure CommandWritten (base : AppRuntime H) (row : OverrideRow) (roomKey : String)
    (observedAt : Instant) (correlationId : UUID) (db db' : Db H) : Prop where
  column : ∃ propertyId, (row.roomId, propertyId, roomKey) ∈ db'.roomColumns
  startsAt : row.startsAt = observedAt
  starts : row.Starts
  states : ∀ roomId, db'.statesOf roomId = db.statesOf roomId
  overrides : db'.overrides = db.overrides ++ [row]
  announced : ∀ topic, db'.announced topic = db.announced topic ++
    if base.topics.roomControlState roomKey = topic then
      [controlAnnouncement roomKey row correlationId] else []

theorem CommandEffect.written {command : RoomCommand}
    {out : CommandProcessingResult × DbSession H} (h : CommandEffect base rt db command out)
    (htopics : rt.topics = base.topics) :
    out.2.live.logs = db.logs ∨
      ∃ row, CommandWritten base row command.roomKey (command.now.toUtc rt.zone)
        command.correlationId db out.2.live := by
  cases h with
  | @rejected property roomId roomKey error reason t ht hnone => exact .inl ht.logs.live
  | @accepted property room roomRow row t hkey hopen hroom hrow =>
      obtain ⟨roomRow', t', hopen', hbuild⟩ := commandRow_eq_some hrow
      rw [hopen] at hopen'
      cases hopen'
      have hlogs := hroom.session.logs.live
      simp only [Db.logs, Prod.mk.injEq] at hlogs
      obtain ⟨hstart, hactive⟩ := buildOverrideRow_starts hbuild
        fun found hfound => by
          obtain ⟨-, -, -, -, -, -, -, -, hopen⟩ := currentBookingBoundary_eq_some hfound
          exact hopen
      have hroomId : row.roomId = roomRow.id := buildOverrideRow_roomId hbuild
      obtain ⟨propertyId, hcolumns⟩ := hroom.columns
      refine .inr ⟨row, ⟨propertyId, ?_⟩, hstart, ?_, ?_, ?_, ?_⟩
      · rw [hroomId, ← hcolumns]
        exact hroom.stored
      · unfold OverrideRow.Starts
        rw [hstart]
        exact fun hmode => ⟨hactive hmode, buildOverrideRow_lasts hbuild hmode⟩
      · exact statesOf_of_roomStates hlogs.1
      · exact congrArg (· ++ [row]) hlogs.2.1
      · intro topic
        refine (announced_addOutboxEvent _ _ topic _ _ _).trans ?_
        rw [← htopics, hkey, controlAnnouncement, hstart]
        congr 1
        exact announced_of_outbox hlogs.2.2 topic

variable [DecidableEq H]

inductive LogEffect (base rt : AppRuntime H) (db : Db H) (out : Outcome H) (observedAt : Instant)
    (correlationId : UUID) : Prop
  | evaluated {loaded : LoadedBookings}
      (h : EvaluationEffect base rt db out loaded observedAt correlationId)
  | commanded {row : OverrideRow} {roomKey : String} (hidle : out.decisions = [])
      (h : CommandWritten base row roomKey observedAt correlationId db out.db)
  | untouched (hidle : out.decisions = []) (h : out.db.logs = db.logs)

omit [DecidableEq H] in
theorem CommandEffect.growth {command : RoomCommand}
    {out : CommandProcessingResult × DbSession H} (h : CommandEffect base rt db command out) :
    db.roomColumns <+: out.2.live.roomColumns := by
  obtain ⟨t, ht, hkeeps, -⟩ := h.tables
  rw [hkeeps.roomColumns]
  exact ht.growth

theorem execute_logEffect (hinj : base.uuid4.Injective) (hrt : base.Restart rt)
    (hdb : StoreInvariant base db) {tx : Transaction} {out : Outcome H}
    (h : execute rt db tx = .ok out) :
    db.roomColumns <+: out.db.roomColumns ∧
      LogEffect base rt db out (tx.timestamp rt.zone) tx.correlation := by
  rcases execute_evaluates hinj hrt hdb h with
    ⟨rows, s, r, he⟩ | ⟨command, result, rfl, he, rfl⟩
  · have heffect := he.effect hrt.topics
    exact ⟨heffect.growth, .evaluated heffect⟩
  · refine ⟨he.growth, ?_⟩
    rcases he.written hrt.topics with hsame | ⟨row, hrow⟩
    · exact .untouched rfl hsame
    · exact .commanded rfl hrow

inductive RoomStep (base rt : AppRuntime H) (observedAt : Instant) (correlationId : UUID)
    (db db' : Db H) (roomId : UUID) (roomKey : String) : Prop
  | kept (hrows : RowsKept roomId db db') (htopics : TopicsKept base.topics roomKey db db')
  | decided {loaded : LoadedBookings} {d : RoomDecision H} (hid : d.roomId = roomId)
      (hkey : d.room.key = roomKey)
      (hd : RoomDecided rt loaded d observedAt correlationId db db')
      (hw : RoomWritten rt loaded d observedAt correlationId db db')
  | commanded {row : OverrideRow} (hid : row.roomId = roomId)
      (h : CommandWritten base row roomKey observedAt correlationId db db')

omit [DecidableEq H] in
theorem CommandWritten.rowsKept {row : OverrideRow} {roomKey : String} {observedAt : Instant}
    {correlationId : UUID} {db' : Db H}
    (h : CommandWritten base row roomKey observedAt correlationId db db') {roomId : UUID}
    (hne : row.roomId ≠ roomId) : RowsKept roomId db db' := by
  refine ⟨h.states roomId, ?_⟩
  exact overridesOf_append_other h.overrides hne

omit [DecidableEq H] in
theorem CommandWritten.topicsKept {row : OverrideRow} {roomKey : String} {observedAt : Instant}
    {correlationId : UUID} {db' : Db H}
    (h : CommandWritten base row roomKey observedAt correlationId db db') {otherKey : String}
    (hne : roomKey ≠ otherKey) : TopicsKept base.topics otherKey db db' := by
  intro topic htopic
  have hcontrol := (base.topics.roomControlState_injective).ne hne
  rw [h.announced]
  simp only [MqttTopics.roomDocuments, List.mem_cons, List.not_mem_nil, or_false] at htopic
  rcases htopic with rfl | rfl | rfl
  · simp [(base.topics.roomPmsState_ne_roomControlState _ _).symm]
  · simp [(base.topics.roomIntentState_ne_roomControlState _ _).symm]
  · simp [hcontrol]

theorem LogEffect.roomStep {out : Outcome H} {observedAt : Instant} {correlationId : UUID}
    (h : LogEffect base rt db out observedAt correlationId)
    (hstore : RegistryStore base out.db) {roomId propertyId : UUID} {roomKey : String}
    (hc : (roomId, propertyId, roomKey) ∈ out.db.roomColumns) :
    RoomStep base rt observedAt correlationId db out.db roomId roomKey := by
  cases h with
  | @evaluated loaded h =>
      by_cases hdecided : ∃ d ∈ out.decisions, d.roomId = roomId
      · obtain ⟨d, hd, hid⟩ := hdecided
        obtain ⟨propertyId', hcolumn⟩ := (h.decided d hd).column
        have heq := hstore.column_unique hcolumn hc hid
        exact .decided hid (Prod.mk.inj (Prod.mk.inj heq).2).2 (h.decided d hd) (h.written d hd)
      · have hids : ∀ d ∈ out.decisions, d.roomId ≠ roomId :=
          fun d hd hid => hdecided ⟨d, hd, hid⟩
        refine .kept (h.rowsKept _ hids) (h.topicsKept _ fun d hd hkey => hids d hd ?_)
        obtain ⟨propertyId', hcolumn⟩ := (h.decided d hd).column
        exact congrArg Prod.fst (KeyedTable.eq_of_key hstore.roomKeys hcolumn hc hkey)
  | @commanded row commandKey hidle h =>
      obtain ⟨propertyId', hcolumn⟩ := h.column
      by_cases hid : row.roomId = roomId
      · have heq := hstore.column_unique hcolumn hc hid
        have hkey : commandKey = roomKey := (Prod.mk.inj (Prod.mk.inj heq).2).2
        exact .commanded hid (hkey ▸ h)
      · refine .kept (h.rowsKept hid) (h.topicsKept fun hkey => hid ?_)
        exact congrArg Prod.fst (KeyedTable.eq_of_key hstore.roomKeys hcolumn hc hkey)
  | untouched hidle h => exact .kept (rowsKept_of_logs h _) (topicsKept_of_logs h _ _)

theorem LogEffect.topicsKept {out : Outcome H} {observedAt : Instant} {correlationId : UUID}
    (h : LogEffect base rt db out observedAt correlationId) {roomKey : String}
    (hfree : ∀ c ∈ out.db.roomColumns, c.2.2 ≠ roomKey) :
    TopicsKept base.topics roomKey db out.db := by
  cases h with
  | evaluated h =>
      refine h.topicsKept _ fun d hd => ?_
      obtain ⟨propertyId, hcolumn⟩ := (h.decided d hd).column
      exact hfree _ hcolumn
  | commanded hidle h =>
      obtain ⟨propertyId, hcolumn⟩ := h.column
      exact h.topicsKept (hfree _ hcolumn)
  | untouched hidle h => exact topicsKept_of_logs h _ _

structure RecordsState (base : AppRuntime H) (row : RoomStateRow H) (z : Zone)
    (state : RoomStateEvaluation) (intent : DesiredRoomIntent) : Prop where
  hash : row.payloadHash = base.stableHash (roomStateDocument z state (some intent))
  phase : row.automationPhase = state.phase

def AnnouncesPms (base : AppRuntime H) (row : RoomStateRow H) (a : Announcement) : Prop :=
  ∃ z state intent, RecordsState base row z state intent ∧
    a = ⟨.pms (pmsStatePayload z state a.correlationId), row.createdAt, a.correlationId⟩

def AnnouncesIntent (base : AppRuntime H) (row : RoomStateRow H) (a : Announcement) : Prop :=
  ∃ z state intent, RecordsState base row z state intent ∧
    a = ⟨.intent (modelDump z { intent with intentVersion := row.intentVersion }), row.createdAt,
      a.correlationId⟩

def AnnouncesControl (roomKey : String) (row : OverrideRow) (a : Announcement) : Prop :=
  a = controlAnnouncement roomKey row a.correlationId

structure RoomLog (base : AppRuntime H) (db : Db H) (roomId : UUID) (roomKey : String) : Prop where
  statesOrdered : (db.statesOf roomId).Pairwise (·.createdAt < ·.createdAt)
  overridesOrdered : (db.overridesOf roomId).Pairwise (·.startsAt < ·.startsAt)
  pms : List.Forall₂ (AnnouncesPms base) (db.statesOf roomId)
    (db.announced (base.topics.roomPmsState roomKey))
  intents : List.Forall₂ (AnnouncesIntent base) (db.statesOf roomId)
    (db.announced (base.topics.roomIntentState roomKey))
  controls : List.Forall₂ (AnnouncesControl roomKey) (db.overridesOf roomId)
    (db.announced (base.topics.roomControlState roomKey))
  starts : ∀ row ∈ db.overridesOf roomId, row.Starts

def LaterThanStored (db : Db H) (request : Request H) : Prop :=
  (∀ row ∈ db.roomStates,
    row.createdAt < request.transaction.timestamp request.runtime.zone) ∧
  ∀ row ∈ db.overrides, row.startsAt < request.transaction.timestamp request.runtime.zone

instance (db : Db H) (request : Request H) : Decidable (LaterThanStored db request) :=
  inferInstanceAs (Decidable ((∀ row ∈ _, _) ∧ ∀ row ∈ _, _))

theorem evaluateRoom_roomKey {room : Room} {bookings : List NormalizedBooking} {now : Datetime}
    {policy : HotelPolicy} {override : Option ManualOverride} {state : RoomStateEvaluation}
    (h : evaluateRoom room bookings now policy override = .ok state) :
    state.roomKey = some room.key := by
  cases evaluateRoom_cases h <;> rfl

theorem deriveRoomIntent_isSome {state : RoomStateEvaluation} {policy : HotelPolicy}
    {override : Option ManualOverride} {correlationId : UUID} {intent : Option DesiredRoomIntent}
    (h : deriveRoomIntent state policy override correlationId = .ok intent)
    (hkey : state.roomKey.isSome = true) : ∃ i, intent = some i := by
  obtain ⟨key, hsome⟩ := Option.isSome_iff_exists.mp hkey
  unfold deriveRoomIntent at h
  rw [if_neg (by simp [hsome])] at h
  split at h
  · obtain ⟨i, -, hi⟩ := map_ok h
    exact ⟨i, hi.symm⟩
  · obtain ⟨i, -, hi⟩ := map_ok h
    exact ⟨i, hi.symm⟩

omit [DecidableEq H] in
theorem RoomDecided.intent_some {loaded : LoadedBookings} {d : RoomDecision H}
    {observedAt : Instant} {correlationId : UUID} {db' : Db H}
    (h : RoomDecided rt loaded d observedAt correlationId db db') : ∃ i, d.intent = some i :=
  deriveRoomIntent_isSome h.intent (by rw [evaluateRoom_roomKey h.state]; rfl)

theorem pairwise_concat {ρ : Type} {rows : List ρ} {row : ρ} {f : ρ → Instant}
    (h : rows.Pairwise (f · < f ·)) (hrow : ∀ old ∈ rows, f old < f row) :
    (rows ++ [row]).Pairwise (f · < f ·) := by
  refine List.pairwise_append.mpr ⟨h, List.pairwise_singleton .., ?_⟩
  intro old hold new hnew
  rw [List.mem_singleton.mp hnew]
  exact hrow old hold

namespace RoomLog

variable {db' : Db H} {roomId : UUID} {roomKey : String} {observedAt : Instant}
  {correlationId : UUID}

omit [DecidableEq H] in
theorem of_empty (hstates : db.statesOf roomId = []) (hoverrides : db.overridesOf roomId = [])
    (hsilent : ∀ topic ∈ base.topics.roomDocuments roomKey, db.announced topic = []) :
    RoomLog base db roomId roomKey := by
  have hpms := hsilent (base.topics.roomPmsState roomKey) (by simp [MqttTopics.roomDocuments])
  have hintent := hsilent (base.topics.roomIntentState roomKey)
    (by simp [MqttTopics.roomDocuments])
  have hcontrol := hsilent (base.topics.roomControlState roomKey)
    (by simp [MqttTopics.roomDocuments])
  refine ⟨?_, ?_, ?_, ?_, ?_, ?_⟩
  · rw [hstates]; exact .nil
  · rw [hoverrides]; exact .nil
  · rw [hstates, hpms]; exact .nil
  · rw [hstates, hintent]; exact .nil
  · rw [hoverrides, hcontrol]; exact .nil
  · rw [hoverrides]; simp

omit [DecidableEq H] in
theorem kept (h : RoomLog base db roomId roomKey) (hrows : RowsKept roomId db db')
    (htopics : TopicsKept base.topics roomKey db db') : RoomLog base db' roomId roomKey where
  statesOrdered := hrows.1 ▸ h.statesOrdered
  overridesOrdered := hrows.2 ▸ h.overridesOrdered
  pms := by rw [hrows.1, htopics.pms]; exact h.pms
  intents := by rw [hrows.1, htopics.intent]; exact h.intents
  controls := by rw [hrows.2, htopics.control]; exact h.controls
  starts := hrows.2 ▸ h.starts

omit [DecidableEq H] in
theorem commanded {row : OverrideRow} (h : RoomLog base db row.roomId roomKey)
    (hw : CommandWritten base row roomKey observedAt correlationId db db')
    (hlater : ∀ old ∈ db.overrides, old.startsAt < observedAt) :
    RoomLog base db' row.roomId roomKey := by
  have hoverrides : db'.overridesOf row.roomId = db.overridesOf row.roomId ++ [row] := by
    rw [overridesOf_append_own hw.overrides rfl]
  refine ⟨?_, ?_, ?_, ?_, ?_, ?_⟩
  · rw [hw.states]
    exact h.statesOrdered
  · rw [hoverrides]
    refine pairwise_concat h.overridesOrdered fun old hold => ?_
    rw [hw.startsAt]
    exact hlater old (List.mem_filter.mp hold).1
  · rw [hw.states, hw.announced,
      if_neg (base.topics.roomPmsState_ne_roomControlState _ _).symm, List.append_nil]
    exact h.pms
  · rw [hw.states, hw.announced,
      if_neg (base.topics.roomIntentState_ne_roomControlState _ _).symm, List.append_nil]
    exact h.intents
  · rw [hoverrides, hw.announced, if_pos rfl]
    exact PairedLogs.concat h.controls rfl
  · rw [hoverrides]
    intro old hold
    rcases List.mem_append.mp hold with hold | hold
    · exact h.starts old hold
    · rw [List.mem_singleton.mp hold]
      exact hw.starts

theorem decided {loaded : LoadedBookings} {d : RoomDecision H}
    (h : RoomLog base db d.roomId d.room.key) (hrt : base.Restart rt)
    (hd : RoomDecided rt loaded d observedAt correlationId db db')
    (hw : RoomWritten rt loaded d observedAt correlationId db db')
    (hlaterStates : ∀ old ∈ db.roomStates, old.createdAt < observedAt)
    (hlaterOverrides : ∀ old ∈ db.overrides, old.startsAt < observedAt) :
    RoomLog base db' d.roomId d.room.key := by
  obtain ⟨⟨drawnFrom, hstates⟩, ⟨id, commandId, hoverrides⟩, hpms, hintents, hcontrols⟩ := hw
  obtain ⟨intent, hintent⟩ := hd.intent_some
  rw [hrt.topics] at hpms hintents hcontrols
  have hrecords : RecordsState base (roomStateRow rt d (decidedBooking loaded d)
      (persistedIntentVersion d) observedAt drawnFrom) rt.zone d.state intent :=
    ⟨by simp [roomStateRow, hintent, hrt.stableHash], rfl⟩
  refine ⟨?_, ?_, ?_, ?_, ?_, ?_⟩
  · rw [hstates]
    split
    · rw [List.append_nil]
      exact h.statesOrdered
    · exact pairwise_concat h.statesOrdered
        fun old hold => hlaterStates old (List.mem_filter.mp hold).1
  · rw [hoverrides]
    split
    · exact pairwise_concat h.overridesOrdered
        fun old hold => hlaterOverrides old (List.mem_filter.mp hold).1
    · rw [List.append_nil]
      exact h.overridesOrdered
  · rw [hstates, hpms]
    split
    · rw [List.append_nil, List.append_nil]
      exact h.pms
    · exact PairedLogs.concat h.pms ⟨rt.zone, d.state, intent, hrecords, rfl⟩
  · rw [hstates, hintents, hintent]
    split
    · rw [List.append_nil, List.append_nil]
      exact h.intents
    · exact PairedLogs.concat h.intents ⟨rt.zone, d.state, intent, hrecords, rfl⟩
  · rw [hoverrides, hcontrols]
    split
    · exact PairedLogs.concat h.controls rfl
    · rw [List.append_nil, List.append_nil]
      exact h.controls
  · rw [hoverrides]
    intro old hold
    rcases List.mem_append.mp hold with hold | hold
    · exact h.starts old hold
    · split at hold
      · rw [List.mem_singleton.mp hold]
        exact fun hmode => absurd rfl hmode
      · cases hold

theorem step (h : RoomLog base db roomId roomKey) (hrt : base.Restart rt)
    (hstep : RoomStep base rt observedAt correlationId db db' roomId roomKey)
    (hlaterStates : ∀ old ∈ db.roomStates, old.createdAt < observedAt)
    (hlaterOverrides : ∀ old ∈ db.overrides, old.startsAt < observedAt) :
    RoomLog base db' roomId roomKey := by
  cases hstep with
  | kept hrows htopics => exact h.kept hrows htopics
  | decided hid hkey hd hw =>
      subst hid hkey
      exact h.decided hrt hd hw hlaterStates hlaterOverrides
  | commanded hid hw =>
      subst hid
      exact h.commanded hw hlaterOverrides

end RoomLog

structure RoomLogs (base : AppRuntime H) (db : Db H) : Prop where
  rooms : ∀ roomId propertyId roomKey, (roomId, propertyId, roomKey) ∈ db.roomColumns →
    RoomLog base db roomId roomKey
  silent : ∀ roomKey, (∀ c ∈ db.roomColumns, c.2.2 ≠ roomKey) →
    ∀ topic ∈ base.topics.roomDocuments roomKey, db.announced topic = []

namespace RoomLogs

omit [DecidableEq H] in
theorem empty : RoomLogs base (Db.empty H) :=
  ⟨by simp [Db.empty, Db.roomColumns], fun _ _ _ _ => rfl⟩

omit [DecidableEq H] in
theorem grown {db' : Db H} (h : RoomLogs base db) (hdb : StoreInvariant base db)
    (hstore : RegistryStore base db') (hgrowth : db.roomColumns <+: db'.roomColumns)
    {roomId propertyId : UUID} {roomKey : String}
    (hc : (roomId, propertyId, roomKey) ∈ db'.roomColumns) : RoomLog base db roomId roomKey := by
  by_cases hold : (roomId, propertyId, roomKey) ∈ db.roomColumns
  · exact h.rooms roomId propertyId roomKey hold
  · have hid : roomId ∉ db.roomColumns.map Prod.fst := by
      intro hid
      obtain ⟨c, hmem, rfl⟩ := List.mem_map.mp hid
      exact hold (hstore.column_unique (hgrowth.subset hmem) hc rfl ▸ hmem)
    refine .of_empty ?_ ?_ (h.silent roomKey fun c hmem hkey => hold ?_)
    · refine filter_nil_of_false fun row hrow => decide_eq_false fun hroom => hid ?_
      exact hroom ▸ hdb.stateRooms row hrow
    · refine filter_nil_of_false fun row hrow => decide_eq_false fun hroom => hid ?_
      exact hroom ▸ hdb.overrideRooms row hrow
    · exact KeyedTable.eq_of_key hstore.roomKeys (hgrowth.subset hmem) hc hkey ▸ hmem

theorem step {out : Outcome H} {observedAt : Instant} {correlationId : UUID}
    (h : RoomLogs base db) (hrt : base.Restart rt) (hdb : StoreInvariant base db)
    (hstore : RegistryStore base out.db) (hgrowth : db.roomColumns <+: out.db.roomColumns)
    (heffect : LogEffect base rt db out observedAt correlationId)
    (hlaterStates : ∀ old ∈ db.roomStates, old.createdAt < observedAt)
    (hlaterOverrides : ∀ old ∈ db.overrides, old.startsAt < observedAt) :
    RoomLogs base out.db := by
  refine ⟨?_, ?_⟩
  · intro roomId propertyId roomKey hc
    exact (h.grown hdb hstore hgrowth hc).step hrt (heffect.roomStep hstore hc) hlaterStates
      hlaterOverrides
  · intro roomKey hfree topic htopic
    rw [heffect.topicsKept hfree topic htopic]
    exact h.silent roomKey (fun c hmem => hfree c (hgrowth.subset hmem)) topic htopic

end RoomLogs

theorem next_roomLogs (hinj : base.uuid4.Injective) {db' : Db H} {request : Request H}
    (hserved : ServedBy base LaterThanStored db request) (h : next db request = some db')
    (hdb : StoreInvariant base db) (hlogs : RoomLogs base db) : RoomLogs base db' := by
  have hstored := next_invariant hinj hserved h hdb
  obtain ⟨hrt, hstates, hoverrides⟩ := hserved
  obtain ⟨out, hout, rfl⟩ := next_ok h
  obtain ⟨hgrowth, heffect⟩ := execute_logEffect hinj hrt hdb hout
  exact hlogs.step hrt hdb hstored.registry hgrowth heffect hstates hoverrides

theorem run_roomLogs (hinj : base.uuid4.Injective) {requests : List (Request H)}
    (h : Run next (ServedBy base LaterThanStored) (Db.empty H) requests db) :
    StoreInvariant base db ∧ RoomLogs base db :=
  h.invariant (I := fun db => StoreInvariant base db ∧ RoomLogs base db)
    (fun _ _ _ hserved hn hi => ⟨next_invariant hinj hserved hn hi.1,
      next_roomLogs hinj hserved hn hi.1 hi.2⟩) ⟨.empty, .empty⟩

end ClockOrchestrator
