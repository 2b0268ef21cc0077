import ClockOrchestrator.RuntimeInvariants

namespace ClockOrchestrator

open Python UnitOfWork Trace

variable {H : Type} {base rt : AppRuntime H} {db db' : Db H}

structure VersionsBounded (topics : MqttTopics) (db : Db H) : Prop where
  increasing : ∀ key, (db.intentVersions (topics.roomIntentState key)).Pairwise (· < ·)
  bounded : ∀ key, ∀ v ∈ db.intentVersions (topics.roomIntentState key),
    ∃ roomId propertyId, (roomId, propertyId, key) ∈ db.roomColumns ∧
      ∃ last, (db.statesOf roomId).getLast? = some last ∧ v ≤ last.intentVersion

namespace VersionsBounded

variable {topics : MqttTopics}

theorem empty : VersionsBounded topics (Db.empty H) :=
  ⟨fun _ => .nil, by simp [Db.intentVersions, Db.empty]⟩

theorem of_tables (h : VersionsBounded topics db) (hrooms : db.roomColumns <+: db'.roomColumns)
    (hstates : db'.roomStates = db.roomStates)
    (hversions : ∀ topic, db'.intentVersions topic = db.intentVersions topic) :
    VersionsBounded topics db' := by
  refine ⟨fun key => by rw [hversions]; exact h.increasing key, ?_⟩
  intro key v hv
  rw [hversions] at hv
  obtain ⟨roomId, propertyId, hroom, last, hlast, hle⟩ := h.bounded key v hv
  refine ⟨roomId, propertyId, hrooms.subset hroom, last, ?_, hle⟩
  rw [statesOf_of_roomStates hstates]
  exact hlast

end VersionsBounded

theorem statesOf_append_own {row : RoomStateRow H}
    (h : db'.roomStates = db.roomStates ++ [row]) :
    (db'.statesOf row.roomId).getLast? = some row := by
  rw [statesOf_append h]
  simp

theorem statesOf_append_other {row : RoomStateRow H}
    (h : db'.roomStates = db.roomStates ++ [row]) {roomId : UUID} (hne : row.roomId ≠ roomId) :
    db'.statesOf roomId = db.statesOf roomId := by
  rw [statesOf_append h]
  simp [hne]

theorem RegistryStore.room_of_key (h : RegistryStore base db) {c c' : UUID × UUID × String}
    (hc : c ∈ db.roomColumns) (hc' : c' ∈ db.roomColumns) (hkey : c.2.2 = c'.2.2) : c = c' :=
  KeyedTable.eq_of_key h.roomKeys hc hc' hkey

theorem persistedIntentVersion_ge {d : RoomDecision H} {last : RoomStateRow H}
    (hlast : d.latestState = some last) : last.intentVersion ≤ persistedIntentVersion d := by
  unfold persistedIntentVersion
  cases d.intent with
  | none => simp [hlast]
  | some intent =>
      simp only [hlast, nextIntentVersion]
      omega

def RoomDecision.publishedVersions (d : RoomDecision H) : List ℕ :=
  (d.intent.map fun _ => persistedIntentVersion d).toList

theorem RoomDecision.publishedVersions_eq {d : RoomDecision H} {v : ℕ}
    (hv : v ∈ d.publishedVersions) : v = persistedIntentVersion d := by
  unfold publishedVersions at hv
  cases hi : d.intent with
  | none => simp [hi] at hv
  | some intent => simpa [hi] using hv

theorem RoomDecision.publishedVersions_gt {d : RoomDecision H} {v : ℕ}
    (hv : v ∈ d.publishedVersions) {last : RoomStateRow H} (hlast : d.latestState = some last) :
    last.intentVersion < v := by
  rw [d.publishedVersions_eq hv]
  unfold publishedVersions at hv
  cases hi : d.intent with
  | none => simp [hi] at hv
  | some intent =>
      simp only [persistedIntentVersion, hi, hlast, nextIntentVersion]
      omega

theorem RoomDecision.publishedVersions_pairwise (d : RoomDecision H) :
    d.publishedVersions.Pairwise (· < ·) := by
  unfold publishedVersions
  cases d.intent <;> simp

theorem VersionsBounded.publish {topics : MqttTopics} (h : VersionsBounded topics db)
    (hstore : RegistryStore base db) (hrooms : db'.roomColumns = db.roomColumns)
    {d : RoomDecision H} {propertyId : UUID}
    (hroom : (d.roomId, propertyId, d.room.key) ∈ db.roomColumns)
    (hlatest : d.latestState = (db.statesOf d.roomId).getLast?) {row : RoomStateRow H}
    (hrow : row.roomId = d.roomId) (hversion : row.intentVersion = persistedIntentVersion d)
    (hstates : db'.roomStates = db.roomStates ++ [row])
    (hversions : ∀ topic, db'.intentVersions topic = db.intentVersions topic ++
      if topics.roomIntentState d.room.key = topic then d.publishedVersions else []) :
    VersionsBounded topics db' := by
  have hbelow : ∀ v ∈ db.intentVersions (topics.roomIntentState d.room.key),
      ∃ last, d.latestState = some last ∧ v ≤ last.intentVersion := by
    intro v hv
    obtain ⟨roomId, propertyId', hroom', last, hlast, hle⟩ := h.bounded _ v hv
    have heq := hstore.room_of_key hroom' hroom rfl
    simp only [Prod.mk.injEq] at heq
    rw [heq.1] at hlast
    exact ⟨last, hlatest.trans hlast, hle⟩
  have hother : ∀ key, key ≠ d.room.key →
      db'.intentVersions (topics.roomIntentState key) =
        db.intentVersions (topics.roomIntentState key) := by
    intro key hne
    have htopic : topics.roomIntentState d.room.key ≠ topics.roomIntentState key :=
      fun he => hne (topics.roomIntentState_injective he).symm
    rw [hversions, if_neg htopic, List.append_nil]
  refine ⟨fun key => ?_, fun key v hv => ?_⟩
  · by_cases hkey : key = d.room.key
    · subst hkey
      rw [hversions, if_pos rfl, List.pairwise_append]
      refine ⟨h.increasing _, d.publishedVersions_pairwise, fun v hv w hw => ?_⟩
      obtain ⟨last, hlast, hle⟩ := hbelow v hv
      exact hle.trans_lt (d.publishedVersions_gt hw hlast)
    · rw [hother key hkey]
      exact h.increasing key
  · by_cases hkey : key = d.room.key
    · subst hkey
      refine ⟨d.roomId, propertyId, hrooms ▸ hroom, row, ?_, ?_⟩
      · rw [← hrow]
        exact statesOf_append_own hstates
      · rw [hversions, if_pos rfl, List.mem_append] at hv
        rw [hversion]
        rcases hv with hv | hv
        · obtain ⟨last, hlast, hle⟩ := hbelow v hv
          exact hle.trans (persistedIntentVersion_ge hlast)
        · exact (d.publishedVersions_eq hv).le
    · rw [hother key hkey] at hv
      obtain ⟨roomId, propertyId', hroom', last, hlast, hle⟩ := h.bounded key v hv
      have hne : row.roomId ≠ roomId := by
        intro he
        have heq := hstore.column_unique hroom' hroom (he.symm.trans hrow)
        simp only [Prod.mk.injEq] at heq
        exact hkey heq.2.2
      refine ⟨roomId, propertyId', hrooms ▸ hroom', last, ?_, hle⟩
      rw [statesOf_append_other hstates hne]
      exact hlast

def LatestIsLastCommitted (db : Db H) (roomId : UUID) : Prop :=
  RankedLog.latest RoomStateRow.rank (db.statesOf roomId) = (db.statesOf roomId).getLast?

theorem PassProgress.statesOf_eq {s : DbSession H} {observedAt : Instant} {roomId : UUID}
    {rest : List UUID} {r : Recalculation H} {states : List (RoomStateRow H)}
    {overrides : List OverrideRow}
    (h : PassProgress s observedAt (roomId :: rest) r states overrides) :
    r.session.live.statesOf roomId = s.live.statesOf roomId := by
  rw [statesOf_append h.roomStates, filter_nil_of_false h.states_free, List.append_nil]

theorem intentVersions_of_outbox (h : db'.outbox = db.outbox) (topic : String) :
    db'.intentVersions topic = db.intentVersions topic := by
  unfold Db.intentVersions
  rw [h]

variable [DecidableEq H]

def RecordsOnLastState (db : Db H) (request : Request H) : Prop :=
  ∀ db' ∈ next db request,
    ∀ row ∈ appended db.roomStates db'.roomStates, LatestIsLastCommitted db row.roomId

instance (db : Db H) (roomId : UUID) : Decidable (LatestIsLastCommitted db roomId) :=
  inferInstanceAs (Decidable (_ = _))

instance (db : Db H) (request : Request H) : Decidable (RecordsOnLastState db request) :=
  inferInstanceAs (Decidable (∀ db' ∈ next db request, ∀ row ∈ _, _))

theorem Evaluates.versionsBounded {out : Outcome H} {rows : RegistryRows} {s : DbSession H}
    {r : Recalculation H} {observedAt : Instant} {correlationId : UUID}
    (h : Evaluates base rt db out rows s r observedAt correlationId)
    (htopics : rt.topics = base.topics)
    (hguard : ∀ row ∈ appended db.roomStates out.db.roomStates,
      LatestIsLastCommitted db row.roomId)
    (hdb : VersionsBounded base.topics db) : VersionsBounded base.topics out.db := by
  have hlogs := h.opened.logs
  have hlive := hlogs.live
  have hafter := h.bookkeeps.logs
  simp only [Db.logs, Prod.mk.injEq] at hlive hafter
  have hrun := recalculateRooms_induction h.recalculated
    (Q := fun r states _ => (∀ row ∈ states, LatestIsLastCommitted db row.roomId) →
      VersionsBounded base.topics r.session.live)
    (fun _ => hdb.of_tables h.opened.growth hlive.1 (intentVersions_of_outbox hlive.2.2)) ?_
  · obtain ⟨states, overrides, hp, hq⟩ := hrun
    rw [hafter.1, hp.roomStates, hlive.1, appended_append] at hguard
    refine (hq hguard).of_tables ?_ hafter.1 (intentVersions_of_outbox hafter.2.2)
    exact h.bookkeeps.registry.roomColumns ▸ List.prefix_rfl
  · rintro roomId rest r r' states newStates overrides newOverrides d hstep hq hall
    have hbefore := hq fun row hrow => hall row (List.mem_append_left _ hrow)
    have hcolumns := hstep.effect.registry.roomColumns
    have hroom := (hstep.before.registry.rowsStored h.opened.rowsStored).column_of_domainRoom
      hstep.room
    rcases hstep.effect.published with ⟨hstates, hversions⟩ | ⟨row, hrow, hversion, hstates, hv⟩
    · exact hbefore.of_tables (hcolumns ▸ List.prefix_rfl) hstates hversions
    · have hnew : newStates = [row] := by
        have hafter := hstep.after.roomStates
        rw [hstates, hstep.before.roomStates, List.append_assoc, List.append_cancel_left_eq,
          List.append_cancel_left_eq] at hafter
        exact hafter.symm
      have hlast := hall row (by simp [hnew])
      rw [hrow, hstep.decidedRoom, LatestIsLastCommitted] at hlast
      have hstored := statesOf_of_roomStates hlive.1 roomId
      have hread : d.latestState = (r.session.live.statesOf d.roomId).getLast? := by
        rw [hstep.decided.latestState, hstep.decidedRoom, hstep.before.latestRoomState_eq
          hlogs.self, hstep.before.statesOf_eq, hstored, ← hlast, ← hstored]
        rfl
      exact hbefore.publish (hstep.before.registry.store h.opened.registry) hcolumns
        (hstep.decidedRoom ▸ hroom) hread hrow hversion hstates (htopics ▸ hv)

omit [DecidableEq H] in
theorem CommandEffect.versionsBounded {command : RoomCommand}
    {out : CommandProcessingResult × DbSession H} (h : CommandEffect base rt db command out)
    {topics : MqttTopics} (hdb : VersionsBounded topics db) :
    VersionsBounded topics out.2.live := by
  obtain ⟨t, ht, hkeeps, -, hstates, hversions, -⟩ := h.tables
  refine hdb.of_tables ?_ hstates hversions
  rw [hkeeps.roomColumns]
  exact ht.growth

theorem next_versionsBounded (hinj : base.uuid4.Injective) {request : Request H}
    (hserved : ServedBy base RecordsOnLastState db request)
    (h : next db request = some db') (hstore : StoreInvariant base db)
    (hdb : VersionsBounded base.topics db) : VersionsBounded base.topics db' := by
  obtain ⟨hrt, hguard⟩ := hserved
  have hrows := hguard db' h
  obtain ⟨out, hout, rfl⟩ := next_ok h
  rcases execute_cases hinj hrt hstore hout with
    ⟨rows, s, r, observedAt, correlationId, he⟩ | ⟨command, result, -, he, rfl⟩
  · exact he.versionsBounded hrt.topics hrows hdb
  · exact he.versionsBounded hdb

theorem intentVersions_increasing (hinj : base.uuid4.Injective) {requests : List (Request H)}
    (h : Run next (ServedBy base RecordsOnLastState) (Db.empty H) requests db) (roomKey : String) :
    (db.intentVersions (base.topics.roomIntentState roomKey)).Pairwise (· < ·) := by
  have hrun := h.invariant
    (I := fun db => StoreInvariant base db ∧ VersionsBounded base.topics db)
    (fun _ _ _ hserved hn hi => ⟨next_invariant hinj hserved hn hi.1,
      next_versionsBounded hinj hserved hn hi.1 hi.2⟩) ⟨.empty, .empty⟩
  exact hrun.2.increasing roomKey

def demoTick (hour : ℕ) : Request RoomStateDocument :=
  demoRequest (.evaluateAllRooms (demoNow hour 0) 2000)

def demoCheckInSync (finishedAt : Timestamp) : Request RoomStateDocument :=
  demoRequest (.applySyncResult (demoSyncResult [demoCheckedInStay, demoUnplacedStay] finishedAt)
    2001)

theorem sync_after_tick_increases_version :
    ((demoStore [demoTick 10, demoCheckInSync (demoNow 10 30)]).intentVersions
      ((demoRuntime false).topics.roomIntentState "214")).Pairwise (· < ·) := by
  have hrun : Run next (ServedBy (demoRuntime false) RecordsOnLastState) (Db.empty _)
      [demoTick 10, demoCheckInSync (demoNow 10 30)]
      (demoStore [demoTick 10, demoCheckInSync (demoNow 10 30)]) := by
    refine .cons (t := demoStore [demoTick 10]) ⟨.refl _, ?_⟩ ?_ (.cons ⟨.refl _, ?_⟩ ?_ (.nil _))
    · decide +kernel
    · decide +kernel
    · decide +kernel
    · decide +kernel
  exact intentVersions_increasing (demoRuntime_uuid4_injective false) hrun "214"

-- A poll of Clock that started before the tick at ten and commits after it.
theorem slow_sync_repeats_version :
    ∃ requests db, Run next (ServedBy (demoRuntime false) fun _ _ => True) (Db.empty _)
        requests db ∧
      db.intentVersions ((demoRuntime false).topics.roomIntentState "214") = [1, 2, 2] := by
  refine ⟨[demoTick 10, demoCheckInSync (demoNow 9 50), demoTick 11],
    demoStore [demoTick 10, demoCheckInSync (demoNow 9 50), demoTick 11], run_of_eq_some ?_ ?_, ?_⟩
  · intro request hrequest db
    simp only [List.mem_cons, List.not_mem_nil, or_false] at hrequest
    rcases hrequest with rfl | rfl | rfl <;> exact ⟨.refl _, trivial⟩
  · decide +kernel
  · decide +kernel

end ClockOrchestrator
