import ClockOrchestrator.Guarantees.EventLog
import ClockOrchestrator.Guarantees.IntentVersions
import ClockOrchestrator.Site

namespace ClockOrchestrator

open Python Trace OutboxState

variable {H : Type} {base : AppRuntime H} {s t : Site H}

def Site.Settled (s : Site H) (topic : String) : Prop :=
  ∀ event, (onTopic s.db.outbox topic).getLast? = some event → event.status = .published

instance (s : Site H) (topic : String) : Decidable (s.Settled topic) :=
  inferInstanceAs (Decidable (∀ event, _ = some event → _))

structure Site.Shows {ρ : Type} (s : Site H) (topic : String) (announces : ρ → Announcement → Prop)
    (rows : List ρ) : Prop where
  recorded : ∀ payload, retained s.broker topic = some payload →
    ∃ row ∈ rows, ∃ a, announces row a ∧ a.payload = payload
  newest : s.Settled topic → ∀ row, rows.getLast? = some row →
    ∃ a, announces row a ∧ retained s.broker topic = some a.payload

theorem SiteInvariant.shows {ρ : Type} (hs : SiteInvariant base s) {topic : String}
    {announces : ρ → Announcement → Prop} {rows : List ρ}
    (hpaired : List.Forall₂ announces rows (s.db.announced topic)) :
    s.Shows topic announces rows := by
  constructor
  · intro payload hpayload
    obtain ⟨event, hevent, rfl⟩ := retained_enqueued hs.carried hpayload
    have hannounced : event.announcement ∈ s.db.announced topic := List.mem_map_of_mem hevent
    obtain ⟨row, hrow, hrows⟩ := PairedLogs.mem_right hpaired hannounced
    exact ⟨row, hrow, _, hrows, rfl⟩
  · intro hsettled row hrow
    obtain ⟨a, ha, hannounces⟩ := PairedLogs.last hpaired hrow
    rw [Db.announced, List.getLast?_map, Option.map_eq_some_iff] at ha
    obtain ⟨event, hevent, rfl⟩ := ha
    exact ⟨_, hannounces, retained_newest hs.delivering hs.carried hs.confirmed hs.retain hevent
      (hsettled event hevent)⟩

variable [DecidableEq H]

theorem retained_documents_follow_the_states (hinj : base.uuid4.Injective)
    {as : List (SiteAction H)} (h : Run Site.next (Site.Guarded base) (.start H) as s)
    {roomId propertyId : UUID} {roomKey : String}
    (hc : (roomId, propertyId, roomKey) ∈ s.db.roomColumns) :
    s.Shows (base.topics.roomPmsState roomKey) (AnnouncesPms base) (s.db.statesOf roomId) ∧
      s.Shows (base.topics.roomIntentState roomKey) (AnnouncesIntent base)
        (s.db.statesOf roomId) := by
  have hs := SiteInvariant.run hinj h
  have hlog := hs.logs.rooms _ _ _ hc
  exact ⟨hs.shows hlog.pms, hs.shows hlog.intents⟩

def demoMorning : List (SiteAction RoomStateDocument) :=
  [.transact (demoRequest (.applySyncResult (demoSyncResult [demoCheckedInStay] (demoNow 9 50)) 2001)),
    .work (.claim "worker-1" (demoInstant 9 51) 25), .work (.publish 0 (.rejected "ValueError")),
    .work (.publish 0 (.acknowledged (demoInstant 9 51))),
    .work (.record {} 0 (fun _ => 0) (demoInstant 9 52))]

def demoNoon : List (SiteAction RoomStateDocument) :=
  [.transact (demoRequest (.applyMqttCommand (demoCommand "mode" "manual" (demoNow 10 0) 1000))),
    .transact (demoRequest (.evaluateAllRooms (demoNow 10 5) 2002)),
    .work (.claim "worker-1" (demoInstant 10 6) 25)] ++
  List.replicate 6 (.work (.publish 0 (.acknowledged (demoInstant 10 6)))) ++
  [.work (.record {} 0 (fun _ => 0) (demoInstant 10 7))]

def demoIntentTopic : String := (demoRuntime false).topics.roomIntentState "214"

theorem demoMorning_served : ∀ a ∈ demoMorning, a.Served (demoRuntime false) := by
  simp [demoMorning, demoRequest, SiteAction.Served, AppRuntime.Restart.refl]

theorem demoNoon_served : ∀ a ∈ demoNoon, a.Served (demoRuntime false) := by
  simp [demoNoon, demoRequest, SiteAction.Served, AppRuntime.Restart.refl]

theorem manual_intent_is_retained : ∃ s : Site RoomStateDocument, ∃ row ∈ s.db.statesOf 1,
    row.intentVersion = 2 ∧ ∃ a, AnnouncesIntent (demoRuntime false) row a ∧
      retained s.broker demoIntentTopic = some a.payload := by
  obtain ⟨s, hs, hchecked⟩ := exists_run Site.next Site.Timely (.start _) (demoMorning ++ demoNoon)
    (p := fun s => decide ((1, 0, "214") ∈ s.db.roomColumns ∧ s.Settled demoIntentTopic) &&
      (s.db.statesOf 1).getLast?.any fun row => row.intentVersion = 2) (by decide +kernel)
  simp only [Bool.and_eq_true, decide_eq_true_eq, Option.any_eq_true] at hchecked
  obtain ⟨⟨hroom, hsettled⟩, row, hrow, hversion⟩ := hchecked
  have hrun := hs.with_actions (List.forall_mem_append.mpr ⟨demoMorning_served, demoNoon_served⟩)
  have hshows := (retained_documents_follow_the_states (demoRuntime_uuid4_injective false) hrun
    hroom).2
  exact ⟨s, row, List.mem_of_getLast? hrow, hversion, hshows.newest hsettled row hrow⟩

section Versions

variable {db db' : Db H}

omit [DecidableEq H] in
theorem intentVersions_announced (db : Db H) (topic : String) :
    db.intentVersions topic = (db.announced topic).filterMap (·.payload.intentVersion) := by
  unfold Db.intentVersions Db.announced
  rw [List.filterMap_map]
  rfl

theorem recordsOnLastState (hinj : base.uuid4.Injective) {request : Request H}
    (hserved : ServedBy base LaterThanStored db request) (hstore : StoreInvariant base db)
    (hlogs : RoomLogs base db) : RecordsOnLastState db request := by
  intro db' hnext row hrow
  have hstored := next_invariant hinj hserved hnext hstore
  obtain ⟨out, hout, rfl⟩ := next_ok hnext
  obtain ⟨hgrowth, -⟩ := execute_logEffect hinj hserved.1 hstore hout
  have hroom := hstored.stateRooms row (List.mem_of_mem_drop hrow)
  obtain ⟨⟨roomId, propertyId, roomKey⟩, hc, hid⟩ := List.mem_map.mp hroom
  obtain rfl : roomId = row.roomId := hid
  exact (hlogs.grown hstore hstored.registry hgrowth hc).latestState

theorem Site.next_versionsBounded (hinj : base.uuid4.Injective) {a : SiteAction H}
    (hg : s.Guarded base a) (h : s.next a = some t) (hs : SiteInvariant base s)
    (hversions : VersionsBounded base.topics s.db) : VersionsBounded base.topics t.db := by
  cases a with
  | transact request =>
      obtain ⟨db', hdb, rfl⟩ := Option.map_eq_some_iff.mp h
      have hrecords := recordsOnLastState hinj ⟨hg.2, hg.1⟩ hs.store hs.logs
      exact ClockOrchestrator.next_versionsBounded hinj ⟨hg.2, hrecords⟩ hdb hs.store hversions
  | work action =>
      obtain ⟨o, ho, rfl⟩ := Option.map_eq_some_iff.mp h
      obtain ⟨rows, hrows, heq⟩ := next_rows ho
      rw [hg.1.1, List.append_nil] at heq
      subst heq
      refine hversions.of_tables List.prefix_rfl rfl fun topic => ?_
      rw [intentVersions_announced, intentVersions_announced, Site.withOutbox]
      exact congrArg _ (hrows.announced_eq topic)

end Versions

theorem Site.next_broker {a : SiteAction H} (h : s.next a = some t) : s.broker <+: t.broker := by
  cases a with
  | transact request =>
      obtain ⟨db', -, rfl⟩ := Option.map_eq_some_iff.mp h
      exact List.prefix_rfl
  | work action =>
      obtain ⟨o, ho, rfl⟩ := Option.map_eq_some_iff.mp h
      have hmoves := (next_moves ho).broker
      exact ⟨_, hmoves.symm⟩

omit [DecidableEq H] in
theorem SiteInvariant.intentVersion (hs : SiteInvariant base s) {roomKey : String}
    {event : OutboxEvent}
    (hevent : event ∈ onTopic s.db.outbox (base.topics.roomIntentState roomKey)) :
    ∃ version, event.payload.intentVersion = some version := by
  have hannounced : event.announcement ∈ s.db.announced (base.topics.roomIntentState roomKey) :=
    List.mem_map_of_mem hevent
  by_cases hroom : ∃ c ∈ s.db.roomColumns, c.2.2 = roomKey
  · obtain ⟨⟨roomId, propertyId, _⟩, hc, rfl⟩ := hroom
    obtain ⟨row, -, z, state, intent, -, ha⟩ :=
      PairedLogs.mem_right (hs.logs.rooms _ _ _ hc).intents hannounced
    have hpayload := congrArg Announcement.payload ha
    exact ⟨row.intentVersion, congrArg OutboxPayload.intentVersion hpayload⟩
  · rw [hs.logs.silent roomKey fun c hc hkey => hroom ⟨c, hc, hkey⟩] at hannounced
    · cases hannounced
    · simp [MqttTopics.roomDocuments]

theorem retained_versions_never_decrease (hinj : base.uuid4.Injective) {as bs : List (SiteAction H)}
    (h : Run Site.next (Site.Guarded base) (.start H) as s)
    (h' : Run Site.next (Site.Guarded base) s bs t) {roomKey : String} {old : OutboxPayload}
    (hold : retained s.broker (base.topics.roomIntentState roomKey) = some old) :
    ∃ new, retained t.broker (base.topics.roomIntentState roomKey) = some new ∧
      ∃ version ∈ old.intentVersion, ∃ version' ∈ new.intentVersion, version ≤ version' := by
  have hrun := (h.append h').invariant
    (I := fun u => SiteInvariant base u ∧ VersionsBounded base.topics u.db)
    (fun _ _ _ hg hn hi => ⟨hi.1.step hinj hg hn, Site.next_versionsBounded hinj hg hn hi.1 hi.2⟩)
    ⟨.start, .empty⟩
  obtain ⟨ht, hversions⟩ := hrun
  have hbroker : s.broker <+: t.broker :=
    h'.invariant (I := fun u => s.broker <+: u.broker)
      (fun _ _ _ _ hn hi => hi.trans (Site.next_broker hn)) List.prefix_rfl
  rcases retained_moves_on ht.delivering ht.carried hbroker hold with
    hsame | ⟨row, row', hpair, rfl, hnew⟩
  · obtain ⟨row, hrow, rfl⟩ := retained_enqueued ht.carried hsame
    obtain ⟨version, hversion⟩ := ht.intentVersion hrow
    exact ⟨_, hsame, version, hversion, version, hversion, le_rfl⟩
  · obtain ⟨version, hversion⟩ := ht.intentVersion (hpair.subset List.mem_cons_self)
    obtain ⟨version', hversion'⟩ :=
      ht.intentVersion (hpair.subset (List.mem_cons_of_mem row List.mem_cons_self))
    refine ⟨_, hnew, version, hversion, version', hversion', ?_⟩
    have hordered := hversions.increasing roomKey
    have hversions' : [version, version'].Sublist
        (t.db.intentVersions (base.topics.roomIntentState roomKey)) := by
      have hpaired : [row, row'].filterMap (·.payload.intentVersion) = [version, version'] := by
        simp [hversion, hversion']
      rw [← hpaired]
      exact hpair.filterMap _
    have hlt := hordered.sublist hversions'
    simp only [List.pairwise_pair] at hlt
    exact hlt.le

theorem manual_intent_takes_the_place_of_the_first : ∃ s t : Site RoomStateDocument, ∃ old new,
    retained s.broker demoIntentTopic = some old ∧ old.intentVersion = some 1 ∧
      retained t.broker demoIntentTopic = some new ∧ t.db.roomStates.length = 3 ∧
      ∃ version ∈ new.intentVersion, 1 ≤ version := by
  obtain ⟨s, hs, hchecked⟩ := exists_run Site.next Site.Timely (.start _) demoMorning
    (p := fun s => ((retained s.broker demoIntentTopic).any fun old : OutboxPayload =>
        decide (old.intentVersion = some 1)) &&
      (Trace.run (guarded Site.next Site.Timely) s demoNoon).any fun t : Site RoomStateDocument =>
        decide (t.db.roomStates.length = 3)) (by decide +kernel)
  simp only [Bool.and_eq_true, decide_eq_true_eq, Option.any_eq_true] at hchecked
  obtain ⟨⟨old, hold, hfirst⟩, t, ht, hstates⟩ := hchecked
  obtain ⟨new, hnew, version, hversion, version', hversion', hle⟩ :=
    retained_versions_never_decrease (demoRuntime_uuid4_injective false)
      (hs.with_actions demoMorning_served) ((run_of_guarded ht).with_actions demoNoon_served) hold
  cases hfirst.symm.trans hversion
  exact ⟨s, t, old, new, hold, hfirst, hnew, hstates, version', hversion', hle⟩

end ClockOrchestrator
