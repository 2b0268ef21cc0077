import ClockOrchestrator.Guarantees.RetainedDocuments
import ClockOrchestrator.System.State

namespace ClockOrchestrator

open Python Trace RankedGroups RankedLog

variable {H : Type} {base : AppRuntime H} {db : Db H} {s : Site H} {zoneInfo : String → Zone}
  {propertyKey : String} {now : Instant} {mqttConnected mqttRequired : Bool}

def Db.newestState (db : Db H) (roomId : UUID) : Option (RoomStateRow H) :=
  latest RoomStateRow.rank (db.statesOf roomId)

theorem Referenced.stateRanks (h : Referenced base db) :
    (db.roomStates.map RoomStateRow.rank).Nodup := by
  have hids : (db.roomStates.map (·.id)).Nodup := by
    refine h.ids.nodup.sublist ?_
    unfold Db.ids
    simp only [List.append_assoc]
    iterate 4 refine List.Sublist.trans ?_ (List.sublist_append_right _ _)
    exact List.sublist_append_left _ _
  refine List.Nodup.of_map (fun rank : ℤ ×ₗ ℕ => (ofLex rank).2) ?_
  rw [List.map_map]
  exact hids

theorem Reachable.referenced [DecidableEq H] (hinj : base.uuid4.Injective)
    (hdb : Reachable base db) : Referenced base db := by
  obtain ⟨requests, hrun⟩ := hdb
  exact (Referenced.empty.run hinj hrun).1

theorem length_filter_latestRoomStates (hdb : StoreInvariant base db)
    (hreferenced : Referenced base db) (p : RoomStateRow H → Bool) :
    ((latestRoomStates db).filter p).length =
      (db.rooms.filter fun room => (db.newestState room.id).any p).length := by
  have hcolumns : db.roomColumns.map Prod.fst = db.roomIds := by
    simp [Db.roomColumns, Db.roomIds, RoomRow.columns]
  have hcount := length_filter_firsts hreferenced.stateRanks db.roomIds
    (hcolumns ▸ hdb.registry.roomIds.nodup) (fun row hrow => hcolumns ▸ hdb.stateRooms row hrow) p
  rw [latestRoomStates, hcount, Db.roomIds, List.filter_map, List.length_map]
  rfl

theorem RegistryStore.rooms_eq_nil (h : RegistryStore base db)
    (hnone : db.properties.find? (·.key = base.registry.property.key) = none) : db.rooms = [] := by
  have hcolumns : db.propertyColumns = [] := by
    rcases h.property with hempty | ⟨id, hone⟩
    · exact hempty
    · have hmem : (id, base.registry.property.key) ∈ db.propertyColumns := hone ▸ List.mem_singleton_self _
      obtain ⟨row, hrow, hkey⟩ := List.mem_map.mp hmem
      have hother := List.find?_eq_none.mp hnone row hrow
      simp only [PropertyRow.columns, Prod.mk.injEq] at hkey
      simp [hkey.2] at hother
  refine List.eq_nil_iff_forall_not_mem.mpr fun row hrow => ?_
  have hproperty := h.roomProperty row.columns (List.mem_map_of_mem hrow)
  rw [hcolumns] at hproperty
  cases hproperty

def Db.countRooms (db : Db H) (p : RoomStateRow H → Bool) : ℕ :=
  (db.rooms.filter fun room => (db.newestState room.id).any p).length

theorem report_counts_each_room_once [DecidableEq H] (hinj : base.uuid4.Injective)
    (hdb : Reachable base db) (zoneInfo : String → Zone) (now : Instant)
    (mqttConnected mqttRequired : Bool) :
    (buildSystemState zoneInfo db base.registry.property.key now mqttConnected
        mqttRequired).roomConflicts = db.countRooms (·.automationPhase = .conflict) ∧
      (buildSystemState zoneInfo db base.registry.property.key now mqttConnected
        mqttRequired).activeManualOverrides = db.countRooms (·.automationPhase = .manualOverride) ∧
      (buildSystemState zoneInfo db base.registry.property.key now mqttConnected
        mqttRequired).roomsNeedingAttention = db.countRooms (·.needsAttention) ∧
      ∀ row, row ∈ latestRoomStates db ↔ db.newestState row.roomId = some row := by
  have hstore := hdb.invariant hinj
  have hranks := (hdb.referenced hinj).stateRanks
  have hcount := length_filter_latestRoomStates hstore (hdb.referenced hinj)
  unfold buildSystemState
  cases hproperty : db.properties.find? (·.key = base.registry.property.key) with
  | none =>
      have hnone := hstore.registry.rooms_eq_nil hproperty
      simp only [emptyState, Db.countRooms, hnone, List.filter_nil, List.length_nil, true_and]
      exact fun row => mem_firsts_iff_latest hranks
  | some property =>
      exact ⟨hcount _, hcount _, hcount _, fun row => mem_firsts_iff_latest hranks⟩

theorem manual_room_is_counted :
    (buildSystemState (fun _ => (demoRuntime false).zone) (demoStore demoOccupiedRun)
      (demoRuntime false).registry.property.key (demoInstant 10 8) true true).activeManualOverrides =
        1 := by
  have hreachable : Reachable (demoRuntime false) (demoStore demoOccupiedRun) :=
    ⟨demoOccupiedRun, demoOccupiedRun_run.mono fun _ _ hserved => ⟨hserved.1, trivial⟩⟩
  rw [(report_counts_each_room_once (demoRuntime_uuid4_injective false) hreachable _ _ _ _).2.1]
  decide +kernel

section Status

theorem countOutbox_eq_zero {statuses : List OutboxStatus} (h : countOutbox db statuses = 0) :
    ∀ event ∈ db.outbox, event.status ∉ statuses := by
  simpa [countOutbox, List.filter_eq_nil_iff] using h

theorem published_of_counts (hpending : countOutbox db [.pending, .retrying, .publishing] = 0)
    (hdead : countOutbox db [.deadLetter] = 0) :
    ∀ event ∈ db.outbox, event.status = .published := by
  intro event hevent
  have hpending' := countOutbox_eq_zero hpending event hevent
  have hdead' := countOutbox_eq_zero hdead event hevent
  cases hstatus : event.status with
  | published => rfl
  | deadLetter => simp [hstatus] at hdead'
  | pending | publishing | retrying => simp [hstatus] at hpending'

def SystemStatus.Settled (status : SystemStatus) : Prop := status = .attention ∨ status = .online

theorem systemStatus_settled {mqttConnected mqttRequired lastSuccessSeen : Bool}
    {roomConflicts roomsNeedingAttention pendingOutbox deadLetterOutbox : ℕ}
    (h : (systemStatus mqttConnected mqttRequired lastSuccessSeen roomConflicts
      roomsNeedingAttention pendingOutbox deadLetterOutbox).Settled) :
    deadLetterOutbox = 0 ∧ pendingOutbox = 0 ∧ lastSuccessSeen = true ∧
      (mqttRequired = true → mqttConnected = true) := by
  unfold systemStatus SystemStatus.Settled at h
  split at h
  · simp at h
  · next hdead =>
      split at h
      · simp at h
      · next hstarting =>
          split at h
          · simp at h
          · next hpending => simp_all

theorem systemStatus_online {mqttConnected mqttRequired lastSuccessSeen : Bool}
    {roomConflicts roomsNeedingAttention pendingOutbox deadLetterOutbox : ℕ}
    (h : systemStatus mqttConnected mqttRequired lastSuccessSeen roomConflicts
      roomsNeedingAttention pendingOutbox deadLetterOutbox = .online) :
    roomConflicts = 0 ∧ roomsNeedingAttention = 0 := by
  unfold systemStatus at h
  split at h
  · cases h
  · split at h
    · cases h
    · split at h
      · cases h
      · split at h
        · cases h
        · next hrooms => simpa using hrooms

theorem report_settled
    (h : (buildSystemState zoneInfo db propertyKey now mqttConnected mqttRequired).status.Settled) :
    (∀ event ∈ db.outbox, event.status = .published) ∧
      (∃ run ∈ db.syncRuns, run.status = "success") ∧
      (mqttRequired = true → mqttConnected = true) := by
  unfold buildSystemState at h
  split at h
  · simp [emptyState, SystemStatus.Settled] at h
  · obtain ⟨hdead, hpending, hsuccess, hmqtt⟩ := systemStatus_settled h
    obtain ⟨run, hrun⟩ := Option.isSome_iff_exists.mp hsuccess
    have hstatus := (List.mem_filter.mp (latest_mem hrun))
    simp only [decide_eq_true_eq] at hstatus
    exact ⟨published_of_counts hpending hdead, ⟨run, hstatus.1, hstatus.2.2⟩, hmqtt⟩

theorem report_online
    (h : (buildSystemState zoneInfo db propertyKey now mqttConnected mqttRequired).status = .online) :
    ∀ row ∈ latestRoomStates db, row.automationPhase ≠ .conflict ∧ row.needsAttention = false := by
  unfold buildSystemState at h
  split at h
  · cases h
  · obtain ⟨hconflicts, hattention⟩ := systemStatus_online h
    rw [List.length_eq_zero_iff, List.filter_eq_nil_iff] at hconflicts hattention
    intro row hrow
    exact ⟨by simpa using hconflicts row hrow, by simpa using hattention row hrow⟩

end Status

theorem settled_report_vouches_for_the_broker [DecidableEq H] (hinj : base.uuid4.Injective)
    {as : List (SiteAction H)} (h : Run Site.next (Site.Guarded base) (.start H) as s)
    (hstatus : (buildSystemState zoneInfo s.db propertyKey now mqttConnected
      mqttRequired).status.Settled)
    {roomId propertyId : UUID} {roomKey : String}
    (hc : (roomId, propertyId, roomKey) ∈ s.db.roomColumns) {row : RoomStateRow H}
    (hrow : s.db.newestState roomId = some row) :
    (∃ a, AnnouncesPms base row a ∧
        retained s.broker (base.topics.roomPmsState roomKey) = some a.payload) ∧
      (∃ a, AnnouncesIntent base row a ∧
        retained s.broker (base.topics.roomIntentState roomKey) = some a.payload) ∧
      ((buildSystemState zoneInfo s.db propertyKey now mqttConnected mqttRequired).status = .online →
        row.automationPhase ≠ .conflict ∧ row.needsAttention = false) := by
  have hs := SiteInvariant.run hinj h
  have hlog := hs.logs.rooms _ _ _ hc
  have hsettled : ∀ topic, s.Settled topic := fun topic event hevent =>
    (report_settled hstatus).1 event (mem_onTopic.mp (List.mem_of_getLast? hevent)).1
  have hlast : (s.db.statesOf roomId).getLast? = some row := hlog.latestState.symm.trans hrow
  refine ⟨(hs.shows hlog.pms).newest (hsettled _) row hlast,
    (hs.shows hlog.intents).newest (hsettled _) row hlast, fun honline => report_online honline row ?_⟩
  obtain ⟨-, hid⟩ := mem_group.mp (latest_mem hrow)
  subst hid
  exact (mem_firsts_iff_latest hs.referenced.stateRanks).mpr hrow

def demoReport (s : Site RoomStateDocument) : SystemState :=
  buildSystemState (fun _ => (demoRuntime false).zone) s.db
    (demoRuntime false).registry.property.key (demoInstant 10 8) true true

theorem online_report_of_a_manual_room : ∃ s : Site RoomStateDocument,
    (demoReport s).status = .online ∧ ∃ row ∈ s.db.statesOf 1, row.intentVersion = 2 ∧
      ∃ a, AnnouncesIntent (demoRuntime false) row a ∧
        retained s.broker demoIntentTopic = some a.payload := by
  obtain ⟨s, hs, hchecked⟩ := exists_run Site.next Site.Timely (.start _) (demoMorning ++ demoNoon)
    (p := fun s => decide ((1, 0, "214") ∈ s.db.roomColumns ∧ (demoReport s).status = .online) &&
      (s.db.newestState 1).any fun row => row.intentVersion = 2) (by decide +kernel)
  simp only [Bool.and_eq_true, decide_eq_true_eq, Option.any_eq_true] at hchecked
  obtain ⟨⟨hroom, honline⟩, row, hrow, hversion⟩ := hchecked
  have hrun := hs.with_actions (List.forall_mem_append.mpr ⟨demoMorning_served, demoNoon_served⟩)
  have hvouched := settled_report_vouches_for_the_broker (demoRuntime_uuid4_injective false) hrun
    (.inr honline) hroom hrow
  exact ⟨s, honline, row, latest_mem hrow, hversion, hvouched.2.1⟩

end ClockOrchestrator
