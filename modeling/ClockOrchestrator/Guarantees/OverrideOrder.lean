import ClockOrchestrator.RuntimeInvariants

namespace ClockOrchestrator

open Python UnitOfWork Trace RankedLog

variable {H : Type} {base rt : AppRuntime H} {db db' : Db H}

def Db.currentOverride (db : Db H) (roomKey : String) : Option OverrideRow :=
  (db.rooms.find? (·.key = roomKey)).bind fun room =>
    latest OverrideRow.rank (db.overridesOf room.id)

theorem StoreInvariant.currentOverride_eq (h : StoreInvariant base db)
    (hstore : RegistryStore base db') (hgrowth : db.roomColumns <+: db'.roomColumns)
    {roomId propertyId : UUID} {roomKey : String}
    (hc : (roomId, propertyId, roomKey) ∈ db'.roomColumns) :
    db.currentOverride roomKey = latest OverrideRow.rank (db.overridesOf roomId) := by
  unfold Db.currentOverride
  cases hf : db.rooms.find? (·.key = roomKey) with
  | some room =>
      have hmem : room.columns ∈ db.roomColumns :=
        List.mem_map_of_mem (List.mem_of_find?_eq_some hf)
      have hkey : room.key = roomKey := by simpa using List.find?_some hf
      have heq : room.columns = (roomId, propertyId, roomKey) :=
        KeyedTable.eq_of_key hstore.roomKeys (hgrowth.subset hmem) hc hkey
      simp only [RoomRow.columns, Prod.mk.injEq] at heq
      rw [Option.bind_some, heq.1]
  | none =>
      have hempty : db.overridesOf roomId = [] := by
        refine filter_nil_of_false fun row hrow => decide_eq_false fun hroom => ?_
        obtain ⟨c, hmem, hid⟩ := List.mem_map.mp (h.overrideRooms row hrow)
        have heq := hstore.column_unique (hgrowth.subset hmem) hc (hid.trans hroom)
        obtain ⟨room, hrooms, rfl⟩ := List.mem_map.mp hmem
        simp only [RoomRow.columns, Prod.mk.injEq] at heq
        exact List.find?_eq_none.mp hf room hrooms (decide_eq_true heq.2.2)
      rw [hempty]
      rfl

theorem StoreInvariant.currentOverride_congr (h : StoreInvariant base db)
    (h' : StoreInvariant base db') (hgrowth : db.roomColumns <+: db'.roomColumns)
    {roomKey : String}
    (hsame : ∀ roomId propertyId, (roomId, propertyId, roomKey) ∈ db'.roomColumns →
      db'.overridesOf roomId = db.overridesOf roomId) :
    db'.currentOverride roomKey = db.currentOverride roomKey := by
  cases hf : db'.rooms.find? (·.key = roomKey) with
  | some room =>
      have hkey : room.key = roomKey := by simpa using List.find?_some hf
      have hc : (room.id, room.propertyId, roomKey) ∈ db'.roomColumns := by
        rw [← hkey]
        exact List.mem_map_of_mem (List.mem_of_find?_eq_some hf)
      rw [h.currentOverride_eq h'.registry hgrowth hc,
        h'.currentOverride_eq h'.registry List.prefix_rfl hc, hsame _ _ hc]
  | none =>
      have hnone : db.rooms.find? (·.key = roomKey) = none := by
        refine List.find?_eq_none.mpr fun room hroom hkey => ?_
        obtain ⟨room', hroom', heq⟩ := List.mem_map.mp
          (hgrowth.subset (List.mem_map_of_mem hroom : room.columns ∈ db.roomColumns))
        simp only [RoomRow.columns, Prod.mk.injEq] at heq
        refine List.find?_eq_none.mp hf room' hroom' ?_
        rw [heq.2.2]
        exact hkey
      simp [Db.currentOverride, hf, hnone]

theorem CommandRoom.latest_eq (hdb : StoreInvariant base db) {roomKey : String}
    {roomRow : RoomRow} {t : DbSession H} (h : CommandRoom base db roomKey roomRow t) :
    latestOverrideRow t roomRow.id = db.currentOverride roomKey := by
  obtain ⟨propertyId, hcols⟩ := h.columns
  rw [latestOverrideRow_of_logs h.session.logs,
    hdb.currentOverride_eq h.session.registry.store h.session.growth (hcols ▸ h.stored)]
  rfl

theorem CommandEffect.currentOverride {command : RoomCommand}
    {out : CommandProcessingResult × DbSession H} (h : CommandEffect base rt db command out)
    (hdb : StoreInvariant base db)
    (houtranks : ∀ row ∈ appended db.overrides out.2.live.overrides,
      Outranks OverrideRow.rank row (db.overridesOf row.roomId)) (roomKey : String) :
    out.2.live.currentOverride roomKey =
      if command.roomKey = roomKey then
        (commandRow rt db command (db.currentOverride roomKey)).or (db.currentOverride roomKey)
      else db.currentOverride roomKey := by
  have hout := h.invariant hdb
  cases h with
  | @rejected property roomId _ error reason t ht hnone =>
      have hoverrides : t.live.overrides = db.overrides := congrArg (·.2.1) ht.logs.live
      have hsame : t.live.currentOverride roomKey = db.currentOverride roomKey := by
        refine hdb.currentOverride_congr hout ht.growth fun roomId propertyId _ =>
          overridesOf_of_overrides hoverrides roomId
      refine Eq.trans hsame ?_
      split
      · next hkey =>
          subst hkey
          have hrow : commandRow rt db command (db.currentOverride command.roomKey) = none := by
            cases hopen : openCommandRoom rt db command with
            | none => rw [commandRow, hopen, Option.bind_none]
            | some opened =>
                obtain ⟨hroom, hcommand⟩ := hnone opened.1 opened.2 hopen
                rw [← hroom.latest_eq hdb]
                exact hcommand
          rw [hrow, Option.none_or]
      · rfl
  | @accepted property room roomRow row t _ hopen hroom hrow =>
      have hoverrides : t.live.overrides = db.overrides := congrArg (·.2.1) hroom.session.logs.live
      have hadded : (acceptCommand rt property room row command (command.now.toUtc rt.zone)
          t).live.overrides = db.overrides ++ [row] := congrArg (· ++ [row]) hoverrides
      rw [hadded, appended_append] at houtranks
      obtain ⟨propertyId, hcols⟩ := hroom.columns
      have hc := hcols ▸ hroom.stored
      have hrowRoom : row.roomId = roomRow.id := by
        obtain ⟨roomRow', t', hopen', hbuild⟩ := commandRow_eq_some hrow
        rw [hopen] at hopen'
        cases hopen'
        exact buildOverrideRow_roomId hbuild
      rw [hroom.latest_eq hdb] at hrow
      split
      · next hkey =>
          subst hkey
          have htop := houtranks row (List.mem_singleton_self row)
          rw [hrowRoom] at htop
          rw [hrow, Option.some_or, hout.currentOverride_eq hout.registry List.prefix_rfl hc,
            overridesOf_append_own hadded hrowRoom]
          exact latest_append_of_outranks htop
      · next hkey =>
          refine hdb.currentOverride_congr hout hroom.session.growth fun roomId propertyId' hc' => ?_
          have hne : row.roomId ≠ roomId := by
            intro he
            have heq := hout.registry.column_unique hc hc' (hrowRoom.symm.trans he)
            simp only [Prod.mk.injEq] at heq
            exact hkey heq.2.2
          exact overridesOf_append_other hadded hne

variable [DecidableEq H]

def OverridesInOrder (db : Db H) (request : Request H) : Prop :=
  ∀ db' ∈ next db request, ∀ row ∈ appended db.overrides db'.overrides,
    Outranks OverrideRow.rank row (db.overridesOf row.roomId)

instance (row : OverrideRow) (rows : List OverrideRow) :
    Decidable (Outranks OverrideRow.rank row rows) :=
  inferInstanceAs (Decidable (∀ old ∈ rows, _ < _))

instance (db : Db H) (request : Request H) : Decidable (OverridesInOrder db request) :=
  inferInstanceAs (Decidable (∀ db' ∈ next db request, ∀ row ∈ _, _))

def commandRequest (command : AppRuntime H × RoomCommand) : Request H :=
  ⟨command.1, .applyMqttCommand command.2⟩

def appliedInCommitOrder (roomKey : String) : Db H → Option OverrideRow →
    List (AppRuntime H × RoomCommand) → Option OverrideRow
  | _, current, [] => current
  | db, current, (rt, command) :: rest =>
      match next db (commandRequest (rt, command)) with
      | none => current
      | some db' =>
          appliedInCommitOrder roomKey db'
            (if command.roomKey = roomKey then (commandRow rt db command current).or current
            else current) rest

theorem next_command (hinj : base.uuid4.Injective) (hrt : base.Restart rt) {command : RoomCommand}
    (hdb : StoreInvariant base db) (h : next db (commandRequest (rt, command)) = some db')
    (hguard : OverridesInOrder db (commandRequest (rt, command))) (roomKey : String) :
    db'.currentOverride roomKey =
      if command.roomKey = roomKey then
        (commandRow rt db command (db.currentOverride roomKey)).or (db.currentOverride roomKey)
      else db.currentOverride roomKey := by
  have hrows := hguard db' h
  obtain ⟨out, hout, rfl⟩ := next_ok h
  obtain ⟨result, hresult, rfl⟩ := map_ok hout
  have heffect := applyMqttCommand_effect hinj hrt.uuid4 hrt.propertyKey hdb.registry hresult
  exact heffect.currentOverride hdb hrows roomKey

theorem run_appliedInCommitOrder (hinj : base.uuid4.Injective)
    {commands : List (AppRuntime H × RoomCommand)} (hdb : StoreInvariant base db)
    (h : Run next (ServedBy base OverridesInOrder) db (commands.map commandRequest) db')
    (roomKey : String) :
    db'.currentOverride roomKey =
      appliedInCommitOrder roomKey db (db.currentOverride roomKey) commands := by
  induction commands generalizing db with
  | nil =>
      cases h
      rfl
  | cons command rest ih =>
      obtain ⟨rt, command⟩ := command
      cases h with
      | @cons _ m _ _ _ hserved hnext hrest =>
          rw [ih (next_invariant hinj hserved hnext hdb) hrest,
            next_command hinj hserved.1 hdb hnext hserved.2 roomKey]
          conv_rhs => rw [appliedInCommitOrder]
          rw [hnext]
          rfl

theorem currentOverride_follows_commit_order (hinj : base.uuid4.Injective)
    (hdb : Reachable base db) {commands : List (AppRuntime H × RoomCommand)}
    (h : Run next (ServedBy base OverridesInOrder) db (commands.map commandRequest) db')
    (roomKey : String) :
    db'.currentOverride roomKey =
      appliedInCommitOrder roomKey db (db.currentOverride roomKey) commands :=
  run_appliedInCommitOrder hinj (hdb.invariant hinj) h roomKey

def demoManualAt (now : Timestamp) : AppRuntime RoomStateDocument × RoomCommand :=
  (demoRuntime false, demoCommand "mode" "manual" now 1000)

def demoHeaterAt (now : Timestamp) : AppRuntime RoomStateDocument × RoomCommand :=
  (demoRuntime false, demoCommand "water-heater" "on" now 1001)

theorem heater_command_follows_mode_command :
    (demoStore ([demoManualAt (demoNow 10 0), demoHeaterAt (demoNow 10 5)].map
        commandRequest)).currentOverride "214" =
      appliedInCommitOrder "214" (Db.empty _) none
        [demoManualAt (demoNow 10 0), demoHeaterAt (demoNow 10 5)] := by
  have hrun : Run next (ServedBy (demoRuntime false) OverridesInOrder) (Db.empty _)
      ([demoManualAt (demoNow 10 0), demoHeaterAt (demoNow 10 5)].map commandRequest)
      (demoStore ([demoManualAt (demoNow 10 0), demoHeaterAt (demoNow 10 5)].map
        commandRequest)) := by
    refine .cons (t := demoStore [commandRequest (demoManualAt (demoNow 10 0))]) ⟨.refl _, ?_⟩ ?_
      (.cons ⟨.refl _, ?_⟩ ?_ (.nil _))
    · decide +kernel
    · decide +kernel
    · decide +kernel
    · decide +kernel
  exact currentOverride_follows_commit_order (demoRuntime_uuid4_injective false) (.empty _) hrun
    "214"

-- The second handler read the clock first and waited for the lock.
theorem later_commit_with_older_reading_is_lost :
    ∃ (commands : List (AppRuntime RoomStateDocument × RoomCommand)) (db : Db RoomStateDocument),
      Run next (ServedBy (demoRuntime false) fun _ _ => True) (Db.empty _)
        (commands.map commandRequest) db ∧
      db.overrides.length = commands.length ∧
      db.currentOverride "214" ≠ appliedInCommitOrder "214" (Db.empty _) none commands := by
  refine ⟨[demoManualAt (demoNow 10 5), demoHeaterAt (demoNow 10 0)],
    demoStore ([demoManualAt (demoNow 10 5), demoHeaterAt (demoNow 10 0)].map commandRequest),
    run_of_eq_some ?_ ?_, ?_, ?_⟩
  · intro request hrequest db
    simp only [List.map_cons, List.map_nil, List.mem_cons, List.not_mem_nil, or_false] at hrequest
    rcases hrequest with rfl | rfl <;> exact ⟨.refl _, trivial⟩
  · decide +kernel
  · decide +kernel
  · decide +kernel

end ClockOrchestrator
