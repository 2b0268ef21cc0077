import ClockOrchestrator.Policy.OverrideRows
import ClockOrchestrator.Persistence.Frames

namespace ClockOrchestrator

open Python UnitOfWork

variable {H : Type} {rt base : AppRuntime H}

section Room

variable {property : PropertyRow} {room : Room} {row : RoomRow} {s s' : DbSession H}

theorem ensureCommandRoom_ok (h : ensureCommandRoom rt property s room = .ok (row, s')) :
    ∃ t, ensureRoom rt property s room = .ok (row, t) ∧ flushRooms t = .ok s' := by
  unfold ensureCommandRoom at h
  obtain ⟨⟨found, t⟩, hroom, h⟩ := bind_ok h
  obtain ⟨u, hflush, h⟩ := bind_ok h
  cases h
  exact ⟨t, hroom, hflush⟩

theorem ensureCommandRoom_shows {α : Type} {f : Db H → α} {x : α} (hf : IgnoresRegistry f)
    (h : ensureCommandRoom rt property s room = .ok (row, s')) (hs : s.Shows f x) :
    s'.Shows f x := by
  obtain ⟨t, hroom, hflush⟩ := ensureCommandRoom_ok h
  exact flushRooms_shows hflush (ensureRoom_shows hf hroom hs)

theorem ensureCommandRoom_session (hinj : base.uuid4.Injective) (hu : rt.uuid4 = base.uuid4)
    (h : ensureCommandRoom rt property s room = .ok (row, s')) (hs : RegistrySession base s)
    (hp : s.live.propertyColumns = [(property.id, base.registry.property.key)]) :
    RegistrySession base s' ∧ s'.live.propertyColumns = s.live.propertyColumns ∧
      s.live.roomColumns <+: s'.live.roomColumns ∧
      row.columns = (row.id, property.id, room.key) ∧ row.columns ∈ s'.live.roomColumns ∧
      s.live.drawn ≤ s'.live.drawn := by
  obtain ⟨t, hroom, hflush⟩ := ensureCommandRoom_ok h
  obtain ⟨ht, hrest⟩ := ensureRoom_session hinj hu hroom hs hp
  rw [flushRooms_ok hflush]
  exact ⟨ht.flush, hrest⟩

theorem ensureCommandRoom_apart (hinj : base.uuid4.Injective) (hu : rt.uuid4 = base.uuid4)
    (h : ensureCommandRoom rt property s room = .ok (row, s')) (hs : RegistrySession base s)
    (hp : s.live.propertyColumns = [(property.id, base.registry.property.key)])
    (hapart : s.flushed.RoomsApart) : s'.live.RoomsApart := by
  obtain ⟨t, hroom, hflush⟩ := ensureCommandRoom_ok h
  obtain ⟨ht, -⟩ := ensureRoom_session hinj hu hroom hs hp
  have hdone := flushRooms_apart hflush (ht.rooms.flushed ▸ List.prefix_rfl)
    ht.store.roomIds.nodup (ensureRoom_apart hinj hu hroom hs hp hapart)
  rw [flushRooms_ok hflush] at hdone ⊢
  exact hdone

end Room

structure CommandSession (base : AppRuntime H) (db : Db H) (t : DbSession H) : Prop where
  registry : RegistrySession base t
  properties : db.propertyColumns ⊆ t.live.propertyColumns
  growth : db.roomColumns <+: t.live.roomColumns
  logs : t.Shows Db.logs db.logs
  stays : t.Shows Db.stays db.stays
  drawn : db.drawn ≤ t.live.drawn
  apart : db.RoomsApart → t.live.RoomsApart

def openCommandRoom (rt : AppRuntime H) (db : Db H) (command : RoomCommand) :
    Option (RoomRow × DbSession H) :=
  match rt.registry.byKey command.roomKey with
  | none => none
  | some room =>
      (ensureCommandRoom rt (ensureProperty rt (rt.session db)).1 (ensureProperty rt (rt.session db)).2
        room).toOption

theorem openCommandRoom_none {db : Db H} {command : RoomCommand}
    (h : rt.registry.byKey command.roomKey = none) : openCommandRoom rt db command = none := by
  rw [openCommandRoom, h]

theorem openCommandRoom_some {db : Db H} {command : RoomCommand} {room : Room}
    (h : rt.registry.byKey command.roomKey = some room) :
    openCommandRoom rt db command =
      (ensureCommandRoom rt (ensureProperty rt (rt.session db)).1 (ensureProperty rt (rt.session db)).2
        room).toOption := by
  rw [openCommandRoom, h]

def commandRow (rt : AppRuntime H) (db : Db H) (command : RoomCommand)
    (current : Option OverrideRow) : Option OverrideRow :=
  (openCommandRoom rt db command).bind fun (roomRow, t) =>
    (buildOverrideRow rt.policy.automation current
      (currentBookingBoundary rt.policy t roomRow.id (command.now.toUtc rt.zone)) roomRow.id
      (rt.uuid4 t.live.drawn) command.correlationId command.field command.payload
      (command.now.toUtc rt.zone)).toOption

theorem commandRow_eq_some {db : Db H} {command : RoomCommand} {current : Option OverrideRow}
    {row : OverrideRow} (h : commandRow rt db command current = some row) :
    ∃ roomRow t, openCommandRoom rt db command = some (roomRow, t) ∧
      buildOverrideRow rt.policy.automation current
        (currentBookingBoundary rt.policy t roomRow.id (command.now.toUtc rt.zone)) roomRow.id
        (rt.uuid4 t.live.drawn) command.correlationId command.field command.payload
        (command.now.toUtc rt.zone) = .ok row := by
  obtain ⟨⟨roomRow, t⟩, hopen, hrow⟩ := Option.bind_eq_some_iff.mp h
  exact ⟨roomRow, t, hopen, toOption_eq_some.mp hrow⟩

def foundOverride (rt : AppRuntime H) (db : Db H) (command : RoomCommand) : Option OverrideRow :=
  (openCommandRoom rt db command).bind fun (roomRow, t) => latestOverrideRow t roomRow.id

theorem applyMqttCommand_accepted {db : Db H} {command : RoomCommand}
    {out : CommandProcessingResult × DbSession H}
    (h : applyMqttCommand rt (rt.session db) command = .ok out) (ha : out.1.accepted = true) :
    ∃ row, commandRow rt db command (foundOverride rt db command) = some row ∧
      out.2.live.overrides = db.overrides ++ [row] := by
  have hlogs : (ensureProperty rt (rt.session db)).2.Shows Db.logs db.logs :=
    ensureProperty_shows rt ignoresRegistry_logs (.of_start rt.autoflush db Db.logs)
  have hopen := @openCommandRoom_some H rt db command
  unfold applyMqttCommand at h
  obtain ⟨now, hnow, h⟩ := bind_ok h
  obtain rfl := Datetime.checkedUtc_ok hnow
  generalize ensureProperty rt (rt.session db) = opened at h hlogs hopen
  obtain ⟨property, s⟩ := opened
  dsimp only at h hlogs hopen
  split at h
  · cases h
    cases ha
  · next room hroom =>
      obtain ⟨⟨roomRow, t⟩, hensure, h⟩ := bind_ok h
      have hfound := (hopen hroom).trans (toOption_eq_some.mpr hensure)
      have ht := ensureCommandRoom_shows ignoresRegistry_logs hensure hlogs
      have hbefore : t.live.overrides = db.overrides := congrArg (·.2.1) ht.live
      dsimp only at h
      split at h
      · split at h
        · cases h
          cases ha
        · cases h
      · next row hrow =>
          split at h
          · cases h
          · cases h
            refine ⟨row, ?_, congrArg (· ++ [row]) hbefore⟩
            rw [commandRow, foundOverride, hfound]
            dsimp only [Option.bind_some]
            rw [hrow]
            rfl

structure CommandRoom (base : AppRuntime H) (db : Db H) (roomKey : String) (roomRow : RoomRow)
    (t : DbSession H) : Prop where
  session : CommandSession base db t
  columns : ∃ propertyId, roomRow.columns = (roomRow.id, propertyId, roomKey)
  stored : roomRow.columns ∈ t.live.roomColumns

theorem ensureProperty_opened (hk : rt.registry.property.key = base.registry.property.key)
    {db : Db H} (hdb : RegistryStore base db) :
    CommandSession base db (ensureProperty rt (rt.session db)).2 ∧
      (ensureProperty rt (rt.session db)).2.live.propertyColumns =
        [((ensureProperty rt (rt.session db)).1.id, base.registry.property.key)] := by
  have hstart : RegistrySession base (rt.session db) := .of_start rt.autoflush hdb
  obtain ⟨hm, hpm, hsub, hrm, hdrawn⟩ := ensureProperty_session hk hstart
  have hlogs := ensureProperty_shows rt ignoresRegistry_logs
    (Session.Shows.of_start rt.autoflush db Db.logs)
  have hstays := ensureProperty_shows rt ignoresRegistry_stays
    (Session.Shows.of_start rt.autoflush db Db.stays)
  have hrooms := (ensureProperty_rooms rt db).live
  refine ⟨⟨hm, hsub, by rw [hrm]; exact List.prefix_rfl, hlogs, hstays, hdrawn, ?_⟩, hpm⟩
  unfold Db.RoomsApart
  rw [hrooms]
  exact id

theorem openCommandRoom_session (hinj : base.uuid4.Injective) (hu : rt.uuid4 = base.uuid4)
    (hk : rt.registry.property.key = base.registry.property.key) {db : Db H}
    (hdb : RegistryStore base db) {command : RoomCommand} {roomRow : RoomRow} {t : DbSession H}
    (h : openCommandRoom rt db command = some (roomRow, t)) :
    CommandRoom base db command.roomKey roomRow t := by
  obtain ⟨hopened, hpm⟩ := ensureProperty_opened hk hdb
  cases hroom : rt.registry.byKey command.roomKey with
  | none =>
      rw [openCommandRoom_none hroom] at h
      cases h
  | some room =>
      rw [openCommandRoom_some hroom] at h
      have hkey : room.key = command.roomKey := by simpa using List.find?_some hroom
      have hensure : ensureCommandRoom rt (ensureProperty rt (rt.session db)).1
          (ensureProperty rt (rt.session db)).2 room = .ok (roomRow, t) :=
        toOption_eq_some.mp h
      obtain ⟨ht, hpt, hprefix, hcols, hmem, hdrawn⟩ :=
        ensureCommandRoom_session hinj hu hensure hopened.registry hpm
      refine ⟨⟨ht, hpt ▸ hopened.properties, hopened.growth.trans hprefix,
        ensureCommandRoom_shows ignoresRegistry_logs hensure hopened.logs,
        ensureCommandRoom_shows ignoresRegistry_stays hensure hopened.stays,
        hopened.drawn.trans hdrawn, fun hapart => ?_⟩, ⟨_, hkey ▸ hcols⟩, hmem⟩
      refine ensureCommandRoom_apart hinj hu hensure hopened.registry hpm ?_
      unfold Db.RoomsApart
      rw [(ensureProperty_rooms rt db).flushed]
      exact hapart

inductive CommandEffect (base rt : AppRuntime H) (db : Db H) (command : RoomCommand) :
    CommandProcessingResult × DbSession H → Prop
  | rejected {property : PropertyRow} {roomId : Option UUID} {roomKey error : Option String}
      {reason : String} {t : DbSession H} :
      CommandSession base db t →
      (∀ roomRow t', openCommandRoom rt db command = some (roomRow, t') →
        CommandRoom base db command.roomKey roomRow t' ∧
          commandRow rt db command (latestOverrideRow t' roomRow.id) = none) →
      CommandEffect base rt db command (⟨false, roomKey, command.correlationId, error⟩,
        rejectCommand rt property roomId command reason (command.now.toUtc rt.zone) t)
  | accepted {property : PropertyRow} {room : Room} {roomRow : RoomRow} {row : OverrideRow}
      {t : DbSession H} :
      room.key = command.roomKey →
      openCommandRoom rt db command = some (roomRow, t) →
      CommandRoom base db command.roomKey roomRow t →
      commandRow rt db command (latestOverrideRow t roomRow.id) = some row →
      CommandEffect base rt db command (⟨true, some room.key, command.correlationId, none⟩,
        acceptCommand rt property room row command (command.now.toUtc rt.zone) t)

theorem applyMqttCommand_effect (hinj : base.uuid4.Injective) (hu : rt.uuid4 = base.uuid4)
    (hk : rt.registry.property.key = base.registry.property.key) {db : Db H}
    (hdb : RegistryStore base db) {command : RoomCommand}
    {out : CommandProcessingResult × DbSession H}
    (h : applyMqttCommand rt (rt.session db) command = .ok out) :
    CommandEffect base rt db command out := by
  have hsession : ∀ roomRow t, openCommandRoom rt db command = some (roomRow, t) →
      CommandRoom base db command.roomKey roomRow t :=
    fun _ _ => openCommandRoom_session hinj hu hk hdb
  have hopened := (ensureProperty_opened hk hdb).1
  have hopen := @openCommandRoom_some H rt db command
  unfold applyMqttCommand at h
  obtain ⟨now, hnow, h⟩ := bind_ok h
  obtain rfl := Datetime.checkedUtc_ok hnow
  generalize ensureProperty rt (rt.session db) = opened at h hopened hopen
  obtain ⟨property, s⟩ := opened
  dsimp only at h hopened hopen
  split at h
  · next hnone =>
      cases h
      refine .rejected hopened fun roomRow t' hsome => ?_
      rw [openCommandRoom_none hnone] at hsome
      cases hsome
  · next room hroom =>
      obtain ⟨⟨roomRow, t⟩, hensure, h⟩ := bind_ok h
      have hfound := (hopen hroom).trans (toOption_eq_some.mpr hensure)
      have hroomOpened := hsession _ _ hfound
      dsimp only at h
      split at h
      · next e herror =>
          split at h
          · cases h
            refine .rejected hroomOpened.session fun roomRow' t' hsome => ?_
            rw [hfound] at hsome
            cases hsome
            refine ⟨hroomOpened, ?_⟩
            rw [commandRow, hfound]
            dsimp only [Option.bind_some]
            rw [herror]
            rfl
          · cases h
      · next row hrow =>
          split at h
          · cases h
          · cases h
            refine .accepted (by simpa using List.find?_some hroom) hfound hroomOpened ?_
            rw [commandRow, hfound]
            dsimp only [Option.bind_some]
            rw [hrow]
            rfl

theorem latestOverrideRow_of_logs {t : DbSession H} {db : Db H} (h : t.Shows Db.logs db.logs)
    (roomId : UUID) :
    latestOverrideRow t roomId =
      RankedLog.latest OverrideRow.rank (db.overrides.filter (·.roomId = roomId)) := by
  have hs : t.Shows (·.overrides) db.overrides := h.map fun logs => logs.2.1
  unfold latestOverrideRow
  rw [Session.select_of_shows hs]

theorem latestRoomState_of_logs {t : DbSession H} {db : Db H} (h : t.Shows Db.logs db.logs)
    (roomId : UUID) :
    latestRoomState t roomId =
      RankedLog.latest RoomStateRow.rank (db.roomStates.filter (·.roomId = roomId)) := by
  have hs : t.Shows (·.roomStates) db.roomStates := h.map Prod.fst
  unfold latestRoomState
  rw [Session.select_of_shows hs]

theorem CommandEffect.tables {db : Db H} {command : RoomCommand}
    {out : CommandProcessingResult × DbSession H} (h : CommandEffect base rt db command out) :
    ∃ t, CommandSession base db t ∧ KeepsRegistry t.live out.2.live ∧
      out.2.live.stays = db.stays ∧ out.2.live.roomStates = db.roomStates ∧
      (∀ topic, out.2.live.intentVersions topic = db.intentVersions topic) ∧
      (out.2.live.overrides = db.overrides ∨
        ∃ row, out.2.live.overrides = db.overrides ++ [row] ∧
          row.roomId ∈ t.live.roomColumns.map Prod.fst ∧
          ((∀ row ∈ db.overrides, row.WellFormed) → row.WellFormed)) := by
  cases h with
  | @rejected property roomId roomKey error reason t ht hnone =>
      have hlogs := ht.logs.live
      simp only [Db.logs, Prod.mk.injEq] at hlogs
      refine ⟨t, ht, ⟨rfl, rfl, Nat.le_succ _⟩, ht.stays.live, hlogs.1, ?_, .inl hlogs.2.1⟩
      intro topic
      change (t.live.outbox.filter _).filterMap _ = _
      rw [hlogs.2.2]
      rfl
  | @accepted property room roomRow row t hkey hopen ht hrow =>
      obtain ⟨roomRow', t', hopen', hbuild⟩ := commandRow_eq_some hrow
      rw [hopen] at hopen'
      cases hopen'
      have hlogs := ht.session.logs.live
      simp only [Db.logs, Prod.mk.injEq] at hlogs
      have hroomId : row.roomId = roomRow.id := buildOverrideRow_roomId hbuild
      refine ⟨t, ht.session, ⟨rfl, rfl, ?_⟩, ht.session.stays.live, hlogs.1, ?_,
        .inr ⟨row, ?_, ?_, ?_⟩⟩
      · change t.live.drawn ≤ t.live.drawn + 1 + 1 + 1
        omega
      · intro topic
        refine (intentVersions_addOutbox_of_none _ rfl topic).trans ?_
        change (t.live.outbox.filter _).filterMap _ = _
        rw [hlogs.2.2]
        rfl
      · change t.live.overrides ++ [row] = _
        rw [hlogs.2.1]
      · rw [hroomId]
        exact List.mem_map_of_mem ht.stored
      · intro hwell
        refine buildOverrideRow_wellFormed hbuild fun latest hlatest => ?_
        rw [latestOverrideRow_of_logs ht.session.logs] at hlatest
        exact hwell latest (List.mem_filter.mp (RankedLog.latest_mem hlatest)).1

end ClockOrchestrator
