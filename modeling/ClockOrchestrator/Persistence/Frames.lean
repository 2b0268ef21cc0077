import ClockOrchestrator.Persistence.RegistryRows

namespace ClockOrchestrator

open Python UnitOfWork FreshIds

variable {H : Type} {base : AppRuntime H} {db db' db'' : Db H}

structure KeepsRegistry (db db' : Db H) : Prop where
  properties : db'.properties = db.properties
  rooms : db'.rooms = db.rooms
  drawn : db.drawn ≤ db'.drawn

namespace KeepsRegistry

theorem refl (db : Db H) : KeepsRegistry db db := ⟨rfl, rfl, Nat.le_refl _⟩

theorem trans (h : KeepsRegistry db db') (h' : KeepsRegistry db' db'') :
    KeepsRegistry db db'' :=
  ⟨h'.properties.trans h.properties, h'.rooms.trans h.rooms, h.drawn.trans h'.drawn⟩

theorem propertyColumns (h : KeepsRegistry db db') :
    db'.propertyColumns = db.propertyColumns := by
  simp [Db.propertyColumns, h.properties]

theorem roomColumns (h : KeepsRegistry db db') : db'.roomColumns = db.roomColumns := by
  simp [Db.roomColumns, h.rooms]

theorem store (h : KeepsRegistry db db') (hs : RegistryStore base db) : RegistryStore base db' :=
  hs.of_columns h.propertyColumns h.roomColumns h.drawn

theorem rowsStored {rows : RegistryRows} (h : KeepsRegistry db db') (hr : RowsStored rows db) :
    RowsStored rows db' :=
  ⟨hr.columns, fun e he => h.roomColumns ▸ hr.stored e he⟩

end KeepsRegistry

def Db.intentVersions (db : Db H) (topic : String) : List ℕ :=
  (db.outbox.filter (·.topic = topic)).filterMap (·.payload.intentVersion)

theorem intentVersions_addOutbox (db : Db H) (event : OutboxEvent) (topic : String) :
    (db.addOutbox event).intentVersions topic = db.intentVersions topic ++
      if event.topic = topic then event.payload.intentVersion.toList else [] := by
  unfold Db.intentVersions Db.addOutbox
  rw [List.filter_append, List.filterMap_append]
  congr 1
  by_cases h : event.topic = topic
  · cases hv : event.payload.intentVersion <;> simp [h, hv]
  · simp [h]

theorem intentVersions_addOutbox_of_none (db : Db H) {event : OutboxEvent}
    (h : event.payload.intentVersion = none) (topic : String) :
    (db.addOutbox event).intentVersions topic = db.intentVersions topic := by
  rw [intentVersions_addOutbox, h]
  simp

def Db.statesOf (db : Db H) (roomId : UUID) : List (RoomStateRow H) :=
  db.roomStates.filter (·.roomId = roomId)

def Db.overridesOf (db : Db H) (roomId : UUID) : List OverrideRow :=
  db.overrides.filter (·.roomId = roomId)

theorem statesOf_of_roomStates (h : db'.roomStates = db.roomStates) (roomId : UUID) :
    db'.statesOf roomId = db.statesOf roomId :=
  congrArg (List.filter _) h

theorem overridesOf_of_overrides (h : db'.overrides = db.overrides) (roomId : UUID) :
    db'.overridesOf roomId = db.overridesOf roomId :=
  congrArg (List.filter _) h

theorem statesOf_append {rows : List (RoomStateRow H)}
    (h : db'.roomStates = db.roomStates ++ rows) (roomId : UUID) :
    db'.statesOf roomId = db.statesOf roomId ++ rows.filter (·.roomId = roomId) := by
  rw [Db.statesOf, h, List.filter_append, Db.statesOf]

theorem overridesOf_append {rows : List OverrideRow} (h : db'.overrides = db.overrides ++ rows)
    (roomId : UUID) :
    db'.overridesOf roomId = db.overridesOf roomId ++ rows.filter (·.roomId = roomId) := by
  rw [Db.overridesOf, h, List.filter_append, Db.overridesOf]

theorem overridesOf_append_own {row : OverrideRow} (h : db'.overrides = db.overrides ++ [row])
    {roomId : UUID} (hroom : row.roomId = roomId) :
    db'.overridesOf roomId = db.overridesOf roomId ++ [row] := by
  rw [overridesOf_append h]
  simp [hroom]

theorem overridesOf_append_other {row : OverrideRow} (h : db'.overrides = db.overrides ++ [row])
    {roomId : UUID} (hroom : row.roomId ≠ roomId) :
    db'.overridesOf roomId = db.overridesOf roomId := by
  rw [overridesOf_append h]
  simp [hroom]

def appended {ρ : Type} (before after : List ρ) : List ρ := after.drop before.length

@[simp] theorem appended_append {ρ : Type} (before new : List ρ) :
    appended before (before ++ new) = new := by
  simp [appended]

end ClockOrchestrator
