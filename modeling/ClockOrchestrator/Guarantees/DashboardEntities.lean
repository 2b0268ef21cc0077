import ClockOrchestrator.Dashboard.Generator
import ClockOrchestrator.Guarantees.DiscoveryIdentity
import ClockOrchestrator.Support.RankedGroups

namespace ClockOrchestrator

open Python SuffixCode

section Names

def entityNames : JsonValue.Alg (List String × List String) where
  scalar _ := ([], [])
  str text := ([text], [])
  array parts := (parts.flatMap (·.1), parts.flatMap (·.2))
  object entries := ([], entries.flatMap fun entry =>
    (if entry.1 = "entity" ∨ entry.1 = "entities" then entry.2.1 else []) ++ entry.2.2)

def directNames (value : JsonValue) : List String := (value.fold entityNames).1

def namedEntities (value : JsonValue) : List String := (value.fold entityNames).2

@[simp] theorem directNames_str (text : String) : directNames (.str text) = [text] := rfl

@[simp] theorem namedEntities_str (text : String) : namedEntities (.str text) = [] := rfl

@[simp] theorem directNames_array (items : List JsonValue) :
    directNames (.array items) = items.flatMap directNames := by
  rw [directNames, JsonValue.fold_array]
  exact List.flatMap_map ..

@[simp] theorem namedEntities_array (items : List JsonValue) :
    namedEntities (.array items) = items.flatMap namedEntities := by
  rw [namedEntities, JsonValue.fold_array]
  exact List.flatMap_map ..

@[simp] theorem namedEntities_object (entries : List (String × JsonValue)) :
    namedEntities (.object entries) = entries.flatMap fun entry =>
      (if entry.1 = "entity" ∨ entry.1 = "entities" then directNames entry.2 else []) ++
        namedEntities entry.2 := by
  rw [namedEntities, JsonValue.fold_object]
  exact List.flatMap_map ..

theorem namedEntities_titled (title : String) (views : List JsonValue) :
    namedEntities (.object [("title", .str title), ("views", .array views)]) =
      views.flatMap namedEntities := by
  simp

@[simp] theorem namedEntities_sectionsView (title : String) (cards : List JsonValue) :
    namedEntities (sectionsView title cards) = cards.flatMap namedEntities := by
  simp [sectionsView]

@[simp] theorem namedEntities_headingCard (heading : String) :
    namedEntities (headingCard heading) = [] := by
  simp [headingCard]

@[simp] theorem namedEntities_tileCard (entity : String) (settings : List (String × JsonValue)) :
    namedEntities (tileCard entity settings) =
      entity :: settings.flatMap fun entry =>
        (if entry.1 = "entity" ∨ entry.1 = "entities" then directNames entry.2 else []) ++
          namedEntities entry.2 := by
  simp [tileCard]

@[simp] theorem namedEntities_conditionalCard (entity stateNot : String) (card : JsonValue) :
    namedEntities (conditionalCard entity stateNot card) = entity :: namedEntities card := by
  simp [conditionalCard]

@[simp] theorem namedEntities_entitiesCard (title : Option String) (entities : List String) :
    namedEntities (entitiesCard title entities) = entities := by
  cases title <;> simp [entitiesCard, textArray, List.flatMap_map]

@[simp] theorem namedEntities_roomCard (roomKey : String) :
    namedEntities (roomCard roomKey) = markedNames ("room_" ++ roomKey) roomCardMarks := by
  simp [roomCard]

@[simp] theorem namedEntities_roomControlCard (roomKey : String) :
    namedEntities (roomControlCard roomKey) =
      markedNames ("room_" ++ roomKey) roomControlCardMarks := by
  simp [roomControlCard]

theorem namedEntities_manualOverridesView (roomKeys : List String) :
    namedEntities (manualOverridesView roomKeys) = "sensor.hotel_active_manual_overrides" ::
      roomKeys.flatMap fun roomKey => ("select." ++ ("room_" ++ roomKey) ++ "_control_mode") ::
        markedNames ("room_" ++ roomKey) roomControlCardMarks := by
  simp [manualOverridesView, List.flatMap_map]

theorem namedEntities_entranceView (entrance : Entrance) (roomKeys : List String) :
    namedEntities (entranceView entrance roomKeys) =
      markedNames ("entrance_" ++ hyphensToUnderscores entrance.key) entranceCardMarks ++
        roomKeys.flatMap fun roomKey => markedNames ("room_" ++ roomKey) roomCardMarks := by
  simp [entranceView, List.flatMap_map]

end Names

section Discovery

def objectId (config : DiscoveryConfig) : Option String :=
  match config.2.find? (·.1 = "object_id") with
  | some (_, .str id) => some id
  | _ => none

def entityId (config : DiscoveryConfig) : Option String :=
  (objectId config).map fun id => componentOf config.1 ++ "." ++ id

def Entity.name (entity : Entity) : String := entity.component ++ "." ++ entity.objectId

theorem markedEntities_names (start : String) (marks : List (String × String)) (key : String) :
    (markedEntities start marks key).map Entity.name = markedNames (start ++ key) marks := by
  rw [markedEntities, List.map_map]
  rfl

theorem componentOf_discoveryTopic {component : String} (h : '/' ∉ component.toList)
    (objectId : String) : componentOf (discoveryTopic component objectId) = component := by
  have hplain : ∀ c ∈ component.toList, decide (c ≠ '/') = true := by
    intro c hc
    simp only [decide_eq_true_eq]
    rintro rfl
    exact h hc
  have hstart : (("homeassistant/".toList ++ (component.toList ++ '/' :: objectId.toList) ++
      "/config".toList).dropWhile (· ≠ '/')).drop 1 =
        component.toList ++ '/' :: (objectId.toList ++ "/config".toList) := by
    simp
  rw [componentOf, discoveryTopic_toList, hstart, List.takeWhile_append_of_pos hplain]
  simp

def defined (config : DiscoveryConfig) : String × Option String := (config.1, objectId config)

def Entity.defined (entity : Entity) : String × Option String :=
  (discoveryTopic entity.component entity.objectId, some entity.objectId)

theorem discovery_defined (registry : RoomRegistry) (topics : MqttTopics) :
    (discoveryConfigs registry topics).map defined =
      (discoveryEntities registry).map Entity.defined := by
  have hsystem : (systemDiscoveryConfigs topics).map defined = systemEntities.map Entity.defined :=
    rfl
  have hentrances : (entranceDiscoveryConfigs registry.entrances topics).map defined =
      ((entranceKeys registry).flatMap (markedEntities "entrance_" entranceMarks)).map
        Entity.defined := by
    rw [entranceDiscoveryConfigs, entranceKeys, List.flatMap_map, List.map_flatMap,
      List.map_flatMap]
    exact List.flatMap_congr fun entrance _ => rfl
  have hrooms : (registry.rooms.flatMap (roomDiscoveryConfigs · topics)).map defined =
      ((registry.rooms.map (·.key)).flatMap (markedEntities "room_" roomMarks)).map
        Entity.defined := by
    rw [List.flatMap_map, List.map_flatMap, List.map_flatMap]
    exact List.flatMap_congr fun room _ => rfl
  rw [discoveryConfigs, discoveryEntities, List.map_append, List.map_append, List.map_append,
    List.map_append, hsystem, hentrances, hrooms]

theorem discovery_entityIds (registry : RoomRegistry) (topics : MqttTopics) :
    (discoveryConfigs registry topics).map entityId =
      (discoveryEntities registry).map fun entity => some entity.name := by
  have hread : (discoveryConfigs registry topics).map entityId =
      ((discoveryConfigs registry topics).map defined).map fun config =>
        config.2.map fun id => componentOf config.1 ++ "." ++ id := by
    rw [List.map_map]
    rfl
  rw [hread, discovery_defined, List.map_map]
  refine List.map_congr_left fun entity hentity => ?_
  rw [Function.comp_apply, Entity.defined, Option.map_some,
    componentOf_discoveryTopic (discoveryEntities_component hentity), Entity.name]

theorem discoveryEntities_plain {registry : RoomRegistry} {entity : Entity}
    (h : entity ∈ discoveryEntities registry) : '.' ∉ entity.component.toList := by
  have hmarked : ∀ {start marks} {keys : List String},
      (∀ mark ∈ marks, '.' ∉ mark.1.toList) →
      entity ∈ keys.flatMap (markedEntities start marks) → '.' ∉ entity.component.toList := by
    intro start marks keys hmarks hentity
    obtain ⟨key, -, hkey⟩ := List.mem_flatMap.mp hentity
    obtain ⟨mark, hmark, rfl⟩ := List.mem_map.mp hkey
    exact hmarks mark hmark
  have hsystem : ∀ entity ∈ systemEntities, '.' ∉ entity.component.toList := by decide +kernel
  rw [discoveryEntities, List.mem_append, List.mem_append] at h
  rcases h with (h | h) | h
  · exact hsystem entity h
  · exact hmarked (by decide +kernel) h
  · exact hmarked (by decide +kernel) h

theorem Entity.name_inj {a b : Entity} (ha : '.' ∉ a.component.toList)
    (hb : '.' ∉ b.component.toList) (h : a.name = b.name) : a.objectId = b.objectId := by
  have hdot : ".".toList = ['.'] := rfl
  have htext := congrArg String.toList h
  simp only [Entity.name, String.toList_append, hdot, List.append_assoc,
    List.singleton_append] at htext
  have hplain : ∀ {component : String}, '.' ∉ component.toList →
      ∀ c ∈ component.toList, ¬ c = '.' := fun hnot c hc heq => hnot (heq ▸ hc)
  obtain ⟨-, hobjects⟩ :=
    PrefixCode.split_at_mark (hplain ha) (hplain hb) (by simp) (by simp) htext
  exact String.toList_injective (List.cons.inj hobjects).2

theorem entityIds_nodup {registry : RoomRegistry} {topics : MqttTopics}
    (h : (entranceKeys registry).Nodup) :
    ((discoveryConfigs registry topics).map entityId).Nodup := by
  have hobjects := (discoveryEntities_nodup h).1
  rw [List.Nodup, List.pairwise_map] at hobjects
  rw [discovery_entityIds, List.Nodup, List.pairwise_map]
  refine hobjects.imp_of_mem fun ha hb hne hname => hne ?_
  exact Entity.name_inj (discoveryEntities_plain ha) (discoveryEntities_plain hb)
    (Option.some.inj hname)

end Discovery

section Views

variable {registry : RoomRegistry} {entrance : Entrance} {room : Room} {name : String}

theorem entranceRooms_eq (h : entrance ∈ registry.entrances) :
    entranceRooms registry entrance =
      (RankedGroups.group (·.entranceKey) entrance.key registry.rooms).insertionSort
        fun a b => a.key ≤ b.key := by
  rw [entranceRooms, RoomRegistry.roomsByEntrance, List.find?_map]
  cases hfound : registry.entrances.find? fun other => other.key = entrance.key with
  | none => simpa using List.find?_eq_none.mp hfound entrance h
  | some other =>
      have hkey : other.key = entrance.key := by simpa using List.find?_some hfound
      simp only [Function.comp_def, hfound]
      rw [← hkey]
      rfl

theorem mem_entranceRooms (h : entrance ∈ registry.entrances) :
    room ∈ entranceRooms registry entrance ↔
      room ∈ registry.rooms ∧ room.entranceKey = entrance.key := by
  rw [entranceRooms_eq h, List.mem_insertionSort, RankedGroups.mem_group]

theorem entranceRooms_perm (registry : RoomRegistry) :
    (registry.entrances.flatMap (entranceRooms registry)).Perm registry.rooms := by
  have hsorted : (registry.entrances.flatMap (entranceRooms registry)).Perm
      (registry.entrances.flatMap fun entrance =>
        RankedGroups.group (·.entranceKey) entrance.key registry.rooms) := by
    refine List.Perm.flatMap_left _ fun entrance hentrance => ?_
    rw [entranceRooms_eq hentrance]
    exact List.perm_insertionSort ..
  have hgroups :=
    RankedGroups.flatMap_group_perm registry.uniqueEntranceKeys registry.knownEntrances
  rw [List.flatMap_map] at hgroups
  exact hsorted.trans hgroups

def receptionNames : List String :=
  [overviewView, arrivalsView, departuresView, alertsView, integrationView].flatMap namedEntities

theorem mem_views : name ∈ namedEntities (generateDashboard registry) ↔
    name ∈ receptionNames ∨
    name ∈ namedEntities (manualOverridesView ((sortedRooms registry).map (·.key))) ∨
    ∃ entrance ∈ registry.entrances, name ∈ namedEntities
      (entranceView entrance ((entranceRooms registry entrance).map (·.key))) := by
  have hentrances : name ∈ (registry.entrances.map fun entrance => entranceView entrance
      ((entranceRooms registry entrance).map (·.key))).flatMap namedEntities ↔
      ∃ entrance ∈ registry.entrances, name ∈ namedEntities
        (entranceView entrance ((entranceRooms registry entrance).map (·.key))) := by
    rw [List.flatMap_map, List.mem_flatMap]
  have hmanual := ((@List.perm_middle _ (manualOverridesView ((sortedRooms registry).map (·.key)))
    [overviewView, arrivalsView, departuresView] [alertsView, integrationView]).flatMap_right
      namedEntities).mem_iff (a := name)
  rw [List.flatMap_cons, List.mem_append] at hmanual
  rw [generateDashboard, namedEntities_titled, List.flatMap_append, List.mem_append, hentrances,
    ← or_assoc, or_comm (a := name ∈ receptionNames)]
  exact or_congr_left hmanual

theorem mem_receptionNames :
    name ∈ receptionNames ↔ name ∈ systemEntities.map Entity.name := by
  have hsub : ∀ name ∈ receptionNames, name ∈ systemEntities.map Entity.name := by decide +kernel
  have hsup : ∀ name ∈ systemEntities.map Entity.name, name ∈ receptionNames := by decide +kernel
  exact ⟨hsub name, hsup name⟩

theorem roomControlCardMarks_subset : roomControlCardMarks ⊆ roomCardMarks := by decide +kernel

theorem markedNames_subset {base : String} {marks marks' : List (String × String)}
    (h : marks ⊆ marks') : markedNames base marks ⊆ markedNames base marks' :=
  List.map_subset _ h

theorem mem_manualOverridesView {roomKeys : List String}
    (h : name ∈ namedEntities (manualOverridesView roomKeys)) :
    name ∈ receptionNames ∨
      ∃ roomKey ∈ roomKeys, name ∈ markedNames ("room_" ++ roomKey) roomCardMarks := by
  rw [namedEntities_manualOverridesView, List.mem_cons, List.mem_flatMap] at h
  rcases h with rfl | ⟨roomKey, hkey, hname⟩
  · exact .inl (by decide +kernel)
  · refine .inr ⟨roomKey, hkey, ?_⟩
    rcases List.mem_cons.mp hname with rfl | hname
    · refine List.mem_map.mpr ⟨("select", "control_mode"), by decide, ?_⟩
      have hselect : "select." = "select" ++ "." := rfl
      have hsuffix : "_control_mode" = "_" ++ "control_mode" := rfl
      rw [hselect, hsuffix]
      simp only [String.append_assoc]
    · exact markedNames_subset roomControlCardMarks_subset hname

theorem mem_namedEntities_generateDashboard :
    name ∈ namedEntities (generateDashboard registry) ↔
      name ∈ systemEntities.map Entity.name ∨
      (∃ entrance ∈ registry.entrances, name ∈
        markedNames ("entrance_" ++ hyphensToUnderscores entrance.key) entranceCardMarks) ∨
      ∃ room ∈ registry.rooms, name ∈ markedNames ("room_" ++ room.key) roomCardMarks := by
  rw [mem_views, ← mem_receptionNames]
  constructor
  · rintro (hname | hname | ⟨entrance, hin, hname⟩)
    · exact .inl hname
    · rcases mem_manualOverridesView hname with hname | ⟨roomKey, hkey, hname⟩
      · exact .inl hname
      · obtain ⟨room, hroom, rfl⟩ := List.mem_map.mp hkey
        exact .inr (.inr ⟨room, (List.mem_insertionSort _).mp hroom, hname⟩)
    · rw [namedEntities_entranceView, List.mem_append, List.mem_flatMap] at hname
      rcases hname with hname | ⟨roomKey, hkey, hname⟩
      · exact .inr (.inl ⟨entrance, hin, hname⟩)
      · obtain ⟨room, hroom, rfl⟩ := List.mem_map.mp hkey
        exact .inr (.inr ⟨room, ((mem_entranceRooms hin).mp hroom).1, hname⟩)
  · rintro (hname | ⟨entrance, hin, hname⟩ | ⟨room, hroom, hname⟩)
    · exact .inl hname
    · refine .inr (.inr ⟨entrance, hin, ?_⟩)
      rw [namedEntities_entranceView, List.mem_append]
      exact .inl hname
    · obtain ⟨entrance, hin, hkey⟩ := List.mem_map.mp (registry.knownEntrances room hroom)
      refine .inr (.inr ⟨entrance, hin, ?_⟩)
      rw [namedEntities_entranceView, List.mem_append, List.mem_flatMap]
      exact .inr ⟨room.key, List.mem_map_of_mem ((mem_entranceRooms hin).mpr ⟨hroom, hkey.symm⟩),
        hname⟩

end Views

section Coverage

variable {registry : RoomRegistry} {name : String}

def unshownMarks : List (String × String) :=
  [("sensor", "last_intent_result"), ("binary_sensor", "reservation_active")]

def unshownNames (registry : RoomRegistry) : List String :=
  registry.rooms.flatMap fun room => markedNames ("room_" ++ room.key) unshownMarks

theorem mem_discoveryNames : name ∈ (discoveryEntities registry).map Entity.name ↔
    name ∈ systemEntities.map Entity.name ∨
    (∃ entrance ∈ registry.entrances, name ∈
      markedNames ("entrance_" ++ hyphensToUnderscores entrance.key) entranceMarks) ∨
    ∃ room ∈ registry.rooms, name ∈ markedNames ("room_" ++ room.key) roomMarks := by
  rw [discoveryEntities, List.map_append, List.map_append, List.mem_append, List.mem_append,
    List.map_flatMap, List.map_flatMap, entranceKeys, List.flatMap_map, List.flatMap_map,
    List.mem_flatMap, List.mem_flatMap, or_assoc]
  simp only [markedEntities_names]

theorem entranceMarks_eq {base : String} :
    name ∈ markedNames base entranceMarks ↔ name ∈ markedNames base entranceCardMarks :=
  ⟨fun h => markedNames_subset (by decide +kernel) h,
    fun h => markedNames_subset (by decide +kernel) h⟩

theorem mem_roomMarks {base : String} : name ∈ markedNames base roomMarks ↔
    name ∈ markedNames base roomCardMarks ∨ name ∈ markedNames base unshownMarks := by
  have happend : markedNames base roomCardMarks ++ markedNames base unshownMarks =
      markedNames base (roomCardMarks ++ unshownMarks) := List.map_append.symm
  rw [← List.mem_append, happend]
  exact ⟨fun h => markedNames_subset (by decide +kernel) h,
    fun h => markedNames_subset (by decide +kernel) h⟩

theorem mem_discoveryNames_iff : name ∈ (discoveryEntities registry).map Entity.name ↔
    name ∈ namedEntities (generateDashboard registry) ∨ name ∈ unshownNames registry := by
  rw [mem_discoveryNames, mem_namedEntities_generateDashboard, unshownNames, List.mem_flatMap]
  simp only [entranceMarks_eq, mem_roomMarks, and_or_left, exists_or]
  rw [or_assoc, or_assoc]

def markEnd (mark : String × String) : List Char := ("_" ++ mark.2).toList

theorem markEnd_suffix {base : String} {marks : List (String × String)}
    (h : name ∈ markedNames base marks) : ∃ mark ∈ marks, markEnd mark <:+ name.toList := by
  obtain ⟨mark, hmark, rfl⟩ := List.mem_map.mp h
  refine ⟨mark, hmark, ?_⟩
  simp only [markEnd, String.toList_append]
  exact ⟨mark.1.toList ++ ".".toList ++ base.toList, by simp⟩

theorem notMem_unshownNames
    (h : ∀ mark ∈ unshownMarks, ¬ markEnd mark <:+ name.toList) : name ∉ unshownNames registry := by
  intro hname
  obtain ⟨room, -, hmarked⟩ := List.mem_flatMap.mp hname
  obtain ⟨mark, hmark, hends⟩ := markEnd_suffix hmarked
  exact h mark hmark hends

theorem marked_notMem_unshownNames {base : String} {marks : List (String × String)}
    (hapart : ∀ mark ∈ marks, ∀ other ∈ unshownMarks,
      ¬ markEnd mark <:+ markEnd other ∧ ¬ markEnd other <:+ markEnd mark)
    (h : name ∈ markedNames base marks) : name ∉ unshownNames registry := by
  obtain ⟨mark, hmark, hends⟩ := markEnd_suffix h
  refine notMem_unshownNames fun other hother hends' => ?_
  obtain ⟨hleft, hright⟩ := hapart mark hmark other hother
  exact (List.suffix_or_suffix_of_suffix hends hends').elim hleft hright

theorem shown_notMem_unshownNames (h : name ∈ namedEntities (generateDashboard registry)) :
    name ∉ unshownNames registry := by
  rw [mem_namedEntities_generateDashboard] at h
  rcases h with h | ⟨entrance, -, h⟩ | ⟨room, -, h⟩
  · have hsystem : ∀ name ∈ systemEntities.map Entity.name, ∀ mark ∈ unshownMarks,
        ¬ markEnd mark <:+ name.toList := by decide +kernel
    exact notMem_unshownNames (hsystem name h)
  · exact marked_notMem_unshownNames (by decide +kernel) h
  · exact marked_notMem_unshownNames (by decide +kernel) h

end Coverage

structure ShowsDiscovery (registry : RoomRegistry) (topics : MqttTopics) (dashboard : JsonValue) :
    Prop where
  defined : ∀ name ∈ namedEntities dashboard,
    ∃ config ∈ discoveryConfigs registry topics, entityId config = some name
  shown : ∀ config ∈ discoveryConfigs registry topics, ∀ name, entityId config = some name →
    (name ∈ namedEntities dashboard ↔ name ∉ unshownNames registry)
  distinct : (entranceKeys registry).Nodup →
    ((discoveryConfigs registry topics).map entityId).Nodup
  rooms : (registry.entrances.flatMap (entranceRooms registry)).Perm registry.rooms

theorem dashboard_shows_discovery (registry : RoomRegistry) (topics : MqttTopics) :
    ShowsDiscovery registry topics (generateDashboard registry) := by
  have hnames : ∀ name, name ∈ (discoveryEntities registry).map Entity.name ↔
      ∃ config ∈ discoveryConfigs registry topics, entityId config = some name := by
    intro name
    rw [← List.mem_map, discovery_entityIds, List.mem_map, List.mem_map]
    simp only [Option.some.injEq]
  constructor
  · intro name hname
    exact (hnames name).mp (mem_discoveryNames_iff.mpr (.inl hname))
  · intro config hconfig name hname
    have hdefined := mem_discoveryNames_iff.mp ((hnames name).mpr ⟨config, hconfig, hname⟩)
    exact ⟨shown_notMem_unshownNames, hdefined.resolve_right⟩
  · exact entityIds_nodup
  · exact entranceRooms_perm registry

end ClockOrchestrator
