import ClockOrchestrator.Mqtt.Discovery
import ClockOrchestrator.Support.SuffixCode
import ClockOrchestrator.Runtime

namespace ClockOrchestrator

open Python SuffixCode

structure DistinctIdentities (configs : List DiscoveryConfig) : Prop where
  topics : (configs.map (·.1)).Nodup
  uniqueIds : configs.Pairwise fun a b => componentOf a.1 = componentOf b.1 →
    uniqueId a ≠ uniqueId b

structure Entity where
  component : String
  objectId : String
  uniqueId : String
  deriving DecidableEq

def Entity.identity (entity : Entity) : String × Option String :=
  (discoveryTopic entity.component entity.objectId, some entity.uniqueId)

def identity (config : DiscoveryConfig) : String × Option String := (config.1, uniqueId config)

def clockEntity (component objectId : String) : Entity :=
  ⟨component, objectId, "clock_" ++ objectId⟩

def roomMarks : List (String × String) :=
  [("sensor", "pms_status"), ("sensor", "automation_phase"), ("sensor", "arrival"),
    ("sensor", "departure"), ("sensor", "desired_hvac_mode"), ("sensor", "desired_temperature"),
    ("sensor", "desired_water_heater"), ("sensor", "reported_hvac_mode"),
    ("sensor", "reported_temperature"), ("sensor", "reported_faults"), ("sensor", "reported_at"),
    ("sensor", "last_intent_result"), ("binary_sensor", "reservation_active"),
    ("binary_sensor", "needs_attention"), ("binary_sensor", "reported_online"),
    ("select", "control_mode"), ("select", "manual_hvac_mode"), ("number", "manual_temperature"),
    ("select", "override_duration"), ("switch", "manual_water_heater"),
    ("button", "return_to_automatic")]

def entranceMarks : List (String × String) :=
  (entranceSensors.map fun sensor => ("sensor", sensor.1)) ++
    entranceBinarySensors.map fun sensor => ("binary_sensor", sensor.1)

def markedEntities (start : String) (marks : List (String × String)) (key : String) : List Entity :=
  marks.map fun mark => clockEntity mark.1 (start ++ key ++ "_" ++ mark.2)

def systemEntities : List Entity :=
  (["clock_ha_orchestrator_online", "clock_runtime_ready", "clock_mqtt_connected",
    "clock_policy_scheduler_enabled", "clock_outbox_worker_enabled"].map fun objectId =>
      ⟨"binary_sensor", objectId, objectId⟩) ++
    systemSensors.map fun sensor => clockEntity "sensor" sensor.1

theorem room_identities (room : Room) (topics : MqttTopics) :
    (roomDiscoveryConfigs room topics).map identity =
      (markedEntities "room_" roomMarks room.key).map Entity.identity := rfl

theorem entrance_identities (entrance : Entrance) (topics : MqttTopics) :
    (entranceConfigs topics entrance).map identity =
      (markedEntities "entrance_" entranceMarks (hyphensToUnderscores entrance.key)).map
        Entity.identity := rfl

theorem system_identities (topics : MqttTopics) :
    (systemDiscoveryConfigs topics).map identity = systemEntities.map Entity.identity := rfl

def entranceKeys (registry : RoomRegistry) : List String :=
  registry.entrances.map fun entrance => hyphensToUnderscores entrance.key

def discoveryEntities (registry : RoomRegistry) : List Entity :=
  systemEntities ++ (entranceKeys registry).flatMap (markedEntities "entrance_" entranceMarks) ++
    (registry.rooms.map (·.key)).flatMap (markedEntities "room_" roomMarks)

theorem discovery_identities (registry : RoomRegistry) (topics : MqttTopics) :
    (discoveryConfigs registry topics).map identity =
      (discoveryEntities registry).map Entity.identity := by
  have hflat : ∀ {α β : Type} (items : List α) (configs : α → List DiscoveryConfig)
      (key : α → β) (entities : β → List Entity),
      (∀ item, (configs item).map identity = (entities (key item)).map Entity.identity) →
      (items.flatMap configs).map identity =
        ((items.map key).flatMap entities).map Entity.identity := by
    intro α β items configs key entities h
    rw [List.map_flatMap, List.map_flatMap, List.flatMap_map]
    exact congrArg (items.flatMap ·) (funext h)
  unfold discoveryConfigs discoveryEntities entranceDiscoveryConfigs entranceKeys
  rw [List.map_append, List.map_append, List.map_append, List.map_append, system_identities,
    hflat _ _ _ _ fun entrance => entrance_identities entrance topics,
    hflat _ _ _ _ fun room => room_identities room topics]

theorem nodup_marked_iff (start : String) {marks : List (String × String)}
    (hfree : SuffixFree (marks.map fun mark => ("_" ++ mark.2).toList)) (hne : marks ≠ [])
    {keys : List String} :
    ((keys.flatMap (markedEntities start marks)).map (·.objectId)).Nodup ↔ keys.Nodup := by
  have htexts : ((keys.flatMap (markedEntities start marks)).map (·.objectId)).map String.toList =
      (keys.map fun key => (start ++ key).toList).flatMap fun key =>
        (marks.map fun mark => ("_" ++ mark.2).toList).map (key ++ ·) := by
    rw [List.map_map, List.map_flatMap, List.flatMap_map]
    refine congrArg (keys.flatMap ·) (funext fun key => ?_)
    simp [markedEntities, clockEntity, String.toList_append]
  have hinjective : Function.Injective String.toList := fun _ _ h => String.toList_injective h
  have hkeys : Function.Injective fun key => (start ++ key).toList := by
    intro key key' h
    simp only [String.toList_append] at h
    exact hinjective (List.append_cancel_left h)
  rw [← List.nodup_map_iff hinjective, htexts, hfree.nodup_flatMap_iff (by simpa using hne),
    List.nodup_map_iff hkeys]

theorem roomMarks_suffixFree : SuffixFree (roomMarks.map fun mark => ("_" ++ mark.2).toList) := by
  decide +kernel

theorem entranceMarks_suffixFree :
    SuffixFree (entranceMarks.map fun mark => ("_" ++ mark.2).toList) := by
  decide +kernel

theorem discoveryTopic_toList (component objectId : String) :
    (discoveryTopic component objectId).toList =
      "homeassistant/".toList ++ (component.toList ++ '/' :: objectId.toList) ++
        "/config".toList := by
  have hslash : "/".toList = ['/'] := rfl
  unfold discoveryTopic
  rw [String.toList_append, String.toList_append, String.toList_append, String.toList_append,
    hslash, List.append_assoc _ ['/'], List.singleton_append,
    List.append_assoc "homeassistant/".toList]

theorem discoveryTopic_inj {component component' objectId objectId' : String}
    (hc : '/' ∉ component.toList) (hc' : '/' ∉ component'.toList)
    (h : discoveryTopic component objectId = discoveryTopic component' objectId') :
    component = component' ∧ objectId = objectId' := by
  have htext := congrArg String.toList h
  rw [discoveryTopic_toList, discoveryTopic_toList, List.append_cancel_right_eq,
    List.append_cancel_left_eq] at htext
  have hplain : ∀ c ∈ component.toList, ¬ c = '/' := fun c hin heq => hc (heq ▸ hin)
  have hplain' : ∀ c ∈ component'.toList, ¬ c = '/' := fun c hin heq => hc' (heq ▸ hin)
  obtain ⟨hcomponent, hobject⟩ :=
    PrefixCode.split_at_mark hplain hplain' (by simp) (by simp) htext
  exact ⟨String.toList_injective hcomponent, String.toList_injective (List.cons.inj hobject).2⟩

structure IdsOf (clock : String) (ids : List String) (start : String) : Prop where
  nodup : ids.Nodup
  begins : ∀ id ∈ ids, (clock ++ start).toList <+: id.toList

theorem markedEntities_objectIds (start : String) {marks : List (String × String)}
    (hfree : SuffixFree (marks.map fun mark => ("_" ++ mark.2).toList)) (hne : marks ≠ [])
    {keys : List String} (hkeys : keys.Nodup) :
    IdsOf "" ((keys.flatMap (markedEntities start marks)).map (·.objectId)) start := by
  refine ⟨(nodup_marked_iff start hfree hne).mpr hkeys, fun id hid => ?_⟩
  obtain ⟨entity, hentity, rfl⟩ := List.mem_map.mp hid
  obtain ⟨key, -, hmarked⟩ := List.mem_flatMap.mp hentity
  obtain ⟨mark, -, rfl⟩ := List.mem_map.mp hmarked
  simp [clockEntity, String.toList_append]

theorem IdsOf.uniqueIds {start : String} {marks : List (String × String)} {keys : List String}
    (h : IdsOf "" ((keys.flatMap (markedEntities start marks)).map (·.objectId)) start) :
    IdsOf "clock_" ((keys.flatMap (markedEntities start marks)).map (·.uniqueId)) start := by
  have hids : (keys.flatMap (markedEntities start marks)).map (·.uniqueId) =
      ((keys.flatMap (markedEntities start marks)).map (·.objectId)).map ("clock_" ++ ·) := by
    rw [List.map_map, List.map_flatMap, List.map_flatMap]
    refine congrArg (keys.flatMap ·) (funext fun key => ?_)
    simp [markedEntities, clockEntity]
  have hclock : Function.Injective ("clock_" ++ ·) := by
    intro a b hab
    have hlist := congrArg String.toList hab
    simp only [String.toList_append] at hlist
    exact String.toList_injective (List.append_cancel_left hlist)
  rw [hids]
  refine ⟨h.nodup.map hclock, fun id hid => ?_⟩
  obtain ⟨objectId, hobject, rfl⟩ := List.mem_map.mp hid
  have hstart := h.begins objectId hobject
  rw [String.toList_append, String.toList_append]
  exact (List.prefix_append_right_inj _).mpr (by simpa using hstart)

theorem IdsOf.nodup_append {clock start start' : String} {ids ids' others : List String}
    (h : IdsOf clock ids start) (h' : IdsOf clock ids' start') (hothers : others.Nodup)
    (hfree : ∀ id ∈ others, ¬ (clock ++ start).toList <+: id.toList ∧
      ¬ (clock ++ start').toList <+: id.toList)
    (hstart : ¬ (clock ++ start).toList <+: (clock ++ start').toList ∧
      ¬ (clock ++ start').toList <+: (clock ++ start).toList) :
    (others ++ ids ++ ids').Nodup := by
  rw [List.nodup_append, List.nodup_append]
  refine ⟨⟨hothers, h.nodup, ?_⟩, h'.nodup, ?_⟩
  · rintro id hother _ hid rfl
    exact (hfree id hother).1 (h.begins id hid)
  · rintro id hin _ hid' rfl
    have hbegins' := h'.begins id hid'
    rcases List.mem_append.mp hin with hother | hid
    · exact (hfree id hother).2 hbegins'
    · rcases List.prefix_or_prefix_of_prefix (h.begins id hid) hbegins' with hpre | hpre
      · exact hstart.1 hpre
      · exact hstart.2 hpre

theorem discoveryEntities_nodup {registry : RoomRegistry} (h : (entranceKeys registry).Nodup) :
    ((discoveryEntities registry).map (·.objectId)).Nodup ∧
      ((discoveryEntities registry).map (·.uniqueId)).Nodup := by
  have hentrances := markedEntities_objectIds "entrance_" entranceMarks_suffixFree (by decide) h
  have hrooms := markedEntities_objectIds "room_" roomMarks_suffixFree (by decide)
    registry.uniqueRoomKeys
  unfold discoveryEntities
  rw [List.map_append, List.map_append, List.map_append, List.map_append]
  constructor
  · exact hentrances.nodup_append hrooms (by decide +kernel) (by decide +kernel) (by decide +kernel)
  · exact hentrances.uniqueIds.nodup_append hrooms.uniqueIds (by decide +kernel)
      (by decide +kernel) (by decide +kernel)

theorem discoveryEntities_component {registry : RoomRegistry} {entity : Entity}
    (h : entity ∈ discoveryEntities registry) : '/' ∉ entity.component.toList := by
  have hmarked : ∀ {start marks} {keys : List String},
      (∀ mark ∈ marks, '/' ∉ mark.1.toList) →
      entity ∈ keys.flatMap (markedEntities start marks) → '/' ∉ entity.component.toList := by
    intro start marks keys hmarks hentity
    obtain ⟨key, -, hkey⟩ := List.mem_flatMap.mp hentity
    obtain ⟨mark, hmark, rfl⟩ := List.mem_map.mp hkey
    exact hmarks mark hmark
  have hsystem : ∀ entity ∈ systemEntities, '/' ∉ entity.component.toList := by decide +kernel
  unfold discoveryEntities at h
  rw [List.mem_append, List.mem_append] at h
  rcases h with (h | h) | h
  · exact hsystem entity h
  · exact hmarked (by decide +kernel) h
  · exact hmarked (by decide +kernel) h

theorem discovery_topics (registry : RoomRegistry) (topics : MqttTopics) :
    (discoveryConfigs registry topics).map (·.1) =
      (discoveryEntities registry).map (·.identity.1) := by
  have h := congrArg (List.map (·.1)) (discovery_identities registry topics)
  rwa [List.map_map, List.map_map] at h

theorem entranceKeys_nodup {registry : RoomRegistry} {topics : MqttTopics}
    (h : ((discoveryConfigs registry topics).map (·.1)).Nodup) : (entranceKeys registry).Nodup := by
  rw [discovery_topics] at h
  unfold discoveryEntities at h
  rw [List.map_append, List.map_append] at h
  have hentrances := h.of_append_left.of_append_right
  rw [List.map_flatMap] at hentrances
  refine nodup_of_flatMap (fun key => ?_) hentrances
  rw [markedEntities, List.map_map, ne_eq, List.map_eq_nil_iff]
  decide

theorem discovery_identities_distinct_iff (registry : RoomRegistry) (topics : MqttTopics) :
    DistinctIdentities (discoveryConfigs registry topics) ↔ (entranceKeys registry).Nodup := by
  constructor
  · intro h
    exact entranceKeys_nodup h.topics
  · intro h
    obtain ⟨hobjects, huniques⟩ := discoveryEntities_nodup h
    rw [List.Nodup, List.pairwise_map] at hobjects huniques
    constructor
    · rw [discovery_topics, List.Nodup, List.pairwise_map]
      refine hobjects.imp_of_mem fun ha hb hne htopic => hne ?_
      exact (discoveryTopic_inj (discoveryEntities_component ha) (discoveryEntities_component hb)
        htopic).2
    · have hpairs : ((discoveryConfigs registry topics).map identity).Pairwise
          fun a b => a.2 ≠ b.2 := by
        rw [discovery_identities, List.pairwise_map]
        exact huniques.imp fun hne heq => hne (Option.some.inj heq)
      rw [List.pairwise_map] at hpairs
      refine hpairs.imp ?_
      intro a b hne _
      exact hne

theorem no_gateway : (none : Option String).isNone = (none : Option ℕ).isNone := rfl

theorem no_gateway_port : ∀ port ∈ (none : Option ℕ), 1 ≤ port ∧ port ≤ 65535 := by simp

def entranceNamed (key name : String) : Entrance where
  key := key
  name := name
  gatewayTogether := no_gateway
  portInRange := no_gateway_port

def hyphenRegistry : RoomRegistry where
  property := demoRegistry.property
  entrances := [entranceNamed "entrance-a" "Entrance A", entranceNamed "entrance_a" "Entrance B"]
  rooms := demoRegistry.rooms
  uniqueEntranceKeys := by decide
  knownEntrances := by decide
  uniqueG301Addresses := demoRegistry.uniqueG301Addresses
  uniqueRoomKeys := demoRegistry.uniqueRoomKeys
  uniqueClockIds := demoRegistry.uniqueClockIds

theorem hyphen_and_underscore_collide :
    ¬ ∀ (registry : RoomRegistry) (topics : MqttTopics),
      DistinctIdentities (discoveryConfigs registry topics) := by
  intro h
  have hkeys := entranceKeys_nodup (h hyphenRegistry ⟨"hotel/v1"⟩).topics
  revert hkeys
  decide

end ClockOrchestrator
