import ClockOrchestrator.Mqtt.Discovery

namespace ClockOrchestrator

open Python

-- rooms_by_entrance().get(entrance.key, []), and the rooms in the order of the overview.
def RoomRegistry.roomsByEntrance (registry : RoomRegistry) : List (String × List Room) :=
  registry.entrances.map fun entrance =>
    (entrance.key, (registry.rooms.filter (·.entranceKey = entrance.key)).insertionSort
      fun a b => a.key ≤ b.key)

def entranceRooms (registry : RoomRegistry) (entrance : Entrance) : List Room :=
  ((registry.roomsByEntrance.find? (·.1 = entrance.key)).map (·.2)).getD []

def sortedRooms (registry : RoomRegistry) : List Room :=
  registry.rooms.insertionSort fun a b =>
    a.entranceKey < b.entranceKey ∨ a.entranceKey = b.entranceKey ∧ a.key ≤ b.key

def sectionsView (title : String) (cards : List JsonValue) : JsonValue :=
  .object [("title", .str title), ("type", .str "sections"),
    ("sections", .array [.object [("type", .str "grid"), ("cards", .array cards)]])]

def headingCard (heading : String) : JsonValue :=
  .object [("type", .str "heading"), ("heading", .str heading)]

def tileCard (entity : String) (settings : List (String × JsonValue)) : JsonValue :=
  .object (("type", .str "tile") :: ("entity", .str entity) :: settings)

def conditionalCard (entity stateNot : String) (card : JsonValue) : JsonValue :=
  .object [("type", .str "conditional"),
    ("conditions", .array [.object [("entity", .str entity), ("state_not", .str stateNot)]]),
    ("card", card)]

def entitiesCard (title : Option String) (entities : List String) : JsonValue :=
  .object (("type", .str "entities") ::
    (title.map fun text => ("title", JsonValue.str text)).toList ++
      [("entities", textArray entities)])

def alertTile (entity color : String) : JsonValue :=
  conditionalCard entity "0" (tileCard entity [("color", .str color)])

def overviewView : JsonValue :=
  sectionsView "Overview"
    [.object [("type", .str "heading"), ("heading", .str "Today"), ("badges", .array
        (["binary_sensor.clock_ha_orchestrator_online", "binary_sensor.clock_runtime_ready",
          "sensor.clock_orchestrator_status"].map fun entity =>
            .object [("type", .str "entity"), ("entity", .str entity)]))],
      tileCard "sensor.hotel_arrivals_today" [("name", .str "Arrivals")],
      tileCard "sensor.hotel_departures_today" [("name", .str "Departures")],
      tileCard "sensor.hotel_checked_in_rooms" [("name", .str "Checked In")],
      tileCard "sensor.hotel_expected_rooms" [("name", .str "Expected")],
      headingCard "Attention",
      alertTile "sensor.hotel_unassigned_arrivals" "amber",
      alertTile "sensor.hotel_room_conflicts" "red",
      alertTile "sensor.hotel_active_manual_overrides" "blue",
      alertTile "sensor.clock_dead_letter_outbox" "red"]

def arrivalsView : JsonValue :=
  sectionsView "Arrivals"
    [headingCard "Today",
      entitiesCard none ["sensor.hotel_arrivals_today", "sensor.hotel_unassigned_arrivals"]]

def departuresView : JsonValue :=
  sectionsView "Departures"
    [headingCard "Today", entitiesCard none ["sensor.hotel_departures_today"]]

def alertsView : JsonValue :=
  sectionsView "Alerts"
    [headingCard "Needs Attention",
      entitiesCard none ["sensor.hotel_unassigned_arrivals", "sensor.hotel_room_conflicts",
        "sensor.hotel_rooms_needing_attention", "sensor.hotel_active_manual_overrides",
        "sensor.clock_sync_lag", "sensor.clock_pending_outbox", "sensor.clock_dead_letter_outbox"]]

def integrationView : JsonValue :=
  sectionsView "Integration"
    [headingCard "Orchestrator",
      entitiesCard none ["binary_sensor.clock_ha_orchestrator_online",
        "binary_sensor.clock_runtime_ready", "binary_sensor.clock_mqtt_connected",
        "binary_sensor.clock_policy_scheduler_enabled", "binary_sensor.clock_outbox_worker_enabled",
        "sensor.clock_orchestrator_status", "sensor.clock_last_successful_sync",
        "sensor.clock_sync_lag", "sensor.clock_pending_outbox", "sensor.clock_dead_letter_outbox"]]

-- The cards of a room and of an entrance name their entities by component and suffix.
def markedNames (base : String) (marks : List (String × String)) : List String :=
  marks.map fun mark => mark.1 ++ "." ++ (base ++ "_" ++ mark.2)

def roomCardMarks : List (String × String) :=
  [("sensor", "pms_status"), ("sensor", "automation_phase"), ("sensor", "arrival"),
    ("sensor", "departure"), ("sensor", "desired_hvac_mode"), ("sensor", "desired_temperature"),
    ("sensor", "desired_water_heater"), ("sensor", "reported_hvac_mode"),
    ("sensor", "reported_temperature"), ("sensor", "reported_faults"), ("sensor", "reported_at"),
    ("binary_sensor", "reported_online"), ("select", "control_mode"),
    ("select", "manual_hvac_mode"), ("number", "manual_temperature"),
    ("select", "override_duration"), ("switch", "manual_water_heater"),
    ("button", "return_to_automatic"), ("binary_sensor", "needs_attention")]

def roomCard (roomKey : String) : JsonValue :=
  entitiesCard (some ("Room " ++ roomKey)) (markedNames ("room_" ++ roomKey) roomCardMarks)

def roomControlCardMarks : List (String × String) :=
  [("sensor", "automation_phase"), ("select", "control_mode"), ("select", "manual_hvac_mode"),
    ("number", "manual_temperature"), ("select", "override_duration"),
    ("switch", "manual_water_heater"), ("button", "return_to_automatic")]

def roomControlCard (roomKey : String) : JsonValue :=
  entitiesCard (some ("Room " ++ roomKey)) (markedNames ("room_" ++ roomKey) roomControlCardMarks)

def manualOverridesView (roomKeys : List String) : JsonValue :=
  sectionsView "Manual"
    (headingCard "Manual Overrides" :: tileCard "sensor.hotel_active_manual_overrides" [] ::
      roomKeys.map fun roomKey =>
        conditionalCard ("select." ++ ("room_" ++ roomKey) ++ "_control_mode") "automatic"
          (roomControlCard roomKey))

def entranceCardMarks : List (String × String) :=
  [("sensor", "adapter_status"), ("binary_sensor", "adapter_online"),
    ("binary_sensor", "gateway_online"), ("sensor", "last_poll"),
    ("sensor", "last_successful_poll"), ("sensor", "gateway_latency"),
    ("sensor", "consecutive_failures"), ("sensor", "online_slaves"), ("sensor", "offline_slaves"),
    ("sensor", "scan_duration"), ("sensor", "command_queue_depth"), ("sensor", "room_mismatches")]

def entranceView (entrance : Entrance) (roomKeys : List String) : JsonValue :=
  sectionsView entrance.name
    (headingCard entrance.name ::
      entitiesCard (some "Gateway and Adapter")
        (markedNames ("entrance_" ++ hyphensToUnderscores entrance.key) entranceCardMarks) ::
      roomKeys.map roomCard)

def generateDashboard (registry : RoomRegistry) : JsonValue :=
  .object [("title", .str (registry.property.name ++ " Reception")),
    ("views", .array ([overviewView, arrivalsView, departuresView,
      manualOverridesView ((sortedRooms registry).map (·.key)), alertsView, integrationView] ++
      registry.entrances.map fun entrance =>
        entranceView entrance ((entranceRooms registry entrance).map (·.key))))]

end ClockOrchestrator
