import ClockOrchestrator.Domain.Models
import ClockOrchestrator.Mqtt.Topics
import ClockOrchestrator.Python.Json

namespace ClockOrchestrator

open Python

abbrev DiscoveryPayload := List (String × JsonValue)

abbrev DiscoveryConfig := String × DiscoveryPayload

def discoveryTopic (component objectId : String) : String :=
  "homeassistant/" ++ component ++ "/" ++ objectId ++ "/config"

def valueTemplate (expression : String) : String := "\x7b\x7b " ++ expression ++ " \x7d\x7d"

def availabilityEntries (topic : String) : DiscoveryPayload :=
  [("availability_topic", .str topic), ("payload_available", .str "online"),
    ("payload_not_available", .str "offline")]

def titleChars : Bool → List Char → List Char
  | _, [] => []
  | inWord, c :: rest => (if inWord then c.toLower else c.toUpper) :: titleChars c.isAlpha rest

-- suffix.replace("_", " ").title()
def titleOf (suffix : String) : String :=
  String.ofList (titleChars false (suffix.toList.map fun c => if c = '_' then ' ' else c))

def sensorPayload (name objectId topic template : String) (device : JsonValue)
    (availability : DiscoveryPayload) : DiscoveryPayload :=
  [("name", .str name), ("object_id", .str objectId), ("unique_id", .str ("clock_" ++ objectId)),
    ("state_topic", .str topic), ("value_template", .str template), ("device", device)] ++
    availability

def binarySensorPayload (objectId suffix topic template : String) (device : JsonValue)
    (availability : DiscoveryPayload) : DiscoveryPayload :=
  [("name", .str (titleOf suffix)), ("object_id", .str objectId),
    ("unique_id", .str ("clock_" ++ objectId)), ("state_topic", .str topic),
    ("value_template", .str template), ("payload_on", .str "True"), ("payload_off", .str "False"),
    ("device", device)] ++ availability

def controlPayload (name objectId : String) (state : DiscoveryPayload) (commandTopic : String)
    (settings : DiscoveryPayload) (device : JsonValue) (availability : DiscoveryPayload) :
    DiscoveryPayload :=
  [("name", .str name), ("object_id", .str objectId),
    ("unique_id", .str ("clock_" ++ objectId))] ++ state ++
    ("command_topic", .str commandTopic) :: settings ++ ("device", device) :: availability

def textArray (texts : List String) : JsonValue := .array (texts.map .str)

def roomDevice (room : Room) : JsonValue :=
  .object [("identifiers", textArray ["clock_room_" ++ room.key]), ("name", .str room.name),
    ("manufacturer", .str "Clock PMS+ / Home Assistant Orchestrator"),
    ("model", .str "Hotel Room Automation Intent")]

structure RoomSensor where
  suffix : String
  name : String
  topic : String
  expression : String

def roomSensors (room : Room) (topics : MqttTopics) : List RoomSensor :=
  let stateTopic := topics.roomPmsState room.key
  let intentTopic := topics.roomIntentState room.key
  let reportedTopic := topics.roomReportedState room.key "g301"
  let resultTopic := topics.roomIntentResult room.key "g301"
  [⟨"pms_status", "PMS Status", stateTopic, "value_json.booking_status"⟩,
    ⟨"automation_phase", "Automation Phase", stateTopic, "value_json.automation_phase"⟩,
    ⟨"arrival", "Arrival", stateTopic, "value_json.arrival"⟩,
    ⟨"departure", "Departure", stateTopic, "value_json.departure"⟩,
    ⟨"desired_hvac_mode", "Desired HVAC Mode", intentTopic, "value_json.hvac.mode"⟩,
    ⟨"desired_temperature", "Desired Temperature", intentTopic,
      "value_json.hvac.target_temperature_c"⟩,
    ⟨"desired_water_heater", "Desired Water Heater", intentTopic,
      "value_json.water_heater.enabled"⟩,
    ⟨"reported_hvac_mode", "Reported HVAC Mode", reportedTopic, "value_json.hvac.mode"⟩,
    ⟨"reported_temperature", "Reported Temperature", reportedTopic,
      "value_json.ambient_temperature_c"⟩,
    ⟨"reported_faults", "Reported Faults", reportedTopic, "value_json.faults | count"⟩,
    ⟨"reported_at", "Reported At", reportedTopic, "value_json.reported_at"⟩,
    ⟨"last_intent_result", "Last Intent Result", resultTopic, "value_json.status"⟩]

def roomBinarySensors : List (String × String) :=
  [("reservation_active", "value_json.booking_status in ['expected', 'checked_in']"),
    ("needs_attention", "value_json.needs_attention"), ("reported_online", "value_json.online")]

def roomDiscoveryConfigs (room : Room) (topics : MqttTopics) : List DiscoveryConfig :=
  let device := roomDevice room
  let controlStateTopic := topics.roomControlState room.key
  let base := "room_" ++ room.key
  let availability := availabilityEntries topics.availability
  let state := fun expression : String =>
    [("state_topic", JsonValue.str controlStateTopic),
      ("value_template", .str (valueTemplate expression))]
  let control := fun (component suffix name : String) (state : DiscoveryPayload)
      (commandTopic : String) (settings : DiscoveryPayload) =>
    (discoveryTopic component (base ++ "_" ++ suffix),
      controlPayload name (base ++ "_" ++ suffix) state commandTopic settings device availability)
  ((roomSensors room topics).map fun sensor =>
    (discoveryTopic "sensor" (base ++ "_" ++ sensor.suffix),
      sensorPayload sensor.name (base ++ "_" ++ sensor.suffix) sensor.topic
        (valueTemplate sensor.expression) device availability)) ++
  (roomBinarySensors.map fun sensor =>
    (discoveryTopic "binary_sensor" (base ++ "_" ++ sensor.1),
      binarySensorPayload (base ++ "_" ++ sensor.1) sensor.1
        (if sensor.1 = "reported_online" then topics.roomReportedState room.key "g301"
          else topics.roomPmsState room.key)
        (valueTemplate sensor.2) device availability)) ++
  [control "select" "control_mode" "Control Mode" (state "value_json.control_mode")
      (topics.roomControlModeSet room.key)
      [("options", textArray ["automatic", "manual", "off"])],
    control "select" "manual_hvac_mode" "Manual HVAC Mode" (state "value_json.manual_hvac_mode")
      (topics.roomControlHvacModeSet room.key)
      [("options", textArray ["off", "heat", "cool", "auto"])],
    control "number" "manual_temperature" "Manual Temperature"
      (state "value_json.manual_target_temperature_c") (topics.roomControlTemperatureSet room.key)
      [("min", .scalar (.int 16)), ("max", .scalar (.int 28)),
        ("step", .scalar (.float (.finite ['0', '.', '5'] rfl))),
        ("unit_of_measurement", .str "°C")],
    control "select" "override_duration" "Override Duration" (state "value_json.override_duration")
      (topics.roomControlDurationSet room.key)
      [("options", textArray ["60", "240", "720", "until_checkout"])],
    control "switch" "manual_water_heater" "Manual Water Heater"
      (state "'on' if value_json.manual_water_heater_enabled else 'off'")
      (topics.roomControlWaterHeaterSet room.key)
      [("payload_on", .str "on"), ("payload_off", .str "off")],
    control "button" "return_to_automatic" "Return To Automatic" []
      (topics.roomControlReturnToAutomaticSet room.key) [("payload_press", .str "return")]]

def hyphensToUnderscores (key : String) : String :=
  String.ofList (key.toList.map fun c => if c = '-' then '_' else c)

def entranceSensors : List (String × String × String) :=
  [("adapter_status", "Adapter Status", "value_json.status"),
    ("last_poll", "Last Poll", "value_json.last_poll_at"),
    ("last_successful_poll", "Last Successful Poll", "value_json.last_successful_poll_at"),
    ("room_mismatches", "Room Mismatches", "value_json.room_mismatches"),
    ("gateway_latency", "Gateway Latency", "value_json.gateway_latency_ms"),
    ("consecutive_failures", "Consecutive Failures", "value_json.consecutive_failures"),
    ("online_slaves", "Online Slaves", "value_json.online_slaves"),
    ("offline_slaves", "Offline Slaves", "value_json.offline_slaves"),
    ("scan_duration", "Scan Duration", "value_json.scan_duration_ms"),
    ("command_queue_depth", "Command Queue Depth", "value_json.command_queue_depth")]

def entranceBinarySensors : List (String × String) :=
  [("adapter_online", "value_json.adapter_online"), ("gateway_online", "value_json.gateway_online")]

def entranceDevice (entrance : Entrance) : JsonValue :=
  .object [("identifiers", textArray ["clock_entrance_" ++ entrance.key]),
    ("name", .str entrance.name), ("manufacturer", .str "Clock HA Orchestrator"),
    ("model", .str "G301 Entrance Adapter")]

def entranceConfigs (topics : MqttTopics) (entrance : Entrance) : List DiscoveryConfig :=
  let objectPrefix := "entrance_" ++ hyphensToUnderscores entrance.key
  let stateTopic := topics.entranceAdapterState entrance.key
  let device := entranceDevice entrance
  let availability := availabilityEntries (topics.entranceAdapterAvailability entrance.key)
  (entranceSensors.map fun (suffix, name, expression) =>
    (discoveryTopic "sensor" (objectPrefix ++ "_" ++ suffix),
      sensorPayload name (objectPrefix ++ "_" ++ suffix) stateTopic (valueTemplate expression)
        device availability ++
        if suffix = "gateway_latency" || suffix = "scan_duration" then
          [("unit_of_measurement", .str "ms")]
        else [])) ++
  entranceBinarySensors.map fun (suffix, expression) =>
    (discoveryTopic "binary_sensor" (objectPrefix ++ "_" ++ suffix),
      binarySensorPayload (objectPrefix ++ "_" ++ suffix) suffix stateTopic
        (valueTemplate expression) device availability)

def entranceDiscoveryConfigs (entrances : List Entrance) (topics : MqttTopics) :
    List DiscoveryConfig :=
  entrances.flatMap (entranceConfigs topics)

def systemDevice : JsonValue :=
  .object [("identifiers", textArray ["clock_ha_orchestrator"]),
    ("name", .str "Clock HA Orchestrator"),
    ("manufacturer", .str "Clock PMS+ / Home Assistant Orchestrator")]

def systemSensors : List (String × String × String) :=
  [("clock_orchestrator_status", "Orchestrator Status", "value_json.status"),
    ("clock_last_successful_sync", "Last Successful Sync", "value_json.last_success_at"),
    ("clock_sync_lag", "Clock Sync Lag", "value_json.lag_seconds"),
    ("hotel_checked_in_rooms", "Checked In Rooms", "value_json.checked_in_rooms"),
    ("hotel_expected_rooms", "Expected Rooms", "value_json.expected_rooms"),
    ("hotel_arrivals_today", "Arrivals Today", "value_json.arrivals_today"),
    ("hotel_departures_today", "Departures Today", "value_json.departures_today"),
    ("hotel_unassigned_arrivals", "Unassigned Arrivals", "value_json.unassigned_arrivals"),
    ("hotel_room_conflicts", "Room Conflicts", "value_json.room_conflicts"),
    ("hotel_active_manual_overrides", "Active Manual Overrides",
      "value_json.active_manual_overrides"),
    ("hotel_rooms_needing_attention", "Rooms Needing Attention",
      "value_json.rooms_needing_attention"),
    ("clock_pending_outbox", "Pending Outbox", "value_json.pending_outbox"),
    ("clock_dead_letter_outbox", "Dead Letter Outbox", "value_json.dead_letter_outbox")]

structure SystemBinarySensor where
  objectId : String
  name : String
  stateTopic : String
  expression : Option String
  payloadOn : String
  payloadOff : String

def systemBinarySensors (topics : MqttTopics) : List SystemBinarySensor :=
  [⟨"clock_ha_orchestrator_online", "Clock HA Orchestrator Online", topics.availability, none,
      "online", "offline"⟩,
    ⟨"clock_runtime_ready", "Clock Runtime Ready", topics.systemState,
      some "value_json.runtime_ready", "True", "False"⟩,
    ⟨"clock_mqtt_connected", "Clock MQTT Connected", topics.systemState,
      some "value_json.mqtt_connected", "True", "False"⟩,
    ⟨"clock_policy_scheduler_enabled", "Policy Scheduler Enabled", topics.systemState,
      some "value_json.policy_scheduler_enabled", "True", "False"⟩,
    ⟨"clock_outbox_worker_enabled", "Outbox Worker Enabled", topics.systemState,
      some "value_json.outbox_worker_enabled", "True", "False"⟩]

-- The binary sensors of the system go without the prefix of all other unique ids.
def systemBinarySensorPayload (topics : MqttTopics) (sensor : SystemBinarySensor) :
    DiscoveryPayload :=
  [("name", .str sensor.name), ("object_id", .str sensor.objectId),
    ("unique_id", .str sensor.objectId), ("state_topic", .str sensor.stateTopic),
    ("payload_on", .str sensor.payloadOn), ("payload_off", .str sensor.payloadOff),
    ("device", systemDevice)] ++
  match sensor.expression with
  | none => []
  | some expression =>
      ("value_template", .str (valueTemplate expression)) ::
        availabilityEntries topics.availability

def systemDiscoveryConfigs (topics : MqttTopics) : List DiscoveryConfig :=
  ((systemBinarySensors topics).map fun sensor =>
    (discoveryTopic "binary_sensor" sensor.objectId, systemBinarySensorPayload topics sensor)) ++
  systemSensors.map fun (objectId, name, expression) =>
    (discoveryTopic "sensor" objectId,
      sensorPayload name objectId topics.systemState (valueTemplate expression) systemDevice
        (availabilityEntries topics.availability))

def discoveryConfigs (registry : RoomRegistry) (topics : MqttTopics) : List DiscoveryConfig :=
  systemDiscoveryConfigs topics ++ entranceDiscoveryConfigs registry.entrances topics ++
    registry.rooms.flatMap (roomDiscoveryConfigs · topics)

def componentOf (topic : String) : String :=
  String.ofList (((topic.toList.dropWhile (· ≠ '/')).drop 1).takeWhile (· ≠ '/'))

def uniqueId (config : DiscoveryConfig) : Option String :=
  match config.2.find? (·.1 = "unique_id") with
  | some (_, .str id) => some id
  | _ => none

end ClockOrchestrator
