import ClockOrchestrator.Persistence.Registry

namespace ClockOrchestrator

open Python UnitOfWork

def DurationOption.text : DurationOption → String
  | .minutes60 => "60"
  | .minutes240 => "240"
  | .minutes720 => "720"
  | .untilCheckout => "until_checkout"

def DurationOption.minutes : DurationOption → Option ℕ
  | .minutes60 => some 60
  | .minutes240 => some 240
  | .minutes720 => some 720
  | .untilCheckout => none

def defaultDuration : DurationOption := .minutes60

def supportedDurations : List DurationOption :=
  [.minutes60, .minutes240, .minutes720, .untilCheckout]

structure OverrideDraft where
  controlMode : ControlMode
  hvacMode : ManualHvacMode
  targetTemperatureC : Option PyFloat
  waterHeaterEnabled : Option Bool
  duration : DurationOption
  deriving DecidableEq

def defaultOverrideDraft : OverrideDraft where
  controlMode := .automatic
  hvacMode := .off
  targetTemperatureC := none
  waterHeaterEnabled := some false
  duration := defaultDuration

def overrideRowIsActive (row : OverrideRow) (now : Instant) : Bool :=
  if row.controlMode = .automatic then false
  else if row.untilCheckout then
    match row.bookingId, row.checkoutAt with
    | some _, some checkout => now < checkout
    | _, _ => false
  else match row.expiresAt with
    | none => false
    | some expires => now < expires

def durationFromRow (row : OverrideRow) : DurationOption :=
  if row.untilCheckout then .untilCheckout
  else match row.expiresAt with
    | none => defaultDuration
    | some expires =>
        let minutes := roundHalfEven (expires - row.startsAt) minuteMicros
        if minutes = 60 then .minutes60
        else if minutes = 240 then .minutes240
        else if minutes = 720 then .minutes720
        else defaultDuration

def payloadText (payload : ByteArray) : Except PyError String := do
  let decoded ← decodeUtf8 payload
  let text := stripChars decoded
  if 2 ≤ text.length && text.head? = some '"' && text.getLast? = some '"' then
    return String.ofList (stripChars (text.drop 1).dropLast)
  else
    return String.ofList text

def parseControlMode (value : String) : Except PyError ControlMode :=
  match [ControlMode.automatic, .manual, .off].find? (·.value = value) with
  | some mode => .ok mode
  | none => .error (.valueError ("unsupported control mode: " ++ value))

def parseManualHvacMode (value : String) : Except PyError ManualHvacMode :=
  match [ManualHvacMode.off, .heat, .cool, .auto].find? (·.value = value) with
  | some mode => .ok mode
  | none => .error (.valueError ("unsupported HVAC mode: " ++ value))

def parseTemperature (value : String) : Except PyError PyFloat :=
  match pyFloat value.toList with
  | some x => .ok x
  | none => .error (.valueError ("invalid target temperature: " ++ value))

def parseDuration (value : String) (policy : AutomationPolicy) :
    Except PyError DurationOption :=
  match supportedDurations.find? (·.text = value) with
  | none => .error (.valueError ("unsupported override duration: " ++ value))
  | some duration =>
      if duration.minutes.any (policy.manualOverrideMaxMinutes < ·) then
        .error (.valueError "manual override duration exceeds policy maximum")
      else .ok duration

def parseBooleanPayload (value : String) : Except PyError Bool :=
  let normalized := String.ofList (value.toList.map lower)
  if normalized ∈ ["on", "true", "1", "yes"] then .ok true
  else if normalized ∈ ["off", "false", "0", "no"] then .ok false
  else .error (.valueError ("invalid boolean payload: " ++ value))

variable {H : Type}

def currentDraft (latest : Option OverrideRow) (now : Instant) : OverrideDraft :=
  match latest with
  | none => defaultOverrideDraft
  | some row =>
      if row.controlMode = .automatic then defaultOverrideDraft
      else if !overrideRowIsActive row now then defaultOverrideDraft
      else {
        controlMode := row.controlMode
        hvacMode := row.hvacMode.getD .off
        targetTemperatureC := row.targetTemperatureC
        waterHeaterEnabled := row.waterHeaterEnabled
        duration := durationFromRow row }

def modeDraft (policy : AutomationPolicy) (base : OverrideDraft) (mode : ControlMode) :
    OverrideDraft :=
  match mode with
  | .automatic => ⟨.automatic, .off, none, none, base.duration⟩
  | .off => ⟨.off, .off, none, some false, base.duration⟩
  | .manual => {
      controlMode := .manual
      hvacMode := if base.hvacMode ≠ .off then base.hvacMode else .auto
      targetTemperatureC :=
        some (.orDefault base.targetTemperatureC policy.defaultHeatingTargetC)
      waterHeaterEnabled := base.waterHeaterEnabled
      duration := base.duration }

def hvacModeDraft (policy : AutomationPolicy) (base : OverrideDraft) (mode : ManualHvacMode) :
    OverrideDraft where
  controlMode := .manual
  hvacMode := mode
  targetTemperatureC :=
    if mode = .off then none
    else some (.orDefault base.targetTemperatureC policy.defaultHeatingTargetC)
  waterHeaterEnabled := base.waterHeaterEnabled
  duration := base.duration

def temperatureDraft (policy : AutomationPolicy) (base : OverrideDraft) (target : PyFloat) :
    OverrideDraft where
  controlMode := .manual
  hvacMode := if base.hvacMode ≠ .off then base.hvacMode else .heat
  targetTemperatureC := some (policy.clampTemperature target)
  waterHeaterEnabled := base.waterHeaterEnabled
  duration := base.duration

def fieldDraft (policy : AutomationPolicy) (base : OverrideDraft) (field text : String) :
    Except PyError OverrideDraft :=
  if field = "return-to-automatic" then .ok ⟨.automatic, .off, none, none, defaultDuration⟩
  else if field = "mode" then do
    let mode ← parseControlMode text
    return modeDraft policy base mode
  else if field = "hvac-mode" then do
    let mode ← parseManualHvacMode text
    return hvacModeDraft policy base mode
  else if field = "temperature" then do
    let target ← parseTemperature text
    return temperatureDraft policy base target
  else if field = "duration" then
    if base.controlMode = .automatic then
      .error (.valueError "duration requires an active manual or off override")
    else do
      let duration ← parseDuration text policy
      return { base with duration := duration }
  else if field = "water-heater" then do
    let enabled ← parseBooleanPayload text
    return { base with controlMode := .manual, waterHeaterEnabled := some enabled }
  else .error (.valueError ("unsupported control field: " ++ field))

def expiryForDuration (duration : DurationOption) (now : Instant) :
    Except PyError (Option Instant) :=
  match duration.minutes with
  | none => .ok none
  | some minutes => (Datetime.checkedUtc (now + minutes * minuteMicros)).map some

structure BookingBoundary where
  bookingId : UUID
  checkoutAt : Instant
  deriving DecidableEq

def boundaryPhases : List AutomationPhase := [.manualOverride, .occupied, .preArrival, .reserved]

def boundaryBooking (s : DbSession H) (roomId : UUID) : Option BookingRow := do
  let latest ← latestRoomState s roomId
  let bookingId ← latest.bookingId
  guard (latest.automationPhase ∈ boundaryPhases)
  getBooking s bookingId

def bookingCheckout (policy : HotelPolicy) (booking : BookingRow) : Instant :=
  (Datetime.combine booking.departureDate policy.property.defaultCheckOutTime).instant policy.zone

def currentBookingBoundary (policy : HotelPolicy) (s : DbSession H) (roomId : UUID)
    (now : Instant) : Except PyError (Option BookingBoundary) :=
  match boundaryBooking s roomId with
  | none => .ok none
  | some booking => do
      let checkout ← Datetime.checkedUtc (bookingCheckout policy booking)
      return if now < checkout then some ⟨booking.id, checkout⟩ else none

def overrideBoundary (draft : OverrideDraft)
    (boundary : Except PyError (Option BookingBoundary)) :
    Except PyError (Option BookingBoundary) :=
  if draft.controlMode = .automatic || draft.duration ≠ .untilCheckout then .ok none
  else do
    match ← boundary with
    | some found => return some found
    | none => .error (.valueError "until_checkout requires a current assigned reservation")

def overrideRowOfDraft (policy : AutomationPolicy) (draft : OverrideDraft)
    (boundary : Option BookingBoundary) (roomId rowId commandId : UUID) (now : Instant) :
    OverrideRow where
  id := rowId
  roomId := roomId
  bookingId := boundary.map (·.bookingId)
  commandId := commandId
  controlMode := draft.controlMode
  hvacMode := some draft.hvacMode
  targetTemperatureC := draft.targetTemperatureC.map policy.clampTemperature
  waterHeaterEnabled := draft.waterHeaterEnabled
  startsAt := now
  expiresAt :=
    if draft.controlMode = .automatic then none
    else draft.duration.minutes.map fun minutes => now + minutes * minuteMicros
  checkoutAt := boundary.map (·.checkoutAt)
  untilCheckout := draft.controlMode ≠ .automatic && draft.duration = .untilCheckout
  createdBy := "home_assistant_mqtt"

-- _build_override_row with what it reads (the latest row of the room and the boundary of its
-- current booking) passed in; the caller's command id replaces the generated one.
def buildOverrideRow (policy : AutomationPolicy) (latest : Option OverrideRow)
    (boundary : Except PyError (Option BookingBoundary)) (roomId rowId commandId : UUID) (field : String)
    (payload : ByteArray) (now : Instant) : Except PyError OverrideRow := do
  let text ← payloadText payload
  let draft ← fieldDraft policy (currentDraft latest now) field text
  -- The expiry is computed even where the automatic mode then drops it.
  let _ ← expiryForDuration draft.duration now
  let bound ← overrideBoundary draft boundary
  return overrideRowOfDraft policy draft bound roomId rowId commandId now

def defaultControlStatePayload (roomKey : String) (now : Instant) : ControlPayload where
  schemaVersion := 1
  roomKey := roomKey
  controlMode := .automatic
  manualHvacMode := .off
  manualTargetTemperatureC := none
  overrideDuration := defaultDuration
  manualWaterHeaterEnabled := false
  active := false
  untilCheckout := false
  expiresAt := none
  commandId := none
  updatedAt := now

def controlStatePayloadFromOverride (roomKey : String) (row : Option OverrideRow)
    (now : Instant) (active : Option Bool) : ControlPayload :=
  match row with
  | none => defaultControlStatePayload roomKey now
  | some row =>
      if !active.getD (overrideRowIsActive row now) then defaultControlStatePayload roomKey now
      else {
        schemaVersion := 1
        roomKey := roomKey
        controlMode := row.controlMode
        manualHvacMode := row.hvacMode.getD .off
        manualTargetTemperatureC := row.targetTemperatureC
        overrideDuration := durationFromRow row
        manualWaterHeaterEnabled := row.waterHeaterEnabled.getD false
        active := row.controlMode ≠ .automatic
        untilCheckout := row.untilCheckout
        expiresAt := row.expiresAt.or row.checkoutAt
        commandId := some row.commandId
        updatedAt := now }

def shownActive (latest : Option OverrideRow) (latestState : Option (RoomStateRow H))
    (now : Instant) : Option Bool :=
  if latest.any (!overrideRowIsActive · now) then some false
  else latestState.map (·.automationPhase = .manualOverride)

def controlStatePayload (rt : AppRuntime H) (s : DbSession H) (roomKey : String)
    (now : Timestamp) : ControlPayload :=
  match (s.select (·.properties) (·.key = rt.registry.property.key)).head? with
  | none => defaultControlStatePayload roomKey (now.toUtc rt.zone)
  | some property =>
      match (s.select (·.rooms) fun r =>
          r.propertyId = property.id && r.key = roomKey).head? with
      | none => defaultControlStatePayload roomKey (now.toUtc rt.zone)
      | some room =>
          let latest := latestOverrideRow s room.id
          let latestState := latestRoomState s room.id
          let nowUtc := now.toUtc rt.zone
          controlStatePayloadFromOverride roomKey latest nowUtc
            (shownActive latest latestState nowUtc)

def manualOverrideFromRow (row : OverrideRow) (clockBookingId : Option String) :
    Option ManualOverride :=
  if row.controlMode = .automatic then none
  else some {
    controlMode := row.controlMode
    clockBookingId := clockBookingId
    hvacMode := row.hvacMode.getD .off
    targetTemperatureC := row.targetTemperatureC
    waterHeaterEnabled := row.waterHeaterEnabled
    expiresAt := row.expiresAt.map .utc
    checkoutAt := row.checkoutAt.map .utc
    untilCheckout := row.untilCheckout
    commandId := row.commandId }

def outboxEvent (rt : AppRuntime H) (db : Db H) (topic : String) (payload : OutboxPayload)
    (observedAt : Instant) (correlationId : UUID) : OutboxEvent where
  id := rt.uuid4 db.drawn
  topic := topic
  payload := payload
  qos := 1
  retain := true
  status := .pending
  attempts := 0
  nextAttemptAt := some observedAt
  lastError := none
  claimedAt := none
  claimedBy := none
  createdAt := observedAt
  publishedAt := none
  correlationId := correlationId

def addAuditEvent (rt : AppRuntime H) (propertyId : UUID) (roomId bookingId : Option UUID)
    (detail : AuditDetail) (at' : Instant) (correlationId : UUID) (db : Db H) : Db H :=
  db.addAudit ⟨rt.uuid4 db.drawn, propertyId, roomId, bookingId, detail, at', correlationId⟩

def addOutboxEvent (rt : AppRuntime H) (topic : String) (payload : OutboxPayload)
    (at' : Instant) (correlationId : UUID) (db : Db H) : Db H :=
  db.addOutbox (outboxEvent rt db topic payload at' correlationId)

structure CommandProcessingResult where
  accepted : Bool
  roomKey : Option String
  correlationId : UUID
  error : Option String
  deriving DecidableEq

structure RoomCommand where
  roomKey : String
  field : String
  payload : ByteArray
  now : Timestamp
  correlationId : UUID

def rejectCommand (rt : AppRuntime H) (property : PropertyRow) (roomId : Option UUID)
    (command : RoomCommand) (reason : String) (now : Instant) (s : DbSession H) : DbSession H :=
  s.modify (addAuditEvent rt property.id roomId none
    (.commandRejected command.roomKey command.field reason command.correlationId) now
    command.correlationId)

def acceptCommand (rt : AppRuntime H) (property : PropertyRow) (room : Room) (row : OverrideRow)
    (command : RoomCommand) (now : Instant) (s : DbSession H) : DbSession H :=
  ((s.modify (·.addOverride row)).flush.modify
    (addOutboxEvent rt (rt.topics.roomControlState room.key)
      (.control (controlStatePayloadFromOverride room.key (some row) now none)) now
      command.correlationId)).modify
    (addAuditEvent rt property.id (some row.roomId) none
      (.commandAccepted room.key command.field row.controlMode row.commandId) now
      command.correlationId)

-- The UPDATE of a known room goes out with the next flush or at the commit, as in ensure_registry.
def ensureCommandRoom (rt : AppRuntime H) (property : PropertyRow) (s : DbSession H) (room : Room) :
    Except PyError (RoomRow × DbSession H) := do
  let (row, s) ← ensureRoom rt property s room
  let s ← flushRooms s
  .ok (row, s)

def applyMqttCommand (rt : AppRuntime H) (s : DbSession H) (command : RoomCommand) :
    Except PyError (CommandProcessingResult × DbSession H) := do
  let now ← Datetime.checkedUtc (command.now.toUtc rt.zone)
  let (property, s) := ensureProperty rt s
  match rt.registry.byKey command.roomKey with
  | none =>
      let s := rejectCommand rt property none command
        "room is not in the configured registry" now s
      return (⟨false, none, command.correlationId, some "unknown_room"⟩, s)
  | some room =>
      let (roomRow, s) ← ensureCommandRoom rt property s room
      match buildOverrideRow rt.policy.automation (latestOverrideRow s roomRow.id)
          (currentBookingBoundary rt.policy s roomRow.id now) roomRow.id
          (rt.uuid4 s.live.drawn) command.correlationId command.field command.payload now with
      | .error e =>
          if e.isValueError then
            let s := rejectCommand rt property (some roomRow.id) command e.text now s
            return (⟨false, some room.key, command.correlationId, some e.text⟩, s)
          else .error e
      | .ok row =>
          if s.live.overrides.any (·.commandId = command.correlationId) then
            .error (.integrityError "room_policy_overrides (command_id)")
          else
            return (⟨true, some room.key, command.correlationId, none⟩,
              acceptCommand rt property room row command now s)

end ClockOrchestrator
