import ClockOrchestrator.Python.Text
import ClockOrchestrator.Domain.Enums

namespace ClockOrchestrator

open Python

abbrev UUID := ℕ

structure NormalizedBooking where
  propertyId : String
  clockBookingId : String
  bookingNumber : Option String := none
  externalSource : Option String := none
  externalReference : Option String := none
  bookingStatus : BookingStatus
  sourceBookingStatus : String
  arrivalDate : Date
  departureDate : Date
  createdAt : Option Timestamp := none
  updatedAt : Option Timestamp := none
  statusChangedAt : Option Timestamp := none
  roomTypeId : Option String := none
  roomTypeName : Option String := none
  physicalRoomId : Option String := none
  physicalRoomNumber : Option String := none
  adults : Option ℕ := none
  children : Option ℕ := none
  firstSeenAt : Option Timestamp := none
  lastSeenAt : Option Timestamp := none
  payloadHash : String
  needsAttention : Bool := false
  attentionReason : AttentionReason := .none
  datesOrdered : arrivalDate ≤ departureDate := by decide
  unknownNeedsAttention : bookingStatus = .unknown → needsAttention = true := by decide
  deriving DecidableEq

namespace NormalizedBooking

def hasPhysicalRoom (b : NormalizedBooking) : Bool :=
  truthy b.physicalRoomId || truthy b.physicalRoomNumber

def activeForAutomation (b : NormalizedBooking) : Bool :=
  b.bookingStatus = .expected || b.bookingStatus = .checkedIn

end NormalizedBooking

structure Entrance where
  key : String
  name : String
  gatewayHost : Option String := none
  gatewayPort : Option ℕ := none
  enabled : Bool := true
  gatewayTogether : gatewayHost.isNone = gatewayPort.isNone := by decide
  portInRange : ∀ port ∈ gatewayPort, 1 ≤ port ∧ port ≤ 65535 := by decide
  deriving DecidableEq

structure G301RoomMapping where
  slaveAddress : ℕ
  inRange : 1 ≤ slaveAddress ∧ slaveAddress ≤ 255
  deriving DecidableEq

structure Room where
  key : String
  name : String
  entranceKey : String
  floor : Option String := none
  clockRoomId : Option String := none
  g301 : Option G301RoomMapping := none
  enabled : Bool := true
  deriving DecidableEq

structure PropertyRegistry where
  key : String
  name : String
  timezone : String := "Europe/Sofia"
  deriving DecidableEq

def configuredClockIds (rooms : List Room) : List String :=
  (rooms.filterMap (·.clockRoomId)).filter (· ≠ "")

def g301Addresses (rooms : List Room) : List (String × ℕ) :=
  rooms.filterMap fun room => room.g301.map fun mapping => (room.entranceKey, mapping.slaveAddress)

structure RoomRegistry where
  property : PropertyRegistry
  entrances : List Entrance
  rooms : List Room
  uniqueEntranceKeys : (entrances.map (·.key)).Nodup := by decide
  knownEntrances : ∀ room ∈ rooms, room.entranceKey ∈ entrances.map (·.key) := by decide
  uniqueG301Addresses : (g301Addresses rooms).Nodup := by decide
  uniqueRoomKeys : (rooms.map (·.key)).Nodup := by decide
  uniqueClockIds : (configuredClockIds rooms).Nodup := by decide

def RoomRegistry.byKey (registry : RoomRegistry) (key : String) : Option Room :=
  registry.rooms.find? (·.key = key)

-- The timezone name is kept as the zone that ZoneInfo looks up for it.
structure PropertyPolicy where
  tzinfo : Zone
  defaultCheckInTime : TimeOfDay := timeOfHour 15
  defaultCheckOutTime : TimeOfDay := timeOfHour 11

structure AutomationPolicy where
  preArrivalLeadMinutes : ℕ := 240
  defaultHeatingTargetC : PyFloat := .finite 22
  vacantHeatingSetbackC : PyFloat := .finite 16
  occupiedMinimumTargetC : PyFloat := .finite 19
  occupiedMaximumTargetC : PyFloat := .finite 24
  manualOverrideMaxMinutes : ℕ := 720
  turnOnWaterHeaterPreArrival : Bool := true
  enableConvectorsPreArrival : Bool := true
  boundsOrdered : occupiedMaximumTargetC.lt occupiedMinimumTargetC = false := by decide
  overrideMaxPositive : 1 ≤ manualOverrideMaxMinutes := by decide

def AutomationPolicy.clampTemperature (policy : AutomationPolicy) (value : PyFloat) : PyFloat :=
  .pyMin (.pyMax value policy.occupiedMinimumTargetC) policy.occupiedMaximumTargetC

structure HotelPolicy where
  property : PropertyPolicy
  automation : AutomationPolicy

def HotelPolicy.zone (policy : HotelPolicy) : Zone := policy.property.tzinfo

def sofiaWinterTime : Zone := .fixed 7200000000

def defaultPolicy : HotelPolicy := ⟨{ tzinfo := sofiaWinterTime }, {}⟩

structure ManualOverride where
  controlMode : ControlMode
  clockBookingId : Option String
  hvacMode : ManualHvacMode
  targetTemperatureC : Option PyFloat
  waterHeaterEnabled : Option Bool
  expiresAt : Option Datetime
  checkoutAt : Option Datetime
  untilCheckout : Bool
  commandId : UUID
  deriving DecidableEq

def ManualOverride.isActive (z : Zone) (o : ManualOverride) (now : Datetime)
    (clockBookingId : Option String) : Bool :=
  if o.controlMode = .automatic then false
  else if o.untilCheckout then
    if o.clockBookingId.isSome && o.clockBookingId ≠ clockBookingId then false
    else match o.checkoutAt with
      | none => false
      | some checkout => Datetime.lt z now checkout
  else match o.expiresAt with
    | none => false
    | some expires => Datetime.lt z now expires

def hvacStateError (enabled : Bool) (mode : ManualHvacMode) (target : Option PyFloat) :
    Option String :=
  if enabled then
    if mode = .off then some "enabled HVAC intent cannot use off mode"
    else if target.isNone then some "enabled HVAC intent requires target_temperature_c"
    else none
  else
    if mode ≠ .off then some "disabled HVAC intent must use off mode"
    else if target.isSome then some "disabled HVAC intent cannot set target_temperature_c"
    else none

structure HvacIntent where
  enabled : Bool
  mode : ManualHvacMode
  targetTemperatureC : Option PyFloat
  validState : hvacStateError enabled mode targetTemperatureC = none
  deriving DecidableEq

def HvacIntent.validate (enabled : Bool) (mode : ManualHvacMode) (target : Option PyFloat) :
    Except PyError HvacIntent :=
  match h : hvacStateError enabled mode target with
  | none => .ok ⟨enabled, mode, target, h⟩
  | some message => .error (.valueError message)

structure BinaryIntent where
  enabled : Bool
  deriving DecidableEq

structure DesiredRoomIntent where
  roomKey : String
  intentVersion : ℕ
  automationPhase : AutomationPhase
  controlMode : ControlMode
  effectiveFrom : Datetime
  expiresAt : Option Datetime
  hvac : HvacIntent
  waterHeater : BinaryIntent
  convectors : BinaryIntent
  reason : String
  correlationId : UUID
  deriving DecidableEq

def validityWindowError (z : Zone) (intent : DesiredRoomIntent) : Option String :=
  match intent.expiresAt with
  | none => none
  | some expires =>
      if Datetime.le z expires intent.effectiveFrom then
        some "expires_at must be after effective_from"
      else none

def DesiredRoomIntent.validate (z : Zone) (intent : DesiredRoomIntent) :
    Except PyError DesiredRoomIntent :=
  if intent.roomKey = "" then .error (.valueError "String should have at least 1 character")
  else if intent.intentVersion < 1 then .error (.valueError "Input should be greater than or equal to 1")
  else if intent.reason = "" then .error (.valueError "String should have at least 1 character")
  else match validityWindowError z intent with
    | some message => .error (.valueError message)
    | none => .ok intent

structure RoomStateEvaluation where
  roomKey : Option String
  phase : AutomationPhase
  booking : Option NormalizedBooking
  needsAttention : Bool
  attentionReason : AttentionReason
  reason : String
  effectiveFrom : Datetime
  expiresAt : Option Datetime
  deriving DecidableEq

end ClockOrchestrator
