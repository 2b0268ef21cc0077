import ClockOrchestrator.G301Adapter.Registers
import ClockOrchestrator.G301Adapter.Transport

namespace ClockOrchestrator

open Python

structure RegisterWrite where
  address : ℕ
  value : ℤ
  reason : String
  deriving DecidableEq, Repr

structure ReadbackExpectation where
  address : ℕ
  expected : ℤ
  description : String
  deriving DecidableEq, Repr

structure ReadbackMismatch where
  address : ℕ
  expected : ℤ
  observed : Option ℤ
  description : String
  deriving DecidableEq, Repr

structure G301Plan where
  roomKey : String
  slaveAddress : ℕ
  intentVersion : ℕ
  correlationId : UUID
  writes : List RegisterWrite
  readbackExpectations : List ReadbackExpectation
  deriving DecidableEq, Repr

def readbackExpectation (write : RegisterWrite) : ReadbackExpectation :=
  if write.address = G301Register.power.address then
    ⟨G301Register.powerStatus.address, write.value, "actual power status"⟩
  else if write.address = G301Register.mode.address then
    ⟨G301Register.modeStatus.address, write.value, "actual operating mode"⟩
  else if write.address = G301Register.setTemperature.address then
    ⟨G301Register.setTemperature.address, write.value, "accepted target temperature"⟩
  else if write.address = G301Register.fanSpeed.address then
    ⟨G301Register.fanStatus.address, write.value, "actual fan status"⟩
  else ⟨write.address, write.value, "command register readback"⟩

def planOfWrites (intent : DesiredRoomIntent) (slaveAddress : ℕ) (writes : List RegisterWrite) :
    G301Plan where
  roomKey := intent.roomKey
  slaveAddress := slaveAddress
  intentVersion := intent.intentVersion
  correlationId := intent.correlationId
  writes := writes
  readbackExpectations := writes.map readbackExpectation

def validateMode (mode : G301Mode) (profile : G301DeviceProfile) : Except AdapterError Unit :=
  if profile.modeLimitation = .heatProhibited ∧ (mode = .heat ∨ mode = .auto) then
    .error (.planning "G301 device prohibits heat/auto mode")
  else if profile.modeLimitation = .coolDryProhibited ∧
      (mode = .cool ∨ mode = .dry ∨ mode = .auto) then
    .error (.planning "G301 device prohibits cool/dry/auto mode")
  else .ok ()

def outsideLimitsText (profile : G301DeviceProfile) : String :=
  "desired target temperature is outside G301 device limits (" ++
    toString profile.lowerTemperatureC ++ "-" ++ toString profile.upperTemperatureC ++ " C)"

def plannedTarget (profile : G301DeviceProfile) (target : Option PyFloat) :
    Except AdapterError ℤ :=
  match target with
  | none => .error (.planning "enabled G301 HVAC intent requires target_temperature_c")
  | some value =>
      if !(PyFloat.le (.finite profile.lowerTemperatureC) value &&
          PyFloat.le value (.finite profile.upperTemperatureC)) then
        .error (.planning (outsideLimitsText profile))
      else match encodeSetTemperatureC value with
        | .ok raw => .ok raw
        | .error e => .error (.valueError e.text)

def planRoomIntent (intent : DesiredRoomIntent) (slaveAddress : ℕ)
    (deviceProfile : Option G301DeviceProfile) : Except AdapterError G301Plan :=
  if ¬ (1 ≤ slaveAddress ∧ slaveAddress ≤ 255) then
    .error (.planning "G301 slave_address must be in the confirmed 1-255 range")
  else if !intent.hvac.enabled || intent.hvac.mode = .off then
    .ok (planOfWrites intent slaveAddress
      [⟨G301Register.power.address, 0, "desired HVAC is disabled"⟩])
  else match modeFromHvacMode intent.hvac.mode with
    | none =>
        .error (.planning ("unsupported enabled HVAC mode: " ++ intent.hvac.mode.value))
    | some mode =>
        match deviceProfile with
        | none =>
            .error (.planning "enabled G301 HVAC intent requires a device capability profile")
        | some profile => do
            validateMode mode profile
            let target ← plannedTarget profile intent.hvac.targetTemperatureC
            return planOfWrites intent slaveAddress
              [⟨G301Register.mode.address, mode.value,
                  "desired HVAC mode is " ++ intent.hvac.mode.value⟩,
                ⟨G301Register.setTemperature.address, target, "desired HVAC target temperature"⟩,
                ⟨G301Register.power.address, 1, "desired HVAC is enabled"⟩]

abbrev Observed := ℕ → Option ℤ

def compareReadback (plan : G301Plan) (observed : Observed) : List ReadbackMismatch :=
  plan.readbackExpectations.filterMap fun expectation =>
    if observed expectation.address ≠ some expectation.expected then
      some ⟨expectation.address, expectation.expected, observed expectation.address,
        expectation.description⟩
    else none

end ClockOrchestrator
