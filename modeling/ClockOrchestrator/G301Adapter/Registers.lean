import ClockOrchestrator.Domain.Models
import Mathlib.Data.Int.Bitwise

namespace ClockOrchestrator

open Python

inductive G301Register where
  | power
  | mode
  | setTemperature
  | fanSpeed
  | modeLimitation
  | temperatureUpperLimit
  | temperatureLowerLimit
  | capabilities
  | powerStatus
  | modeStatus
  | fanStatus
  deriving DecidableEq, Repr

def G301Register.address : G301Register → ℕ
  | .power => 0x0201
  | .mode => 0x0202
  | .setTemperature => 0x0203
  | .fanSpeed => 0x0204
  | .modeLimitation => 0x0214
  | .temperatureUpperLimit => 0x0215
  | .temperatureLowerLimit => 0x0216
  | .capabilities => 0x030E
  | .powerStatus => 0x030F
  | .modeStatus => 0x0310
  | .fanStatus => 0x0311

inductive G301Mode where
  | cool
  | dry
  | fan
  | heat
  | auto
  deriving DecidableEq, Repr

def G301Mode.value : G301Mode → ℤ
  | .cool => 1
  | .dry => 2
  | .fan => 3
  | .heat => 4
  | .auto => 5

inductive G301ModeLimitation where
  | none
  | heatProhibited
  | coolDryProhibited
  deriving DecidableEq, Repr

def G301ModeLimitation.ofRaw (raw : ℤ) : Option G301ModeLimitation :=
  if raw = 0 then some .none
  else if raw = 1 then some .heatProhibited
  else if raw = 2 then some .coolDryProhibited
  else Option.none

structure G301Capabilities where
  upDownSwing : Bool
  leftRightSwing : Bool
  electricAuxHeating : Bool
  selfCleaning : Bool
  gentleBreeze : Bool
  energySaving : Bool
  health : Bool
  accessControl : Bool
  deriving DecidableEq, Repr

structure G301DeviceProfile where
  capabilities : G301Capabilities
  modeLimitation : G301ModeLimitation
  lowerTemperatureC : ℤ
  upperTemperatureC : ℤ
  deriving DecidableEq, Repr

def parseCapabilities (raw : ℤ) : G301Capabilities where
  upDownSwing := raw.testBit 0
  leftRightSwing := raw.testBit 1
  electricAuxHeating := raw.testBit 2
  selfCleaning := raw.testBit 3
  gentleBreeze := raw.testBit 4
  energySaving := raw.testBit 5
  health := raw.testBit 6
  accessControl := raw.testBit 7

def buildDeviceProfile (capabilitiesRaw modeLimitationRaw upperTemperatureRaw
    lowerTemperatureRaw : ℤ) : Except PyError G301DeviceProfile :=
  match G301ModeLimitation.ofRaw modeLimitationRaw with
  | none => .error (.valueError ("unsupported G301 mode limitation: " ++ toString modeLimitationRaw))
  | some modeLimitation =>
      if ¬ (16 ≤ lowerTemperatureRaw ∧ lowerTemperatureRaw ≤ 25) then
        .error (.valueError
          ("invalid G301 lower temperature limit: " ++ toString lowerTemperatureRaw))
      else if ¬ (26 ≤ upperTemperatureRaw ∧ upperTemperatureRaw ≤ 31) then
        .error (.valueError
          ("invalid G301 upper temperature limit: " ++ toString upperTemperatureRaw))
      else if upperTemperatureRaw < lowerTemperatureRaw then
        .error (.valueError "G301 lower temperature limit exceeds upper limit")
      else
        .ok ⟨parseCapabilities capabilitiesRaw, modeLimitation, lowerTemperatureRaw,
          upperTemperatureRaw⟩

-- Targets are exact rationals, rounded as round() does.
def encodeSetTemperatureC (value : PyFloat) : Except PyError ℤ :=
  match value with
  | .finite target =>
      if 16 ≤ target ∧ target ≤ 31 then .ok (roundHalfEven (target * 10).num (target * 10).den)
      else .error (.valueError "G301 set temperature must be 16-31 C")
  | _ => .error (.valueError "G301 set temperature must be 16-31 C")

def decodeSetTemperatureC (raw : ℤ) : PyFloat := .finite (raw / 10)

def encodeIfeelAmbientTemperatureC (value : PyFloat) : Except PyError ℤ :=
  match value with
  | .finite ambient =>
      if 0 ≤ ambient ∧ ambient ≤ 50 then
        .ok (roundHalfEven (ambient * 10 + 1000).num (ambient * 10 + 1000).den)
      else .error (.valueError "G301 iFeel ambient temperature must be 0-50 C")
  | _ => .error (.valueError "G301 iFeel ambient temperature must be 0-50 C")

def decodeOffsetTemperatureC (raw : ℤ) : PyFloat := .finite ((raw - 1000) / 10)

structure G301Fault where
  bit : ℕ
  code : Option String
  description : String
  deriving DecidableEq, Repr

def indoorFaults : List G301Fault :=
  [⟨15, some "E6", "interior fan malfunction"⟩,
    ⟨14, some "d4", "water full fault"⟩,
    ⟨13, some "PA", "mode conflict"⟩,
    ⟨12, some "Fu", "anti-freeze protection"⟩,
    ⟨11, some "b5", "interior fan drive failure"⟩,
    ⟨10, some "Eb",
      "communication failure between main control board and display screen"⟩,
    ⟨9, some "E0", "communication failure between indoor and outdoor units"⟩,
    ⟨8, some "E1", "ambient temperature sensor fault"⟩,
    ⟨7, none, "reserved fault bit 7"⟩,
    ⟨6, some "E2", "middle tube temperature sensor fault"⟩,
    ⟨5, none, "reserved fault bit 5"⟩,
    ⟨4, none, "reserved fault bit 4"⟩,
    ⟨3, none, "reserved fault bit 3"⟩,
    ⟨2, none, "EEPROM communication failure"⟩,
    ⟨1, none, "reserved fault bit 1"⟩,
    ⟨0, none, "capacity DIP switch malfunction"⟩]

def decodeIndoorFaults (raw : ℤ) : List G301Fault :=
  indoorFaults.filter fun fault => raw.testBit fault.bit

def modeFromHvacMode : ManualHvacMode → Option G301Mode
  | .off => none
  | .heat => some .heat
  | .cool => some .cool
  | .auto => some .auto

end ClockOrchestrator
