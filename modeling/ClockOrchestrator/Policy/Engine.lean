import ClockOrchestrator.Domain.StateMachine

namespace ClockOrchestrator

open Python

def suppressAutomationPhases : List AutomationPhase :=
  [.awaitingAssignment, .conflict, .disabled, .unknown]

def buildIntent (z : Zone) (state : RoomStateEvaluation) (controlMode : ControlMode)
    (hvac : HvacIntent) (waterHeater convectors : Bool) (reason : String)
    (correlationId : UUID) : Except PyError DesiredRoomIntent :=
  DesiredRoomIntent.validate z {
    roomKey := state.roomKey.getD ""
    intentVersion := 1
    automationPhase := state.phase
    controlMode := controlMode
    effectiveFrom := state.effectiveFrom
    expiresAt := state.expiresAt
    hvac := hvac
    waterHeater := ⟨waterHeater⟩
    convectors := ⟨convectors⟩
    reason := reason
    correlationId := correlationId }

def suppressedIntent (z : Zone) (state : RoomStateEvaluation) (reason : String)
    (correlationId : UUID) : Except PyError DesiredRoomIntent := do
  let hvac ← HvacIntent.validate false .off none
  buildIntent z state .off hvac false false reason correlationId

def overrideIntent (policy : HotelPolicy) (state : RoomStateEvaluation) (o : ManualOverride)
    (correlationId : UUID) : Except PyError DesiredRoomIntent := do
  let hvac ← HvacIntent.validate (o.hvacMode ≠ .off) o.hvacMode
    (o.targetTemperatureC.map policy.automation.clampTemperature)
  buildIntent policy.zone state o.controlMode hvac (o.waterHeaterEnabled.getD false)
    (o.hvacMode ≠ .off) state.reason correlationId

def vacantIntent (policy : HotelPolicy) (state : RoomStateEvaluation) (correlationId : UUID) :
    Except PyError DesiredRoomIntent := do
  let hvac ← HvacIntent.validate true .heat (some policy.automation.vacantHeatingSetbackC)
  buildIntent policy.zone state .automatic hvac false false state.reason correlationId

def arrivalIntent (policy : HotelPolicy) (state : RoomStateEvaluation) (correlationId : UUID) :
    Except PyError DesiredRoomIntent := do
  let preArrival : Bool := state.phase = .preArrival
  let hvac ← HvacIntent.validate preArrival (if preArrival then .heat else .off)
    (if preArrival then some policy.automation.defaultHeatingTargetC else none)
  buildIntent policy.zone state .automatic hvac
    (preArrival && policy.automation.turnOnWaterHeaterPreArrival)
    (preArrival && policy.automation.enableConvectorsPreArrival) state.reason correlationId

def occupiedIntent (policy : HotelPolicy) (state : RoomStateEvaluation) (correlationId : UUID) :
    Except PyError DesiredRoomIntent := do
  let hvac ← HvacIntent.validate true .auto
    (some (policy.automation.clampTemperature policy.automation.defaultHeatingTargetC))
  buildIntent policy.zone state .automatic hvac true true state.reason correlationId

def automaticIntent (policy : HotelPolicy) (state : RoomStateEvaluation) (correlationId : UUID) :
    Except PyError DesiredRoomIntent :=
  if state.phase ∈ suppressAutomationPhases then
    suppressedIntent policy.zone state state.reason correlationId
  else if state.phase = .vacant then vacantIntent policy state correlationId
  else if state.phase = .preArrival || state.phase = .reserved then
    arrivalIntent policy state correlationId
  else if state.phase = .occupied || state.phase = .checkoutDue then
    occupiedIntent policy state correlationId
  else suppressedIntent policy.zone state "unhandled_phase_suppressed" correlationId

def deriveRoomIntent (state : RoomStateEvaluation) (policy : HotelPolicy)
    (override : Option ManualOverride) (correlationId : UUID) :
    Except PyError (Option DesiredRoomIntent) :=
  if state.roomKey.isNone then .ok none
  else match state.phase, override with
    | .manualOverride, some o => (overrideIntent policy state o correlationId).map some
    | _, _ => (automaticIntent policy state correlationId).map some

end ClockOrchestrator
