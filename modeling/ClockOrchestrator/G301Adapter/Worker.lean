import ClockOrchestrator.G301Adapter.Planner
import ClockOrchestrator.Persistence.Documents
import ClockOrchestrator.Support.Procedure
import Mathlib.Logic.Function.Basic

namespace ClockOrchestrator

open Python Procedure

inductive IntentAttemptPhase where
  | retryable
  | writing
  | verificationPending
  | terminal
  deriving DecidableEq, Repr

inductive ExecutionStatus where
  | accepted
  | queued
  | writing
  | applied
  | appliedUnconfirmed
  | rejected
  | timeout
  | modbusException
  | readbackMismatch
  | deviceOffline
  | notYetEffective
  | expired
  | stale
  | failed
  | skipped
  deriving DecidableEq, Repr

structure RegisterWriteResult where
  address : String
  value : ℤ
  deriving DecidableEq, Repr

structure MismatchDetail where
  expected : ℤ
  observed : Option ℤ
  description : String
  deriving DecidableEq, Repr

inductive ResultMessage where
  | text (message : String)
  | retryCooldown (until' : ℚ)
  deriving DecidableEq, Repr

-- applied_at, the wall clock at which the result was built, is left out.
structure IntentExecutionResult where
  schemaVersion : ℕ
  roomKey : String
  intentVersion : ℕ
  adapterKey : String
  handledComponents : List String
  status : ExecutionStatus
  message : Option ResultMessage
  registerWrites : List RegisterWriteResult
  mismatches : List (String × MismatchDetail)
  correlationId : UUID
  deriving DecidableEq, Repr

structure SlaveFailureState where
  consecutiveFailures : ℕ
  retryAfter : Option ℚ
  deriving DecidableEq, Repr

structure IntentAttempt (F : Type) where
  version : ℕ
  payloadFingerprint : F
  phase : IntentAttemptPhase
  plan : Option G301Plan
  completedWrites : List RegisterWriteResult
  cachedResult : Option IntentExecutionResult
  deriving DecidableEq

structure RoomIntentState (F : Type) where
  lastSeenVersion : Option ℕ
  lastTerminalVersion : Option ℕ
  lastAppliedVersion : Option ℕ
  currentAttempt : Option (IntentAttempt F)
  deriving DecidableEq

structure WorkerSettings where
  operationTimeoutSeconds : ℚ := 2
  maxOperationAttempts : ℕ := 1
  retryBackoffSeconds : ℚ := 1 / 10
  readbackAttempts : ℕ := 2
  readbackDelaySeconds : ℚ := 1
  slaveRetryBaseSeconds : ℚ := 5
  slaveRetryMaxSeconds : ℚ := 300
  validityClockSkewSeconds : ℚ := 5

def WorkerSettings.error (s : WorkerSettings) : Option String :=
  if s.operationTimeoutSeconds ≤ 0 then some "operation_timeout_seconds must be positive"
  else if s.maxOperationAttempts < 1 then some "max_operation_attempts must be at least 1"
  else if s.readbackAttempts < 1 then some "readback_attempts must be at least 1"
  else if s.retryBackoffSeconds < 0 ∨ s.readbackDelaySeconds < 0 then
    some "retry and readback delays cannot be negative"
  else if s.slaveRetryBaseSeconds ≤ 0 ∨ s.slaveRetryMaxSeconds < s.slaveRetryBaseSeconds then
    some "slave retry delays are invalid"
  else if s.validityClockSkewSeconds < 0 then
    some "validity_clock_skew_seconds cannot be negative"
  else none

-- zone is what the tzinfo of an intent's timestamps stands for, fingerprint the digest of its
-- stable payload.
structure G301EntranceWorker (F : Type) where
  entranceKey : String
  roomSlaveAddresses : List (String × ℕ)
  settings : WorkerSettings
  zone : Zone
  fingerprint : IntentPayload → F
  validSettings : settings.error = none

def roomSlaveAddresses (registry : RoomRegistry) (entranceKey : String) : List (String × ℕ) :=
  registry.rooms.filterMap fun room =>
    if room.enabled ∧ room.entranceKey = entranceKey then
      room.g301.map fun mapping => (room.key, mapping.slaveAddress)
    else none

def createWorker {F : Type} (registry : RoomRegistry) (entranceKey : String)
    (settings : WorkerSettings) (zone : Zone) (fingerprint : IntentPayload → F) :
    Except PyError (G301EntranceWorker F) :=
  match h : settings.error with
  | some message => .error (.valueError message)
  | none =>
      match registry.entrances.find? (·.key = entranceKey) with
      | none => .error (.valueError ("unknown entrance_key: " ++ entranceKey))
      | some entrance =>
          if !entrance.enabled then
            .error (.valueError ("entrance is disabled: " ++ entranceKey))
          else .ok ⟨entranceKey, roomSlaveAddresses registry entranceKey, settings, zone,
            fingerprint, h⟩

inductive Interaction where
  | write (slaveAddress address : ℕ) (value : ℤ) (answer : Except ClientFailure Unit)
  | read (slaveAddress address count : ℕ) (answer : Except ClientFailure (List ℤ))
  | clock (reading : Instant)

abbrev IntentStates (F : Type) := String → Option (RoomIntentState F)

-- An interaction of the current call, and the states of the rooms while it was under way.
structure Moment (F : Type) where
  interaction : Interaction
  states : IntentStates F

structure WorkerState (E F : Type) where
  env : E
  intentStates : IntentStates F
  slaveFailures : ℕ → Option SlaveFailureState
  moments : List (Moment F)

abbrev WorkerM (E F α : Type) := EStateM AdapterError (WorkerState E F) α

section Steps

variable {E F α : Type}

def interact (f : E → α × E) (note : α → Interaction) : WorkerM E F α := fun s =>
  .ok (f s.env).1 { s with
    env := (f s.env).2
    moments := s.moments ++ [⟨note (f s.env).1, s.intentStates⟩] }

def readClock (env : G301Environment E) : WorkerM E F Instant := interact env.clock .clock

def clientWrite (env : G301Environment E) (slaveAddress address : ℕ) (value : ℤ) :
    WorkerM E F (Except ClientFailure Unit) :=
  interact (env.writeRegister · slaveAddress address value) (.write slaveAddress address value)

def clientRead (env : G301Environment E) (slaveAddress address count : ℕ) :
    WorkerM E F (Except ClientFailure (List ℤ)) :=
  interact (env.readHoldingRegisters · slaveAddress address count)
    (.read slaveAddress address count)

def sleep (env : G301Environment E) (seconds : ℚ) : WorkerM E F Unit := fun s =>
  if (env.sleep s.env seconds).1 then .error .other { s with env := (env.sleep s.env seconds).2 }
  else .ok () { s with env := (env.sleep s.env seconds).2 }

def sleepUnlessZero (env : G301Environment E) (seconds : ℚ) : WorkerM E F Unit :=
  if seconds = 0 then pure () else sleep env seconds

def modifyRoom (roomKey : String) (f : RoomIntentState F → RoomIntentState F) :
    WorkerM E F Unit :=
  modify fun s => { s with
    intentStates := Function.update s.intentStates roomKey ((s.intentStates roomKey).map f) }

def modifyAttempt (roomKey : String) (f : IntentAttempt F → IntentAttempt F) :
    WorkerM E F Unit :=
  modifyRoom roomKey fun state => { state with currentAttempt := state.currentAttempt.map f }

def currentAttempt (roomKey : String) : WorkerM E F (Option (IntentAttempt F)) := do
  let s ← get
  return (s.intentStates roomKey).bind (·.currentAttempt)

variable (w : G301EntranceWorker F) (env : G301Environment E)

-- One pass of the loop of _with_retry per attempt that is left.
def withRetryFrom (operation : WorkerM E F (Except ClientFailure α)) :
    (attempt remaining : ℕ) → Option G301TransportError → WorkerM E F α
  | _, 0, none => throw .assertion
  | _, 0, some lastError => throw (.transport lastError)
  | attempt, remaining + 1, _ => do
      match ← operation with
      | .ok value => return value
      | .error .timeout =>
          backoff attempt remaining
          withRetryFrom operation (attempt + 1) remaining
            (some (g301TransportTimeout "G301 operation timed out"))
      | .error (.transport error) =>
          if !error.retryable then throw (.transport error)
          else do
            backoff attempt remaining
            withRetryFrom operation (attempt + 1) remaining (some error)
      | .error (.valueError message) => throw (.valueError message)
      | .error .other => throw .other
where
  backoff (attempt remaining : ℕ) : WorkerM E F Unit :=
    if remaining = 0 then pure ()
    else sleepUnlessZero env (w.settings.retryBackoffSeconds * 2 ^ attempt)

def withRetry (operation : WorkerM E F (Except ClientFailure α)) : WorkerM E F α :=
  withRetryFrom w env operation 0 w.settings.maxOperationAttempts none

def readOne (slaveAddress address : ℕ) : WorkerM E F ℤ := do
  match ← withRetry w env (clientRead env slaveAddress address 1) with
  | [value] => return value
  | _ => throw (.transport (g301ProtocolError "G301 register read returned an incomplete response"))

def writeOne (slaveAddress : ℕ) (write : RegisterWrite) : WorkerM E F Unit :=
  withRetry w env (clientWrite env slaveAddress write.address write.value)

def readDeviceProfile (slaveAddress : ℕ) : WorkerM E F G301DeviceProfile := do
  let capabilitiesRaw ← readOne w env slaveAddress G301Register.capabilities.address
  match ← withRetry w env
      (clientRead env slaveAddress G301Register.modeLimitation.address 3) with
  | [modeLimitationRaw, upperTemperatureRaw, lowerTemperatureRaw] =>
      match buildDeviceProfile capabilitiesRaw modeLimitationRaw upperTemperatureRaw
          lowerTemperatureRaw with
      | .ok profile => return profile
      | .error e => throw (.planning e.text)
  | _ => throw (.transport (g301ProtocolError "G301 limit read returned an incomplete response"))

def readPass (slaveAddress : ℕ) : List ReadbackExpectation → Observed → WorkerM E F Observed
  | [], observed => return observed
  | expectation :: rest, observed => do
      let value ← readOne w env slaveAddress expectation.address
      readPass slaveAddress rest (Function.update observed expectation.address (some value))

def readbackFrom (plan : G301Plan) : (remaining : ℕ) → Observed → WorkerM E F Observed
  | 0, observed => return observed
  | remaining + 1, _ => do
      let observed ← readPass w env plan.slaveAddress plan.readbackExpectations fun _ => none
      if compareReadback plan observed = [] then return observed
      else do
        if remaining = 0 then pure () else sleepUnlessZero env w.settings.readbackDelaySeconds
        readbackFrom plan remaining observed

def readback (plan : G301Plan) : WorkerM E F Observed :=
  readbackFrom w env plan w.settings.readbackAttempts fun _ => none

def hexDigit (n : ℕ) : Char := Char.ofNat (if n < 10 then 48 + n else 55 + n)

def hexAddress (address : ℕ) : String :=
  "0x" ++ String.ofList [hexDigit (address / 4096 % 16), hexDigit (address / 256 % 16),
    hexDigit (address / 16 % 16), hexDigit (address % 16)]

def executionResult (intent : DesiredRoomIntent) (status : ExecutionStatus)
    (message : Option ResultMessage) (registerWrites : List RegisterWriteResult)
    (mismatches : List (String × MismatchDetail)) : IntentExecutionResult where
  schemaVersion := 1
  roomKey := intent.roomKey
  intentVersion := intent.intentVersion
  adapterKey := "g301"
  handledComponents := ["hvac"]
  status := status
  message := message
  registerWrites := registerWrites
  mismatches := mismatches
  correlationId := intent.correlationId

def bareResult (intent : DesiredRoomIntent) (status : ExecutionStatus)
    (message : ResultMessage) : IntentExecutionResult :=
  executionResult intent status (some message) [] []

def transportFailureStatus (error : G301TransportError) : ExecutionStatus :=
  match error.kind with
  | .deviceOffline => .deviceOffline
  | .timeout => .timeout
  | .modbusException => .modbusException
  | .protocolError => .failed
  | .transportError => .failed

def transportFailureResult (intent : DesiredRoomIntent) (error : G301TransportError)
    (registerWrites : List RegisterWriteResult) : IntentExecutionResult :=
  executionResult intent (transportFailureStatus error) (some (.text error.message))
    registerWrites []

def slaveFailureState (s : WorkerState E F) (slaveAddress : ℕ) : SlaveFailureState :=
  (s.slaveFailures slaveAddress).getD ⟨0, none⟩

def secondMicros : ℚ := 1000000

def slaveRetryDelay (failures : ℕ) : ℚ :=
  min (w.settings.slaveRetryBaseSeconds * 2 ^ min (failures - 1) 16)
    w.settings.slaveRetryMaxSeconds

def recordSlaveFailure (slaveAddress : ℕ) : WorkerM E F Unit := do
  let s ← get
  let failures := (slaveFailureState s slaveAddress).consecutiveFailures + 1
  let reading ← readClock env
  modify fun s => { s with
    slaveFailures := Function.update s.slaveFailures slaveAddress
      (some ⟨failures, some (reading + slaveRetryDelay w failures * secondMicros)⟩) }

def recordSlaveSuccess (slaveAddress : ℕ) : WorkerM E F Unit :=
  modify fun s => { s with slaveFailures := Function.update s.slaveFailures slaveAddress none }

-- The slave's retry_after, while it lies ahead.
def cooldown (s : WorkerState E F) (slaveAddress : ℕ) (reading : Instant) : Option ℚ :=
  (slaveFailureState s slaveAddress).retryAfter.filter fun retryAfter => (reading : ℚ) < retryAfter

def cooldownResult (intent : DesiredRoomIntent) (retryAfter : ℚ) : IntentExecutionResult :=
  bareResult intent .deviceOffline (.retryCooldown retryAfter)

def RoomIntentState.markTerminal (state : RoomIntentState F) (result : IntentExecutionResult)
    (applied : Bool) : RoomIntentState F :=
  match state.currentAttempt with
  | none => state
  | some attempt =>
      { state with
        currentAttempt :=
          some { attempt with phase := .terminal, cachedResult := some result }
        lastTerminalVersion := some attempt.version
        lastAppliedVersion := if applied then some attempt.version else state.lastAppliedVersion }

def markTerminal (roomKey : String) (result : IntentExecutionResult) (applied : Bool) :
    WorkerM E F IntentExecutionResult := do
  modifyRoom roomKey (·.markTerminal result applied)
  return result

def mismatchDetails (mismatches : List ReadbackMismatch) : List (String × MismatchDetail) :=
  mismatches.map fun m => (hexAddress m.address, ⟨m.expected, m.observed, m.description⟩)

def verificationResult (intent : DesiredRoomIntent) (completedWrites : List RegisterWriteResult)
    (mismatches : List ReadbackMismatch) : IntentExecutionResult :=
  if mismatches = [] then executionResult intent .applied none completedWrites []
  else executionResult intent .readbackMismatch
    (some (.text "G301 actual state did not match the desired state")) completedWrites
    (mismatchDetails mismatches)

def unconfirmedResult (intent : DesiredRoomIntent) (error : G301TransportError)
    (completedWrites : List RegisterWriteResult) : IntentExecutionResult :=
  executionResult intent .appliedUnconfirmed
    (some (.text ("write outcome is uncertain and status verification failed: " ++
      error.message))) completedWrites []

def verifyAttempt (intent : DesiredRoomIntent) (terminalOnMismatch : Bool) :
    WorkerM E F (Option IntentExecutionResult) := do
  match ← currentAttempt intent.roomKey with
  | none => throw .assertion
  | some attempt =>
      match attempt.plan with
      | none => throw .assertion
      | some plan =>
          match ← trying (readback w env plan) with
          | .error (.transport error) =>
              let result := unconfirmedResult intent error attempt.completedWrites
              if !error.retryable then do
                let result ← markTerminal intent.roomKey result false
                return some result
              else return some result
          | .error e => throw e
          | .ok observed =>
              let mismatches := compareReadback plan observed
              if mismatches ≠ [] ∧ !terminalOnMismatch then return none
              else do
                let result ← markTerminal intent.roomKey
                  (verificationResult intent attempt.completedWrites mismatches)
                  (mismatches = [])
                return some result

def writeAll (slaveAddress : ℕ) (roomKey : String) : List RegisterWrite → WorkerM E F Unit
  | [] => return ()
  | write :: rest => do
      writeOne w env slaveAddress write
      modifyAttempt roomKey fun attempt =>
        { attempt with
          completedWrites :=
            attempt.completedWrites ++ [⟨hexAddress write.address, write.value⟩] }
      writeAll slaveAddress roomKey rest

def writeFailed (intent : DesiredRoomIntent) (slaveAddress : ℕ) (error : G301TransportError) :
    WorkerM E F IntentExecutionResult := do
  let attempt ← currentAttempt intent.roomKey
  let result := transportFailureResult intent error ((attempt.map (·.completedWrites)).getD [])
  if !error.retryable then markTerminal intent.roomKey result false
  else do
    modifyAttempt intent.roomKey ({ · with phase := .verificationPending })
    recordSlaveFailure w env slaveAddress
    return result

-- The second half of _execute_intent, from the moment it has a plan.
def writeAndVerify (intent : DesiredRoomIntent) (slaveAddress : ℕ) (plan : G301Plan) :
    WorkerM E F IntentExecutionResult := do
  modifyAttempt intent.roomKey ({ · with plan := some plan, phase := .writing })
  match ← trying (writeAll w env slaveAddress intent.roomKey plan.writes) with
  | .error (.transport error) => writeFailed w env intent slaveAddress error
  | .error e => throw e
  | .ok () => do
      modifyAttempt intent.roomKey ({ · with phase := .verificationPending })
      match ← verifyAttempt w env intent true with
      | none => throw .assertion
      | some result => do
          if result.status = .applied ∨ result.status = .readbackMismatch then
            recordSlaveSuccess slaveAddress
          else if result.status = .appliedUnconfirmed then
            recordSlaveFailure w env slaveAddress
          return result

def makePlan (intent : DesiredRoomIntent) (slaveAddress : ℕ) : WorkerM E F G301Plan := do
  let profile ←
    if intent.hvac.enabled ∧ intent.hvac.mode ≠ .off then do
      let profile ← readDeviceProfile w env slaveAddress
      pure (some profile)
    else pure none
  match planRoomIntent intent slaveAddress profile with
  | .ok plan => return plan
  | .error e => throw e

def planFailed (intent : DesiredRoomIntent) (slaveAddress : ℕ) (e : AdapterError) :
    WorkerM E F IntentExecutionResult :=
  match e with
  | .planning message =>
      markTerminal intent.roomKey (bareResult intent .rejected (.text message)) false
  | .valueError message =>
      markTerminal intent.roomKey (bareResult intent .rejected (.text message)) false
  | .transport error =>
      if !error.retryable then
        markTerminal intent.roomKey (transportFailureResult intent error []) false
      else do
        recordSlaveFailure w env slaveAddress
        return transportFailureResult intent error []
  | e => throw e

def executeIntent (intent : DesiredRoomIntent) (slaveAddress : ℕ) :
    WorkerM E F IntentExecutionResult := do
  modifyAttempt intent.roomKey
    ({ · with phase := .retryable, plan := none, completedWrites := [] })
  let reading ← readClock env
  let skew := w.settings.validityClockSkewSeconds * secondMicros
  if intent.expiresAt.any fun expires =>
      decide ((expires.instant w.zone : ℚ) ≤ reading - skew) then
    markTerminal intent.roomKey
      (bareResult intent .expired (.text "intent validity window has expired")) false
  else if (reading : ℚ) + skew < intent.effectiveFrom.instant w.zone then
    return bareResult intent .notYetEffective (.text "intent effective_from is in the future")
  else do
    let s ← get
    match cooldown s slaveAddress reading with
    | some retryAfter => return cooldownResult intent retryAfter
    | none =>
        match ← trying (makePlan w env intent slaveAddress) with
        | .error e => planFailed w env intent slaveAddress e
        | .ok plan => writeAndVerify w env intent slaveAddress plan

def resumeVerification (intent : DesiredRoomIntent) (slaveAddress : ℕ) :
    WorkerM E F IntentExecutionResult := do
  let reading ← readClock env
  let s ← get
  match cooldown s slaveAddress reading with
  | some retryAfter => return cooldownResult intent retryAfter
  | none =>
      let attempt ← currentAttempt intent.roomKey
      if (attempt.bind (·.plan)).isNone then do
        modifyAttempt intent.roomKey ({ · with phase := .retryable })
        executeIntent w env intent slaveAddress
      else
        match ← verifyAttempt w env intent false with
        | some result => do
            if result.status = .applied then recordSlaveSuccess slaveAddress
            else if result.status = .appliedUnconfirmed then
              recordSlaveFailure w env slaveAddress
            return result
        | none => do
            modifyAttempt intent.roomKey ({ · with phase := .retryable })
            executeIntent w env intent slaveAddress

-- The execution of the attempt that the room state holds.
def executeCurrent (intent : DesiredRoomIntent) (slaveAddress : ℕ) :
    WorkerM E F IntentExecutionResult := do
  match ← currentAttempt intent.roomKey with
  | none => throw .assertion
  | some _ => executeIntent w env intent slaveAddress

def intentFingerprint (intent : DesiredRoomIntent) : F :=
  w.fingerprint { modelDump w.zone intent with intentVersion := 0, correlationId := 0 }

def RoomIntentState.empty (F : Type) : RoomIntentState F := ⟨none, none, none, none⟩

def RoomIntentState.register (state : RoomIntentState F) (version : ℕ) (fingerprint : F) :
    RoomIntentState F :=
  { state with
    lastSeenVersion := some version
    currentAttempt := some ⟨version, fingerprint, .retryable, none, [], none⟩ }

def applySeenIntent (intent : DesiredRoomIntent) (slaveAddress : ℕ)
    (state : RoomIntentState F) [DecidableEq F] : WorkerM E F IntentExecutionResult :=
  match state.currentAttempt with
  | none => throw (.runtimeError "G301 intent version state is inconsistent")
  | some attempt =>
      if attempt.version ≠ intent.intentVersion then
        throw (.runtimeError "G301 intent version state is inconsistent")
      else if attempt.payloadFingerprint ≠ intentFingerprint w intent then
        return bareResult intent .rejected
          (.text "same intent version was received with a different payload")
      else match attempt.phase with
        | .terminal =>
            match attempt.cachedResult with
            | none => throw .assertion
            | some cached => return { cached with correlationId := intent.correlationId }
        | .writing | .verificationPending => resumeVerification w env intent slaveAddress
        | .retryable => executeCurrent w env intent slaveAddress

def applyIntent [DecidableEq F] (intent : DesiredRoomIntent) :
    WorkerM E F IntentExecutionResult := do
  match w.roomSlaveAddresses.lookup intent.roomKey with
  | none =>
      return bareResult intent .skipped
        (.text "room has no configured G301 slave address for this entrance")
  | some slaveAddress => do
      modify fun s => { s with
        intentStates := Function.update s.intentStates intent.roomKey
          (some ((s.intentStates intent.roomKey).getD (.empty F))) }
      let s ← get
      let state := (s.intentStates intent.roomKey).getD (.empty F)
      match state.lastSeenVersion with
      | some seen =>
          if intent.intentVersion < seen then
            return bareResult intent .stale
              (.text ("intent version is older than seen version " ++ toString seen))
          else if seen < intent.intentVersion then do
            modifyRoom intent.roomKey
              (·.register intent.intentVersion (intentFingerprint w intent))
            executeCurrent w env intent slaveAddress
          else applySeenIntent w env intent slaveAddress state
      | none => do
          modifyRoom intent.roomKey
            (·.register intent.intentVersion (intentFingerprint w intent))
          executeCurrent w env intent slaveAddress

end Steps

end ClockOrchestrator
