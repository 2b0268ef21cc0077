import ClockOrchestrator.Python.Float

namespace ClockOrchestrator

open Python

inductive TransportErrorKind where
  | transportError
  | timeout
  | modbusException
  | deviceOffline
  | protocolError
  deriving DecidableEq, Repr

-- retryable is an attribute of the class, which a transport may override.
structure G301TransportError where
  kind : TransportErrorKind
  message : String
  retryable : Bool
  deriving DecidableEq, Repr

def g301TransportTimeout (message : String) : G301TransportError := ⟨.timeout, message, true⟩

def g301ProtocolError (message : String) : G301TransportError := ⟨.protocolError, message, false⟩

-- How a call of the client may fail: it overruns its deadline, it raises an error of the
-- transport or a ValueError, or anything else escapes from it, a cancellation included.
inductive ClientFailure where
  | timeout
  | transport (error : G301TransportError)
  | valueError (message : String)
  | other
  deriving DecidableEq, Repr

-- Exceptions inside the adapter. A G301PlanningError is a ValueError that the worker can tell
-- apart.
inductive AdapterError where
  | transport (error : G301TransportError)
  | planning (message : String)
  | valueError (message : String)
  | assertion
  | runtimeError (message : String)
  | other
  deriving DecidableEq, Repr

-- What a worker runs against: the register client on its bus and the clock of its process.
-- A sleep may be cancelled.
structure G301Environment (E : Type) where
  writeRegister : E → (slaveAddress address : ℕ) → (value : ℤ) → Except ClientFailure Unit × E
  readHoldingRegisters : E → (slaveAddress address count : ℕ) →
    Except ClientFailure (List ℤ) × E
  clock : E → Instant × E
  sleep : E → (seconds : ℚ) → Bool × E

end ClockOrchestrator
