import Mathlib.Tactic.Common

namespace ClockOrchestrator

inductive BookingStatus where
  | expected
  | checkedIn
  | checkedOut
  | canceled
  | noShow
  | unknown
  deriving DecidableEq, Repr

inductive AutomationPhase where
  | vacant
  | reserved
  | awaitingAssignment
  | preArrival
  | occupied
  | checkoutDue
  | manualOverride
  | disabled
  | conflict
  | unknown
  deriving DecidableEq, Repr

inductive ControlMode where
  | automatic
  | manual
  | off
  deriving DecidableEq, Repr

def ControlMode.value : ControlMode → String
  | .automatic => "automatic"
  | .manual => "manual"
  | .off => "off"

inductive ManualHvacMode where
  | off
  | heat
  | cool
  | auto
  deriving DecidableEq, Repr

def ManualHvacMode.value : ManualHvacMode → String
  | .off => "off"
  | .heat => "heat"
  | .cool => "cool"
  | .auto => "auto"

inductive AttentionReason where
  | none
  | unknownClockStatus
  | missingPhysicalRoom
  | overlappingActiveBookings
  | invalidPolicy
  | rejectedManualCommand
  | clockSyncStale
  deriving DecidableEq, Repr

end ClockOrchestrator
