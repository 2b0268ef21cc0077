import ClockOrchestrator.Persistence.Models

namespace ClockOrchestrator

open Python

def pmsStatePayload (z : Zone) (state : RoomStateEvaluation) (correlationId : UUID) :
    PmsPayload where
  schemaVersion := 1
  roomKey := state.roomKey
  automationPhase := state.phase
  bookingStatus := state.booking.map (·.bookingStatus)
  clockBookingId := state.booking.map (·.clockBookingId)
  arrival := state.booking.map (·.arrivalDate)
  departure := state.booking.map (·.departureDate)
  needsAttention := state.needsAttention
  attentionReason := state.attentionReason
  reason := state.reason
  effectiveFrom := state.effectiveFrom.isoformat z
  expiresAt := state.expiresAt.map (·.isoformat z)
  correlationId := correlationId

def modelDump (z : Zone) (intent : DesiredRoomIntent) : IntentPayload where
  schemaVersion := 1
  roomKey := intent.roomKey
  intentVersion := intent.intentVersion
  automationPhase := intent.automationPhase
  controlMode := intent.controlMode
  effectiveFrom := intent.effectiveFrom.isoformat z
  expiresAt := intent.expiresAt.map (·.isoformat z)
  hvac := intent.hvac
  waterHeater := intent.waterHeater
  convectors := intent.convectors
  reason := intent.reason
  correlationId := intent.correlationId

structure HashedBooking where
  clockBookingId : String
  bookingStatus : BookingStatus
  arrival : Date
  departure : Date
  physicalRoomId : Option String
  physicalRoomNumber : Option String
  deriving DecidableEq

structure StableIntent where
  roomKey : String
  automationPhase : AutomationPhase
  controlMode : ControlMode
  expiresAt : Option (Int × Int)
  hvac : HvacIntent
  waterHeater : BinaryIntent
  convectors : BinaryIntent
  reason : String
  deriving DecidableEq

structure RoomStateDocument where
  roomKey : Option String
  phase : AutomationPhase
  booking : Option HashedBooking
  needsAttention : Bool
  attentionReason : AttentionReason
  reason : String
  expiresAt : Option (Int × Int)
  intent : Option StableIntent
  deriving DecidableEq

def stablePayload (z : Zone) (intent : DesiredRoomIntent) : StableIntent where
  roomKey := intent.roomKey
  automationPhase := intent.automationPhase
  controlMode := intent.controlMode
  expiresAt := intent.expiresAt.map (·.isoformat z)
  hvac := intent.hvac
  waterHeater := intent.waterHeater
  convectors := intent.convectors
  reason := intent.reason

def hashedBooking (booking : NormalizedBooking) : HashedBooking where
  clockBookingId := booking.clockBookingId
  bookingStatus := booking.bookingStatus
  arrival := booking.arrivalDate
  departure := booking.departureDate
  physicalRoomId := booking.physicalRoomId
  physicalRoomNumber := booking.physicalRoomNumber

-- What _room_state_hash feeds to SHA-256.
def roomStateDocument (z : Zone) (state : RoomStateEvaluation)
    (intent : Option DesiredRoomIntent) : RoomStateDocument where
  roomKey := state.roomKey
  phase := state.phase
  booking := state.booking.map hashedBooking
  needsAttention := state.needsAttention
  attentionReason := state.attentionReason
  reason := state.reason
  expiresAt := state.expiresAt.map (·.isoformat z)
  intent := intent.map (stablePayload z)

end ClockOrchestrator
