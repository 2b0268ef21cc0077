import ClockOrchestrator.Domain.Models
import Mathlib.Data.List.Sort

namespace ClockOrchestrator

open Python

def arrivalAt (booking : NormalizedBooking) (policy : HotelPolicy) : Datetime :=
  .combine booking.arrivalDate policy.property.defaultCheckInTime

def checkoutAt (booking : NormalizedBooking) (policy : HotelPolicy) : Datetime :=
  .combine booking.departureDate policy.property.defaultCheckOutTime

def leadStart (booking : NormalizedBooking) (policy : HotelPolicy) : Except PyError Datetime :=
  (arrivalAt booking policy).subMinutes policy.automation.preArrivalLeadMinutes

def bookingsOverlap (left right : NormalizedBooking) : Bool :=
  left.arrivalDate < right.departureDate && right.arrivalDate < left.departureDate

def roomIds (room : Room) : List String :=
  [room.clockRoomId, some room.key].reduceOption.filter (· ≠ "")

def namesRoom (room : Room) (booking : NormalizedBooking) : Bool :=
  (match booking.physicalRoomId with
    | some id => decide (id ∈ roomIds room)
    | none => false) ||
  decide (booking.physicalRoomNumber = some room.key)

def activeBookingsForRoom (room : Room) (bookings : List NormalizedBooking) (onDate : Date) :
    List NormalizedBooking :=
  bookings.filter fun booking =>
    booking.activeForAutomation && namesRoom room booking && onDate ≤ booking.departureDate

def unknownInRoom (room : Room) (booking : NormalizedBooking) : Bool :=
  decide (booking.bookingStatus = .unknown) &&
    (decide (booking.physicalRoomId = room.clockRoomId) ||
      decide (booking.physicalRoomNumber = some room.key))

def evaluateUnassignedBooking (booking : NormalizedBooking) (now : Datetime)
    (policy : HotelPolicy) : Except PyError (Option RoomStateEvaluation) := do
  if booking.bookingStatus ≠ .expected || booking.hasPhysicalRoom then
    return none
  let start ← leadStart booking policy
  if Datetime.le policy.zone start now then
    return some {
      roomKey := none
      phase := .awaitingAssignment
      booking := some booking
      needsAttention := true
      attentionReason := .missingPhysicalRoom
      reason := "expected_arrival_inside_preparation_window_without_physical_room"
      effectiveFrom := now
      expiresAt := some (checkoutAt booking policy) }
  return none

def firstConflict : List NormalizedBooking → Option NormalizedBooking
  | [] => none
  | left :: rest => if rest.any (bookingsOverlap left) then some left else firstConflict rest

def firstBy (z : Zone) (key : NormalizedBooking → Datetime) (bookings : List NormalizedBooking) :
    Option NormalizedBooking :=
  (bookings.insertionSort fun a b => Datetime.le z (key a) (key b)).head?

def selectRelevantBooking (bookings : List NormalizedBooking) (policy : HotelPolicy) :
    Option NormalizedBooking :=
  let checkedIn := bookings.filter (·.bookingStatus = .checkedIn)
  let expected := bookings.filter (·.bookingStatus = .expected)
  if checkedIn ≠ [] then firstBy policy.zone (checkoutAt · policy) checkedIn
  else if expected ≠ [] then firstBy policy.zone (arrivalAt · policy) expected
  else (bookings.insertionSort fun a b => a.arrivalDate ≤ b.arrivalDate).head?

def quietState (room : Room) (phase : AutomationPhase) (booking : Option NormalizedBooking)
    (reason : String) (effectiveFrom : Datetime) (expiresAt : Option Datetime) :
    RoomStateEvaluation where
  roomKey := some room.key
  phase := phase
  booking := booking
  needsAttention := false
  attentionReason := .none
  reason := reason
  effectiveFrom := effectiveFrom
  expiresAt := expiresAt

def attentionState (room : Room) (phase : AutomationPhase) (booking : NormalizedBooking)
    (attention : AttentionReason) (reason : String) (now : Datetime) : RoomStateEvaluation where
  roomKey := some room.key
  phase := phase
  booking := some booking
  needsAttention := true
  attentionReason := attention
  reason := reason
  effectiveFrom := now
  expiresAt := none

-- The part of evaluate_room that follows the override test.
def evaluateSelected (room : Room) (selected : NormalizedBooking) (now : Datetime)
    (policy : HotelPolicy) : Except PyError RoomStateEvaluation :=
  match selected.bookingStatus with
  | .checkedIn =>
      if Datetime.le policy.zone (checkoutAt selected policy) now then
        .ok (quietState room .checkoutDue (some selected)
          "departure_time_passed_without_clock_checkout" now none)
      else
        .ok (quietState room .occupied (some selected)
          "clock_reports_guest_checked_in" now (some (checkoutAt selected policy)))
  | .expected =>
      match leadStart selected policy with
      | .error e => .error e
      | .ok start =>
          if Datetime.le policy.zone start now then
            .ok (quietState room .preArrival (some selected)
              "expected_arrival_inside_preparation_window" start
              (some (checkoutAt selected policy)))
          else
            .ok (quietState room .reserved (some selected)
              "future_assigned_reservation_outside_preparation_window" now (some start))
  | _ =>
      .ok (quietState room .vacant (some selected) "booking_inactive_for_automation" now none)

def overrideActive (policy : HotelPolicy) (override : Option ManualOverride) (now : Datetime)
    (selected : NormalizedBooking) : Option ManualOverride :=
  override.filter fun o => o.isActive policy.zone now (some selected.clockBookingId)

-- The part that follows the filter for unknown statuses.
def evaluateCandidates (room : Room) (candidates : List NormalizedBooking) (now : Datetime)
    (policy : HotelPolicy) (override : Option ManualOverride) :
    Except PyError RoomStateEvaluation :=
  match firstConflict candidates with
  | some left =>
      .ok (attentionState room .conflict left .overlappingActiveBookings
        "overlapping_active_bookings_assigned_to_room" now)
  | none =>
      match selectRelevantBooking candidates policy with
      | none => .ok (quietState room .vacant none "no_active_assigned_reservation" now none)
      | some selected =>
          match overrideActive policy override now selected with
          | some o =>
              .ok (quietState room .manualOverride (some selected)
                "valid_manual_override_active" now o.expiresAt)
          | none => evaluateSelected room selected now policy

def evaluateRoom (room : Room) (bookings : List NormalizedBooking) (now : Datetime)
    (policy : HotelPolicy) (override : Option ManualOverride) :
    Except PyError RoomStateEvaluation :=
  if !room.enabled then
    .ok (quietState room .disabled none "room_disabled_by_configuration" now none)
  else
    match bookings.find? (unknownInRoom room) with
    | some unknown =>
        .ok (attentionState room .unknown unknown .unknownClockStatus
          "unknown_clock_status_suppresses_automatic_actions" now)
    | none =>
        evaluateCandidates room (activeBookingsForRoom room bookings now.date) now policy override

end ClockOrchestrator
