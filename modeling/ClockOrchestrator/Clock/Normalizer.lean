import ClockOrchestrator.Domain.Models
import ClockOrchestrator.Python.Calendar
import ClockOrchestrator.Python.JsonText
import Mathlib.Data.List.Infix

namespace ClockOrchestrator

open Python

structure ClockFieldMapping where
  bookingId : String
  status : String
  arrivalDate : String
  departureDate : String
  updatedAt : Option String := none
  createdAt : Option String := none
  statusChangedAt : Option String := none
  bookingNumber : Option String := none
  externalSource : Option String := none
  externalReference : Option String := none
  roomTypeId : Option String := none
  roomTypeName : Option String := none
  physicalRoomId : Option String := none
  physicalRoomNumber : Option String := none
  adults : Option String := none
  children : Option String := none

-- A JSON object as both Clock clients hand it over.
structure ClockPayload where
  entries : List (String × JsonValue)
  distinct : (entries.map (·.1)).Nodup

-- What the normalizer calls: str.isprintable, int(), datetime.fromisoformat and the hex digest.
structure PyLibrary where
  isprintable : Char → Bool
  toInt : JsonValue → Except PyError ℤ
  datetimeFromIso : String → Except PyError Timestamp
  sha256 : List Char → String

def statusMap : List (String × BookingStatus) :=
  [("expected", .expected), ("checked_in", .checkedIn), ("checked_out", .checkedOut),
    ("canceled", .canceled), ("no_show", .noShow)]

def piiMarkers : List String :=
  ["guest", "email", "e_mail", "phone", "card", "address", "note", "passport"]

-- No marker is found in what lower() makes of letters other than A to Z.
def isPii (key : String) : Bool :=
  piiMarkers.any fun marker => marker.toList <:+: key.toList.map lower

def stripPii (entries : List (String × JsonValue)) : List (String × JsonValue) :=
  entries.filter fun e => !isPii e.1

def ClockPayload.find (payload : ClockPayload) (key : String) : Option JsonValue :=
  (payload.entries.find? (·.1 = key)).map (·.2)

def ClockPayload.get (payload : ClockPayload) (key : String) : JsonValue :=
  (payload.find key).getD (.scalar .null)

def requireField (payload : ClockPayload) (key : String) : Except PyError JsonValue :=
  if (payload.get key).isNone then
    .error (.valueError ("required Clock field missing: " ++ key))
  else .ok (payload.get key)

def nonNegative : Option ℤ → Except PyError (Option ℕ)
  | none => .ok none
  | some n =>
      if 0 ≤ n then .ok (some n.toNat)
      else .error (.valueError "Input should be greater than or equal to 0")

section Normalizer

variable (lib : PyLibrary)

def payloadHash (payload : ClockPayload) : String :=
  lib.sha256 (JsonValue.object (stripPii payload.entries)).dumps

def optionalStr (payload : ClockPayload) (key : Option String) : Option String :=
  key.bind fun key =>
    if (payload.get key).isNone then none
    else some ((payload.get key).pyStr lib.isprintable)

def optionalInt (payload : ClockPayload) (key : Option String) : Except PyError (Option ℤ) :=
  match key with
  | none => .ok none
  | some key =>
      if (payload.get key).isNone then .ok none
      else (lib.toInt (payload.get key)).map some

def optionalDatetime (payload : ClockPayload) (key : Option String) :
    Except PyError (Option Timestamp) :=
  match optionalStr lib payload key with
  | none => .ok none
  | some text =>
      let replaced := text.toList.flatMap fun c => if c = 'Z' then "+00:00".toList else [c]
      (lib.datetimeFromIso (String.ofList replaced)).map some

def parseDate (value : JsonValue) : Except PyError Date :=
  let text := value.pyStr lib.isprintable
  match dateFromIso text.toList with
  | some date => .ok date
  | none =>
      .error (.valueError
        ("Invalid isoformat string: " ++ String.ofList (reprStr lib.isprintable text)))

def bookingStatusOf (sourceStatus : String) : BookingStatus :=
  ((statusMap.find? (·.1 = sourceStatus)).map (·.2)).getD .unknown

def normalizeBookingPayload (payload : ClockPayload) (propertyId : String)
    (mapping : ClockFieldMapping) (firstSeenAt lastSeenAt : Timestamp) :
    Except PyError NormalizedBooking := do
  let sourceStatus ← (requireField payload mapping.status).map (·.pyStr lib.isprintable)
  let clockBookingId ← (requireField payload mapping.bookingId).map (·.pyStr lib.isprintable)
  let arrivalDate ← requireField payload mapping.arrivalDate >>= parseDate lib
  let departureDate ← requireField payload mapping.departureDate >>= parseDate lib
  let createdAt ← optionalDatetime lib payload mapping.createdAt
  let updatedAt ← optionalDatetime lib payload mapping.updatedAt
  let statusChangedAt ← optionalDatetime lib payload mapping.statusChangedAt
  let adults ← optionalInt lib payload mapping.adults
  let children ← optionalInt lib payload mapping.children
  let adults ← nonNegative adults
  let children ← nonNegative children
  let status := bookingStatusOf sourceStatus
  if hdates : arrivalDate ≤ departureDate then
    return {
      propertyId := propertyId
      clockBookingId := clockBookingId
      bookingNumber := optionalStr lib payload mapping.bookingNumber
      externalSource := optionalStr lib payload mapping.externalSource
      externalReference := optionalStr lib payload mapping.externalReference
      bookingStatus := status
      sourceBookingStatus := sourceStatus
      arrivalDate := arrivalDate
      departureDate := departureDate
      createdAt := createdAt
      updatedAt := updatedAt
      statusChangedAt := statusChangedAt
      roomTypeId := optionalStr lib payload mapping.roomTypeId
      roomTypeName := optionalStr lib payload mapping.roomTypeName
      physicalRoomId := optionalStr lib payload mapping.physicalRoomId
      physicalRoomNumber := optionalStr lib payload mapping.physicalRoomNumber
      adults := adults
      children := children
      firstSeenAt := some firstSeenAt
      lastSeenAt := some lastSeenAt
      payloadHash := payloadHash lib payload
      needsAttention := status = .unknown
      attentionReason := if status = .unknown then .unknownClockStatus else .none
      datesOrdered := hdates
      unknownNeedsAttention := decide_eq_true }
  else .error (.valueError "departure_date cannot be before arrival_date")

end Normalizer

end ClockOrchestrator
