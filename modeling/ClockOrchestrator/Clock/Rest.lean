import ClockOrchestrator.Clock.Poll
import ClockOrchestrator.Python.Json

namespace ClockOrchestrator

open Python

structure ClockError where
  className : String
  message : String
  deriving DecidableEq

def ClockError.mappingRequired (message : String) : ClockError := ⟨"ClockMappingRequired", message⟩

structure ClockCollectionContract where
  endpointPath : String
  documentationReference : String
  responseItemsKey : Option String := none
  nextCursorKey : Option String := none
  cursorQueryParam : Option String := none
  updatedSinceFilter : Option String := none

structure ClockApiContract where
  bookings : ClockCollectionContract
  rooms : ClockCollectionContract
  physicalRoomFieldsConfirmed : Bool := false

def ClockApiContract.missingParts (contract : ClockApiContract) : List String :=
  (if contract.bookings.documentationReference = "" then ["bookings.documentation_reference"]
    else []) ++
  (if contract.rooms.documentationReference = "" then ["rooms.documentation_reference"] else []) ++
  (if contract.physicalRoomFieldsConfirmed then [] else ["physical_room_fields_confirmed"])

def ClockApiContract.requireLiveReady (contract : ClockApiContract) : Except ClockError Unit :=
  if contract.missingParts ≠ [] then
    .error (.mappingRequired ("Live Clock contract is incomplete; missing verified parts: " ++
      String.intercalate ", " contract.missingParts))
  else .ok ()

def requireConfirmedContract (contract : Option ClockApiContract) :
    Except ClockError ClockApiContract :=
  match contract with
  | none => .error (.mappingRequired
      ("Live Clock adapter is disabled until a verified ClockApiContract is supplied " ++
        "from official Clock documentation or sanitized sandbox evidence."))
  | some contract => contract.requireLiveReady.map fun _ => contract

-- A query parameter is a text, or a timestamp in the text that isoformat() gives it.
inductive QueryValue where
  | isoformat (t : Timestamp)
  | text (value : String)
  deriving DecidableEq

structure ClockRequest where
  path : String
  params : List (String × QueryValue)
  deriving DecidableEq

def putParam (params : List (String × QueryValue)) (name : String) (value : QueryValue) :
    List (String × QueryValue) :=
  if params.any (·.1 = name) then params.map fun p => if p.1 = name then (name, value) else p
  else params ++ [(name, value)]

def bookingsRequest (contract : ClockCollectionContract) (updatedSince : Option Timestamp)
    (cursor : Option String) : Except ClockError ClockRequest := do
  let mut params := []
  if let some since := updatedSince then
    match contract.updatedSinceFilter with
    | none => throw (.mappingRequired
        "Clock bookings incremental filter is not verified in the live contract")
    | some filter => params := putParam params filter (.isoformat since)
  if let some value := cursor then
    match contract.nextCursorKey, contract.cursorQueryParam with
    | some _, some param => params := putParam params param (.text value)
    | _, _ => throw (.mappingRequired
        "Clock bookings pagination is not verified in the live contract")
  return ⟨contract.endpointPath, params⟩

def givenKey (key : Option String) : Option String := key.filter (· ≠ "")

def getEntry (entries : List (String × JsonValue)) (key : String) : Option JsonValue :=
  (entries.find? (·.1 = key)).map (·.2)

def readCursor (isprintable : Char → Bool) (contract : ClockCollectionContract)
    (entries : List (String × JsonValue)) : Option String :=
  ((givenKey contract.nextCursorKey).bind (getEntry entries)).bind fun value =>
    if value.isNone then none else some (value.pyStr isprintable)

def readPage (isprintable : Char → Bool) (contract : ClockCollectionContract)
    (payload : JsonValue) : Except ClockError (ClockPage JsonValue) :=
  match contract.responseItemsKey, payload with
  | none, .array items => .ok ⟨items, none⟩
  | some key, .object entries =>
      match (givenKey (some key)).bind (getEntry entries) with
      | some (.array items) => .ok ⟨items, readCursor isprintable contract entries⟩
      | _ => .error (.mappingRequired
          "Clock bookings response shape does not match verified contract")
  | _, _ => .error (.mappingRequired
      "Clock bookings response shape does not match verified contract")

-- What _get_json returns or raises may depend on the requests before.
abbrev ClockServer := List ClockRequest → ClockRequest → Except ClockError JsonValue

def listBookings (isprintable : Char → Bool) (contract : Option ClockApiContract)
    (getJson : ClockRequest → Except ClockError JsonValue) (updatedSince : Option Timestamp)
    (cursor : Option String) : Except ClockError (ClockPage JsonValue) := do
  let contract ← requireConfirmedContract contract
  let request ← bookingsRequest contract.bookings updatedSince cursor
  let payload ← getJson request
  readPage isprintable contract.bookings payload

def sentRequest (contract : Option ClockApiContract) (call : ListCall) : Option ClockRequest :=
  (do
    let contract ← requireConfirmedContract contract
    bookingsRequest contract.bookings (some call.updatedSince) call.cursor).toOption

def restClient (isprintable : Char → Bool) (contract : Option ClockApiContract)
    (server : ClockServer) : ClockClient JsonValue := fun calls call =>
  (listBookings isprintable contract (server (calls.filterMap (sentRequest contract)))
    (some call.updatedSince) call.cursor).mapError (·.className)

end ClockOrchestrator
