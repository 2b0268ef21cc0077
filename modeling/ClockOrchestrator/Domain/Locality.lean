import ClockOrchestrator.Domain.StateMachine
import ClockOrchestrator.Support.Thinning

namespace ClockOrchestrator

open Python Thinning

-- An identifier counts as present when it is not empty, as everywhere in the source.
def assignedTo (room : Room) (b : NormalizedBooking) : Bool :=
  (truthy b.physicalRoomId &&
    (b.physicalRoomId = some room.key || b.physicalRoomId = room.clockRoomId)) ||
  b.physicalRoomNumber = some room.key

theorem mem_roomIds {room : Room} {id : String} :
    id ∈ roomIds room ↔ id ≠ "" ∧ (id = room.key ∨ some id = room.clockRoomId) := by
  unfold roomIds
  cases hc : room.clockRoomId with
  | none =>
      have hk : [none, some room.key].reduceOption = [room.key] := rfl
      rw [hk, List.mem_filter, List.mem_singleton, decide_eq_true_eq]
      simp [and_comm]
  | some clock =>
      have hk : [some clock, some room.key].reduceOption = [clock, room.key] := rfl
      rw [hk, List.mem_filter, List.mem_pair, decide_eq_true_eq, Option.some.injEq,
        and_comm, or_comm]

theorem namesRoom_eq_assignedTo (room : Room) (b : NormalizedBooking) :
    namesRoom room b = assignedTo room b := by
  unfold namesRoom assignedTo
  congr 1
  cases b.physicalRoomId with
  | none => rfl
  | some id => rw [Bool.eq_iff_iff]; simp [truthy, mem_roomIds]

theorem mem_activeBookingsForRoom {room : Room} {b : NormalizedBooking}
    {bookings : List NormalizedBooking} {onDate : Date} :
    b ∈ activeBookingsForRoom room bookings onDate ↔
      b ∈ bookings ∧ b.activeForAutomation = true ∧ namesRoom room b = true ∧
        onDate ≤ b.departureDate := by
  simp [activeBookingsForRoom, and_assoc]

theorem mem_activeBookings_iff {room : Room} {b : NormalizedBooking}
    {bookings : List NormalizedBooking} {onDate : Date} :
    b ∈ activeBookingsForRoom room bookings onDate ↔
      b ∈ bookings ∧ b.activeForAutomation = true ∧ assignedTo room b = true ∧
        onDate ≤ b.departureDate := by
  rw [mem_activeBookingsForRoom, namesRoom_eq_assignedTo]

theorem activeBookingsForRoom_thins {room : Room} {kept bookings : List NormalizedBooking}
    (h : Thins (assignedTo room) kept bookings) (onDate : Date) :
    activeBookingsForRoom room kept onDate = activeBookingsForRoom room bookings onDate := by
  refine h.filter_eq fun b hb => ?_
  rw [← namesRoom_eq_assignedTo]
  simp only [Bool.and_eq_true] at hb
  exact hb.1.2

theorem evaluateSelected_phase_ne_unknown {room : Room} {selected : NormalizedBooking}
    {now : Datetime} {policy : HotelPolicy} {state : RoomStateEvaluation}
    (h : evaluateSelected room selected now policy = .ok state) : state.phase ≠ .unknown := by
  unfold evaluateSelected at h
  split at h
  · split at h <;> (cases h; simp [quietState])
  · split at h
    · cases h
    · split at h <;> (cases h; simp [quietState])
  · cases h; simp [quietState]

theorem evaluateCandidates_phase_ne_unknown {room : Room} {candidates : List NormalizedBooking}
    {now : Datetime} {policy : HotelPolicy} {override : Option ManualOverride}
    {state : RoomStateEvaluation}
    (h : evaluateCandidates room candidates now policy override = .ok state) :
    state.phase ≠ .unknown := by
  unfold evaluateCandidates at h
  split at h
  · cases h; simp [attentionState]
  · split at h
    · cases h; simp [quietState]
    · split at h
      · cases h; simp [quietState]
      · exact evaluateSelected_phase_ne_unknown h

theorem evaluateRoom_of_unknown {room : Room} {bookings : List NormalizedBooking}
    {now : Datetime} {policy : HotelPolicy} {override : Option ManualOverride}
    {unknown : NormalizedBooking} (he : room.enabled = true)
    (hf : bookings.find? (unknownInRoom room) = some unknown) :
    evaluateRoom room bookings now policy override =
      .ok (attentionState room .unknown unknown .unknownClockStatus
        "unknown_clock_status_suppresses_automatic_actions" now) := by
  simp [evaluateRoom, he, hf]

theorem find?_of_evaluateRoom_unknown {room : Room} {bookings : List NormalizedBooking}
    {now : Datetime} {policy : HotelPolicy} {override : Option ManualOverride}
    {state : RoomStateEvaluation} (h : evaluateRoom room bookings now policy override = .ok state)
    (hp : state.phase = .unknown) : bookings.find? (unknownInRoom room) = state.booking := by
  unfold evaluateRoom at h
  split at h
  · cases h; simp [quietState] at hp
  · split at h
    · next hf => cases h; simpa [attentionState] using hf
    · exact absurd hp (evaluateCandidates_phase_ne_unknown h)

theorem evaluateRoom_thins {room : Room} {kept bookings : List NormalizedBooking}
    (h : Thins (assignedTo room) kept bookings)
    (hf : kept.find? (unknownInRoom room) = bookings.find? (unknownInRoom room))
    (now : Datetime) (policy : HotelPolicy) (override : Option ManualOverride) :
    evaluateRoom room kept now policy override = evaluateRoom room bookings now policy override := by
  unfold evaluateRoom
  rw [hf, activeBookingsForRoom_thins h]

theorem evaluateRoom_local_iff (room : Room) (bookings : List NormalizedBooking)
    (now : Datetime) (policy : HotelPolicy) (override : Option ManualOverride) :
    (∀ kept, Thins (assignedTo room) kept bookings →
      evaluateRoom room kept now policy override = evaluateRoom room bookings now policy override) ↔
    (room.enabled = false ∨
      ∀ unknown, bookings.find? (unknownInRoom room) = some unknown →
        assignedTo room unknown = true) := by
  constructor
  · intro hlocal
    cases he : room.enabled with
    | false => exact .inl rfl
    | true =>
        refine .inr fun unknown hu => ?_
        have hkept := hlocal _ (.of_filter _ bookings)
        rw [evaluateRoom_of_unknown he hu] at hkept
        have hfound := find?_of_evaluateRoom_unknown hkept rfl
        have hmem := List.mem_of_find?_eq_some hfound
        exact (List.mem_filter.mp hmem).2
  · rintro (he | hassigned) kept hthins
    · simp [evaluateRoom, he]
    · exact evaluateRoom_thins hthins (hthins.find?_eq hassigned) now policy override

def roomWithoutClockId : Room where
  key := "214"
  name := "Apartment 214"
  entranceKey := "entrance_a"

def unplacedUnknownBooking : NormalizedBooking where
  propertyId := "local_stay_razlog"
  clockBookingId := "booking-1"
  bookingStatus := .unknown
  sourceBookingStatus := "blocked"
  arrivalDate := 739900
  departureDate := 739903
  payloadHash := "hash-1"
  needsAttention := true
  attentionReason := .unknownClockStatus

-- None == None: a booking without a room suppresses every room without a Clock id.
theorem unplaced_unknown_suppresses_room :
    ¬ ∀ (room : Room) (kept bookings : List NormalizedBooking) (now : Datetime)
        (policy : HotelPolicy) (override : Option ManualOverride),
      Thins (assignedTo room) kept bookings →
        evaluateRoom room kept now policy override =
          evaluateRoom room bookings now policy override := by
  intro h
  have hdrop : Thins (assignedTo roomWithoutClockId) [] [unplacedUnknownBooking] :=
    ⟨List.nil_sublist _, by decide⟩
  have heq := h _ _ _ (.inZone sofiaWinterTime (739900 * dayMicros)) defaultPolicy none hdrop
  revert heq
  decide

end ClockOrchestrator
