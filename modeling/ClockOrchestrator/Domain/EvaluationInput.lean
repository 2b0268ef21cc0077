import ClockOrchestrator.Domain.Locality
import Mathlib.Data.List.Find

namespace ClockOrchestrator

open Python Thinning

def drivesRoom (room : Room) (b : NormalizedBooking) : Bool :=
  unknownInRoom room b || (b.activeForAutomation && namesRoom room b)

theorem evaluateRoom_filter_drivesRoom (room : Room) (bookings : List NormalizedBooking)
    (now : Datetime) (policy : HotelPolicy) (override : Option ManualOverride) :
    evaluateRoom room (bookings.filter (drivesRoom room)) now policy override =
      evaluateRoom room bookings now policy override := by
  have hunknown : (bookings.filter (drivesRoom room)).find? (unknownInRoom room) =
      bookings.find? (unknownInRoom room) := by
    rw [List.find?_filter]
    refine List.find?_congr fun b _ => ?_
    cases hb : unknownInRoom room b <;> simp [drivesRoom, hb]
  have hactive : activeBookingsForRoom room (bookings.filter (drivesRoom room)) now.date =
      activeBookingsForRoom room bookings now.date := by
    unfold activeBookingsForRoom
    rw [List.filter_filter]
    refine List.filter_congr fun b _ => ?_
    cases ha : b.activeForAutomation <;> cases hn : namesRoom room b <;>
      simp [drivesRoom, ha, hn]
  unfold evaluateRoom
  rw [hunknown, hactive]

structure KeepsEvaluated (view : NormalizedBooking → NormalizedBooking) : Prop where
  clockBookingId : ∀ b, (view b).clockBookingId = b.clockBookingId
  bookingStatus : ∀ b, (view b).bookingStatus = b.bookingStatus
  arrivalDate : ∀ b, (view b).arrivalDate = b.arrivalDate
  departureDate : ∀ b, (view b).departureDate = b.departureDate
  physicalRoomId : ∀ b, (view b).physicalRoomId = b.physicalRoomId
  physicalRoomNumber : ∀ b, (view b).physicalRoomNumber = b.physicalRoomNumber

namespace KeepsEvaluated

theorem id : KeepsEvaluated id :=
  ⟨fun _ => rfl, fun _ => rfl, fun _ => rfl, fun _ => rfl, fun _ => rfl, fun _ => rfl⟩

variable {view : NormalizedBooking → NormalizedBooking} (h : KeepsEvaluated view)
include h

theorem activeForAutomation (b : NormalizedBooking) :
    (view b).activeForAutomation = b.activeForAutomation := by
  simp only [NormalizedBooking.activeForAutomation, h.bookingStatus]

theorem namesRoom (room : Room) (b : NormalizedBooking) :
    ClockOrchestrator.namesRoom room (view b) = ClockOrchestrator.namesRoom room b := by
  simp only [ClockOrchestrator.namesRoom, h.physicalRoomId, h.physicalRoomNumber]

theorem unknownInRoom (room : Room) (b : NormalizedBooking) :
    ClockOrchestrator.unknownInRoom room (view b) = ClockOrchestrator.unknownInRoom room b := by
  simp only [ClockOrchestrator.unknownInRoom, h.bookingStatus, h.physicalRoomId,
    h.physicalRoomNumber]

theorem drivesRoom (room : Room) (b : NormalizedBooking) :
    ClockOrchestrator.drivesRoom room (view b) = ClockOrchestrator.drivesRoom room b := by
  simp only [ClockOrchestrator.drivesRoom, h.unknownInRoom, h.activeForAutomation, h.namesRoom]

theorem arrivalAt (b : NormalizedBooking) (policy : HotelPolicy) :
    ClockOrchestrator.arrivalAt (view b) policy = ClockOrchestrator.arrivalAt b policy := by
  simp only [ClockOrchestrator.arrivalAt, h.arrivalDate]

theorem checkoutAt (b : NormalizedBooking) (policy : HotelPolicy) :
    ClockOrchestrator.checkoutAt (view b) policy = ClockOrchestrator.checkoutAt b policy := by
  simp only [ClockOrchestrator.checkoutAt, h.departureDate]

theorem leadStart (b : NormalizedBooking) (policy : HotelPolicy) :
    ClockOrchestrator.leadStart (view b) policy = ClockOrchestrator.leadStart b policy := by
  simp only [ClockOrchestrator.leadStart, h.arrivalAt]

theorem bookingsOverlap (left right : NormalizedBooking) :
    ClockOrchestrator.bookingsOverlap (view left) (view right) =
      ClockOrchestrator.bookingsOverlap left right := by
  simp only [ClockOrchestrator.bookingsOverlap, h.arrivalDate, h.departureDate]

omit h in
theorem filter_map {q : NormalizedBooking → Bool} (hq : ∀ b, q (view b) = q b)
    (bookings : List NormalizedBooking) :
    (bookings.map view).filter q = (bookings.filter q).map view := by
  rw [List.filter_map]
  congr 1
  exact List.filter_congr fun b _ => hq b

theorem activeBookingsForRoom (room : Room) (bookings : List NormalizedBooking) (onDate : Date) :
    ClockOrchestrator.activeBookingsForRoom room (bookings.map view) onDate =
      (ClockOrchestrator.activeBookingsForRoom room bookings onDate).map view := by
  refine filter_map (fun b => ?_) bookings
  simp only [h.activeForAutomation, h.namesRoom, h.departureDate]

theorem firstConflict (bookings : List NormalizedBooking) :
    ClockOrchestrator.firstConflict (bookings.map view) =
      (ClockOrchestrator.firstConflict bookings).map view := by
  induction bookings with
  | nil => rfl
  | cons left rest ih =>
      have hany : (rest.map view).any (ClockOrchestrator.bookingsOverlap (view left)) =
          rest.any (ClockOrchestrator.bookingsOverlap left) := by
        rw [List.any_map]
        congr 1
        funext right
        exact h.bookingsOverlap left right
      simp only [List.map_cons, ClockOrchestrator.firstConflict, hany, ih]
      split <;> rfl

omit h in
theorem firstBy (z : Zone) {key : NormalizedBooking → Datetime}
    (hkey : ∀ b, key (view b) = key b) (bookings : List NormalizedBooking) :
    ClockOrchestrator.firstBy z key (bookings.map view) =
      (ClockOrchestrator.firstBy z key bookings).map view := by
  unfold ClockOrchestrator.firstBy
  rw [← List.head?_map]
  congr 1
  refine (List.map_insertionSort _ _ view bookings fun a _ b _ => ?_).symm
  rw [hkey, hkey]

theorem selectRelevantBooking (bookings : List NormalizedBooking) (policy : HotelPolicy) :
    ClockOrchestrator.selectRelevantBooking (bookings.map view) policy =
      (ClockOrchestrator.selectRelevantBooking bookings policy).map view := by
  have hstatus : ∀ status : BookingStatus,
      (bookings.map view).filter (·.bookingStatus = status) =
        (bookings.filter (·.bookingStatus = status)).map view :=
    fun status => filter_map (fun b => by rw [h.bookingStatus]) bookings
  have hnil : ∀ xs : List NormalizedBooking, xs.map view ≠ [] ↔ xs ≠ [] := by simp
  unfold ClockOrchestrator.selectRelevantBooking
  simp only [hstatus, hnil]
  split
  · exact firstBy _ (fun b => h.checkoutAt b policy) _
  · split
    · exact firstBy _ (fun b => h.arrivalAt b policy) _
    · rw [← List.head?_map]
      congr 1
      refine (List.map_insertionSort _ _ view bookings fun a _ b _ => ?_).symm
      rw [h.arrivalDate, h.arrivalDate]

end KeepsEvaluated

def RoomStateEvaluation.view (view : NormalizedBooking → NormalizedBooking)
    (state : RoomStateEvaluation) : RoomStateEvaluation :=
  { state with booking := state.booking.map view }

theorem phase_of_view (view : NormalizedBooking → NormalizedBooking)
    (state : Except PyError RoomStateEvaluation) :
    (state.map (·.view view)).toOption.map (·.phase) = state.toOption.map (·.phase) := by
  cases state <;> rfl

section Evaluate

variable {view : NormalizedBooking → NormalizedBooking} (h : KeepsEvaluated view)
include h

theorem evaluateSelected_view (room : Room) (selected : NormalizedBooking) (now : Datetime)
    (policy : HotelPolicy) :
    evaluateSelected room (view selected) now policy =
      (evaluateSelected room selected now policy).map (·.view view) := by
  unfold evaluateSelected
  rw [h.bookingStatus, h.checkoutAt, h.leadStart]
  split
  · split <;> rfl
  · split
    · rfl
    · split <;> rfl
  · rfl

theorem evaluateCandidates_view (room : Room) (candidates : List NormalizedBooking)
    (now : Datetime) (policy : HotelPolicy) (override : Option ManualOverride) :
    evaluateCandidates room (candidates.map view) now policy override =
      (evaluateCandidates room candidates now policy override).map (·.view view) := by
  unfold evaluateCandidates
  rw [h.firstConflict, h.selectRelevantBooking]
  cases firstConflict candidates with
  | some left => rfl
  | none =>
      cases selectRelevantBooking candidates policy with
      | none => rfl
      | some selected =>
          have hactive : overrideActive policy override now (view selected) =
              overrideActive policy override now selected := by
            unfold overrideActive
            rw [h.clockBookingId]
          simp only [Option.map_none, Option.map_some, hactive]
          cases overrideActive policy override now selected with
          | some o => rfl
          | none => exact evaluateSelected_view h room selected now policy

theorem evaluateRoom_view (room : Room) (bookings : List NormalizedBooking) (now : Datetime)
    (policy : HotelPolicy) (override : Option ManualOverride) :
    evaluateRoom room (bookings.map view) now policy override =
      (evaluateRoom room bookings now policy override).map (·.view view) := by
  have hunknown : (bookings.map view).find? (unknownInRoom room) =
      (bookings.find? (unknownInRoom room)).map view := by
    rw [List.find?_map]
    congr 1
    exact List.find?_congr fun b _ => h.unknownInRoom room b
  unfold evaluateRoom
  rw [hunknown, h.activeBookingsForRoom]
  split
  · rfl
  · cases bookings.find? (unknownInRoom room) with
    | some unknown => rfl
    | none => exact evaluateCandidates_view h room _ now policy override

theorem evaluateRoom_eq_of_view {room : Room} {bookings bookings' : List NormalizedBooking}
    (hsame : visible view (drivesRoom room) bookings = visible view (drivesRoom room) bookings')
    (now : Datetime) (policy : HotelPolicy) (override : Option ManualOverride) :
    (evaluateRoom room bookings now policy override).map (·.view view) =
      (evaluateRoom room bookings' now policy override).map (·.view view) := by
  unfold visible at hsame
  rw [← evaluateRoom_filter_drivesRoom room bookings, ← evaluateRoom_view h, hsame,
    evaluateRoom_view h, evaluateRoom_filter_drivesRoom]

end Evaluate

end ClockOrchestrator
