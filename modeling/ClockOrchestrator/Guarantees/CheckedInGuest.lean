import ClockOrchestrator.Domain.EvaluationCases
import ClockOrchestrator.Runtime

namespace ClockOrchestrator

open Python

def activeInRoom (room : Room) (bookings : List NormalizedBooking) : List NormalizedBooking :=
  bookings.filter fun b => b.activeForAutomation && assignedTo room b

structure GuestInRoom (room : Room) (b : NormalizedBooking) : Prop where
  assigned : assignedTo room b = true
  checkedIn : b.bookingStatus = .checkedIn

def TreatedAsPresent (x : Except PyError RoomStateEvaluation) : Prop :=
  ∃ state, x = .ok state ∧ (state.phase = .occupied ∨ state.phase = .checkoutDue)

theorem activeBookingsForRoom_sublist (room : Room) (bookings : List NormalizedBooking)
    (onDate : Date) :
    List.Sublist (activeBookingsForRoom room bookings onDate) (activeInRoom room bookings) := by
  unfold activeBookingsForRoom activeInRoom
  simp only [namesRoom_eq_assignedTo]
  exact List.monotone_filter_right bookings fun b hb => by
    simp only [Bool.and_eq_true] at hb ⊢
    exact hb.1

theorem selectRelevantBooking_checkedIn {bookings : List NormalizedBooking}
    (policy : HotelPolicy) {b : NormalizedBooking} (hb : b ∈ bookings)
    (hin : b.bookingStatus = .checkedIn) :
    ∃ selected, selectRelevantBooking bookings policy = some selected ∧
      selected.bookingStatus = .checkedIn := by
  have hsome : selectRelevantBooking bookings policy ≠ none := by
    rw [Ne, selectRelevantBooking_eq_none]
    exact List.ne_nil_of_mem hb
  obtain ⟨selected, hselected⟩ := Option.ne_none_iff_exists'.mp hsome
  have hne : bookings.filter (·.bookingStatus = .checkedIn) ≠ [] :=
    List.ne_nil_of_mem (List.mem_filter.mpr ⟨hb, by simpa using hin⟩)
  refine ⟨selected, hselected, ?_⟩
  unfold selectRelevantBooking at hselected
  dsimp only at hselected
  rw [if_pos hne] at hselected
  simpa using (List.mem_filter.mp (firstBy_mem hselected)).2

theorem evaluateSelected_checkedIn (room : Room) {selected : NormalizedBooking} (now : Datetime)
    (policy : HotelPolicy) (hin : selected.bookingStatus = .checkedIn) :
    TreatedAsPresent (evaluateSelected room selected now policy) := by
  unfold evaluateSelected TreatedAsPresent
  rw [hin]
  dsimp only
  split
  · exact ⟨_, rfl, .inr rfl⟩
  · exact ⟨_, rfl, .inl rfl⟩

theorem find?_unknownInRoom_eq_none {room : Room} {bookings : List NormalizedBooking}
    (hunknown : ∀ b ∈ bookings, b.bookingStatus = .unknown → assignedTo room b = false) :
    bookings.find? (unknownInRoom room) = none ↔
      ∀ b ∈ bookings, b.bookingStatus = .unknown → b.physicalRoomId ≠ room.clockRoomId := by
  rw [List.find?_eq_none]
  refine forall₂_congr fun b hb => ?_
  have hnumber : b.bookingStatus = .unknown → b.physicalRoomNumber ≠ some room.key := by
    intro hs hnumber
    have hfree := hunknown b hb hs
    simp [assignedTo, hnumber] at hfree
  unfold unknownInRoom
  by_cases hs : b.bookingStatus = .unknown
  · simp [hs, hnumber hs]
  · simp [hs]

theorem TreatedAsPresent.drivenBy {room : Room} {bookings : List NormalizedBooking}
    {now : Datetime} {policy : HotelPolicy} {override : Option ManualOverride}
    (h : TreatedAsPresent (evaluateRoom room bookings now policy override)) :
    ∃ selected, Drives room bookings now policy selected ∧
      selected.bookingStatus = .checkedIn := by
  obtain ⟨state, hstate, hphase⟩ := h
  cases evaluateRoom_cases hstate with
  | checkoutDue hd _ hs _ => exact ⟨_, hd, hs⟩
  | occupied hd _ hs _ => exact ⟨_, hd, hs⟩
  | _ => simp [quietState, attentionState] at hphase

theorem checked_in_guest_is_present_iff {room : Room} {bookings : List NormalizedBooking}
    (now : Datetime) (policy : HotelPolicy) (he : room.enabled = true)
    (hunknown : ∀ b ∈ bookings, b.bookingStatus = .unknown → assignedTo room b = false)
    (hfree : NoOverlap (activeInRoom room bookings)) :
    TreatedAsPresent (evaluateRoom room bookings now policy none) ↔
      (∀ b ∈ bookings, b.bookingStatus = .unknown → b.physicalRoomId ≠ room.clockRoomId) ∧
        ∃ b ∈ bookings, GuestInRoom room b ∧ now.date ≤ b.departureDate := by
  rw [← find?_unknownInRoom_eq_none hunknown]
  constructor
  · intro h
    obtain ⟨selected, hd, hin⟩ := h.drivenBy
    obtain ⟨hmem, -, hassigned, hdate⟩ := mem_activeBookings_iff.mp hd.mem
    exact ⟨hd.known, selected, hmem, ⟨hassigned, hin⟩, hdate⟩
  · rintro ⟨hknown, b, hb, hguest, hdate⟩
    have hactive : b.activeForAutomation = true := by
      simp [NormalizedBooking.activeForAutomation, hguest.checkedIn]
    have hcandidate : b ∈ activeBookingsForRoom room bookings now.date :=
      mem_activeBookings_iff.mpr ⟨hb, hactive, hguest.assigned, hdate⟩
    obtain ⟨selected, hselected, hin⟩ := selectRelevantBooking_checkedIn policy
      hcandidate hguest.checkedIn
    have hconflict : firstConflict (activeBookingsForRoom room bookings now.date) = none :=
      firstConflict_eq_none.mpr (hfree.sublist (activeBookingsForRoom_sublist room bookings _))
    have hd : Drives room bookings now policy selected := ⟨he, hknown, hconflict, hselected⟩
    rw [hd.evaluateRoom_eq rfl]
    exact evaluateSelected_checkedIn room now policy hin

theorem noOverlap_checkedInStay : NoOverlap (activeInRoom room214 [demoCheckedInStay]) := by
  have hone : activeInRoom room214 [demoCheckedInStay] = [demoCheckedInStay] := by decide
  rw [hone]
  exact List.pairwise_singleton ..

theorem guest_is_present_on_departure_day :
    TreatedAsPresent (evaluateRoom room214 [demoCheckedInStay]
      (.inZone sofiaWinterTime (demoInstant 21 59 + 2 * dayMicros)) defaultPolicy none) := by
  refine (checked_in_guest_is_present_iff _ _ rfl (by decide) noOverlap_checkedInStay).mpr
    ⟨by decide, demoCheckedInStay, List.mem_singleton_self _, ⟨by decide, rfl⟩, by decide⟩

theorem overdue_guest_is_gone_at_midnight :
    ¬ ∀ (room : Room) (bookings : List NormalizedBooking) (now : Datetime) (policy : HotelPolicy),
      room.enabled = true →
      (∀ b ∈ bookings, b.bookingStatus = .unknown → assignedTo room b = false) →
      NoOverlap (activeInRoom room bookings) → (∃ b ∈ bookings, GuestInRoom room b) →
        TreatedAsPresent (evaluateRoom room bookings now policy none) := by
  intro h
  obtain ⟨state, hstate, hphase⟩ := h room214 [demoCheckedInStay]
    (.inZone sofiaWinterTime (demoInstant 22 1 + 2 * dayMicros)) defaultPolicy rfl (by decide)
    noOverlap_checkedInStay ⟨_, List.mem_singleton_self _, by decide, rfl⟩
  have hvacant : evaluateRoom room214 [demoCheckedInStay]
      (.inZone sofiaWinterTime (demoInstant 22 1 + 2 * dayMicros)) defaultPolicy none =
      .ok (quietState room214 .vacant none "no_active_assigned_reservation"
        (.inZone sofiaWinterTime (demoInstant 22 1 + 2 * dayMicros)) none) := by decide
  rw [hvacant] at hstate
  cases hstate
  simp [quietState] at hphase

end ClockOrchestrator
