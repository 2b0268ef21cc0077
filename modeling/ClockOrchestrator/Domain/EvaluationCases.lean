import ClockOrchestrator.Domain.Locality

namespace ClockOrchestrator

open Python

structure Drives (room : Room) (bookings : List NormalizedBooking) (now : Datetime)
    (policy : HotelPolicy) (selected : NormalizedBooking) : Prop where
  enabled : room.enabled = true
  known : bookings.find? (unknownInRoom room) = none
  noConflict : firstConflict (activeBookingsForRoom room bookings now.date) = none
  selected : selectRelevantBooking (activeBookingsForRoom room bookings now.date) policy =
    some selected

inductive EvaluatedAs (room : Room) (bookings : List NormalizedBooking) (now : Datetime)
    (policy : HotelPolicy) (override : Option ManualOverride) : RoomStateEvaluation → Prop
  | disabled (he : room.enabled = false) :
      EvaluatedAs room bookings now policy override
        (quietState room .disabled none "room_disabled_by_configuration" now none)
  | unknown {b : NormalizedBooking} (he : room.enabled = true)
      (hb : bookings.find? (unknownInRoom room) = some b) :
      EvaluatedAs room bookings now policy override
        (attentionState room .unknown b .unknownClockStatus
          "unknown_clock_status_suppresses_automatic_actions" now)
  | conflict {left : NormalizedBooking} (he : room.enabled = true)
      (hleft : firstConflict (activeBookingsForRoom room bookings now.date) = some left) :
      EvaluatedAs room bookings now policy override
        (attentionState room .conflict left .overlappingActiveBookings
          "overlapping_active_bookings_assigned_to_room" now)
  | vacant (he : room.enabled = true)
      (hnone : selectRelevantBooking (activeBookingsForRoom room bookings now.date) policy =
        none) :
      EvaluatedAs room bookings now policy override
        (quietState room .vacant none "no_active_assigned_reservation" now none)
  | manual {selected : NormalizedBooking} {o : ManualOverride}
      (hd : Drives room bookings now policy selected) (ho : override = some o)
      (ha : o.isActive policy.zone now (some selected.clockBookingId) = true) :
      EvaluatedAs room bookings now policy override
        (quietState room .manualOverride (some selected) "valid_manual_override_active" now
          o.expiresAt)
  | checkoutDue {selected : NormalizedBooking} (hd : Drives room bookings now policy selected)
      (ho : overrideActive policy override now selected = none)
      (hs : selected.bookingStatus = .checkedIn)
      (hdue : Datetime.le policy.zone (checkoutAt selected policy) now = true) :
      EvaluatedAs room bookings now policy override
        (quietState room .checkoutDue (some selected)
          "departure_time_passed_without_clock_checkout" now none)
  | occupied {selected : NormalizedBooking} (hd : Drives room bookings now policy selected)
      (ho : overrideActive policy override now selected = none)
      (hs : selected.bookingStatus = .checkedIn)
      (hopen : Datetime.lt policy.zone now (checkoutAt selected policy) = true) :
      EvaluatedAs room bookings now policy override
        (quietState room .occupied (some selected) "clock_reports_guest_checked_in" now
          (some (checkoutAt selected policy)))
  | preArrival {selected : NormalizedBooking} {start : Datetime}
      (hd : Drives room bookings now policy selected)
      (ho : overrideActive policy override now selected = none)
      (hs : selected.bookingStatus = .expected) (hstart : leadStart selected policy = .ok start)
      (hopen : Datetime.le policy.zone start now = true) :
      EvaluatedAs room bookings now policy override
        (quietState room .preArrival (some selected)
          "expected_arrival_inside_preparation_window" start
          (some (checkoutAt selected policy)))
  | reserved {selected : NormalizedBooking} {start : Datetime}
      (hd : Drives room bookings now policy selected)
      (ho : overrideActive policy override now selected = none)
      (hs : selected.bookingStatus = .expected) (hstart : leadStart selected policy = .ok start)
      (hearly : Datetime.lt policy.zone now start = true) :
      EvaluatedAs room bookings now policy override
        (quietState room .reserved (some selected)
          "future_assigned_reservation_outside_preparation_window" now (some start))

def NoOverlap (bookings : List NormalizedBooking) : Prop :=
  bookings.Pairwise fun left right => bookingsOverlap left right = false

theorem firstConflict_eq_none {bookings : List NormalizedBooking} :
    firstConflict bookings = none ↔ NoOverlap bookings := by
  induction bookings with
  | nil => exact iff_of_true rfl .nil
  | cons left rest ih =>
      unfold NoOverlap at ih ⊢
      rw [List.pairwise_cons, ← ih, firstConflict]
      by_cases hany : rest.any (bookingsOverlap left) = true
      · rw [if_pos hany]
        obtain ⟨right, hright, hoverlap⟩ := List.any_eq_true.mp hany
        refine iff_of_false (by simp) fun hall => ?_
        rw [hall.1 right hright] at hoverlap
        cases hoverlap
      · rw [if_neg hany]
        have hfree : ∀ right ∈ rest, bookingsOverlap left right = false := by
          intro right hright
          by_contra hoverlap
          exact hany (List.any_eq_true.mpr ⟨right, hright, by simpa using hoverlap⟩)
        exact ⟨fun h => ⟨hfree, h⟩, fun h => h.2⟩

theorem firstBy_mem {z : Zone} {key : NormalizedBooking → Datetime}
    {bookings : List NormalizedBooking} {selected : NormalizedBooking}
    (h : firstBy z key bookings = some selected) : selected ∈ bookings := by
  unfold firstBy at h
  exact (List.mem_insertionSort _).mp (List.mem_of_mem_head? h)

theorem selectRelevantBooking_mem {bookings : List NormalizedBooking} {policy : HotelPolicy}
    {selected : NormalizedBooking} (h : selectRelevantBooking bookings policy = some selected) :
    selected ∈ bookings := by
  unfold selectRelevantBooking at h
  dsimp only at h
  split at h
  · exact (List.mem_filter.mp (firstBy_mem h)).1
  · split at h
    · exact (List.mem_filter.mp (firstBy_mem h)).1
    · exact (List.mem_insertionSort _).mp (List.mem_of_mem_head? h)

theorem selectRelevantBooking_eq_none {bookings : List NormalizedBooking} {policy : HotelPolicy} :
    selectRelevantBooking bookings policy = none ↔ bookings = [] := by
  have hsorted : ∀ (r : NormalizedBooking → NormalizedBooking → Prop) [DecidableRel r] xs,
      (xs.insertionSort r).head? = none ↔ xs = [] := by
    intro r _ xs
    rw [List.head?_eq_none_iff, ← List.length_eq_zero_iff, List.length_insertionSort,
      List.length_eq_zero_iff]
  unfold selectRelevantBooking firstBy
  dsimp only
  split
  · next hin =>
      rw [hsorted]
      exact iff_of_false hin fun h => hin (by rw [h]; rfl)
  · split
    · next hex =>
        rw [hsorted]
        exact iff_of_false hex fun h => hex (by rw [h]; rfl)
    · rw [hsorted]

namespace Drives

variable {room : Room} {bookings : List NormalizedBooking} {now : Datetime} {policy : HotelPolicy}
  {selected : NormalizedBooking} (h : Drives room bookings now policy selected)
include h

theorem mem : selected ∈ activeBookingsForRoom room bookings now.date :=
  selectRelevantBooking_mem h.selected

theorem status : selected.bookingStatus = .expected ∨ selected.bookingStatus = .checkedIn := by
  obtain ⟨-, hactive, -⟩ := mem_activeBookings_iff.mp h.mem
  simpa [NormalizedBooking.activeForAutomation] using hactive

theorem evaluateRoom_eq {override : Option ManualOverride}
    (ho : overrideActive policy override now selected = none) :
    evaluateRoom room bookings now policy override =
      evaluateSelected room selected now policy := by
  simp [evaluateRoom, evaluateCandidates, h.enabled, h.known, h.noConflict, h.selected, ho]

end Drives

theorem evaluateSelected_cases {room : Room} {bookings : List NormalizedBooking} {now : Datetime}
    {policy : HotelPolicy} {override : Option ManualOverride} {selected : NormalizedBooking}
    {state : RoomStateEvaluation} (hd : Drives room bookings now policy selected)
    (ho : overrideActive policy override now selected = none)
    (h : evaluateSelected room selected now policy = .ok state) :
    EvaluatedAs room bookings now policy override state := by
  unfold evaluateSelected at h
  split at h
  · next hs =>
      split at h
      · next hdue =>
          cases h
          exact .checkoutDue hd ho hs hdue
      · next hdue =>
          cases h
          exact .occupied hd ho hs (by simpa [Datetime.le_eq_not_lt] using hdue)
  · next hs =>
      split at h
      · cases h
      · next start hstart =>
          split at h
          · next hopen =>
              cases h
              exact .preArrival hd ho hs hstart hopen
          · next hopen =>
              cases h
              exact .reserved hd ho hs hstart (by simpa [Datetime.le_eq_not_lt] using hopen)
  · next hin hex =>
      rcases hd.status with hs | hs
      · exact absurd hs hex
      · exact absurd hs hin

theorem evaluateRoom_cases {room : Room} {bookings : List NormalizedBooking} {now : Datetime}
    {policy : HotelPolicy} {override : Option ManualOverride} {state : RoomStateEvaluation}
    (h : evaluateRoom room bookings now policy override = .ok state) :
    EvaluatedAs room bookings now policy override state := by
  unfold evaluateRoom at h
  split at h
  · next he =>
      cases h
      exact .disabled (by simpa using he)
  · next he =>
      have hon : room.enabled = true := by simpa using he
      split at h
      · next b hb =>
          cases h
          exact .unknown hon hb
      · next hknown =>
          unfold evaluateCandidates at h
          split at h
          · next left hleft =>
              cases h
              exact .conflict hon hleft
          · next hfree =>
              split at h
              · next hnone =>
                  cases h
                  exact .vacant hon hnone
              · next selected hselected =>
                  have hd : Drives room bookings now policy selected :=
                    ⟨hon, hknown, hfree, hselected⟩
                  split at h
                  · next o ho =>
                      cases h
                      obtain ⟨hsome, hactive⟩ := Option.filter_eq_some_iff.mp ho
                      exact .manual hd hsome hactive
                  · next ho => exact evaluateSelected_cases hd ho h

theorem evaluateRoom_manual {room : Room} {bookings : List NormalizedBooking} {now : Datetime}
    {policy : HotelPolicy} {override : Option ManualOverride} {state : RoomStateEvaluation}
    (h : evaluateRoom room bookings now policy override = .ok state)
    (hphase : state.phase = .manualOverride) :
    ∃ selected o, Drives room bookings now policy selected ∧ override = some o ∧
      o.isActive policy.zone now (some selected.clockBookingId) = true ∧
      state.booking = some selected := by
  cases evaluateRoom_cases h with
  | @manual selected o hd ho ha => exact ⟨selected, o, hd, ho, ha, rfl⟩
  | disabled | unknown | conflict | vacant | checkoutDue | occupied | preArrival | reserved =>
      cases hphase

end ClockOrchestrator
