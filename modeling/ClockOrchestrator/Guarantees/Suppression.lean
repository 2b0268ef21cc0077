import ClockOrchestrator.Clock.RepeatedPass
import ClockOrchestrator.Runtime

namespace ClockOrchestrator

open Python

inductive Suppressed (room : Room) (bookings : List NormalizedBooking) (now : Datetime) : Prop
  | disabled (hoff : room.enabled = false)
  | unknown {b : NormalizedBooking} (hb : b ∈ bookings) (hs : b.bookingStatus = .unknown)
      (hassigned : b.physicalRoomId = room.clockRoomId ∨ b.physicalRoomNumber = some room.key)
  | overlapping {left right : NormalizedBooking}
      (hpair : [left, right].Sublist (activeBookingsForRoom room bookings now.date))
      (hoverlap : bookingsOverlap left right = true)

structure SwitchedOff (intent : DesiredRoomIntent) : Prop where
  controlMode : intent.controlMode = .off
  hvac : intent.hvac.enabled = false
  waterHeater : intent.waterHeater.enabled = false
  convectors : intent.convectors.enabled = false

structure Suppressing (room : Room) (state : RoomStateEvaluation) : Prop where
  phase : state.phase ∈ suppressAutomationPhases
  roomKey : state.roomKey = some room.key
  reason : state.reason ≠ ""
  expiresAt : state.expiresAt = none

variable {room : Room} {bookings : List NormalizedBooking} {now : Datetime} {policy : HotelPolicy}
  {override : Option ManualOverride} {state : RoomStateEvaluation} {correlationId : UUID}

theorem firstConflict_ne_none {candidates : List NormalizedBooking} {left right : NormalizedBooking}
    (hpair : [left, right].Sublist candidates) (hoverlap : bookingsOverlap left right = true) :
    firstConflict candidates ≠ none := by
  intro hnone
  have hfree : NoOverlap [left, right] := (firstConflict_eq_none.mp hnone).sublist hpair
  have hapart : bookingsOverlap left right = false :=
    (List.pairwise_cons.mp hfree).1 right (List.mem_singleton_self right)
  rw [hoverlap] at hapart
  cases hapart

theorem find?_unknownInRoom_ne_none {b : NormalizedBooking} (hb : b ∈ bookings)
    (hs : b.bookingStatus = .unknown)
    (hassigned : b.physicalRoomId = room.clockRoomId ∨ b.physicalRoomNumber = some room.key) :
    bookings.find? (unknownInRoom room) ≠ none := by
  intro hnone
  have hknown := List.find?_eq_none.mp hnone b hb
  apply hknown
  rcases hassigned with hid | hnumber
  · simp [unknownInRoom, hs, hid]
  · simp [unknownInRoom, hs, hnumber]

theorem evaluateRoom_suppressed (h : Suppressed room bookings now) (policy : HotelPolicy)
    (override : Option ManualOverride) :
    ∃ state, evaluateRoom room bookings now policy override = .ok state ∧
      Suppressing room state := by
  unfold evaluateRoom
  split
  · exact ⟨_, rfl, by constructor <;> simp [quietState, suppressAutomationPhases]⟩
  · next hon =>
      cases hunknown : bookings.find? (unknownInRoom room) with
      | some unknown =>
          exact ⟨_, rfl, by constructor <;> simp [attentionState, suppressAutomationPhases]⟩
      | none =>
          unfold evaluateCandidates
          cases hconflict : firstConflict (activeBookingsForRoom room bookings now.date) with
          | some left =>
              exact ⟨_, rfl, by constructor <;> simp [attentionState, suppressAutomationPhases]⟩
          | none =>
              exfalso
              cases h with
              | disabled hoff => simp [hoff] at hon
              | unknown hb hs hassigned =>
                  exact find?_unknownInRoom_ne_none hb hs hassigned hunknown
              | overlapping hpair hoverlap =>
                  exact firstConflict_ne_none hpair hoverlap hconflict

theorem buildIntent_switchedOff {z : Zone} {hvac : HvacIntent} {reason : String}
    {intent : DesiredRoomIntent} (hhvac : hvac.enabled = false)
    (h : buildIntent z state .off hvac false false reason correlationId = .ok intent) :
    SwitchedOff intent := by
  unfold buildIntent at h
  rw [validate_ok h]
  exact ⟨rfl, hhvac, rfl, rfl⟩

namespace Suppressing

variable (h : Suppressing room state)
include h

theorem not_manual : state.phase ≠ .manualOverride := by
  intro hmanual
  have hphase := h.phase
  rw [hmanual] at hphase
  simp [suppressAutomationPhases] at hphase

theorem deriveRoomIntent_eq (policy : HotelPolicy) (override : Option ManualOverride)
    (correlationId : UUID) :
    deriveRoomIntent state policy override correlationId =
      (suppressedIntent policy.zone state state.reason correlationId).map some := by
  have hnamed : ¬ state.roomKey.isNone = true := by simp [h.roomKey]
  unfold deriveRoomIntent automaticIntent
  rw [if_neg hnamed, if_pos h.phase]
  split
  · next hmanual => exact absurd hmanual h.not_manual
  · rfl

theorem switchedOff {intent : DesiredRoomIntent}
    (hderived : deriveRoomIntent state policy override correlationId = .ok (some intent)) :
    SwitchedOff intent := by
  rw [h.deriveRoomIntent_eq] at hderived
  obtain ⟨built, hbuilt, hsome⟩ := map_ok hderived
  cases hsome
  exact buildIntent_switchedOff rfl hbuilt

theorem derives (hkey : room.key ≠ "") (policy : HotelPolicy) (override : Option ManualOverride)
    (correlationId : UUID) :
    ∃ intent, deriveRoomIntent state policy override correlationId = .ok (some intent) := by
  have hnamed : WellNamed state := ⟨⟨room.key, h.roomKey, hkey⟩, h.reason⟩
  have hopen : WindowOpen policy.zone state := windowOpen_of_no_expiry h.expiresAt
  rw [deriveRoomIntent_of_phase h.not_manual none]
  exact (deriveRoomIntent_isOk_iff hnamed (by simp) correlationId).mpr hopen

end Suppressing

theorem evaluateRoom_without_candidates
    (hnone : activeBookingsForRoom room bookings now.date = []) (policy : HotelPolicy)
    (override : Option ManualOverride) :
    evaluateRoom room bookings now policy override = evaluateRoom room bookings now policy none := by
  unfold evaluateRoom
  rw [hnone]
  rfl

theorem evaluateRoom_no_override_not_manual
    (h : evaluateRoom room bookings now policy none = .ok state) :
    state.phase ≠ .manualOverride := by
  intro hmanual
  obtain ⟨selected, o, -, ho, -, -⟩ := evaluateRoom_manual h hmanual
  cases ho

theorem evaluatedIntent_without_candidates
    (hnone : activeBookingsForRoom room bookings now.date = []) (policy : HotelPolicy)
    (override : Option ManualOverride) (correlationId : UUID) :
    evaluatedIntent room bookings now policy override correlationId =
      evaluatedIntent room bookings now policy none correlationId := by
  unfold evaluatedIntent
  rw [evaluateRoom_without_candidates hnone]
  cases hstate : evaluateRoom room bookings now policy none with
  | error e => rfl
  | ok state => exact deriveRoomIntent_of_phase (evaluateRoom_no_override_not_manual hstate) none

theorem suppression_beats_everything (room : Room) (bookings : List NormalizedBooking)
    (now : Datetime) (policy : HotelPolicy) (override : Option ManualOverride)
    (correlationId : UUID) :
    (Suppressed room bookings now →
      ∃ state, evaluateRoom room bookings now policy override = .ok state ∧
        state.phase ≠ .manualOverride ∧
        (∀ intent, deriveRoomIntent state policy override correlationId = .ok (some intent) →
          SwitchedOff intent) ∧
        (room.key ≠ "" →
          ∃ intent, deriveRoomIntent state policy override correlationId = .ok (some intent))) ∧
    (activeBookingsForRoom room bookings now.date = [] →
      (∀ state, evaluateRoom room bookings now policy override = .ok state →
        state.phase ≠ .manualOverride) ∧
      evaluatedIntent room bookings now policy override correlationId =
        evaluatedIntent room bookings now policy none correlationId) := by
  constructor
  · intro hsuppressed
    obtain ⟨state, hstate, h⟩ := evaluateRoom_suppressed hsuppressed policy override
    refine ⟨state, hstate, h.not_manual, ?_, ?_⟩
    · intro intent hintent
      exact h.switchedOff hintent
    · intro hkey
      exact h.derives hkey policy override correlationId
  · intro hnone
    refine ⟨?_, evaluatedIntent_without_candidates hnone policy override correlationId⟩
    intro state hstate
    rw [evaluateRoom_without_candidates hnone] at hstate
    exact evaluateRoom_no_override_not_manual hstate

def demoLostStay : NormalizedBooking :=
  { demoStay with
    bookingStatus := .unknown
    needsAttention := true
    unknownNeedsAttention := fun _ => rfl }

def demoOverride : ManualOverride where
  controlMode := .manual
  clockBookingId := none
  hvacMode := .heat
  targetTemperatureC := some (.finite 22)
  waterHeaterEnabled := some true
  expiresAt := some (.inZone sofiaWinterTime (demoInstant 23 0))
  checkoutAt := none
  untilCheckout := false
  commandId := 7

theorem unknown_booking_beats_override :
    ∃ state, evaluateRoom room214 [demoCheckedInStay, demoLostStay]
        (.inZone sofiaWinterTime (demoInstant 12 0)) defaultPolicy (some demoOverride) =
          .ok state ∧
      state.phase ≠ .manualOverride ∧
      (∀ intent, deriveRoomIntent state defaultPolicy (some demoOverride) 8 = .ok (some intent) →
        SwitchedOff intent) ∧
      (room214.key ≠ "" →
        ∃ intent, deriveRoomIntent state defaultPolicy (some demoOverride) 8 = .ok (some intent)) :=
  (suppression_beats_everything room214 _ _ defaultPolicy (some demoOverride) 8).1
    (.unknown (List.mem_cons_of_mem _ (List.mem_singleton_self _)) rfl (.inl rfl))

end ClockOrchestrator
