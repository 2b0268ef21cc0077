import ClockOrchestrator.Domain.EvaluationCases
import ClockOrchestrator.Guarantees.EvaluationTotality

namespace ClockOrchestrator

open Python

def ContainsNow (z : Zone) (now effectiveFrom : Datetime) (expiresAt : Option Datetime) : Prop :=
  Datetime.le z effectiveFrom now = true ∧
    ∀ expires, expiresAt = some expires → Datetime.lt z now expires = true

def ArrivalNotOverdue (room : Room) (bookings : List NormalizedBooking) (now : Datetime)
    (policy : HotelPolicy) (override : Option ManualOverride) : Prop :=
  ∀ selected, Drives room bookings now policy selected →
    overrideActive policy override now selected = none →
    selected.bookingStatus = .expected →
    ∀ start, leadStart selected policy = .ok start →
      Datetime.le policy.zone start now = true →
        Datetime.lt policy.zone now (checkoutAt selected policy) = true

theorem le_refl (z : Zone) (now : Datetime) : Datetime.le z now now = true := by
  simp [Datetime.le]

theorem containsNow_none (z : Zone) (now : Datetime) : ContainsNow z now now none :=
  ⟨le_refl z now, by simp⟩

theorem containsNow_some {z : Zone} {now expires : Datetime} :
    ContainsNow z now now (some expires) ↔ Datetime.lt z now expires = true := by
  simp [ContainsNow, le_refl]

theorem EvaluatedAs.containsNow {room : Room} {bookings : List NormalizedBooking}
    {now : Datetime} {policy : HotelPolicy} {override : Option ManualOverride}
    {state : RoomStateEvaluation} (h : EvaluatedAs room bookings now policy override state)
    (ho : ∀ o, override = some o → o.WellFormed)
    (harrival : ArrivalNotOverdue room bookings now policy override) :
    ContainsNow policy.zone now state.effectiveFrom state.expiresAt := by
  cases h with
  | disabled he => exact containsNow_none ..
  | unknown he hb => exact containsNow_none ..
  | conflict he hleft => exact containsNow_none ..
  | vacant he hnone => exact containsNow_none ..
  | manual hd hsome ha =>
      refine ⟨le_refl _ _, fun expires hexpires => ?_⟩
      exact isActive_of_expires (ho _ hsome) ha hexpires
  | checkoutDue hd hinactive hs hdue => exact containsNow_none ..
  | occupied hd hinactive hs hopen => exact containsNow_some.mpr hopen
  | preArrival hd hinactive hs hstart hopen =>
      refine ⟨hopen, fun expires hexpires => ?_⟩
      cases hexpires
      exact harrival _ hd hinactive hs _ hstart hopen
  | reserved hd hinactive hs hstart hearly => exact containsNow_some.mpr hearly

theorem evaluateRoom_containsNow_iff (room : Room) (bookings : List NormalizedBooking)
    (now : Datetime) (policy : HotelPolicy) {override : Option ManualOverride}
    (ho : ∀ o, override = some o → o.WellFormed) :
    (∀ state, evaluateRoom room bookings now policy override = .ok state →
      ContainsNow policy.zone now state.effectiveFrom state.expiresAt) ↔
    ArrivalNotOverdue room bookings now policy override := by
  constructor
  · intro hall selected hd hinactive hs start hstart hopen
    have heval : evaluateRoom room bookings now policy override =
        .ok (quietState room .preArrival (some selected)
          "expected_arrival_inside_preparation_window" start
          (some (checkoutAt selected policy))) := by
      rw [hd.evaluateRoom_eq hinactive]
      simp [evaluateSelected, hs, hstart, hopen]
    exact (hall _ heval).2 _ rfl
  · intro harrival state hstate
    exact (evaluateRoom_cases hstate).containsNow ho harrival

variable {H : Type} [DecidableEq H] {base : AppRuntime H} {db : Db H}

theorem validity_window_contains_now_iff (hinj : base.uuid4.Injective) (hdb : Reachable base db)
    (room : Room) (bookings : List NormalizedBooking) (now : Datetime) (policy : HotelPolicy)
    {override : Option ManualOverride} (ho : StoredOverride db override) (correlationId : UUID) :
    (∀ state, evaluateRoom room bookings now policy override = .ok state →
      ContainsNow policy.zone now state.effectiveFrom state.expiresAt ∧
        ∀ intent, deriveRoomIntent state policy override correlationId = .ok (some intent) →
          ContainsNow policy.zone now intent.effectiveFrom intent.expiresAt) ↔
    ArrivalNotOverdue room bookings now policy override := by
  rw [← evaluateRoom_containsNow_iff room bookings now policy (ho.wellFormed hinj hdb)]
  constructor
  · intro hall state hstate
    exact (hall state hstate).1
  · intro hall state hstate
    refine ⟨hall state hstate, fun intent hintent => ?_⟩
    obtain ⟨-, hfrom, huntil⟩ := deriveRoomIntent_derivedFrom hintent
    rw [hfrom, huntil]
    exact hall state hstate

theorem manual_stay_window_contains_now : ∃ state,
    evaluateRoom room214 [demoStay] (.inZone sofiaWinterTime (demoInstant 10 30)) defaultPolicy
      demoManualOverride = .ok state ∧
    ContainsNow sofiaWinterTime (.inZone sofiaWinterTime (demoInstant 10 30))
      state.effectiveFrom state.expiresAt := by
  have hstored : StoredOverride demoManualDb demoManualOverride :=
    .inr ⟨demoManualDb.overrides.head (by decide +kernel), List.head_mem _, none,
      by decide +kernel⟩
  have hok : (evaluateRoom room214 [demoStay] (.inZone sofiaWinterTime (demoInstant 10 30))
      defaultPolicy demoManualOverride).isOk = true := by decide +kernel
  obtain ⟨state, hstate⟩ : ∃ state, evaluateRoom room214 [demoStay]
      (.inZone sofiaWinterTime (demoInstant 10 30)) defaultPolicy demoManualOverride = .ok state := by
    cases h : evaluateRoom room214 [demoStay] (.inZone sofiaWinterTime (demoInstant 10 30))
        defaultPolicy demoManualOverride with
    | ok state => exact ⟨state, rfl⟩
    | error e =>
        rw [h] at hok
        cases hok
  refine ⟨state, hstate, ?_⟩
  refine ((validity_window_contains_now_iff (demoRuntime_uuid4_injective false)
    demoManualDb_reachable room214 [demoStay] _ defaultPolicy hstored 7).mpr ?_ state hstate).1
  intro selected hd hinactive
  have hstay : selectRelevantBooking (activeBookingsForRoom room214 [demoStay]
      (Datetime.inZone sofiaWinterTime (demoInstant 10 30)).date) defaultPolicy =
      some demoStay := by decide
  have hselected := hd.selected
  rw [hstay, Option.some.injEq] at hselected
  subst hselected
  exact absurd hinactive (by decide +kernel)

theorem overdue_arrival_is_already_expired :
    ¬ ∀ (room : Room) (bookings : List NormalizedBooking) (now : Datetime) (policy : HotelPolicy)
        (state : RoomStateEvaluation),
      evaluateRoom room bookings now policy none = .ok state →
        ContainsNow policy.zone now state.effectiveFrom state.expiresAt := by
  intro h
  have hnow := (h room214 [demoStay]
    (.inZone sofiaWinterTime (demoInstant 12 0 + 2 * dayMicros)) defaultPolicy
    (quietState room214 .preArrival (some demoStay) "expected_arrival_inside_preparation_window"
      (.combine demoDay (timeOfHour 11)) (some (.combine (demoDay + 2) (timeOfHour 11))))
    (by decide +kernel)).2 _ rfl
  revert hnow
  decide

end ClockOrchestrator
