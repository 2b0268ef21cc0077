import ClockOrchestrator.RuntimeInvariants

namespace ClockOrchestrator

open Python Trace

variable {H : Type} [DecidableEq H] {base : AppRuntime H} {db : Db H}

def StoredOverride (db : Db H) (override : Option ManualOverride) : Prop :=
  override = none ∨ ∃ row ∈ db.overrides, ∃ clockBookingId,
    override = manualOverrideFromRow row clockBookingId

theorem StoredOverride.wellFormed (hinj : base.uuid4.Injective) (hdb : Reachable base db)
    {override : Option ManualOverride} (h : StoredOverride db override) :
    ∀ o, override = some o → o.WellFormed := by
  intro o ho
  rcases h with rfl | ⟨row, hrow, clockBookingId, rfl⟩
  · cases ho
  · exact manualOverrideFromRow_wellFormed ((hdb.invariant hinj).overrides row hrow) ho

theorem evaluation_returns_intent_iff (hinj : base.uuid4.Injective) (hdb : Reachable base db)
    {room : Room} (hk : room.key ≠ "") (bookings : List NormalizedBooking) (now : Datetime)
    (policy : HotelPolicy) {override : Option ManualOverride} (ho : StoredOverride db override)
    (correlationId : UUID) :
    (∃ i, evaluatedIntent room bookings now policy override correlationId = .ok (some i)) ↔
      DrivingBookingOpen room bookings now policy override :=
  evaluatedIntent_isOk_iff hk bookings now policy (ho.wellFormed hinj hdb) correlationId

def demoManualMode : Request RoomStateDocument :=
  demoRequest (.applyMqttCommand (demoCommand "mode" "manual" (demoNow 10 0) 1000))

def demoManualDb : Db RoomStateDocument :=
  (next (Db.empty _) demoManualMode).getD (Db.empty _)

def demoManualOverride : Option ManualOverride :=
  demoManualDb.overrides.head?.bind (manualOverrideFromRow · none)

def demoSameDayStay : NormalizedBooking :=
  { demoStay with departureDate := demoDay, datesOrdered := by decide }

theorem demoManualDb_reachable : Reachable (demoRuntime false) demoManualDb :=
  (Reachable.empty _).step (.refl _) (by decide +kernel : next (Db.empty _) demoManualMode = _)

theorem manual_stay_returns_intent :
    ∃ i, evaluatedIntent room214 [demoStay] (.inZone sofiaWinterTime (demoInstant 10 30))
      defaultPolicy demoManualOverride 7 = .ok (some i) := by
  have hstored : StoredOverride demoManualDb demoManualOverride :=
    .inr ⟨demoManualDb.overrides.head (by decide +kernel), List.head_mem _, none,
      by decide +kernel⟩
  refine (evaluation_returns_intent_iff (demoRuntime_uuid4_injective false)
    demoManualDb_reachable (by decide) [demoStay] _ defaultPolicy hstored 7).mpr ?_
  intro _ _ _ selected hselected hinactive
  have hstay : selectRelevantBooking (activeBookingsForRoom room214 [demoStay]
      (Datetime.inZone sofiaWinterTime (demoInstant 10 30)).date) defaultPolicy =
      some demoStay := by decide
  rw [hstay, Option.some.injEq] at hselected
  subst hselected
  exact absurd hinactive (by decide +kernel)

theorem same_day_stay_aborts_evaluation :
    room214.key ≠ "" ∧
      evaluatedIntent room214 [demoSameDayStay]
        (.inZone sofiaWinterTime (demoInstant 9 0)) defaultPolicy none 7 =
        .error (.valueError "expires_at must be after effective_from") := by
  decide

end ClockOrchestrator
