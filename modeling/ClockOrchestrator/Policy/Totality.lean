import ClockOrchestrator.Policy.Engine

namespace ClockOrchestrator

open Python

def WindowOpen (z : Zone) (state : RoomStateEvaluation) : Prop :=
  ∀ expires, state.expiresAt = some expires → Datetime.lt z state.effectiveFrom expires = true

def WellNamed (state : RoomStateEvaluation) : Prop :=
  (∃ key, state.roomKey = some key ∧ key ≠ "") ∧ state.reason ≠ ""

structure ManualOverride.WellFormed (o : ManualOverride) : Prop where
  offWithoutTarget : o.hvacMode = .off ↔ o.targetTemperatureC = none
  checkoutWithoutExpiry : o.untilCheckout = true → o.expiresAt = none

theorem windowOpen_of_no_expiry {z : Zone} {state : RoomStateEvaluation}
    (h : state.expiresAt = none) : WindowOpen z state := by
  intro expires he
  rw [h] at he
  cases he

theorem windowOpen_some {z : Zone} {state : RoomStateEvaluation} {expires : Datetime}
    (h : state.expiresAt = some expires) :
    WindowOpen z state ↔ Datetime.lt z state.effectiveFrom expires = true := by
  simp [WindowOpen, h]

theorem hvacIntent_validate_ok {enabled : Bool} {mode : ManualHvacMode}
    {target : Option PyFloat} (h : hvacStateError enabled mode target = none) :
    HvacIntent.validate enabled mode target = .ok ⟨enabled, mode, target, h⟩ := by
  unfold HvacIntent.validate
  split
  · rfl
  · next he => rw [h] at he; cases he

theorem validityWindowError_eq_none {z : Zone} {intent : DesiredRoomIntent} :
    validityWindowError z intent = none ↔
      ∀ expires, intent.expiresAt = some expires →
        Datetime.lt z intent.effectiveFrom expires = true := by
  unfold validityWindowError
  cases intent.expiresAt with
  | none => simp
  | some expires => simp [Datetime.le_eq_not_lt]

theorem validate_isOk_iff {z : Zone} {intent : DesiredRoomIntent} (hk : intent.roomKey ≠ "")
    (hv : 1 ≤ intent.intentVersion) (hr : intent.reason ≠ "") :
    (∃ i, DesiredRoomIntent.validate z intent = .ok i) ↔ validityWindowError z intent = none := by
  have hv' : ¬ intent.intentVersion < 1 := by omega
  unfold DesiredRoomIntent.validate
  rw [if_neg hk, if_neg hv', if_neg hr]
  cases validityWindowError z intent <;> simp

theorem buildIntent_isOk_iff {z : Zone} {state : RoomStateEvaluation} (hn : WellNamed state)
    {reason : String} (hr : reason ≠ "") (mode : ControlMode) (hvac : HvacIntent)
    (waterHeater convectors : Bool) (correlationId : UUID) :
    (∃ i, buildIntent z state mode hvac waterHeater convectors reason correlationId = .ok i) ↔
      WindowOpen z state := by
  obtain ⟨⟨key, hkey, hne⟩, -⟩ := hn
  unfold buildIntent
  rw [validate_isOk_iff (by simpa [hkey] using hne) (Nat.le_refl 1) hr,
    validityWindowError_eq_none]
  rfl

theorem overrideIntent_isOk_iff {policy : HotelPolicy} {state : RoomStateEvaluation}
    (hn : WellNamed state) {o : ManualOverride} (ho : o.WellFormed) (correlationId : UUID) :
    (∃ i, overrideIntent policy state o correlationId = .ok i) ↔ WindowOpen policy.zone state := by
  have hstate : hvacStateError (o.hvacMode ≠ .off) o.hvacMode
      (o.targetTemperatureC.map policy.automation.clampTemperature) = none := by
    have htarget := ho.offWithoutTarget
    unfold hvacStateError
    by_cases hm : o.hvacMode = .off
    · simp [hm, htarget.mp hm]
    · have hsome : o.targetTemperatureC ≠ none := fun h => hm (htarget.mpr h)
      simp [hm, hsome]
  unfold overrideIntent
  rw [hvacIntent_validate_ok hstate]
  exact buildIntent_isOk_iff hn hn.2 _ _ _ _ _

theorem automaticIntent_isOk_iff {policy : HotelPolicy} {state : RoomStateEvaluation}
    (hn : WellNamed state) (correlationId : UUID) :
    (∃ i, automaticIntent policy state correlationId = .ok i) ↔ WindowOpen policy.zone state := by
  have hsuppressed : ∀ reason, reason ≠ "" →
      ((∃ i, suppressedIntent policy.zone state reason correlationId = .ok i) ↔
        WindowOpen policy.zone state) := by
    intro reason hr
    exact buildIntent_isOk_iff hn hr _ _ _ _ _
  unfold automaticIntent
  split
  · exact hsuppressed _ hn.2
  · split
    · exact buildIntent_isOk_iff hn hn.2 _ _ _ _ _
    · split
      · unfold arrivalIntent
        by_cases hp : state.phase = .preArrival
        · simp only [hp, decide_true]
          exact buildIntent_isOk_iff hn hn.2 _ _ _ _ _
        · simp only [hp, decide_false]
          exact buildIntent_isOk_iff hn hn.2 _ _ _ _ _
      · split
        · exact buildIntent_isOk_iff hn hn.2 _ _ _ _ _
        · exact hsuppressed _ (by decide)

theorem map_some_isOk_iff {α : Type} (x : Except PyError α) :
    (∃ i, x.map some = .ok (some i)) ↔ ∃ i, x = .ok i := by
  cases x <;> simp [Except.map]

theorem deriveRoomIntent_isOk_iff {policy : HotelPolicy} {state : RoomStateEvaluation}
    (hn : WellNamed state) {override : Option ManualOverride}
    (ho : ∀ o, override = some o → o.WellFormed) (correlationId : UUID) :
    (∃ i, deriveRoomIntent state policy override correlationId = .ok (some i)) ↔
      WindowOpen policy.zone state := by
  obtain ⟨key, hkey, -⟩ := hn.1
  have hsome : state.roomKey.isNone = false := by simp [hkey]
  unfold deriveRoomIntent
  rw [if_neg (by simp [hsome])]
  split
  · rw [map_some_isOk_iff, overrideIntent_isOk_iff hn (ho _ rfl)]
  · rw [map_some_isOk_iff, automaticIntent_isOk_iff hn]

theorem quietState_wellNamed {room : Room} (hk : room.key ≠ "") {reason : String}
    (hr : reason ≠ "") (phase : AutomationPhase) (booking : Option NormalizedBooking)
    (effectiveFrom : Datetime) (expiresAt : Option Datetime) :
    WellNamed (quietState room phase booking reason effectiveFrom expiresAt) :=
  ⟨⟨_, rfl, hk⟩, hr⟩

theorem attentionState_wellNamed {room : Room} (hk : room.key ≠ "") {reason : String}
    (hr : reason ≠ "") (phase : AutomationPhase) (booking : NormalizedBooking)
    (attention : AttentionReason) (now : Datetime) :
    WellNamed (attentionState room phase booking attention reason now) :=
  ⟨⟨_, rfl, hk⟩, hr⟩

theorem evaluateSelected_wellNamed {room : Room} (hk : room.key ≠ "")
    {selected : NormalizedBooking} {now : Datetime} {policy : HotelPolicy}
    {state : RoomStateEvaluation}
    (h : evaluateSelected room selected now policy = .ok state) : WellNamed state := by
  unfold evaluateSelected at h
  split at h
  · split at h <;> (cases h; exact quietState_wellNamed hk (by decide) ..)
  · split at h
    · cases h
    · split at h <;> (cases h; exact quietState_wellNamed hk (by decide) ..)
  · cases h; exact quietState_wellNamed hk (by decide) ..

theorem evaluateRoom_wellNamed {room : Room} (hk : room.key ≠ "")
    {bookings : List NormalizedBooking} {now : Datetime} {policy : HotelPolicy}
    {override : Option ManualOverride} {state : RoomStateEvaluation}
    (h : evaluateRoom room bookings now policy override = .ok state) : WellNamed state := by
  unfold evaluateRoom evaluateCandidates at h
  split at h
  · cases h; exact quietState_wellNamed hk (by decide) ..
  · split at h
    · cases h; exact attentionState_wellNamed hk (by decide) ..
    · split at h
      · cases h; exact attentionState_wellNamed hk (by decide) ..
      · split at h
        · cases h; exact quietState_wellNamed hk (by decide) ..
        · split at h
          · cases h; exact quietState_wellNamed hk (by decide) ..
          · exact evaluateSelected_wellNamed hk h

structure DesiredRoomIntent.DerivedFrom (state : RoomStateEvaluation)
    (intent : DesiredRoomIntent) : Prop where
  phase : intent.automationPhase = state.phase
  effectiveFrom : intent.effectiveFrom = state.effectiveFrom
  expiresAt : intent.expiresAt = state.expiresAt

theorem validate_ok {z : Zone} {intent result : DesiredRoomIntent}
    (h : DesiredRoomIntent.validate z intent = .ok result) : result = intent := by
  unfold DesiredRoomIntent.validate at h
  split at h
  · cases h
  · split at h
    · cases h
    · split at h
      · cases h
      · split at h
        · cases h
        · exact (Except.ok.inj h).symm

theorem buildIntent_derivedFrom {z : Zone} {state : RoomStateEvaluation} {mode : ControlMode}
    {hvac : HvacIntent} {waterHeater convectors : Bool} {reason : String} {correlationId : UUID}
    {intent : DesiredRoomIntent}
    (h : buildIntent z state mode hvac waterHeater convectors reason correlationId = .ok intent) :
    intent.DerivedFrom state := by
  unfold buildIntent at h
  rw [validate_ok h]
  exact ⟨rfl, rfl, rfl⟩

theorem automaticIntent_derivedFrom {policy : HotelPolicy} {state : RoomStateEvaluation}
    {correlationId : UUID} {intent : DesiredRoomIntent}
    (h : automaticIntent policy state correlationId = .ok intent) : intent.DerivedFrom state := by
  have hbuilt : ∀ (x : Except PyError HvacIntent) mode waterHeater convectors reason,
      (x >>= fun hvac => buildIntent policy.zone state mode hvac waterHeater convectors reason
        correlationId) = .ok intent → intent.DerivedFrom state := by
    intro x mode waterHeater convectors reason hx
    obtain ⟨hvac, -, hbuild⟩ := bind_ok hx
    exact buildIntent_derivedFrom hbuild
  unfold automaticIntent at h
  split at h
  · exact hbuilt _ _ _ _ _ h
  · split at h
    · exact hbuilt _ _ _ _ _ h
    · split at h
      · exact hbuilt _ _ _ _ _ h
      · split at h
        · exact hbuilt _ _ _ _ _ h
        · exact hbuilt _ _ _ _ _ h

theorem deriveRoomIntent_derivedFrom {state : RoomStateEvaluation} {policy : HotelPolicy}
    {override : Option ManualOverride} {correlationId : UUID} {intent : DesiredRoomIntent}
    (h : deriveRoomIntent state policy override correlationId = .ok (some intent)) :
    intent.DerivedFrom state := by
  unfold deriveRoomIntent at h
  split at h
  · cases h
  · split at h
    · obtain ⟨built, hbuilt, hsome⟩ := map_ok h
      cases hsome
      obtain ⟨hvac, -, hbuild⟩ := bind_ok hbuilt
      exact buildIntent_derivedFrom hbuild
    · obtain ⟨built, hbuilt, hsome⟩ := map_ok h
      cases hsome
      exact automaticIntent_derivedFrom hbuilt

def LeadWindowOpen (policy : HotelPolicy) (now : Datetime) (selected : NormalizedBooking) :
    Prop :=
  ∃ start, leadStart selected policy = .ok start ∧
    (Datetime.le policy.zone start now = true →
      Datetime.lt policy.zone start (checkoutAt selected policy) = true)

def OpenEvaluation (policy : HotelPolicy) (x : Except PyError RoomStateEvaluation) : Prop :=
  ∃ state, x = .ok state ∧ WindowOpen policy.zone state

theorem openEvaluation_ok {policy : HotelPolicy} {state : RoomStateEvaluation} :
    OpenEvaluation policy (.ok state) ↔ WindowOpen policy.zone state := by
  simp [OpenEvaluation]

theorem evaluateSelected_open_iff (room : Room) (selected : NormalizedBooking) (now : Datetime)
    (policy : HotelPolicy) :
    OpenEvaluation policy (evaluateSelected room selected now policy) ↔
      (selected.bookingStatus = .expected → LeadWindowOpen policy now selected) := by
  unfold evaluateSelected LeadWindowOpen
  split
  · next hs =>
      split
      · simp [openEvaluation_ok, windowOpen_of_no_expiry, quietState, hs]
      · next hnow =>
          rw [openEvaluation_ok, windowOpen_some rfl]
          simpa [quietState, hs, Datetime.le_eq_not_lt] using hnow
  · next hs =>
      cases hl : leadStart selected policy with
      | error e => simp [OpenEvaluation, hs]
      | ok start =>
          by_cases hnow : Datetime.le policy.zone start now = true
          · simp [openEvaluation_ok, hnow, windowOpen_some, quietState, hs]
          · have hopen : Datetime.lt policy.zone now start = true := by
              simpa [Datetime.le_eq_not_lt] using hnow
            simp [openEvaluation_ok, hnow, windowOpen_some, quietState, hs, hopen]
  · next he =>
      rw [openEvaluation_ok]
      exact iff_of_true (windowOpen_of_no_expiry rfl) fun hs => (he hs).elim

theorem isActive_of_expires {z : Zone} {o : ManualOverride} {now : Datetime}
    {clockBookingId : Option String} (ho : o.WellFormed)
    (ha : o.isActive z now clockBookingId = true) {expires : Datetime}
    (he : o.expiresAt = some expires) : Datetime.lt z now expires = true := by
  unfold ManualOverride.isActive at ha
  split at ha
  · cases ha
  · split at ha
    · next hu => rw [ho.checkoutWithoutExpiry hu] at he; cases he
    · simpa [he] using ha

def DrivingBookingOpen (room : Room) (bookings : List NormalizedBooking) (now : Datetime)
    (policy : HotelPolicy) (override : Option ManualOverride) : Prop :=
  room.enabled = true → bookings.find? (unknownInRoom room) = none →
    firstConflict (activeBookingsForRoom room bookings now.date) = none →
      ∀ selected,
        selectRelevantBooking (activeBookingsForRoom room bookings now.date) policy =
          some selected →
        overrideActive policy override now selected = none →
        selected.bookingStatus = .expected → LeadWindowOpen policy now selected

theorem evaluateRoom_open_iff (room : Room) (bookings : List NormalizedBooking) (now : Datetime)
    (policy : HotelPolicy) {override : Option ManualOverride}
    (ho : ∀ o, override = some o → o.WellFormed) :
    OpenEvaluation policy (evaluateRoom room bookings now policy override) ↔
      DrivingBookingOpen room bookings now policy override := by
  unfold evaluateRoom evaluateCandidates DrivingBookingOpen
  cases he : room.enabled with
  | false => simp [openEvaluation_ok, windowOpen_of_no_expiry, quietState]
  | true =>
      cases bookings.find? (unknownInRoom room) with
      | some unknown => simp [openEvaluation_ok, windowOpen_of_no_expiry, attentionState]
      | none =>
          cases firstConflict (activeBookingsForRoom room bookings now.date) with
          | some left => simp [openEvaluation_ok, windowOpen_of_no_expiry, attentionState]
          | none =>
              cases selectRelevantBooking (activeBookingsForRoom room bookings now.date) policy with
              | none => simp [openEvaluation_ok, windowOpen_of_no_expiry, quietState]
              | some selected =>
                  cases hov : overrideActive policy override now selected with
                  | none => simpa [hov] using evaluateSelected_open_iff room selected now policy
                  | some o =>
                      obtain ⟨hsome, hactive⟩ := Option.filter_eq_some_iff.mp hov
                      have hwindow : WindowOpen policy.zone (quietState room .manualOverride
                          (some selected) "valid_manual_override_active" now o.expiresAt) :=
                        fun expires hx => isActive_of_expires (ho o hsome) hactive hx
                      simpa [openEvaluation_ok, hov] using hwindow

def evaluatedIntent (room : Room) (bookings : List NormalizedBooking) (now : Datetime)
    (policy : HotelPolicy) (override : Option ManualOverride) (correlationId : UUID) :
    Except PyError (Option DesiredRoomIntent) := do
  let state ← evaluateRoom room bookings now policy override
  deriveRoomIntent state policy override correlationId

theorem evaluatedIntent_isOk_iff {room : Room} (hk : room.key ≠ "")
    (bookings : List NormalizedBooking) (now : Datetime) (policy : HotelPolicy)
    {override : Option ManualOverride} (ho : ∀ o, override = some o → o.WellFormed)
    (correlationId : UUID) :
    (∃ i, evaluatedIntent room bookings now policy override correlationId = .ok (some i)) ↔
      DrivingBookingOpen room bookings now policy override := by
  rw [← evaluateRoom_open_iff room bookings now policy ho]
  unfold evaluatedIntent
  cases hs : evaluateRoom room bookings now policy override with
  | error e => simp [OpenEvaluation, bind, Except.bind]
  | ok state =>
      rw [openEvaluation_ok]
      exact deriveRoomIntent_isOk_iff (evaluateRoom_wellNamed hk hs) ho correlationId

end ClockOrchestrator
