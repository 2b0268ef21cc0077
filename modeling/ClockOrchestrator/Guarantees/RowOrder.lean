import ClockOrchestrator.Domain.EvaluationCases
import ClockOrchestrator.Support.Choice
import ClockOrchestrator.Runtime

namespace ClockOrchestrator

open Python Choice

def RoomStateEvaluation.report (state : RoomStateEvaluation) :
    AutomationPhase × Option NormalizedBooking × Bool × AttentionReason × String ×
      Option Datetime :=
  (state.phase, state.booking, state.needsAttention, state.attentionReason, state.reason,
    state.expiresAt)

def evaluatedHash {H : Type} (rt : AppRuntime H) (room : Room) (bookings : List NormalizedBooking)
    (now : Datetime) (override : Option ManualOverride) (correlationId : UUID) :
    Except PyError H := do
  let state ← evaluateRoom room bookings now rt.policy override
  let intent ← deriveRoomIntent state rt.policy override correlationId
  return rt.stableHash (roomStateDocument rt.zone state intent)

def Clashes (candidates : List NormalizedBooking) (b : NormalizedBooking) : Prop :=
  ∃ other ∈ candidates.erase b, bookingsOverlap b other = true

def FrontRunner (candidates : List NormalizedBooking) (b : NormalizedBooking) : Prop :=
  let checkedIn := candidates.filter (·.bookingStatus = .checkedIn)
  let expected := candidates.filter (·.bookingStatus = .expected)
  if checkedIn ≠ [] then b ∈ checkedIn ∧ ∀ c ∈ checkedIn, b.departureDate ≤ c.departureDate
  else if expected ≠ [] then b ∈ expected ∧ ∀ c ∈ expected, b.arrivalDate ≤ c.arrivalDate
  else b ∈ candidates ∧ ∀ c ∈ candidates, b.arrivalDate ≤ c.arrivalDate

def Raises (policy : HotelPolicy) (override : Option ManualOverride) (now : Datetime)
    (b : NormalizedBooking) : Prop :=
  b.bookingStatus = .expected ∧ overrideActive policy override now b = none ∧
    ∃ e, leadStart b policy = .error e

structure NoRivals (room : Room) (bookings : List NormalizedBooking) (now : Datetime)
    (policy : HotelPolicy) (override : Option ManualOverride) : Prop where
  unknown : ∀ a ∈ bookings, ∀ b ∈ bookings, unknownInRoom room a = true →
    unknownInRoom room b = true → a = b
  conflict : (∀ b ∈ bookings, unknownInRoom room b = false) →
    ∀ a ∈ activeBookingsForRoom room bookings now.date,
      ∀ b ∈ activeBookingsForRoom room bookings now.date,
        Clashes (activeBookingsForRoom room bookings now.date) a →
          Clashes (activeBookingsForRoom room bookings now.date) b → a = b
  front : (∀ b ∈ bookings, unknownInRoom room b = false) →
    NoOverlap (activeBookingsForRoom room bookings now.date) →
      ∀ a b, FrontRunner (activeBookingsForRoom room bookings now.date) a →
        FrontRunner (activeBookingsForRoom room bookings now.date) b →
          a = b ∨ Raises policy override now a ∧ Raises policy override now b

theorem combine_le (z : Zone) (a b : Date) (time : TimeOfDay) :
    Datetime.le z (.combine a time) (.combine b time) = true ↔ a ≤ b := by
  unfold Datetime.le
  rw [Datetime.tz_combine, Datetime.tz_combine, if_pos rfl, decide_eq_true_eq]
  have hday : 0 < dayMicros := by decide
  exact (Int.add_le_add_iff_right _).trans (Int.mul_le_mul_iff_of_pos_right hday)

theorem bookingsOverlap_comm (a b : NormalizedBooking) :
    bookingsOverlap a b = bookingsOverlap b a := by
  unfold bookingsOverlap
  rw [Bool.and_comm]

theorem not_clashes_of_noOverlap {candidates : List NormalizedBooking}
    (h : NoOverlap candidates) {b : NormalizedBooking} (hb : b ∈ candidates) :
    ¬ Clashes candidates b := by
  rintro ⟨other, hother, hoverlap⟩
  have hperm : candidates.Perm (b :: candidates.erase b) := List.perm_cons_erase hb
  have hfront : NoOverlap (b :: candidates.erase b) :=
    h.perm hperm fun hxy => by rwa [bookingsOverlap_comm]
  have hapart := (List.pairwise_cons.mp hfront).1 other hother
  rw [hoverlap] at hapart
  cases hapart

theorem picks_firstConflict : Picks firstConflict (fun l a => a ∈ l ∧ Clashes l a) where
  mem ha := ha.1
  perm {l l' a} hperm ha := by
    obtain ⟨hmem, other, hother, hoverlap⟩ := ha
    exact ⟨hperm.subset hmem, other, (hperm.erase a).subset hother, hoverlap⟩
  sound {l a} hc := by
    induction l with
    | nil => cases hc
    | cons left rest ih =>
        unfold firstConflict at hc
        split at hc
        · next hany =>
            cases hc
            obtain ⟨other, hother, hoverlap⟩ := List.any_eq_true.mp hany
            exact ⟨List.mem_cons_self, other, by simpa using hother, hoverlap⟩
        · obtain ⟨hmem, other, hother, hoverlap⟩ := ih hc
          have hsub : (rest.erase a).Sublist ((left :: rest).erase a) :=
            (List.sublist_cons_self left rest).erase a
          exact ⟨List.mem_cons_of_mem left hmem, other, hsub.subset hother, hoverlap⟩
  exhaustive ha hnone := not_clashes_of_noOverlap (firstConflict_eq_none.mp hnone) ha.1 ha.2
  first ha := by
    obtain ⟨-, other, hother, hoverlap⟩ := ha
    rw [List.erase_cons_head] at hother
    unfold firstConflict
    rw [if_pos (List.any_eq_true.mpr ⟨other, hother, hoverlap⟩)]

theorem picks_firstBy (z : Zone) (key : NormalizedBooking → Datetime)
    (day : NormalizedBooking → Date)
    (hkey : ∀ a b, Datetime.le z (key a) (key b) = true ↔ day a ≤ day b) :
    Picks (firstBy z key) (fun l a => a ∈ l ∧ ∀ b ∈ l, day a ≤ day b) := by
  have htotal : Std.Total fun a b => Datetime.le z (key a) (key b) = true :=
    ⟨fun a b => by rw [hkey, hkey]; exact Int.le_total _ _⟩
  have htrans : IsTrans NormalizedBooking fun a b => Datetime.le z (key a) (key b) = true :=
    ⟨fun a b c hab hbc => by rw [hkey] at hab hbc ⊢; exact Int.le_trans hab hbc⟩
  exact (picks_least _).congr fun l a => by simp only [hkey]

theorem picks_selectRelevantBooking (policy : HotelPolicy) :
    Picks (selectRelevantBooking · policy) FrontRunner := by
  have htotal : Std.Total fun a b : NormalizedBooking => a.arrivalDate ≤ b.arrivalDate :=
    ⟨fun a b => Int.le_total _ _⟩
  have htrans : IsTrans NormalizedBooking fun a b => a.arrivalDate ≤ b.arrivalDate :=
    ⟨fun a b c => Int.le_trans⟩
  have hcheckedIn := picks_firstBy policy.zone (checkoutAt · policy) (·.departureDate)
    fun a b => combine_le _ _ _ _
  have hexpected := picks_firstBy policy.zone (arrivalAt · policy) (·.arrivalDate)
    fun a b => combine_le _ _ _ _
  exact hcheckedIn.prefer (hexpected.prefer (picks_least _) _) _

def selectedResult (room : Room) (now : Datetime) (policy : HotelPolicy)
    (override : Option ManualOverride) :
    Option NormalizedBooking → Except PyError RoomStateEvaluation
  | none => .ok (quietState room .vacant none "no_active_assigned_reservation" now none)
  | some selected =>
      match overrideActive policy override now selected with
      | some o =>
          .ok (quietState room .manualOverride (some selected) "valid_manual_override_active" now
            o.expiresAt)
      | none => evaluateSelected room selected now policy

theorem leadStart_error {policy : HotelPolicy} {b : NormalizedBooking} {e : PyError}
    (h : leadStart b policy = .error e) : e = .overflowError "date value out of range" := by
  unfold leadStart Datetime.subMinutes at h
  split at h
  · exact (Except.error.inj h).symm
  · cases h

theorem selectedResult_booking {room : Room} {now : Datetime} {policy : HotelPolicy}
    {override : Option ManualOverride} {selected : NormalizedBooking}
    {state : RoomStateEvaluation}
    (h : selectedResult room now policy override (some selected) = .ok state) :
    state.booking = some selected := by
  unfold selectedResult at h
  dsimp only at h
  split at h
  · cases h; rfl
  · unfold evaluateSelected at h
    split at h
    · split at h <;> (cases h; rfl)
    · split at h
      · cases h
      · split at h <;> (cases h; rfl)
    · cases h; rfl

theorem selectedResult_error {room : Room} {now : Datetime} {policy : HotelPolicy}
    {override : Option ManualOverride} {selected : NormalizedBooking} {e : PyError}
    (h : selectedResult room now policy override (some selected) = .error e) :
    Raises policy override now selected ∧ e = .overflowError "date value out of range" := by
  unfold selectedResult at h
  dsimp only at h
  split at h
  · cases h
  · next hinactive =>
      unfold evaluateSelected at h
      split at h
      · split at h <;> cases h
      · next hs =>
          split at h
          · next e' he =>
              cases h
              exact ⟨⟨hs, hinactive, _, he⟩, leadStart_error he⟩
          · split at h <;> cases h
      · cases h

theorem Raises.selectedResult {room : Room} {now : Datetime} {policy : HotelPolicy}
    {override : Option ManualOverride} {b : NormalizedBooking}
    (h : Raises policy override now b) :
    selectedResult room now policy override (some b) =
      .error (.overflowError "date value out of range") := by
  obtain ⟨hs, hinactive, e, he⟩ := h
  have hlate := leadStart_error he
  subst hlate
  unfold ClockOrchestrator.selectedResult evaluateSelected
  dsimp only
  rw [hinactive, hs, he]

section Permutations

variable {β : Type} {g : RoomStateEvaluation → β}
  (hg : ∀ state state' : RoomStateEvaluation, g state = g state' → state.booking = state'.booking)
include hg

theorem selectedResult_eq_iff (room : Room) (now : Datetime) (policy : HotelPolicy)
    (override : Option ManualOverride) (a b : NormalizedBooking) :
    (selectedResult room now policy override (some a)).map g =
        (selectedResult room now policy override (some b)).map g ↔
      a = b ∨ Raises policy override now a ∧ Raises policy override now b := by
  constructor
  · intro heq
    cases ha : selectedResult room now policy override (some a) with
    | ok state =>
        cases hb : selectedResult room now policy override (some b) with
        | ok state' =>
            rw [ha, hb] at heq
            have hbooking := hg _ _ (Except.ok.inj heq)
            rw [selectedResult_booking ha, selectedResult_booking hb] at hbooking
            exact .inl (Option.some.inj hbooking)
        | error e =>
            rw [ha, hb] at heq
            cases heq
    | error e =>
        cases hb : selectedResult room now policy override (some b) with
        | ok state' =>
            rw [ha, hb] at heq
            cases heq
        | error e' => exact .inr ⟨(selectedResult_error ha).1, (selectedResult_error hb).1⟩
  · rintro (rfl | ⟨ha, hb⟩)
    · rfl
    · rw [ha.selectedResult, hb.selectedResult]

theorem unknown_perm_iff {room : Room} {bookings : List NormalizedBooking} (now : Datetime)
    (policy : HotelPolicy) (override : Option ManualOverride) (he : room.enabled = true)
    {caught : NormalizedBooking} (hcaught : bookings.find? (unknownInRoom room) = some caught) :
    (∀ rows, rows.Perm bookings → (evaluateRoom room rows now policy override).map g =
      (evaluateRoom room bookings now policy override).map g) ↔
    ∀ a ∈ bookings, ∀ b ∈ bookings, unknownInRoom room a = true →
      unknownInRoom room b = true → a = b := by
  have hrun : ∀ rows, rows.Perm bookings → (evaluateRoom room rows now policy override).map g =
      .ok (g (attentionState room .unknown ((rows.find? (unknownInRoom room)).getD caught)
        .unknownClockStatus "unknown_clock_status_suppresses_automatic_actions" now)) := by
    intro rows hperm
    cases hfound : rows.find? (unknownInRoom room) with
    | none =>
        rw [(picks_find? _).none_of_perm hperm.symm hfound] at hcaught
        cases hcaught
    | some b =>
        rw [evaluateRoom_of_unknown he hfound]
        rfl
  rw [(picks_find? (unknownInRoom room)).invariant_iff (f := fun found => .ok (g (attentionState
    room .unknown (found.getD caught) .unknownClockStatus
    "unknown_clock_status_suppresses_automatic_actions" now))) hrun]
  constructor
  · intro hall a ha b hb hua hub
    have hbooking := hg _ _ (Except.ok.inj (hall a b ⟨ha, hua⟩ ⟨hb, hub⟩))
    simpa [attentionState] using hbooking
  · rintro hall a b ⟨ha, hua⟩ ⟨hb, hub⟩
    rw [hall a ha b hb hua hub]

theorem conflict_perm_iff {room : Room} {bookings : List NormalizedBooking} (now : Datetime)
    (policy : HotelPolicy) (override : Option ManualOverride) {caught : NormalizedBooking}
    (hcaught : firstConflict (activeBookingsForRoom room bookings now.date) = some caught) :
    (∀ rows, rows.Perm bookings →
      (evaluateCandidates room (activeBookingsForRoom room rows now.date) now policy
        override).map g =
      (evaluateCandidates room (activeBookingsForRoom room bookings now.date) now policy
        override).map g) ↔
    ∀ a ∈ activeBookingsForRoom room bookings now.date,
      ∀ b ∈ activeBookingsForRoom room bookings now.date,
        Clashes (activeBookingsForRoom room bookings now.date) a →
          Clashes (activeBookingsForRoom room bookings now.date) b → a = b := by
  have hpicks : Picks (fun rows => firstConflict (activeBookingsForRoom room rows now.date)) _ :=
    picks_firstConflict.filter _
  have hrun : ∀ rows, rows.Perm bookings →
      (evaluateCandidates room (activeBookingsForRoom room rows now.date) now policy
        override).map g =
      .ok (g (attentionState room .conflict
        ((firstConflict (activeBookingsForRoom room rows now.date)).getD caught)
        .overlappingActiveBookings "overlapping_active_bookings_assigned_to_room" now)) := by
    intro rows hperm
    unfold evaluateCandidates
    cases hfound : firstConflict (activeBookingsForRoom room rows now.date) with
    | none =>
        rw [hpicks.none_of_perm hperm.symm hfound] at hcaught
        cases hcaught
    | some b => rfl
  rw [hpicks.invariant_iff (f := fun found => .ok (g (attentionState room .conflict
    (found.getD caught) .overlappingActiveBookings
    "overlapping_active_bookings_assigned_to_room" now))) hrun]
  constructor
  · intro hall a ha b hb hca hcb
    have hbooking := hg _ _ (Except.ok.inj (hall a b ⟨ha, hca⟩ ⟨hb, hcb⟩))
    simpa [attentionState] using hbooking
  · rintro hall a b ⟨ha, hca⟩ ⟨hb, hcb⟩
    rw [hall a ha b hb hca hcb]

theorem front_perm_iff {room : Room} {bookings : List NormalizedBooking} (now : Datetime)
    (policy : HotelPolicy) (override : Option ManualOverride)
    (hfree : firstConflict (activeBookingsForRoom room bookings now.date) = none) :
    (∀ rows, rows.Perm bookings →
      (evaluateCandidates room (activeBookingsForRoom room rows now.date) now policy
        override).map g =
      (evaluateCandidates room (activeBookingsForRoom room bookings now.date) now policy
        override).map g) ↔
    ∀ a b, FrontRunner (activeBookingsForRoom room bookings now.date) a →
      FrontRunner (activeBookingsForRoom room bookings now.date) b →
        a = b ∨ Raises policy override now a ∧ Raises policy override now b := by
  have hconflict : Picks
      (fun rows => firstConflict (activeBookingsForRoom room rows now.date)) _ :=
    picks_firstConflict.filter _
  have hpicks : Picks (fun rows => selectRelevantBooking
      (activeBookingsForRoom room rows now.date) policy) _ :=
    (picks_selectRelevantBooking policy).filter _
  have hrun : ∀ rows, rows.Perm bookings →
      (evaluateCandidates room (activeBookingsForRoom room rows now.date) now policy
        override).map g =
      (selectedResult room now policy override
        (selectRelevantBooking (activeBookingsForRoom room rows now.date) policy)).map g := by
    intro rows hperm
    unfold evaluateCandidates
    rw [hconflict.none_of_perm hperm hfree]
    cases selectRelevantBooking (activeBookingsForRoom room rows now.date) policy <;> rfl
  rw [hpicks.invariant_iff (f := fun found =>
    (selectedResult room now policy override found).map g) hrun]
  simp only [selectedResult_eq_iff hg]
  rfl

theorem known_perm_iff {room : Room} {bookings : List NormalizedBooking} (now : Datetime)
    (policy : HotelPolicy) (override : Option ManualOverride) (he : room.enabled = true)
    (hcaught : bookings.find? (unknownInRoom room) = none) :
    (∀ rows, rows.Perm bookings → (evaluateRoom room rows now policy override).map g =
      (evaluateRoom room bookings now policy override).map g) ↔
    NoRivals room bookings now policy override := by
  have hknown : ∀ b ∈ bookings, unknownInRoom room b = false := by
    simpa using List.find?_eq_none.mp hcaught
  have hvacuous : ∀ a ∈ bookings, ∀ b ∈ bookings, unknownInRoom room a = true →
      unknownInRoom room b = true → a = b := by
    intro a ha b _ hua
    rw [hknown a ha] at hua
    cases hua
  have hrun : ∀ rows, rows.Perm bookings → evaluateRoom room rows now policy override =
      evaluateCandidates room (activeBookingsForRoom room rows now.date) now policy
        override := by
    intro rows hperm
    simp [evaluateRoom, he, (picks_find? _).none_of_perm hperm hcaught]
  have hcandidates : (∀ rows, rows.Perm bookings →
      (evaluateRoom room rows now policy override).map g =
        (evaluateRoom room bookings now policy override).map g) ↔
      ∀ rows, rows.Perm bookings →
        (evaluateCandidates room (activeBookingsForRoom room rows now.date) now policy
          override).map g =
        (evaluateCandidates room (activeBookingsForRoom room bookings now.date) now policy
          override).map g := by
    refine forall₂_congr fun rows hperm => ?_
    rw [hrun rows hperm, hrun bookings (.refl _)]
  rw [hcandidates]
  cases hfound : firstConflict (activeBookingsForRoom room bookings now.date) with
  | some left =>
      have hoverlap : ¬ NoOverlap (activeBookingsForRoom room bookings now.date) := by
        rw [← firstConflict_eq_none, hfound]
        simp
      rw [conflict_perm_iff hg now policy override hfound]
      constructor
      · intro hsame
        exact ⟨hvacuous, fun _ => hsame, fun _ h => absurd h hoverlap⟩
      · intro hrivals
        exact hrivals.conflict hknown
  | none =>
      have hfree := firstConflict_eq_none.mp hfound
      rw [front_perm_iff hg now policy override hfound]
      constructor
      · intro hsame
        exact ⟨hvacuous, fun _ a ha _ _ hclash =>
          absurd hclash (not_clashes_of_noOverlap hfree ha), fun _ _ => hsame⟩
      · intro hrivals
        exact hrivals.front hknown hfree

theorem evaluateRoom_perm_iff (room : Room) (bookings : List NormalizedBooking) (now : Datetime)
    (policy : HotelPolicy) (override : Option ManualOverride) :
    (∀ rows, rows.Perm bookings → (evaluateRoom room rows now policy override).map g =
      (evaluateRoom room bookings now policy override).map g) ↔
    (room.enabled = true → NoRivals room bookings now policy override) := by
  cases he : room.enabled with
  | false => simp [evaluateRoom, he]
  | true =>
      rw [forall_prop_of_true rfl]
      cases hcaught : bookings.find? (unknownInRoom room) with
      | some caught =>
          have hmem := List.mem_of_find?_eq_some hcaught
          have hunknown := List.find?_some hcaught
          have hsome : ¬ ∀ b ∈ bookings, unknownInRoom room b = false := by
            intro hall
            rw [hall caught hmem] at hunknown
            cases hunknown
          rw [unknown_perm_iff hg now policy override he hcaught]
          constructor
          · intro hall
            exact ⟨hall, fun h => absurd h hsome, fun h => absurd h hsome⟩
          · intro hrivals
            exact hrivals.unknown
      | none => exact known_perm_iff hg now policy override he hcaught

end Permutations

theorem row_order_irrelevant_iff {H : Type} (rt : AppRuntime H) (room : Room)
    (bookings : List NormalizedBooking) (now : Datetime) (override : Option ManualOverride)
    (correlationId : UUID) :
    (∀ rows, rows.Perm bookings →
      (evaluateRoom room rows now rt.policy override).map (·.report) =
          (evaluateRoom room bookings now rt.policy override).map (·.report) ∧
        evaluatedHash rt room rows now override correlationId =
          evaluatedHash rt room bookings now override correlationId) ↔
    (room.enabled = true → NoRivals room bookings now rt.policy override) := by
  constructor
  · intro hall
    refine (evaluateRoom_perm_iff (g := RoomStateEvaluation.report) ?_ room bookings now rt.policy
      override).mp fun rows hperm => (hall rows hperm).1
    intro state state' hreport
    simp only [RoomStateEvaluation.report, Prod.mk.injEq] at hreport
    exact hreport.2.1
  · intro hrivals rows hperm
    have hsame := (evaluateRoom_perm_iff (g := id) (fun _ _ => congrArg _) room bookings now
      rt.policy override).mpr hrivals rows hperm
    have hid : ∀ x : Except PyError RoomStateEvaluation, x.map id = x := by
      rintro (e | state) <;> rfl
    rw [hid, hid] at hsame
    unfold evaluatedHash
    rw [hsame]
    exact ⟨rfl, rfl⟩

def demoOverlappingStay : NormalizedBooking :=
  { demoStay with clockBookingId := "booking-2" }

theorem conflict_names_the_first_row :
    ¬ ∀ (rt : AppRuntime RoomStateDocument) (room : Room)
        (bookings rows : List NormalizedBooking) (now : Datetime)
        (override : Option ManualOverride) (correlationId : UUID), rows.Perm bookings →
      (evaluateRoom room rows now rt.policy override).map (·.report) =
          (evaluateRoom room bookings now rt.policy override).map (·.report) ∧
        evaluatedHash rt room rows now override correlationId =
          evaluatedHash rt room bookings now override correlationId := by
  intro h
  have heq := (h (demoRuntime false) room214 [demoStay, demoOverlappingStay]
    [demoOverlappingStay, demoStay] (.inZone sofiaWinterTime (demoInstant 10 30)) none 7
    (.swap ..)).1
  have hbooking := congrArg (fun x => x.toOption.bind (·.2.1)) heq
  revert hbooking
  decide

end ClockOrchestrator
