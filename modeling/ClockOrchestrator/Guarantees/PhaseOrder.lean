import ClockOrchestrator.Domain.EvaluationCases
import ClockOrchestrator.Runtime
import Mathlib.Order.Monotone.Basic
import Mathlib.Data.Int.ConditionallyCompleteOrder
import Mathlib.Order.ConditionallyCompleteLattice.Basic

namespace ClockOrchestrator

open Python

abbrev hotelNow (policy : HotelPolicy) (u : Instant) : Datetime := .inZone policy.zone u

inductive Precedes : AutomationPhase → AutomationPhase → Prop
  | arrival : Precedes .reserved .preArrival
  | departure : Precedes .occupied .checkoutDue

inductive Passage (b : NormalizedBooking) (policy : HotelPolicy) :
    AutomationPhase → AutomationPhase → Datetime → Prop
  | arrival {start : Datetime} (hs : b.bookingStatus = .expected)
      (hstart : leadStart b policy = .ok start) : Passage b policy .reserved .preArrival start
  | departure (hs : b.bookingStatus = .checkedIn) :
      Passage b policy .occupied .checkoutDue (checkoutAt b policy)

def PhasesForward (room : Room) (bookings : List NormalizedBooking) (policy : HotelPolicy)
    (u v : Instant) : Prop :=
  ∀ s t b, evaluateRoom room bookings (hotelNow policy u) policy none = .ok s →
    evaluateRoom room bookings (hotelNow policy v) policy none = .ok t →
    s.booking = some b → t.booking = some b →
      ∀ before after, Precedes before after → ¬ (s.phase = after ∧ t.phase = before)

structure PutBackBefore (room : Room) (bookings : List NormalizedBooking) (policy : HotelPolicy)
    (u v : Instant) (b : NormalizedBooking) (d : Datetime) : Prop where
  drivesFirst : Drives room bookings (hotelNow policy u) policy b
  drivesSecond : Drives room bookings (hotelNow policy v) policy b
  passage : ∃ before after, Passage b policy before after d
  reached : d.wall ≤ (hotelNow policy u).wall
  putBack : (hotelNow policy v).wall < d.wall

namespace Passage

variable {room : Room} {bookings : List NormalizedBooking} {u : Instant}
  {b : NormalizedBooking} {policy : HotelPolicy} {before after : AutomationPhase}
  {d : Datetime} {s : RoomStateEvaluation}

theorem precedes (h : Passage b policy before after d) : Precedes before after := by
  cases h with
  | arrival hs hstart => exact .arrival
  | departure hs => exact .departure

theorem tz (h : Passage b policy before after d) : d.tz = .zoneInfo := by
  cases h with
  | departure hs => rfl
  | arrival hs hstart =>
      unfold leadStart Datetime.subMinutes at hstart
      split at hstart
      · cases hstart
      · cases hstart
        rfl

theorem le_hotelNow (h : Passage b policy before after d) (u : Instant) :
    Datetime.le policy.zone d (hotelNow policy u) = true ↔ d.wall ≤ (hotelNow policy u).wall := by
  simp [Datetime.le, h.tz]

theorem evaluateRoom_eq (h : Passage b policy before after d)
    (hd : Drives room bookings (hotelNow policy u) policy b) :
    ∃ s, evaluateRoom room bookings (hotelNow policy u) policy none = .ok s ∧
      s.booking = some b ∧
      s.phase = if d.wall ≤ (hotelNow policy u).wall then after else before := by
  rw [hd.evaluateRoom_eq rfl]
  have hle := h.le_hotelNow u
  cases h with
  | arrival hs hstart =>
      simp only [evaluateSelected, hs, hstart, hle]
      split
      · exact ⟨_, rfl, rfl, rfl⟩
      · exact ⟨_, rfl, rfl, rfl⟩
  | departure hs =>
      simp only [evaluateSelected, hs, hle]
      split
      · exact ⟨_, rfl, rfl, rfl⟩
      · exact ⟨_, rfl, rfl, rfl⟩

theorem phase_eq (h : Passage b policy before after d)
    (hd : Drives room bookings (hotelNow policy u) policy b)
    (hs : evaluateRoom room bookings (hotelNow policy u) policy none = .ok s) :
    s.phase = if d.wall ≤ (hotelNow policy u).wall then after else before := by
  obtain ⟨s', hs', -, hphase⟩ := h.evaluateRoom_eq hd
  rw [hs', Except.ok.injEq] at hs
  rw [← hs]
  exact hphase

theorem of_phase (hs : evaluateRoom room bookings (hotelNow policy u) policy none = .ok s)
    (hb : s.booking = some b) (h : Precedes before after)
    (hphase : s.phase = before ∨ s.phase = after) :
    Drives room bookings (hotelNow policy u) policy b ∧ ∃ d, Passage b policy before after d := by
  cases evaluateRoom_cases hs with
  | preArrival hd ho hstatus hstart hopen =>
      cases hb
      cases h with
      | arrival => exact ⟨hd, _, .arrival hstatus hstart⟩
      | departure => simp [quietState] at hphase
  | reserved hd ho hstatus hstart hearly =>
      cases hb
      cases h with
      | arrival => exact ⟨hd, _, .arrival hstatus hstart⟩
      | departure => simp [quietState] at hphase
  | checkoutDue hd ho hstatus hdue =>
      cases hb
      cases h with
      | arrival => simp [quietState] at hphase
      | departure => exact ⟨hd, _, .departure hstatus⟩
  | occupied hd ho hstatus hopen =>
      cases hb
      cases h with
      | arrival => simp [quietState] at hphase
      | departure => exact ⟨hd, _, .departure hstatus⟩
  | disabled | unknown | conflict | vacant | manual =>
      cases h <;> simp [quietState, attentionState] at hphase

end Passage

theorem Precedes.ne {before after : AutomationPhase} (h : Precedes before after) :
    before ≠ after := by
  cases h with
  | arrival => decide
  | departure => decide

variable {room : Room} {bookings : List NormalizedBooking} {policy : HotelPolicy} {u v : Instant}

theorem PutBackBefore.not_forward {b : NormalizedBooking} {d : Datetime}
    (hback : PutBackBefore room bookings policy u v b d) :
    ¬ PhasesForward room bookings policy u v := by
  intro hforward
  obtain ⟨before, after, hpass⟩ := hback.passage
  obtain ⟨s, hs, hsb, hafter⟩ := hpass.evaluateRoom_eq hback.drivesFirst
  obtain ⟨t, ht, htb, hbefore⟩ := hpass.evaluateRoom_eq hback.drivesSecond
  rw [if_pos hback.reached] at hafter
  rw [if_neg (not_le.mpr hback.putBack)] at hbefore
  exact hforward s t b hs ht hsb htb before after hpass.precedes ⟨hafter, hbefore⟩

theorem PhasesForward.of_kept (hkept : ∀ b d, ¬ PutBackBefore room bookings policy u v b d) :
    PhasesForward room bookings policy u v := by
  rintro s t b hs ht hsb htb before after hphases ⟨hafter, hbefore⟩
  obtain ⟨hu, d, hpass⟩ := Passage.of_phase hs hsb hphases (.inr hafter)
  obtain ⟨hv, -⟩ := Passage.of_phase ht htb hphases (.inl hbefore)
  apply hkept b d
  refine ⟨hu, hv, ⟨before, after, hpass⟩, ?_, ?_⟩
  · by_contra hearly
    rw [hpass.phase_eq hu hs, if_neg hearly] at hafter
    exact hphases.ne hafter
  · by_contra hlate
    rw [hpass.phase_eq hv ht, if_pos (not_lt.mp hlate)] at hbefore
    exact hphases.ne hbefore.symm

theorem phases_forward_iff (room : Room) (bookings : List NormalizedBooking)
    (policy : HotelPolicy) (u v : Instant) :
    PhasesForward room bookings policy u v ↔
      ¬ ∃ b d, PutBackBefore room bookings policy u v b d := by
  constructor
  · rintro hforward ⟨b, d, hback⟩
    exact hback.not_forward hforward
  · intro hkept
    exact .of_kept fun b d hback => hkept ⟨b, d, hback⟩

theorem phases_forward_of_reading_le
    (h : (hotelNow policy u).wall ≤ (hotelNow policy v).wall) :
    PhasesForward room bookings policy u v := by
  apply PhasesForward.of_kept
  intro b d hback
  have hlt : (hotelNow policy v).wall < (hotelNow policy u).wall :=
    hback.putBack.trans_le hback.reached
  exact hlt.not_ge h

theorem phases_forward_of_apart {least spread : Int}
    (hleast : ∀ i, least ≤ (hotelNow policy i).wall - i)
    (hmost : ∀ i, (hotelNow policy i).wall - i ≤ least + spread) (h : spread ≤ v - u) :
    PhasesForward room bookings policy u v := by
  apply phases_forward_of_reading_le
  have hu := hmost u
  have hv := hleast v
  omega

def timeOfReading (reading : Int) : TimeOfDay :=
  ⟨(reading % dayMicros).toNat, by unfold dayMicros; omega⟩

theorem combine_timeOfReading (reading : Int) :
    (Datetime.combine (reading / dayMicros) (timeOfReading reading)).wall = reading := by
  have hpos : 0 ≤ reading % dayMicros := Int.emod_nonneg _ (by decide)
  calc reading / dayMicros * dayMicros + ((reading % dayMicros).toNat : ℤ)
    _ = reading / dayMicros * dayMicros + reading % dayMicros := by rw [Int.toNat_of_nonneg hpos]
    _ = reading := Int.ediv_mul_add_emod reading dayMicros

def departingStay (day : Date) : NormalizedBooking :=
  { demoCheckedInStay with
    arrivalDate := day
    departureDate := day
    datesOrdered := le_rfl }

theorem departingStay_drives {day : Date} {now : Datetime} (policy : HotelPolicy)
    (h : now.date ≤ day) : Drives room214 [departingStay day] now policy (departingStay day) := by
  have hactive : activeBookingsForRoom room214 [departingStay day] now.date =
      [departingStay day] := by
    rw [activeBookingsForRoom, List.filter_eq_self]
    rintro b hb
    rw [List.mem_singleton] at hb
    subst hb
    have hnames : namesRoom room214 (departingStay day) = true := rfl
    rw [hnames, Bool.and_true, Bool.and_eq_true]
    exact ⟨rfl, decide_eq_true h⟩
  refine ⟨rfl, rfl, ?_, ?_⟩
  · rw [hactive]
    rfl
  · rw [hactive]
    rfl

theorem phases_forward_in_zone_iff (z : Zone) :
    (∀ room bookings policy u v, policy.zone = z → u < v →
      PhasesForward room bookings policy u v) ↔
    Monotone fun u => (Datetime.inZone z u).wall := by
  constructor
  · intro hforward
    rw [monotone_iff_forall_lt]
    intro u v huv
    by_contra hback
    rw [not_le] at hback
    have hpos : 0 < dayMicros := by decide
    let reading := (Datetime.inZone z u).wall
    let policy : HotelPolicy := { defaultPolicy with
      property := { tzinfo := z, defaultCheckOutTime := timeOfReading reading } }
    let stay := departingStay (reading / dayMicros)
    have hcheckout : (checkoutAt stay policy).wall = reading := combine_timeOfReading reading
    have hputBack : PutBackBefore room214 [stay] policy u v stay (checkoutAt stay policy) :=
      ⟨departingStay_drives policy le_rfl,
        departingStay_drives policy (Int.ediv_le_ediv hpos hback.le), ⟨_, _, .departure rfl⟩,
        hcheckout.le, hback.trans_eq hcheckout.symm⟩
    exact hputBack.not_forward (hforward room214 _ policy u v rfl huv)
  · rintro hmono room bookings policy u v rfl huv
    exact phases_forward_of_reading_le (hmono huv.le)

def sofiaAutumn : Zone :=
  .switched ((demoDay - 14) * dayMicros + 60 * minuteMicros) 10800000000 7200000000

def nightLeadPolicy : HotelPolicy where
  property := { defaultPolicy.property with tzinfo := sofiaAutumn }
  automation := { defaultPolicy.automation with preArrivalLeadMinutes := 690 }

def autumnStay : NormalizedBooking :=
  { demoStay with arrivalDate := demoDay - 14, datesOrdered := by decide }

theorem pre_arrival_is_undone_by_put_back_clock :
    ¬ ∀ (room : Room) (bookings : List NormalizedBooking) (policy : HotelPolicy) (u v : Instant),
      u < v → PhasesForward room bookings policy u v := by
  intro h
  have hprepared : evaluateRoom room214 [autumnStay]
      (hotelNow nightLeadPolicy ((demoDay - 14) * dayMicros + 45 * minuteMicros))
      nightLeadPolicy none =
      .ok (quietState room214 .preArrival (some autumnStay)
        "expected_arrival_inside_preparation_window"
        ⟨(demoDay - 14) * dayMicros + 210 * minuteMicros, false, .zoneInfo⟩
        (some (checkoutAt autumnStay nightLeadPolicy))) := by decide +kernel
  have hreserved : evaluateRoom room214 [autumnStay]
      (hotelNow nightLeadPolicy ((demoDay - 14) * dayMicros + 75 * minuteMicros))
      nightLeadPolicy none =
      .ok (quietState room214 .reserved (some autumnStay)
        "future_assigned_reservation_outside_preparation_window"
        (hotelNow nightLeadPolicy ((demoDay - 14) * dayMicros + 75 * minuteMicros))
        (some ⟨(demoDay - 14) * dayMicros + 210 * minuteMicros, false, .zoneInfo⟩)) := by
    decide +kernel
  exact h _ _ _ _ _ (by decide) _ _ autumnStay hprepared hreserved rfl rfl _ _ .arrival ⟨rfl, rfl⟩

end ClockOrchestrator
