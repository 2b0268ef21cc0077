import ClockOrchestrator.Clock.RoomIds
import ClockOrchestrator.Clock.StayHistory
import ClockOrchestrator.Support.Replay

namespace ClockOrchestrator

open Python UnitOfWork Replay

variable {H : Type} {rt base : AppRuntime H} {rows : RegistryRows} {observedAt : Instant}
  {correlationId : UUID} {db : Db H}

def AssignmentRow.placement (a : AssignmentRow) : Option UUID × Option String × Option String :=
  (a.roomId, assignmentRowIdentity a)

def placementOf (rows : RegistryRows) (b : NormalizedBooking) :
    Option (Option UUID × Option String × Option String) :=
  (assignmentIdentity b).map fun identity => (mappedRoomId rows b, identity)

def placeOf (rows : RegistryRows) (b : NormalizedBooking) : Option UUID :=
  (placementOf rows b).bind Prod.fst

def signatureOf (b : NormalizedBooking) : String × Option (Option String × Option String) :=
  (b.payloadHash, assignmentIdentity b)

theorem placementOf_of_identity (rows : RegistryRows) {b b' : NormalizedBooking}
    (h : assignmentIdentity b = assignmentIdentity b') : placementOf rows b = placementOf rows b' := by
  unfold placementOf
  cases hb : assignmentIdentity b with
  | none => rw [← h, hb]; rfl
  | some identity =>
      obtain ⟨hids, -⟩ := assignmentIdentity_some hb
      obtain ⟨hids', -⟩ := assignmentIdentity_some (h.symm.trans hb)
      rw [hids] at hids'
      simp only [Prod.mk.injEq] at hids'
      rw [← h, hb, Option.map_some, Option.map_some, mappedRoomId, mappedRoomId, resolveRoom,
        resolveRoom, hids'.1, hids'.2]

theorem placeOf_of_signature (rows : RegistryRows) (b b' : NormalizedBooking)
    (h : signatureOf b = signatureOf b') : placeOf rows b = placeOf rows b' := by
  unfold placeOf
  rw [placementOf_of_identity rows (congrArg Prod.snd h)]

theorem placeOf_eq (rows : RegistryRows) (b : NormalizedBooking) :
    placeOf rows b = if assignmentIdentity b = none then none else mappedRoomId rows b := by
  unfold placeOf placementOf
  cases assignmentIdentity b <;> rfl

structure Settled (z : Zone) (rows : RegistryRows) (observedAt : Instant) (db : Db H)
    (b : NormalizedBooking) (row : BookingRow) (current : Option AssignmentRow) : Prop where
  stay : db.stay rows.property.id b.clockBookingId = some (row, current)
  written : row = updatedBookingRow z row b observedAt
  placed : current.map (·.placement) = placementOf rows b

theorem upsertedRow_written (z : Zone) (property : PropertyRow) (stored : Option BookingRow)
    (id : UUID) (b : NormalizedBooking) (observedAt : Instant) :
    upsertedRow z property stored id b observedAt =
      updatedBookingRow z (upsertedRow z property stored id b observedAt) b observedAt := by
  cases stored <;> rfl

theorem Settled.congr {db' : Db H} {z : Zone} {b : NormalizedBooking} {row : BookingRow}
    {current : Option AssignmentRow} (h : Settled z rows observedAt db b row current)
    (hsame : db'.stay rows.property.id b.clockBookingId =
      db.stay rows.property.id b.clockBookingId) :
    Settled z rows observedAt db' b row current :=
  ⟨hsame.trans h.stay, h.written, h.placed⟩

section Step

variable {p p' : SyncProgress H} {b a : NormalizedBooking} {m : DbSession H}
  {row old : BookingRow} {current : Option AssignmentRow} {change : AssignmentChange}

theorem Assigned.placed {s s' : DbSession H} {booking : BookingRow}
    (h : Assigned base rows booking b s s' change) :
    (s'.live.currentOf booking.id).map (·.placement) = placementOf rows b := by
  have hown := h.own
  unfold placementOf
  cases hc : s'.live.currentOf booking.id with
  | none =>
      rw [hc] at hown
      rw [← hown]
      rfl
  | some x =>
      rw [hc, Option.map_some] at hown
      rw [← hown, Option.map_some, Option.map_some, AssignmentRow.placement, h.ownRoom x hc]

theorem Processed.settles (h : Processed base rt rows b observedAt p p' m row change) :
    Settled rt.zone rows observedAt p'.session.live b row (p'.session.live.currentOf row.id) := by
  refine ⟨h.stay_own, ?_, h.assigned.placed⟩
  rw [h.written]
  exact upsertedRow_written ..

theorem Processed.keeps_settled (h : Processed base rt rows b observedAt p p' m row change)
    (hne : a.clockBookingId ≠ b.clockBookingId)
    (ha : Settled rt.zone rows observedAt p.session.live a old current) :
    Settled rt.zone rows observedAt p'.session.live a old current :=
  ha.congr (h.stay_other hne)

theorem Processed.finds (h : Processed base rt rows b observedAt p p' m row change)
    (hkey : a.clockBookingId = b.clockBookingId)
    (ha : Settled rt.zone rows observedAt p.session.live a old current) :
    p.session.live.storedBooking rows.property.id b.clockBookingId = some old ∧
      m.live.currentOf row.id = current ∧ old.payloadHash = a.payloadHash := by
  have hstay := ha.stay
  rw [hkey] at hstay
  have hbefore := h.stay_before
  rw [hstay, Option.bind_some] at hbefore
  unfold Db.stay at hstay
  obtain ⟨found, hfound, heq⟩ := Option.map_eq_some_iff.mp hstay
  cases heq
  exact ⟨hfound, hbefore.symm, congrArg BookingRow.payloadHash ha.written⟩

variable (rt rows observedAt correlationId) in
theorem syncAssignment_affected {s : DbSession H}
    (hs : s.Shows (·.assignments) s.live.assignments) (booking : BookingRow)
    (b : NormalizedBooking) {roomId : UUID}
    (h : roomId ∈ (syncAssignment rt rows s booking b observedAt
      correlationId).1.affectedRoomIds) :
    (s.live.currentOf booking.id).map (·.placement) ≠ placementOf rows b ∧
      ((∃ x, s.live.currentOf booking.id = some x ∧ x.roomId = some roomId) ∨
        placeOf rows b = some roomId) := by
  unfold syncAssignment at h
  rw [currentAssignment_eq hs] at h
  rw [placeOf_eq]
  unfold placementOf
  cases hb : assignmentIdentity b with
  | none =>
      cases hc : s.live.currentOf booking.id with
      | none =>
          rw [hb, hc] at h
          cases h
      | some x =>
          rw [hb, hc] at h
          exact ⟨by simp, .inl ⟨x, rfl, Option.mem_toList.mp h⟩⟩
  | some identity =>
      rw [if_neg (by simp)]
      cases hc : s.live.currentOf booking.id with
      | none =>
          rw [hb, hc] at h
          exact ⟨by simp, .inr (Option.mem_toList.mp h)⟩
      | some x =>
          rw [hb, hc] at h
          dsimp only at h
          split at h
          · unfold keepAssignment at h
            split at h
            · next hmoved =>
                refine ⟨fun hsame => hmoved (Prod.mk.inj (Option.some.inj hsame)).1, ?_⟩
                rcases List.mem_append.mp h with h | h
                · exact .inl ⟨x, rfl, Option.mem_toList.mp h⟩
                · exact .inr (Option.mem_toList.mp h)
            · cases h
          · next hother =>
              refine ⟨fun hsame => hother (Prod.mk.inj (Option.some.inj hsame)).2, ?_⟩
              rcases List.mem_append.mp h with h | h
              · exact .inl ⟨x, rfl, Option.mem_toList.mp h⟩
              · exact .inr (Option.mem_toList.mp h)

theorem Processed.reports (h : Processed base rt rows b observedAt p p' m row change)
    (hkey : a.clockBookingId = b.clockBookingId)
    (ha : Settled rt.zone rows observedAt p.session.live a old current)
    (hsig : signatureOf a ≠ signatureOf b) :
    Listed (placeOf rows) p'.affectedRoomIds a ∧ Listed (placeOf rows) p'.affectedRoomIds b := by
  obtain ⟨hstored, hcurrent, hhash⟩ := h.finds hkey ha
  rw [h.affected]
  by_cases hidentity : assignmentIdentity a = assignmentIdentity b
  · have hchanged : payloadChanged
        (p.session.live.storedBooking rows.property.id b.clockBookingId) b = true := by
      rw [hstored]
      refine decide_eq_true fun hsame => hsig ?_
      unfold signatureOf
      rw [hidentity, ← hhash, hsame]
    have hb : Listed (placeOf rows) (p.affectedRoomIds ++ change.affectedRoomIds ++
        change.currentRoomId.toList) b := by
      intro roomId hroom
      rw [h.assigned.currentRoomId, ← placeOf_eq, hroom]
      simp
    rw [if_pos hchanged]
    refine ⟨fun roomId hroom => hb roomId ?_, hb⟩
    unfold placeOf at hroom ⊢
    rw [← placementOf_of_identity rows hidentity]
    exact hroom
  · have hmoved : (m.live.currentOf row.id).map assignmentRowIdentity ≠ assignmentIdentity b := by
      have hplaced := congrArg (Option.map Prod.snd) ha.placed
      unfold placementOf at hplaced
      rw [Option.map_map, Option.map_map] at hplaced
      intro hsame
      refine hidentity ?_
      rw [← hsame, hcurrent]
      refine Eq.trans ?_ hplaced.symm
      cases assignmentIdentity a <;> rfl
    refine ⟨fun roomId hroom => ?_, fun roomId hroom => ?_⟩
    · refine List.mem_append_left _ (List.mem_append_right _
        (h.assigned.moved hmoved roomId (.inl ?_)))
      unfold placeOf at hroom
      rw [← ha.placed] at hroom
      obtain ⟨_, hplacement, hroomId⟩ := Option.bind_eq_some_iff.mp hroom
      obtain ⟨x, hx, rfl⟩ := Option.map_eq_some_iff.mp hplacement
      exact ⟨x, hcurrent.trans hx, hroomId⟩
    · refine List.mem_append_left _ (List.mem_append_right _
        (h.assigned.moved hmoved roomId (.inr ?_)))
      rw [placeOf_eq] at hroom
      split at hroom
      · cases hroom
      · next hplaced => exact ⟨hplaced, hroom⟩

theorem Processed.reports_only (h : Processed base rt rows b observedAt p p' m row change)
    (hchange : change = (syncAssignment rt rows m row b observedAt correlationId).1)
    (hkey : a.clockBookingId = b.clockBookingId)
    (ha : Settled rt.zone rows observedAt p.session.live a old current) {roomId : UUID}
    (hroom : roomId ∈ p'.affectedRoomIds) :
    roomId ∈ p.affectedRoomIds ∨ (signatureOf a ≠ signatureOf b ∧
      (placeOf rows a = some roomId ∨ placeOf rows b = some roomId)) := by
  obtain ⟨hstored, hcurrent, hhash⟩ := h.finds hkey ha
  rw [h.affected, List.mem_append, List.mem_append] at hroom
  rcases hroom with (hroom | hroom) | hroom
  · exact .inl hroom
  · have hsynced : m.Shows (·.assignments) m.live.assignments :=
      ⟨by rw [h.upserted.synced], rfl⟩
    rw [hchange] at hroom
    obtain ⟨hplaced, hfrom⟩ := syncAssignment_affected rt rows observedAt correlationId hsynced row
      b hroom
    rw [hcurrent, ha.placed] at hplaced
    refine .inr ⟨fun hsig => hplaced (placementOf_of_identity rows (congrArg Prod.snd hsig)), ?_⟩
    rcases hfrom with ⟨x, hx, hroomId⟩ | hfrom
    · left
      unfold placeOf
      rw [← ha.placed, ← hcurrent, hx]
      exact hroomId
    · exact .inr hfrom
  · split at hroom
    · next hchanged =>
        rw [hstored] at hchanged
        rw [h.assigned.currentRoomId, ← placeOf_eq, Option.mem_toList] at hroom
        refine .inr ⟨fun hsig => of_decide_eq_true hchanged ?_, .inr hroom⟩
        exact hhash.trans (congrArg Prod.fst hsig)
    · cases hroom

end Step

end ClockOrchestrator
