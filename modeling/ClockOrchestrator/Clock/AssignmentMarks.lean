import ClockOrchestrator.RuntimeInvariants

namespace ClockOrchestrator

open Python UnitOfWork Trace

variable {H : Type} {rt base : AppRuntime H} {db : Db H} {rows : RegistryRows}
  {observedAt : Instant} {correlationId : UUID}

def AssignmentRow.Marked (a : AssignmentRow) : Prop := a.isCurrent = true ↔ a.removedAt = none

def Db.AssignmentsMarked (db : Db H) : Prop := ∀ a ∈ db.assignments, a.Marked

theorem endAssignment_marked (a : AssignmentRow) (observedAt : Instant) :
    (endAssignment a observedAt).Marked := by
  simp [AssignmentRow.Marked, endAssignment]

theorem setAssignment_marked {a : AssignmentRow} (h : db.AssignmentsMarked) (ha : a.Marked) :
    (db.setAssignment a).AssignmentsMarked := by
  intro x hx
  rcases KeyedTable.mem_put.mp hx with ⟨rfl, -⟩ | ⟨hx, -⟩
  · exact ha
  · exact h x hx

theorem addAssignment_marked {a : AssignmentRow} (h : db.AssignmentsMarked) (ha : a.Marked) :
    (db.addAssignment a).AssignmentsMarked := by
  intro x hx
  rcases List.mem_append.mp hx with hx | hx
  · exact h x hx
  · exact List.mem_singleton.mp hx ▸ ha

theorem Db.AssignmentsMarked.of_stays {db' : Db H} (h : db.AssignmentsMarked)
    (hstays : db'.stays = db.stays) : db'.AssignmentsMarked := by
  have hsame : db'.assignments = db.assignments := congrArg Prod.snd hstays
  unfold Db.AssignmentsMarked
  rw [hsame]
  exact h

variable (observedAt) in
theorem endCurrent_marked {s : DbSession H} (h : s.live.AssignmentsMarked)
    (current : Option AssignmentRow) :
    (endCurrent s current observedAt).live.AssignmentsMarked := by
  cases current with
  | none => exact h
  | some a => exact setAssignment_marked h (endAssignment_marked a observedAt)

theorem keepAssignment_marked {s : DbSession H} (h : s.live.AssignmentsMarked)
    {current : AssignmentRow} (hcurrent : current.Marked) (roomId : Option UUID) :
    (keepAssignment s current roomId).2.live.AssignmentsMarked := by
  unfold keepAssignment
  split
  · exact setAssignment_marked h hcurrent
  · exact h

theorem replaceAssignment_marked {s : DbSession H} (h : s.live.AssignmentsMarked)
    (booking : BookingRow) (b : NormalizedBooking) (current : Option AssignmentRow)
    (room : Option RoomRow) :
    (replaceAssignment rt rows s booking b current room observedAt
      correlationId).2.live.AssignmentsMarked := by
  have hended := endCurrent_marked observedAt h current
  unfold replaceAssignment
  refine Db.AssignmentsMarked.of_stays ?_
    (auditNewAssignment_keeps rt rows observedAt correlationId booking b room _).2.2
  refine addAssignment_marked hended ?_
  exact iff_of_true rfl rfl

theorem currentAssignment_mem {s : DbSession H} {bookingId : UUID} {a : AssignmentRow}
    (h : currentAssignment s bookingId = some a) : a ∈ s.live.assignments := by
  have hmem := List.mem_of_head? h
  unfold Session.select selectRows at hmem
  split at hmem
  all_goals
    obtain ⟨pair, hpair, rfl⟩ := List.mem_map.mp hmem
    exact (List.of_mem_zip (List.mem_filter.mp hpair).1).2

theorem syncAssignment_marked {s : DbSession H} (h : s.live.AssignmentsMarked)
    (booking : BookingRow) (b : NormalizedBooking) :
    (syncAssignment rt rows s booking b observedAt
      correlationId).2.live.AssignmentsMarked := by
  unfold syncAssignment
  dsimp only
  split
  · exact h
  · exact setAssignment_marked h (endAssignment_marked _ observedAt)
  · next current _ hcurrent =>
      split
      · exact keepAssignment_marked h (h current (currentAssignment_mem hcurrent)) _
      · exact replaceAssignment_marked h booking b _ _
  · exact replaceAssignment_marked h booking b _ _

theorem upsertBooking_marked {s : DbSession H} (h : s.live.AssignmentsMarked)
    (property : PropertyRow) (b : NormalizedBooking) :
    (upsertBooking rt property s b observedAt).2.2.live.AssignmentsMarked := by
  unfold upsertBooking
  split
  · exact h
  · exact h

theorem processBooking_marked {p p' : SyncProgress H} {b : NormalizedBooking}
    (h : processBooking rt rows observedAt correlationId p b = .ok p')
    (hp : p.session.live.AssignmentsMarked) : p'.session.live.AssignmentsMarked := by
  unfold processBooking at h
  obtain ⟨_, -, h⟩ := bind_ok h
  obtain ⟨out, haudit, h⟩ := bind_ok h
  cases h
  refine Db.AssignmentsMarked.of_stays ?_ (auditIfWithoutRoom_keeps haudit).2.2
  exact syncAssignment_marked (upsertBooking_marked hp _ _) _ _

theorem bookings_marked {bookings : List NormalizedBooking} {p p' : SyncProgress H}
    (h : bookings.foldlM (processBooking rt rows observedAt correlationId) p = .ok p')
    (hp : p.session.live.AssignmentsMarked) : p'.session.live.AssignmentsMarked :=
  foldlM_invariant (I := fun p : SyncProgress H => p.session.live.AssignmentsMarked)
    (fun _ _ _ _ hstep hi => processBooking_marked hstep hi) h hp

variable [DecidableEq H]

theorem execute_stays (hinj : base.uuid4.Injective) (hrt : base.Restart rt)
    (hdb : StoreInvariant base db) {tx : Transaction} {out : Outcome H}
    (h : execute rt db tx = .ok out) :
    out.db.stays = db.stays ∨ ∃ result correlationId rows t p,
      tx = .applySyncResult result correlationId ∧
        AppliedSync base rt db result correlationId out rows t p := by
  have hevaluate : ∀ {pick now correlationId sync},
      evaluateRooms rt (rt.session db) pick now correlationId = .ok sync →
        sync.outcome.db.stays = db.stays := by
    intro pick now correlationId sync hsync
    obtain ⟨rows, t, loaded, r, hrows, hr, rfl⟩ := evaluateRooms_ok hsync
    obtain ⟨states, overrides, hpass, -⟩ := recalculateRooms_induction hr
      (Q := fun _ _ _ => True) trivial (fun _ _ _ _ _ _ _ _ _ _ _ => trivial)
    exact hpass.stays.trans (ensureRegistry_opened hinj hrt hdb hrows).2.live
  cases tx with
  | applySyncResult result correlationId =>
      cases hsuccess : result.success with
      | true =>
          obtain ⟨rows, t, p, hsync⟩ := applySyncResult_applied hinj hrt hdb h hsuccess
          exact .inr ⟨result, correlationId, rows, t, p, rfl, hsync⟩
      | false =>
          obtain ⟨sync, hsync, rfl⟩ := map_ok h
          obtain ⟨rows, t, hrows, hout⟩ := applySyncResult_ok hsync
          rcases hout with ⟨-, rfl⟩ | ⟨htrue, -⟩
          · exact .inl (ensureRegistry_opened hinj hrt hdb hrows).2.live
          · rw [hsuccess] at htrue
            cases htrue
  | evaluateAllRooms now correlationId =>
      obtain ⟨sync, hsync, rfl⟩ := map_ok h
      exact .inl (hevaluate hsync)
  | evaluateRoomKeys roomKeys now correlationId =>
      obtain ⟨sync, hsync, rfl⟩ := map_ok h
      exact .inl (hevaluate hsync)
  | applyMqttCommand command =>
      obtain ⟨result, hresult, rfl⟩ := map_ok h
      obtain ⟨t, -, -, hstays, -⟩ :=
        (applyMqttCommand_effect hinj hrt.uuid4 hrt.propertyKey hdb.registry hresult).tables
      exact .inl hstays

theorem Reachable.assignments_marked (hinj : base.uuid4.Injective) (h : Reachable base db) :
    db.AssignmentsMarked := by
  obtain ⟨requests, hrun⟩ := h
  refine (hrun.invariant (I := fun db => StoreInvariant base db ∧ db.AssignmentsMarked)
    ?_ ⟨.empty, ?_⟩).2
  · rintro db request db' hserved hnext ⟨hstore, hmarked⟩
    refine ⟨next_invariant hinj hserved hnext hstore, ?_⟩
    obtain ⟨out, hout, rfl⟩ := next_ok hnext
    rcases execute_stays hinj hserved.1 hstore hout with hsame | ⟨_, _, rows, t, p, -, hsync⟩
    · exact Db.AssignmentsMarked.of_stays hmarked hsame
    · have hopened := Db.AssignmentsMarked.of_stays hmarked hsync.stays
      exact (bookings_marked hsync.processed hopened).of_stays hsync.committed
  · intro a ha
    cases ha

end ClockOrchestrator
