import ClockOrchestrator.Guarantees.OverrideOrder

namespace ClockOrchestrator

open Python UnitOfWork Trace RankedLog

variable {H : Type} [DecidableEq H] {base rt : AppRuntime H} {db db' : Db H}

theorem Evaluates.overrides_grow {out : Outcome H} {rows : RegistryRows} {s : DbSession H}
    {r : Recalculation H} {observedAt : Instant} {correlationId : UUID}
    (h : Evaluates base rt db out rows s r observedAt correlationId) :
    db.overrides <+: out.db.overrides := by
  obtain ⟨states, overrides, hp, -, -⟩ := h.rooms
  have hbefore : s.live.overrides = db.overrides := congrArg (·.2.1) h.opened.logs.live
  have hafter : out.db.overrides = r.session.live.overrides := congrArg (·.2.1) h.bookkeeps.logs
  rw [hafter, hp.overrideRows, hbefore]
  exact List.prefix_append _ _

omit [DecidableEq H] in
theorem CommandEffect.overrides_grow {command : RoomCommand}
    {out : CommandProcessingResult × DbSession H} (h : CommandEffect base rt db command out) :
    db.overrides <+: out.2.live.overrides := by
  obtain ⟨t, -, -, -, -, -, hoverrides⟩ := h.tables
  rcases hoverrides with hsame | ⟨row, hadded, -, -⟩
  · exact hsame ▸ List.prefix_rfl
  · rw [hadded]
    exact List.prefix_append _ _

theorem next_overrides_grow (hinj : base.uuid4.Injective) {guard : Db H → Request H → Prop}
    {request : Request H} (hserved : ServedBy base guard db request)
    (h : next db request = some db') (hdb : StoreInvariant base db) :
    db.overrides <+: db'.overrides := by
  obtain ⟨out, hout, rfl⟩ := next_ok h
  rcases execute_cases hinj hserved.1 hdb hout with
    ⟨rows, s, r, observedAt, correlationId, he⟩ | ⟨command, result, -, he, rfl⟩
  · exact he.overrides_grow
  · exact he.overrides_grow

theorem run_overrides_grow (hinj : base.uuid4.Injective) {guard : Db H → Request H → Prop}
    {requests : List (Request H)} (h : Run next (ServedBy base guard) db requests db')
    (hdb : StoreInvariant base db) : db.overrides <+: db'.overrides := by
  have hrun := h.invariant
    (I := fun x => StoreInvariant base x ∧ db.overrides <+: x.overrides)
    (fun _ _ _ hserved hn hi => ⟨next_invariant hinj hserved hn hi.1,
      hi.2.trans (next_overrides_grow hinj hserved hn hi.1)⟩) ⟨hdb, List.prefix_rfl⟩
  exact hrun.2

theorem Evaluates.latestOverride {out : Outcome H} {rows : RegistryRows} {s : DbSession H}
    {r : Recalculation H} {observedAt : Instant} {correlationId : UUID}
    (h : Evaluates base rt db out rows s r observedAt correlationId) {d : RoomDecision H}
    (hd : d ∈ out.decisions) :
    d.latestOverride = latest OverrideRow.rank (db.overridesOf d.roomId) := by
  have hbefore : s.live.overrides = db.overrides := congrArg (·.2.1) h.opened.logs.live
  have hrun := recalculateRooms_induction h.recalculated
    (Q := fun r _ _ => ∀ d ∈ r.decisions,
      d.latestOverride = latest OverrideRow.rank (db.overridesOf d.roomId)) (by simp) ?_
  · obtain ⟨-, -, -, hdecisions⟩ := hrun
    rw [h.decisions] at hd
    exact hdecisions d hd
  · rintro roomId rest r r' states newStates overrides newOverrides d hstep hq d' hd'
    rw [hstep.decisions, List.mem_append, List.mem_singleton] at hd'
    rcases hd' with hd' | rfl
    · exact hq d' hd'
    · rw [hstep.decided.latestOverride, hstep.decidedRoom,
        hstep.before.latestOverrideRow_eq h.opened.logs.self, hbefore]
      rfl

theorem execute_latestOverride (hinj : base.uuid4.Injective) (hrt : base.Restart rt)
    (hdb : StoreInvariant base db) {tx : Transaction} {out : Outcome H}
    (h : execute rt db tx = .ok out) {d : RoomDecision H} (hd : d ∈ out.decisions) :
    d.latestOverride = latest OverrideRow.rank (db.overridesOf d.roomId) := by
  rcases execute_cases hinj hrt hdb h with
    ⟨rows, s, r, observedAt, correlationId, he⟩ | ⟨command, result, -, -, rfl⟩
  · exact he.latestOverride hd
  · cases hd

structure EndsOverride (db db' : Db H) (row : OverrideRow) : Prop where
  stored : row ∈ db.overrides
  ended : ∃ ending ∈ appended db.overrides db'.overrides,
    ending.controlMode = .automatic ∧ ending.roomId = row.roomId

def AutomaticInOrder (db : Db H) (request : Request H) : Prop :=
  ∀ db' ∈ next db request, ∀ row ∈ appended db.overrides db'.overrides,
    row.controlMode = .automatic → Outranks OverrideRow.rank row (db.overridesOf row.roomId)

instance (db : Db H) (request : Request H) : Decidable (AutomaticInOrder db request) :=
  inferInstanceAs (Decidable (∀ db' ∈ next db request, ∀ row ∈ _, _ → _))

theorem EndsOverride.outranked {request : Request H} {row : OverrideRow}
    (h : EndsOverride db db' row) (hguard : AutomaticInOrder db request)
    (hnext : next db request = some db') :
    ∃ ending ∈ db'.overridesOf row.roomId, row.rank < ending.rank := by
  obtain ⟨ending, hmem, hauto, hroom⟩ := h.ended
  have houtranks := hguard db' hnext ending hmem hauto
  rw [hroom] at houtranks
  refine ⟨ending, List.mem_filter.mpr ⟨?_, decide_eq_true hroom⟩, houtranks row ?_⟩
  · exact List.mem_of_mem_drop hmem
  · exact List.mem_filter.mpr ⟨h.stored, decide_eq_true rfl⟩

theorem ended_override_never_returns (hinj : base.uuid4.Injective) {before after : List (Request H)}
    {request : Request H} {db₁ db₂ : Db H}
    (hbefore : Run next (ServedBy base AutomaticInOrder) (Db.empty H) before db)
    (hserved : ServedBy base AutomaticInOrder db request) (hnext : next db request = some db₁)
    {row : OverrideRow} (hends : EndsOverride db db₁ row)
    (hafter : Run next (ServedBy base AutomaticInOrder) db₁ after db₂) (hrt : base.Restart rt)
    {tx : Transaction} {out : Outcome H} (hout : execute rt db₂ tx = .ok out)
    {d : RoomDecision H} (hd : d ∈ out.decisions) :
    ¬ (d.latestOverride = some row ∧ d.state.phase = .manualOverride) := by
  rintro ⟨hlatest, -⟩
  have hdb := run_invariant hinj hbefore .empty
  have hdb₁ := next_invariant hinj hserved hnext hdb
  have hdb₂ := run_invariant hinj hafter hdb₁
  obtain ⟨ending, hending, hlt⟩ := hends.outranked hserved.2 hnext
  rw [execute_latestOverride hinj hrt hdb₂ hout hd] at hlatest
  have hroom : row.roomId = d.roomId := by
    have := (List.mem_filter.mp (latest_mem hlatest)).2
    exact of_decide_eq_true this
  have hkept : ending ∈ db₂.overridesOf d.roomId := by
    rw [← hroom]
    exact (((run_overrides_grow hinj hafter hdb₁).filter _).subset hending)
  exact latest_ne_of_lt hkept hlt hlatest

def demoReturn (now : Timestamp) : Request RoomStateDocument :=
  demoRequest (.applyMqttCommand (demoCommand "return-to-automatic" "return" now 1001))

def demoManualRun (now : Timestamp) : List (Request RoomStateDocument) :=
  [demoRequest (.applySyncResult (demoSyncResult [demoCheckedInStay] (demoNow 9 50)) 2001),
    demoRequest (.applyMqttCommand (demoCommand "mode" "manual" now 1000))]

theorem manual_row_stays_ended :
    ∃ row ∈ (demoStore (demoManualRun (demoNow 10 0))).overrides, ∃ out,
      execute (demoRuntime false)
        (demoStore (demoManualRun (demoNow 10 0) ++ [demoReturn (demoNow 10 5)]))
        (.evaluateAllRooms (demoNow 10 10) 2002) = .ok out ∧
      ∃ d ∈ out.decisions, d.room = room214 ∧
        ¬ (d.latestOverride = some row ∧ d.state.phase = .manualOverride) := by
  have hbefore : Run next (ServedBy (demoRuntime false) AutomaticInOrder) (Db.empty _)
      (demoManualRun (demoNow 10 0)) (demoStore (demoManualRun (demoNow 10 0))) := by
    refine .cons (t := demoStore ((demoManualRun (demoNow 10 0)).take 1)) ⟨.refl _, ?_⟩ ?_
      (.cons ⟨.refl _, ?_⟩ ?_ (.nil _))
    · decide +kernel
    · decide +kernel
    · decide +kernel
    · decide +kernel
  have hserved : ServedBy (demoRuntime false) AutomaticInOrder
      (demoStore (demoManualRun (demoNow 10 0))) (demoReturn (demoNow 10 5)) :=
    ⟨.refl _, by decide +kernel⟩
  have hnext : next (demoStore (demoManualRun (demoNow 10 0))) (demoReturn (demoNow 10 5)) =
      some (demoStore (demoManualRun (demoNow 10 0) ++ [demoReturn (demoNow 10 5)])) := by
    decide +kernel
  have hends : EndsOverride (demoStore (demoManualRun (demoNow 10 0)))
      (demoStore (demoManualRun (demoNow 10 0) ++ [demoReturn (demoNow 10 5)]))
      ((demoStore (demoManualRun (demoNow 10 0))).overrides.head (by decide +kernel)) :=
    ⟨List.head_mem _, by decide +kernel⟩
  obtain ⟨out, hout, d, hd, hroom⟩ := exists_decision (demoRuntime false)
    (demoStore (demoManualRun (demoNow 10 0) ++ [demoReturn (demoNow 10 5)]))
    (.evaluateAllRooms (demoNow 10 10) 2002)
    (p := fun d => decide (d.room = room214)) (by decide +kernel)
  exact ⟨_, hends.stored, out, hout, d, hd, of_decide_eq_true hroom,
    ended_override_never_returns (demoRuntime_uuid4_injective false) hbefore hserved hnext hends
      (.nil _) (.refl _) hout hd⟩

theorem returned_room_goes_manual_again :
    ∃ (before : List (Request RoomStateDocument)) (request : Request RoomStateDocument)
        (db db₁ : Db RoomStateDocument) (row : OverrideRow),
      Run next (ServedBy (demoRuntime false) fun _ _ => True) (Db.empty _) before db ∧
      next db request = some db₁ ∧ EndsOverride db db₁ row ∧
      ∃ out, execute (demoRuntime false) db₁ (.evaluateAllRooms (demoNow 10 10) 2002) = .ok out ∧
        ∃ d ∈ out.decisions, d.latestOverride = some row ∧ d.state.phase = .manualOverride := by
  refine ⟨demoManualRun (demoNow 10 5), demoReturn (demoNow 10 0),
    demoStore (demoManualRun (demoNow 10 5)),
    demoStore (demoManualRun (demoNow 10 5) ++ [demoReturn (demoNow 10 0)]),
    (demoStore (demoManualRun (demoNow 10 5))).overrides.head (by decide +kernel),
    run_of_eq_some ?_ ?_, ?_, ⟨List.head_mem _, ?_⟩, ?_⟩
  · intro request hrequest db
    simp only [demoManualRun, List.mem_cons, List.not_mem_nil, or_false] at hrequest
    rcases hrequest with rfl | rfl <;> exact ⟨.refl _, trivial⟩
  · decide +kernel
  · decide +kernel
  · decide +kernel
  · obtain ⟨out, hout, d, hd, hp⟩ := exists_decision (demoRuntime false)
      (demoStore (demoManualRun (demoNow 10 5) ++ [demoReturn (demoNow 10 0)]))
      (.evaluateAllRooms (demoNow 10 10) 2002)
      (p := fun d => decide (d.latestOverride = some
        ((demoStore (demoManualRun (demoNow 10 5))).overrides.head (by decide +kernel)) ∧
          d.state.phase = .manualOverride)) (by decide +kernel)
    exact ⟨out, hout, d, hd, of_decide_eq_true hp⟩

end ClockOrchestrator
