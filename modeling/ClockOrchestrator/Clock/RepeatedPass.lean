import ClockOrchestrator.Clock.EvaluationEffect
import ClockOrchestrator.Domain.EvaluationCases

namespace ClockOrchestrator

open Python UnitOfWork RankedLog

variable {H : Type} {base rt : AppRuntime H} {db db' db'' : Db H} {rows : RegistryRows}
  {observedAt : Instant} {correlationId correlationId' : UUID}

theorem evaluateRoom_without_override {room : Room} {bookings : List NormalizedBooking}
    {now : Datetime} {policy : HotelPolicy} {override : Option ManualOverride}
    {state : RoomStateEvaluation} (h : evaluateRoom room bookings now policy override = .ok state)
    (hphase : state.phase ≠ .manualOverride) :
    evaluateRoom room bookings now policy none = .ok state := by
  unfold evaluateRoom evaluateCandidates at h ⊢
  split at h
  · next hoff => rw [if_pos hoff, h]
  · next hon =>
      rw [if_neg hon]
      cases hunknown : bookings.find? (unknownInRoom room) with
      | some unknown => rwa [hunknown] at h
      | none =>
          rw [hunknown] at h
          dsimp only at h ⊢
          cases hconflict : firstConflict (activeBookingsForRoom room bookings now.date) with
          | some left => rwa [hconflict] at h
          | none =>
              rw [hconflict] at h
              dsimp only at h ⊢
              cases hselected : selectRelevantBooking (activeBookingsForRoom room bookings now.date)
                  policy with
              | none => rwa [hselected] at h
              | some selected =>
                  rw [hselected] at h
                  dsimp only at h ⊢
                  split at h
                  · cases h
                    exact absurd rfl hphase
                  · exact h

section Correlation

variable {policy : HotelPolicy} {state : RoomStateEvaluation} {override : Option ManualOverride}

def recorrelate (correlationId : UUID) (intent : DesiredRoomIntent) : DesiredRoomIntent :=
  { intent with correlationId := correlationId }

theorem validate_recorrelate (z : Zone) (intent : DesiredRoomIntent) (correlationId : UUID) :
    DesiredRoomIntent.validate z (recorrelate correlationId intent) =
      (DesiredRoomIntent.validate z intent).map (recorrelate correlationId) := by
  have hwindow : validityWindowError z (recorrelate correlationId intent) =
      validityWindowError z intent := rfl
  have hkey : (recorrelate correlationId intent).roomKey = intent.roomKey := rfl
  have hversion : (recorrelate correlationId intent).intentVersion = intent.intentVersion := rfl
  have hreason : (recorrelate correlationId intent).reason = intent.reason := rfl
  unfold DesiredRoomIntent.validate
  simp only [hwindow, hkey, hversion, hreason]
  split_ifs
  · rfl
  · rfl
  · rfl
  · cases validityWindowError z intent <;> rfl

theorem buildIntent_recorrelate (z : Zone) (state : RoomStateEvaluation) (controlMode : ControlMode)
    (hvac : HvacIntent) (waterHeater convectors : Bool) (reason : String)
    (correlationId correlationId' : UUID) :
    buildIntent z state controlMode hvac waterHeater convectors reason correlationId' =
      (buildIntent z state controlMode hvac waterHeater convectors reason correlationId).map
        (recorrelate correlationId') := by
  unfold buildIntent
  rw [← validate_recorrelate]
  rfl

theorem bind_recorrelate {x : Except PyError HvacIntent}
    {f g : HvacIntent → Except PyError DesiredRoomIntent}
    (h : ∀ hvac, g hvac = (f hvac).map (recorrelate correlationId')) :
    (x >>= g) = (x >>= f).map (recorrelate correlationId') := by
  cases x with
  | error e => rfl
  | ok hvac => exact h hvac

variable (correlationId correlationId') in
theorem automaticIntent_recorrelate (policy : HotelPolicy) (state : RoomStateEvaluation) :
    automaticIntent policy state correlationId' =
      (automaticIntent policy state correlationId).map (recorrelate correlationId') := by
  have hbuild : ∀ mode waterHeater convectors reason (hvac : HvacIntent),
      buildIntent policy.zone state mode hvac waterHeater convectors reason correlationId' =
        (buildIntent policy.zone state mode hvac waterHeater convectors reason
          correlationId).map (recorrelate correlationId') :=
    fun _ _ _ _ _ => buildIntent_recorrelate ..
  unfold automaticIntent
  split
  · exact bind_recorrelate fun hvac => hbuild _ _ _ _ hvac
  · split
    · exact bind_recorrelate fun hvac => hbuild _ _ _ _ hvac
    · split
      · exact bind_recorrelate fun hvac => hbuild _ _ _ _ hvac
      · split
        · exact bind_recorrelate fun hvac => hbuild _ _ _ _ hvac
        · exact bind_recorrelate fun hvac => hbuild _ _ _ _ hvac

variable (correlationId correlationId') in
theorem deriveRoomIntent_recorrelate (policy : HotelPolicy) (state : RoomStateEvaluation)
    (override : Option ManualOverride) :
    deriveRoomIntent state policy override correlationId' =
      (deriveRoomIntent state policy override correlationId).map
        (Option.map (recorrelate correlationId')) := by
  have hsome : ∀ x : Except PyError DesiredRoomIntent,
      (x.map (recorrelate correlationId')).map some =
        (x.map some).map (Option.map (recorrelate correlationId')) := by
    intro x
    cases x <;> rfl
  unfold deriveRoomIntent
  split
  · rfl
  · split
    · rw [← hsome]
      congr 1
      exact bind_recorrelate fun hvac => buildIntent_recorrelate ..
    · rw [← hsome, automaticIntent_recorrelate correlationId correlationId']

theorem deriveRoomIntent_of_phase (hphase : state.phase ≠ .manualOverride)
    (override' : Option ManualOverride) :
    deriveRoomIntent state policy override correlationId =
      deriveRoomIntent state policy override' correlationId := by
  unfold deriveRoomIntent
  split
  · rfl
  · split
    · next _ hmanual => exact absurd hmanual hphase
    · split
      · next _ hmanual => exact absurd hmanual hphase
      · rfl

end Correlation

theorem roomStateDocument_recorrelate (z : Zone) (state : RoomStateEvaluation)
    (intent : Option DesiredRoomIntent) (correlationId : UUID) :
    roomStateDocument z state (intent.map (recorrelate correlationId)) =
      roomStateDocument z state intent := by
  cases intent <;> rfl

section Decision

variable [DecidableEq H] {loaded loaded' : LoadedBookings} {d d' : RoomDecision H}

structure IdleDecision (rt : AppRuntime H) (d : RoomDecision H) : Prop where
  unchanged : unchangedState rt d = true
  kept : endedOverrides d.latestOverride d.state = false

structure Revisits (d d' : RoomDecision H) (loaded loaded' : LoadedBookings) : Prop where
  room : d'.room = d.room
  bookings : loaded'.bookings = loaded.bookings
  override : d'.override = d.override ∨ d'.override = none ∧ d.state.phase ≠ .manualOverride

omit [DecidableEq H] in
theorem RoomDecided.state_again (hd : RoomDecided rt loaded d observedAt correlationId db db')
    (hd' : RoomDecided rt loaded' d' observedAt correlationId' db' db'')
    (h : Revisits d d' loaded loaded') :
    d'.state = d.state ∧ d'.intent = d.intent.map (recorrelate correlationId') := by
  have hstate := hd'.state
  rw [h.room, h.bookings] at hstate
  have hsame : d'.state = d.state := by
    rcases h.override with hoverride | ⟨hoverride, hphase⟩
    · rw [hoverride, hd.state] at hstate
      exact (Except.ok.inj hstate).symm
    · rw [hoverride, evaluateRoom_without_override hd.state hphase] at hstate
      exact (Except.ok.inj hstate).symm
  have hintent := hd'.intent
  rw [deriveRoomIntent_recorrelate correlationId correlationId', hsame] at hintent
  have hderived : deriveRoomIntent d.state rt.policy d'.override correlationId = .ok d.intent := by
    rcases h.override with hoverride | ⟨-, hphase⟩
    · rw [hoverride, hd.intent]
    · rw [deriveRoomIntent_of_phase hphase d.override, hd.intent]
  rw [hderived] at hintent
  exact ⟨hsame, (Except.ok.inj hintent).symm⟩

theorem RoomWritten.latest_document (hd : RoomDecided rt loaded d observedAt correlationId db db')
    (hw : RoomWritten rt loaded d observedAt correlationId db db')
    (hstates : ∀ row ∈ db.roomStates, row.createdAt < observedAt) :
    ∃ row, latest RoomStateRow.rank (db'.statesOf d.roomId) = some row ∧
      row.payloadHash = rt.stableHash (roomStateDocument rt.zone d.state d.intent) := by
  obtain ⟨drawnFrom, hrows⟩ := hw.states
  rw [hrows]
  cases hunchanged : unchangedState rt d with
  | true =>
      obtain ⟨row, hrow, hhash⟩ := (Option.any_eq_true _ _).mp hunchanged
      rw [if_pos rfl, List.append_nil, ← hd.latestState]
      exact ⟨row, hrow, of_decide_eq_true hhash⟩
  | false =>
      rw [if_neg (by decide)]
      refine ⟨_, latest_append_of_outranks fun old hold => ?_, rfl⟩
      exact Prod.Lex.toLex_lt_toLex.mpr (.inl (hstates old (List.mem_of_mem_filter hold)))

theorem RoomWritten.latest_override (hd : RoomDecided rt loaded d observedAt correlationId db db')
    (hw : RoomWritten rt loaded d observedAt correlationId db db')
    (hoverrides : ∀ row ∈ db.overrides, row.startsAt < observedAt) :
    endedOverrides d.latestOverride d.state = false ∧
        latest OverrideRow.rank (db'.overridesOf d.roomId) = d.latestOverride ∨
      d.state.phase ≠ .manualOverride ∧ ∃ row, row.controlMode = .automatic ∧
        latest OverrideRow.rank (db'.overridesOf d.roomId) = some row := by
  obtain ⟨id, commandId, hrows⟩ := hw.overrides
  rw [hrows]
  cases hended : endedOverrides d.latestOverride d.state with
  | false =>
      rw [if_neg (by decide), List.append_nil, ← hd.latestOverride]
      exact .inl ⟨rfl, rfl⟩
  | true =>
      obtain ⟨row, -, hrow⟩ := (Option.any_eq_true _ _).mp hended
      simp only [Bool.and_eq_true, decide_eq_true_eq, ne_eq] at hrow
      refine .inr ⟨hrow.2, schedulerOverrideRow id d.roomId commandId observedAt, rfl, ?_⟩
      refine latest_append_of_outranks fun old hold => ?_
      exact Prod.Lex.toLex_lt_toLex.mpr (.inl (hoverrides old (List.mem_of_mem_filter hold)))

theorem RoomDecided.idle_again (hd : RoomDecided rt loaded d observedAt correlationId db db')
    (hw : RoomWritten rt loaded d observedAt correlationId db db')
    (hd' : RoomDecided rt loaded' d' observedAt correlationId' db' db'')
    (hstates : ∀ row ∈ db.roomStates, row.createdAt < observedAt)
    (hoverrides : ∀ row ∈ db.overrides, row.startsAt < observedAt)
    (hroomId : d'.roomId = d.roomId) (hroom : d'.room = d.room)
    (hloaded : loaded'.bookings = loaded.bookings) (hbookings : db''.bookings = db'.bookings) :
    IdleDecision rt d' := by
  have hlatest' := hd'.latestOverride
  rw [hroomId] at hlatest'
  have hoverride' := hd'.override
  have hfinds : Revisits d d' loaded loaded' ∧ (endedOverrides d.latestOverride d.state = false ∧
      d'.latestOverride = d.latestOverride ∨
      ∃ row, row.controlMode = .automatic ∧ d'.latestOverride = some row) := by
    rcases hw.latest_override hd hoverrides with
      ⟨hended, hlatest⟩ | ⟨hphase, row, hauto, hlatest⟩
    · rw [hlatest] at hlatest'
      refine ⟨⟨hroom, hloaded, .inl ?_⟩, .inl ⟨hended, hlatest'⟩⟩
      rw [hoverride', hd.override, hlatest']
      exact activeOverrideFromRow_congr rt.zone hbookings _ _
    · rw [hlatest] at hlatest'
      refine ⟨⟨hroom, hloaded, .inr ⟨?_, hphase⟩⟩, .inr ⟨row, hauto, hlatest'⟩⟩
      rw [hoverride', hlatest', activeOverrideFromRow]
      simp [overrideRowIsActive_automatic hauto]
  obtain ⟨hrevisits, hends⟩ := hfinds
  obtain ⟨hstate, hintent⟩ := hd.state_again hd' hrevisits
  refine ⟨?_, ?_⟩
  · obtain ⟨row, hrow, hhash⟩ := hw.latest_document hd hstates
    refine (Option.any_eq_true _ _).mpr ⟨row, ?_, decide_eq_true ?_⟩
    · rw [hd'.latestState, hroomId]
      exact hrow
    · rw [hhash, hstate, hintent, roomStateDocument_recorrelate]
  · rcases hends with ⟨hended, hlatest⟩ | ⟨row, hauto, hlatest⟩
    · rw [hlatest, hstate]
      exact hended
    · rw [hlatest]
      simp [endedOverrides, hauto]

theorem IdleDecision.applied (h : IdleDecision rt d) (s : DbSession H) :
    (applyDecision rt rows loaded d observedAt correlationId s).2.2 = s := by
  rw [applyDecision_session, endInactiveOverrideIfNeeded_kept h.kept]
  unfold settleDecision
  rw [if_pos h.unchanged]
  rfl

end Decision

section Run

variable [DecidableEq H] {out : Outcome H} {s : DbSession H} {r : Recalculation H}

theorem Evaluates.idle (h : Evaluates base rt db out rows s r observedAt correlationId)
    (hidle : ∀ d ∈ out.decisions, IdleDecision rt d) : out.db.logs = db.logs := by
  obtain ⟨states, overrides, -, hsession⟩ := recalculateRooms_induction h.recalculated
    (Q := fun r _ _ => (∀ d ∈ r.decisions, IdleDecision rt d) → r.session = s)
    (fun _ => rfl) fun roomId rest r r' states newStates overrides newOverrides d hstep hq hr => by
      rw [hstep.decisions] at hr
      rw [hstep.applied, (hr d (by simp)).applied]
      exact hq fun e he => hr e (List.mem_append_left _ he)
  rw [h.bookkeeps.logs, hsession (h.decisions ▸ hidle)]
  exact h.opened.logs.live

theorem mem_sortedRoomIds {roomIds : List UUID} {roomId : UUID} :
    roomId ∈ sortedRoomIds roomIds ↔ roomId ∈ roomIds := by
  unfold sortedRoomIds
  rw [List.mem_insertionSort, List.mem_dedup]

omit [DecidableEq H] in
theorem getRoom_of_column {roomId propertyId : UUID} {roomKey : String}
    (h : (roomId, propertyId, roomKey) ∈ s.live.roomColumns) :
    ∃ row, getRoom s roomId = some row := by
  obtain ⟨row, hrow, hcolumns⟩ := List.mem_map.mp h
  refine Option.isSome_iff_exists.mp (List.find?_isSome.mpr ⟨row, hrow, ?_⟩)
  exact decide_eq_true (congrArg Prod.fst hcolumns)

theorem recalculateRoom_decides {loaded : LoadedBookings} {r' : Recalculation H} {roomId : UUID}
    {room : Room} {row : RoomRow}
    (h : recalculateRoom rt rows loaded observedAt correlationId r roomId = .ok r')
    (hroom : rows.domainRoomsById roomId = some room) (hrow : getRoom r.session roomId = some row) :
    ∃ d ∈ r'.decisions, d.roomId = roomId ∧ d.room = room := by
  unfold recalculateRoom at h
  rw [hroom, hrow] at h
  obtain ⟨d, hd, h⟩ := bind_ok h
  obtain ⟨hid, hdroom, -⟩ := decideRoom_ok hd
  cases h
  exact ⟨d, by simp, hid, hdroom⟩

theorem recalculateRoom_grows {loaded : LoadedBookings} {r' : Recalculation H} {roomId : UUID}
    (h : recalculateRoom rt rows loaded observedAt correlationId r roomId = .ok r') :
    KeepsRegistry r.session.live r'.session.live ∧ r.decisions ⊆ r'.decisions := by
  rcases recalculateRoom_cases h with rfl | ⟨d, -, -, -, hdecisions, happlied⟩
  · exact ⟨.refl _, fun _ hd => hd⟩
  · rw [happlied, hdecisions]
    exact ⟨(applyDecision_effect d r.session).registry, List.subset_append_left _ _⟩

theorem Evaluates.decision_of_room
    (h : Evaluates base rt db out rows s r observedAt correlationId) {roomId : UUID} {room : Room}
    (haffected : roomId ∈ out.affectedRoomIds) (hroom : rows.domainRoomsById roomId = some room) :
    ∃ d ∈ out.decisions, d.roomId = roomId ∧ d.room = room := by
  rw [h.decisions]
  rcases recalculateRooms_ok h.recalculated with ⟨hnil, -⟩ | ⟨-, -, hfold⟩
  · rw [hnil] at haffected
    cases haffected
  · have hcolumn := h.opened.rowsStored.column_of_domainRoom hroom
    have hrun := foldlM_rest (P := fun rest (q : Recalculation H) =>
      KeepsRegistry s.live q.session.live ∧
        (roomId ∈ rest ∨ ∃ d ∈ q.decisions, d.roomId = roomId ∧ d.room = room)) ?_ hfold
      ⟨.refl _, .inl (mem_sortedRoomIds.mpr haffected)⟩
    · exact hrun.2.resolve_left List.not_mem_nil
    · rintro x rest q q' hq ⟨hkeeps, hdone⟩
      obtain ⟨hgrows, hdecisions⟩ := recalculateRoom_grows hq
      refine ⟨hkeeps.trans hgrows, ?_⟩
      rcases hdone with hmem | ⟨d, hd, hdroom⟩
      · rcases List.mem_cons.mp hmem with rfl | hmem
        · obtain ⟨row, hrow⟩ := getRoom_of_column (hkeeps.roomColumns.symm ▸ hcolumn)
          exact .inr (recalculateRoom_decides hq hroom hrow)
        · exact .inl hmem
      · exact .inr ⟨d, hdecisions hd, hdroom⟩

theorem Evaluates.room_of_decision
    (h : Evaluates base rt db out rows s r observedAt correlationId) {d : RoomDecision H}
    (hd : d ∈ out.decisions) :
    d.roomId ∈ out.affectedRoomIds ∧ rows.domainRoomsById d.roomId = some d.room := by
  rw [h.decisions] at hd
  rcases recalculateRooms_ok h.recalculated with ⟨-, heq⟩ | ⟨-, -, hfold⟩
  · rw [(Prod.mk.inj heq).2] at hd
    cases hd
  · refine foldlM_invariant (I := fun q : Recalculation H => ∀ d ∈ q.decisions,
      d.roomId ∈ out.affectedRoomIds ∧ rows.domainRoomsById d.roomId = some d.room) ?_ hfold
      (by simp) d hd
    intro roomId hroomId q q' hq hdone e he
    rcases recalculateRoom_cases hq with rfl | ⟨d, hid, hroom, -, hdecisions, -⟩
    · exact hdone e he
    · rw [hdecisions, List.mem_append, List.mem_singleton] at he
      rcases he with he | rfl
      · exact hdone e he
      · rw [hid]
        exact ⟨mem_sortedRoomIds.mp hroomId, hroom⟩

end Run

end ClockOrchestrator
