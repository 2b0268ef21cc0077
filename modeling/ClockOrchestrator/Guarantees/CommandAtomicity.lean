import ClockOrchestrator.Guarantees.RegistryRollout

namespace ClockOrchestrator

open Python UnitOfWork Trace

def Answers {α : Type} (x : Except PyError α) : Prop := ∀ e, x = .error e → e.isValueError = true

theorem answers_ok {α : Type} (a : α) : Answers (.ok a : Except PyError α) := by
  intro e h
  cases h

theorem answers_error {α : Type} {e : PyError} :
    Answers (.error e : Except PyError α) ↔ e.isValueError = true := by
  simp [Answers]

theorem answers_bind_iff {α β : Type} {x : Except PyError α} {f : α → Except PyError β} :
    Answers (x >>= f) ↔ Answers x ∧ ∀ a, x = .ok a → Answers (f a) := by
  cases x with
  | error e =>
      refine ⟨fun h => ⟨answers_error.mpr (answers_error.mp h), ?_⟩, fun h => ?_⟩
      · rintro a ⟨⟩
      · exact answers_error.mpr (answers_error.mp h.1)
  | ok a =>
      refine ⟨fun h => ⟨answers_ok a, ?_⟩, fun h => h.2 a rfl⟩
      rintro _ ⟨⟩
      exact h

theorem answers_bind_pure {α β : Type} {x : Except PyError α} {f : α → β} :
    Answers (x >>= fun a => pure (f a)) ↔ Answers x := by
  rw [answers_bind_iff]
  exact and_iff_left fun a _ => answers_ok (f a)

def InCalendar (u : Instant) : Prop := Datetime.minInstant ≤ u ∧ u < Datetime.endInstant

instance (u : Instant) : Decidable (InCalendar u) := inferInstanceAs (Decidable (_ ∧ _))

theorem checkedUtc_inCalendar {u : Instant} (h : InCalendar u) : Datetime.checkedUtc u = .ok u :=
  if_pos h

theorem checkedUtc_outside {u : Instant} (h : ¬ InCalendar u) :
    Datetime.checkedUtc u = .error (.overflowError "date value out of range") :=
  if_neg h

theorem checkedUtc_answers_iff {u : Instant} : Answers (Datetime.checkedUtc u) ↔ InCalendar u := by
  by_cases h : InCalendar u
  · rw [checkedUtc_inCalendar h]
    exact iff_of_true (answers_ok u) h
  · rw [checkedUtc_outside h, answers_error]
    exact iff_of_false (by simp [PyError.isValueError]) h

theorem payloadText_answers (payload : ByteArray) : Answers (payloadText payload) := by
  have hdecode : Answers (decodeUtf8 payload) := by
    unfold decodeUtf8
    split
    · exact answers_ok _
    · exact answers_error.mpr rfl
  unfold payloadText
  refine answers_bind_iff.mpr ⟨hdecode, fun decoded _ => ?_⟩
  dsimp only
  split
  · exact answers_ok _
  · exact answers_ok _

theorem parseControlMode_answers (text : String) : Answers (parseControlMode text) := by
  unfold parseControlMode
  split
  · exact answers_ok _
  · exact answers_error.mpr rfl

theorem parseManualHvacMode_answers (text : String) : Answers (parseManualHvacMode text) := by
  unfold parseManualHvacMode
  split
  · exact answers_ok _
  · exact answers_error.mpr rfl

theorem parseTemperature_answers (text : String) : Answers (parseTemperature text) := by
  unfold parseTemperature
  split
  · exact answers_ok _
  · exact answers_error.mpr rfl

theorem parseDuration_answers (text : String) (policy : AutomationPolicy) :
    Answers (parseDuration text policy) := by
  unfold parseDuration
  split
  · exact answers_error.mpr rfl
  · split
    · exact answers_error.mpr rfl
    · exact answers_ok _

theorem parseBooleanPayload_answers (text : String) : Answers (parseBooleanPayload text) := by
  unfold parseBooleanPayload
  dsimp only
  split
  · exact answers_ok _
  · split
    · exact answers_ok _
    · exact answers_error.mpr rfl

theorem fieldDraft_answers (policy : AutomationPolicy) (base : OverrideDraft)
    (field text : String) : Answers (fieldDraft policy base field text) := by
  unfold fieldDraft
  split
  · exact answers_ok _
  · split
    · exact answers_bind_pure.mpr (parseControlMode_answers text)
    · split
      · exact answers_bind_pure.mpr (parseManualHvacMode_answers text)
      · split
        · exact answers_bind_pure.mpr (parseTemperature_answers text)
        · split
          · split
            · exact answers_error.mpr rfl
            · exact answers_bind_pure.mpr (parseDuration_answers text policy)
          · split
            · exact answers_bind_pure.mpr (parseBooleanPayload_answers text)
            · exact answers_error.mpr rfl

def DurationFits (duration : DurationOption) (now : Instant) : Prop :=
  ∀ minutes : ℕ, duration.minutes = some minutes → InCalendar (now + minutes * minuteMicros)

theorem expiryForDuration_fits {duration : DurationOption} {now : Instant}
    (h : DurationFits duration now) : ∃ expires, expiryForDuration duration now = .ok expires := by
  unfold expiryForDuration
  cases hminutes : duration.minutes with
  | none => exact ⟨none, rfl⟩
  | some minutes =>
      dsimp only
      rw [checkedUtc_inCalendar (h minutes hminutes)]
      exact ⟨_, rfl⟩

theorem expiryForDuration_answers_iff {duration : DurationOption} {now : Instant} :
    Answers (expiryForDuration duration now) ↔ DurationFits duration now := by
  refine ⟨fun h minutes hminutes => ?_, fun h => ?_⟩
  · unfold expiryForDuration at h
    rw [hminutes] at h
    by_contra houtside
    dsimp only at h
    rw [checkedUtc_outside houtside] at h
    cases answers_error.mp h
  · obtain ⟨expires, hexpires⟩ := expiryForDuration_fits h
    rw [hexpires]
    exact answers_ok expires

def CheckoutFits (policy : HotelPolicy) (draft : OverrideDraft) (booking : Option BookingRow) :
    Prop :=
  draft.controlMode ≠ .automatic → draft.duration = .untilCheckout →
    ∀ b, booking = some b → InCalendar (bookingCheckout policy b)

section BuildRow

variable {H : Type} {policy : HotelPolicy} {s : DbSession H} {roomId : UUID} {now : Instant}

variable (now) in
theorem currentBookingBoundary_answers_iff :
    Answers (currentBookingBoundary policy s roomId now) ↔
      ∀ b, boundaryBooking s roomId = some b → InCalendar (bookingCheckout policy b) := by
  unfold currentBookingBoundary
  cases boundaryBooking s roomId with
  | none => exact iff_of_true (answers_ok _) (by simp)
  | some b =>
      refine answers_bind_pure.trans (checkedUtc_answers_iff.trans ?_)
      simp

theorem overrideBoundary_answers_iff {draft : OverrideDraft} :
    Answers (overrideBoundary draft (currentBookingBoundary policy s roomId now)) ↔
      CheckoutFits policy draft (boundaryBooking s roomId) := by
  unfold overrideBoundary CheckoutFits
  by_cases hfree : draft.controlMode = .automatic ∨ draft.duration ≠ .untilCheckout
  · rw [if_pos (by simpa using hfree)]
    refine iff_of_true (answers_ok none) fun hmode hduration => ?_
    rcases hfree with hautomatic | htimed
    · exact absurd hautomatic hmode
    · exact absurd hduration htimed
  · rw [if_neg (by simpa using hfree)]
    rw [not_or, not_not] at hfree
    rw [forall_prop_of_true hfree.1, forall_prop_of_true hfree.2,
      ← currentBookingBoundary_answers_iff now]
    refine answers_bind_iff.trans (and_iff_left fun boundary _ => ?_)
    cases boundary with
    | none => exact answers_error.mpr rfl
    | some found => exact answers_ok _

variable {latest : Option OverrideRow} {rowId commandId : UUID} {field : String}
  {payload : ByteArray}

def draftedOver (policy : AutomationPolicy) (latest : Option OverrideRow) (field : String)
    (payload : ByteArray) (now : Instant) : Except PyError OverrideDraft := do
  let text ← payloadText payload
  fieldDraft policy (currentDraft latest now) field text

theorem buildOverrideRow_answers_iff :
    Answers (buildOverrideRow policy.automation latest
        (currentBookingBoundary policy s roomId now) roomId rowId commandId field payload now) ↔
      ∀ draft, draftedOver policy.automation latest field payload now = .ok draft →
        DurationFits draft.duration now ∧ CheckoutFits policy draft (boundaryBooking s roomId) := by
  have hdrafted : Answers (draftedOver policy.automation latest field payload now) :=
    answers_bind_iff.mpr ⟨payloadText_answers payload, fun text _ => fieldDraft_answers _ _ _ _⟩
  have hbuild : buildOverrideRow policy.automation latest
      (currentBookingBoundary policy s roomId now) roomId rowId commandId field payload now =
      (draftedOver policy.automation latest field payload now >>= fun draft =>
        expiryForDuration draft.duration now >>= fun _ =>
          overrideBoundary draft (currentBookingBoundary policy s roomId now) >>= fun bound =>
            pure (overrideRowOfDraft policy.automation draft bound roomId rowId commandId now)) := by
    unfold buildOverrideRow draftedOver
    rw [bind_assoc]
  rw [hbuild, answers_bind_iff, and_iff_right hdrafted]
  refine forall₂_congr fun draft _ => ?_
  rw [answers_bind_iff, expiryForDuration_answers_iff]
  refine and_congr_right fun hfits => ?_
  obtain ⟨expires, hexpires⟩ := expiryForDuration_fits hfits
  simp only [hexpires, Except.ok.injEq, forall_eq']
  exact answers_bind_pure.trans overrideBoundary_answers_iff

end BuildRow

section Store

variable {H : Type} {base rt : AppRuntime H} {db : Db H} {command : RoomCommand}

def Db.holdsRoom (db : Db H) (key : String) (roomId : UUID) : Bool :=
  db.rooms.any fun r => r.key = key && r.id = roomId

def Db.roomOverride (db : Db H) (key : String) : Option OverrideRow :=
  RankedLog.latest OverrideRow.rank (db.overrides.filter fun row => db.holdsRoom key row.roomId)

def Db.roomBoundaryBooking (db : Db H) (key : String) : Option BookingRow := do
  let latest ← RankedLog.latest RoomStateRow.rank
    (db.roomStates.filter fun row => db.holdsRoom key row.roomId)
  let bookingId ← latest.bookingId
  guard (latest.automationPhase ∈ boundaryPhases)
  db.bookings.find? (·.id = bookingId)

structure Answerable (rt : AppRuntime H) (db : Db H) (command : RoomCommand) : Prop where
  moment : InCalendar (command.now.toUtc rt.zone)
  clockId : ∀ room, rt.registry.byKey command.roomKey = some room →
    ClockIdFree db.roomTable room.settings
  ends : ∀ room draft, rt.registry.byKey command.roomKey = some room →
    draftedOver rt.policy.automation (db.roomOverride command.roomKey) command.field
      command.payload (command.now.toUtc rt.zone) = .ok draft →
    DurationFits draft.duration (command.now.toUtc rt.zone) ∧
      CheckoutFits rt.policy draft (db.roomBoundaryBooking command.roomKey)

inductive AllOrNothing (rt : AppRuntime H) (db : Db H) (command : RoomCommand) :
    CommandProcessingResult → Db H → Prop
  | accepted {result : CommandProcessingResult} {db' : Db H} {room : Room} {row : OverrideRow}
      {event : OutboxEvent} {audit : AuditEvent} :
      result.accepted = true → rt.registry.byKey command.roomKey = some room →
      db'.overrides = db.overrides ++ [row] →
      db'.outbox = db.outbox ++ [event] →
      event.topic = rt.topics.roomControlState room.key →
      event.payload = .control (controlStatePayloadFromOverride room.key (some row)
        (command.now.toUtc rt.zone) none) →
      db'.audit = db.audit ++ [audit] →
      audit.detail = .commandAccepted room.key command.field row.controlMode row.commandId →
      row.commandId = command.correlationId →
      AllOrNothing rt db command result db'
  | rejected {result : CommandProcessingResult} {db' : Db H} {audit : AuditEvent}
      {reason : String} :
      result.accepted = false →
      db'.audit = db.audit ++ [audit] →
      audit.detail = .commandRejected command.roomKey command.field reason
        command.correlationId →
      db'.overrides = db.overrides → db'.outbox = db.outbox → db'.roomStates = db.roomStates →
      AllOrNothing rt db command result db'

theorem ignoresRegistry_audit : IgnoresRegistry (fun db : Db H => db.audit) :=
  ⟨fun _ _ => rfl, fun _ _ => rfl, fun _ _ => rfl, fun _ _ => rfl⟩

theorem CommandRoom.holdsRoom_iff {key : String} {roomRow : RoomRow} {t : DbSession H}
    (h : CommandRoom base db key roomRow t) {roomId : UUID}
    (hroom : roomId ∈ db.roomColumns.map Prod.fst) :
    db.holdsRoom key roomId = true ↔ roomId = roomRow.id := by
  obtain ⟨propertyId, hcolumns⟩ := h.columns
  have hlive : ∀ r ∈ db.rooms, r.columns ∈ t.live.roomColumns := fun r hr =>
    h.session.growth.subset (List.mem_map_of_mem hr)
  unfold Db.holdsRoom
  simp only [List.any_eq_true, Bool.and_eq_true, decide_eq_true_eq]
  constructor
  · rintro ⟨r, hr, hkey, rfl⟩
    have hsame : r.columns = roomRow.columns :=
      KeyedTable.eq_of_key h.session.registry.store.roomKeys (hlive r hr) h.stored (by
        rw [hcolumns]
        exact hkey)
    exact congrArg Prod.fst hsame
  · rintro rfl
    rw [Db.roomColumns, List.map_map] at hroom
    obtain ⟨r, hr, hid⟩ := List.mem_map.mp hroom
    have hsame : r.columns = roomRow.columns :=
      h.session.registry.store.column_unique (hlive r hr) h.stored hid
    rw [hcolumns] at hsame
    exact ⟨r, hr, congrArg (·.2.2) hsame, hid⟩

theorem CommandRoom.filter_eq {key : String} {roomRow : RoomRow} {t : DbSession H} {ρ : Type}
    (h : CommandRoom base db key roomRow t) {rows : List ρ} {roomId : ρ → UUID}
    (hrooms : ∀ row ∈ rows, roomId row ∈ db.roomColumns.map Prod.fst) :
    rows.filter (roomId · = roomRow.id) = rows.filter fun row => db.holdsRoom key (roomId row) := by
  refine List.filter_congr fun row hrow => ?_
  rw [Bool.eq_iff_iff, h.holdsRoom_iff (hrooms row hrow), decide_eq_true_eq]

theorem CommandRoom.latestOverrideRow_eq {key : String} {roomRow : RoomRow} {t : DbSession H}
    (h : CommandRoom base db key roomRow t) (hdb : StoreInvariant base db) :
    latestOverrideRow t roomRow.id = db.roomOverride key := by
  rw [latestOverrideRow_of_logs h.session.logs, Db.roomOverride, h.filter_eq hdb.overrideRooms]

theorem CommandRoom.boundaryBooking_eq {key : String} {roomRow : RoomRow} {t : DbSession H}
    (h : CommandRoom base db key roomRow t) (hdb : StoreInvariant base db) :
    boundaryBooking t roomRow.id = db.roomBoundaryBooking key := by
  have hbookings : t.live.bookings = db.bookings := congrArg Prod.fst h.session.stays.live
  unfold boundaryBooking Db.roomBoundaryBooking getBooking
  rw [latestRoomState_of_logs h.session.logs, h.filter_eq hdb.stateRooms, hbookings]

theorem applyMqttCommand_allOrNothing {out : CommandProcessingResult × DbSession H}
    (h : applyMqttCommand rt (rt.session db) command = .ok out) :
    AllOrNothing rt db command out.1 out.2.live := by
  have hlogs := ensureProperty_shows rt ignoresRegistry_logs
    (Session.Shows.of_start rt.autoflush db Db.logs)
  have haudit := ensureProperty_shows rt ignoresRegistry_audit
    (Session.Shows.of_start rt.autoflush db fun db => db.audit)
  unfold applyMqttCommand at h
  obtain ⟨now, hnow, h⟩ := bind_ok h
  obtain rfl := Datetime.checkedUtc_ok hnow
  change (ensureProperty rt (rt.session db)).2.Shows _ _ at hlogs haudit
  generalize ensureProperty rt (rt.session db) = opened at h hlogs haudit
  obtain ⟨property, s⟩ := opened
  dsimp only at h hlogs haudit
  have hrejected : ∀ (t : DbSession H) (result : CommandProcessingResult) roomId reason,
      result.accepted = false → t.Shows Db.logs db.logs → t.Shows (·.audit) db.audit →
      AllOrNothing rt db command result
        (rejectCommand rt property roomId command reason (command.now.toUtc rt.zone) t).live := by
    intro t result roomId reason haccepted htlogs htaudit
    have hlive := htlogs.live
    simp only [Db.logs, Prod.mk.injEq] at hlive
    exact .rejected haccepted (congrArg (· ++ _) htaudit.live) rfl hlive.2.1 hlive.2.2 hlive.1
  split at h
  · cases h
    exact hrejected s _ _ _ rfl hlogs haudit
  · next room hroom =>
      obtain ⟨⟨roomRow, t⟩, hensure, h⟩ := bind_ok h
      have htlogs := ensureCommandRoom_shows ignoresRegistry_logs hensure hlogs
      have htaudit := ensureCommandRoom_shows ignoresRegistry_audit hensure haudit
      dsimp only at h
      split at h
      · split at h
        · cases h
          exact hrejected t _ _ _ rfl htlogs htaudit
        · cases h
      · next row hrow =>
          split at h
          · cases h
          · cases h
            have hlive := htlogs.live
            simp only [Db.logs, Prod.mk.injEq] at hlive
            obtain ⟨text, draft, bound, -, -, -, rfl⟩ := buildOverrideRow_ok hrow
            exact .accepted rfl hroom (congrArg (· ++ _) hlive.2.1) (congrArg (· ++ _) hlive.2.2)
              rfl rfl (congrArg (· ++ _) htaudit.live) rfl rfl

def FreshCommand (db : Db H) (command : RoomCommand) : Prop :=
  ∀ row ∈ db.overrides, row.commandId ≠ command.correlationId

instance : Decidable (FreshCommand db command) := inferInstanceAs (Decidable (∀ row ∈ _, _))

theorem applyMqttCommand_room_ok_iff {room : Room} {roomRow : RoomRow} {t : DbSession H}
    (hnow : InCalendar (command.now.toUtc rt.zone))
    (hroom : rt.registry.byKey command.roomKey = some room)
    (hensure : ensureCommandRoom rt (ensureProperty rt (rt.session db)).1
      (ensureProperty rt (rt.session db)).2 room = .ok (roomRow, t))
    (hoverrides : t.live.overrides = db.overrides) (hfresh : FreshCommand db command) :
    (∃ out, applyMqttCommand rt (rt.session db) command = .ok out) ↔
      Answers (buildOverrideRow rt.policy.automation (latestOverrideRow t roomRow.id)
        (currentBookingBoundary rt.policy t roomRow.id (command.now.toUtc rt.zone)) roomRow.id
        (rt.uuid4 t.live.drawn) command.correlationId command.field command.payload
        (command.now.toUtc rt.zone)) := by
  have hunused : t.live.overrides.any (·.commandId = command.correlationId) = false := by
    rw [hoverrides, List.any_eq_false]
    intro row hrow
    simpa using hfresh row hrow
  unfold applyMqttCommand
  rw [checkedUtc_inCalendar hnow]
  simp only [bind, Except.bind, hroom, hensure]
  split
  · next e he =>
      rw [he, answers_error]
      by_cases hvalue : e.isValueError = true
      · rw [if_pos hvalue]
        exact iff_of_true ⟨_, rfl⟩ hvalue
      · rw [if_neg hvalue]
        exact iff_of_false (by simp) hvalue
  · next row hrow =>
      rw [hrow, hunused]
      exact iff_of_true ⟨_, rfl⟩ (answers_ok row)

theorem applyMqttCommand_ok_iff (hinj : rt.uuid4.Injective) (hdb : StoreInvariant rt db)
    (hfresh : FreshCommand db command) :
    (∃ out, applyMqttCommand rt (rt.session db) command = .ok out) ↔ Answerable rt db command := by
  by_cases hnow : InCalendar (command.now.toUtc rt.zone)
  swap
  · refine iff_of_false ?_ fun h => hnow h.moment
    rintro ⟨out, hout⟩
    unfold applyMqttCommand at hout
    rw [checkedUtc_outside hnow] at hout
    cases hout
  cases hroom : rt.registry.byKey command.roomKey with
  | none =>
      refine iff_of_true ?_ ⟨hnow, by simp [hroom], by simp [hroom]⟩
      unfold applyMqttCommand
      rw [checkedUtc_inCalendar hnow]
      simp only [bind, Except.bind, hroom]
      exact ⟨_, rfl⟩
  | some room =>
      have hfree := ensureCommandRoom_ok_iff rt hinj rfl rfl hdb.registry hdb.roomsApart room
      cases hensure : ensureCommandRoom rt (ensureProperty rt (rt.session db)).1
          (ensureProperty rt (rt.session db)).2 room with
      | ok opened =>
          obtain ⟨roomRow, t⟩ := opened
          have hopen : openCommandRoom rt db command = some (roomRow, t) := by
            rw [openCommandRoom_some hroom, hensure]
            rfl
          have hcommand := openCommandRoom_session hinj rfl rfl hdb.registry hopen
          have hoverrides : t.live.overrides = db.overrides :=
            congrArg (·.2.1) hcommand.session.logs.live
          rw [applyMqttCommand_room_ok_iff hnow hroom hensure hoverrides hfresh,
            buildOverrideRow_answers_iff, hcommand.latestOverrideRow_eq hdb,
            hcommand.boundaryBooking_eq hdb]
          constructor
          · intro hends
            refine ⟨hnow, ?_, fun _ draft _ hdraft => hends draft hdraft⟩
            rintro _ hsome
            cases hroom.symm.trans hsome
            exact hfree.mp ⟨_, hensure⟩
          · intro h draft hdraft
            exact h.ends room draft hroom hdraft
      | error e =>
          have htaken : ¬ ClockIdFree db.roomTable room.settings := by
            intro h
            obtain ⟨out, hout⟩ := hfree.mpr h
            cases hensure.symm.trans hout
          refine iff_of_false ?_ fun h => htaken (h.clockId room hroom)
          rintro ⟨out, hout⟩
          unfold applyMqttCommand at hout
          rw [checkedUtc_inCalendar hnow] at hout
          simp only [bind, Except.bind, hroom, hensure] at hout
          cases hout

variable [DecidableEq H]

def ReachableUnder (rt : AppRuntime H) (db : Db H) : Prop :=
  ∃ requests, Run next (fun _ request => request.runtime = rt) (Db.empty H) requests db

theorem ReachableUnder.reachable (h : ReachableUnder rt db) : Reachable rt db := by
  obtain ⟨requests, hrun⟩ := h
  refine ⟨requests, hrun.mono fun db request hsame => ?_⟩
  exact ⟨hsame ▸ .refl rt, trivial⟩

theorem commands_all_or_nothing_iff (hinj : rt.uuid4.Injective) (hdb : ReachableUnder rt db)
    (hfresh : FreshCommand db command) :
    (∃ out, applyMqttCommand rt (rt.session db) command = .ok out ∧
        AllOrNothing rt db command out.1 out.2.commit) ↔
      Answerable rt db command := by
  rw [← applyMqttCommand_ok_iff hinj (hdb.reachable.invariant hinj) hfresh]
  exact exists_congr fun out => and_iff_left_of_imp applyMqttCommand_allOrNothing

end Store

def demoBlankRegistry : RoomRegistry where
  property := demoRegistry.property
  entrances := demoRegistry.entrances
  rooms := [{ room214 with clockRoomId := some "" }, { room215 with clockRoomId := some "" }]
  uniqueEntranceKeys := demoRegistry.uniqueEntranceKeys
  uniqueG301Addresses := demoRegistry.uniqueG301Addresses
  uniqueRoomKeys := demoRegistry.uniqueRoomKeys

def demoBlankRuntime : AppRuntime RoomStateDocument :=
  { demoRuntime false with registry := demoBlankRegistry }

def demoBlankRun : List (Request RoomStateDocument) :=
  [⟨demoBlankRuntime, .applyMqttCommand (demoCommand "mode" "manual" (demoNow 10 0) 1000)⟩]

def demoBlankStore : Db RoomStateDocument := demoStore demoBlankRun

def demoOtherRoomCommand : RoomCommand :=
  { demoCommand "mode" "manual" (demoNow 10 5) 1001 with roomKey := "215" }

theorem demoBlankStore_reachable : ReachableUnder demoBlankRuntime demoBlankStore := by
  refine ⟨demoBlankRun, run_of_eq_some (fun request hrequest _ => ?_) (by decide +kernel)⟩
  rw [demoBlankRun, List.mem_singleton] at hrequest
  rw [hrequest]

theorem second_blank_room_raises :
    ¬ ∀ (rt : AppRuntime RoomStateDocument) (db : Db RoomStateDocument) (command : RoomCommand),
      rt.uuid4.Injective → ReachableUnder rt db → FreshCommand db command →
        ∃ out, applyMqttCommand rt (rt.session db) command = .ok out ∧
          AllOrNothing rt db command out.1 out.2.commit := by
  intro h
  obtain ⟨out, hout, -⟩ := h demoBlankRuntime demoBlankStore demoOtherRoomCommand
    (demoRuntime_uuid4_injective false) demoBlankStore_reachable (by decide +kernel)
  have hraised : (applyMqttCommand demoBlankRuntime (demoBlankRuntime.session demoBlankStore)
      demoOtherRoomCommand).toOption.isNone = true := by decide +kernel
  rw [hout] at hraised
  cases hraised

theorem temperature_command_is_answered :
    ∃ out, applyMqttCommand (demoRuntime false) ((demoRuntime false).session (Db.empty _))
        (demoCommand "temperature" "21.5" (demoNow 10 5) 1001) = .ok out ∧
      AllOrNothing (demoRuntime false) (Db.empty _)
        (demoCommand "temperature" "21.5" (demoNow 10 5) 1001) out.1 out.2.commit := by
  refine (commands_all_or_nothing_iff (demoRuntime_uuid4_injective false) ⟨[], .nil _⟩
    (by simp [FreshCommand, Db.empty])).mpr ⟨by decide, ?_, ?_⟩
  · intro room _
    exact .inr (by simp [Db.roomTable, Db.empty])
  · intro room draft _ hdraft
    have hduration : ((draftedOver defaultPolicy.automation none "temperature" "21.5".toUTF8
        (demoInstant 10 5)).toOption.map (·.duration)) = some .minutes60 := by decide +kernel
    have hdrafted : draftedOver defaultPolicy.automation none "temperature" "21.5".toUTF8
        (demoInstant 10 5) = .ok draft := hdraft
    rw [hdrafted] at hduration
    have hminutes : draft.duration = .minutes60 := Option.some.inj hduration
    refine ⟨?_, fun _ huntil => ?_⟩
    · rw [hminutes]
      rintro minutes ⟨⟩
      decide
    · rw [hminutes] at huntil
      cases huntil

end ClockOrchestrator
