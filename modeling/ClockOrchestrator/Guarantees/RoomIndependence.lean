import ClockOrchestrator.G301Adapter.CallCoupling
import ClockOrchestrator.Support.KeyedTable

namespace ClockOrchestrator

open Python Procedure Emission

variable {E E' F V : Type} {w : G301EntranceWorker F} {registry : RoomRegistry}
  {entranceKey : String} {settings : WorkerSettings} {zone : Zone} {fingerprint : IntentPayload → F}
  {slaveAddress : ℕ} {intent : DesiredRoomIntent}

def AddressGiven (registry : RoomRegistry) (entranceKey roomKey : String) (slaveAddress : ℕ) : Prop :=
  ∃ room ∈ registry.rooms, room.key = roomKey ∧ room.entranceKey = entranceKey ∧
    room.g301.map (·.slaveAddress) = some slaveAddress

theorem createWorker_addresses
    (h : createWorker registry entranceKey settings zone fingerprint = .ok w) :
    w.roomSlaveAddresses = roomSlaveAddresses registry entranceKey := by
  unfold createWorker at h
  split at h
  · cases h
  · split at h
    · cases h
    · split at h
      · cases h
      · cases h
        rfl

theorem lookup_given {roomKey : String}
    (h : (roomSlaveAddresses registry entranceKey).lookup roomKey = some slaveAddress) :
    AddressGiven registry entranceKey roomKey slaveAddress := by
  obtain ⟨before, after, hsplit, -⟩ := List.lookup_eq_some_iff.mp h
  have hmem : (roomKey, slaveAddress) ∈ roomSlaveAddresses registry entranceKey := by
    rw [hsplit]
    exact List.mem_append_right _ List.mem_cons_self
  obtain ⟨room, hroom, hentry⟩ := List.mem_filterMap.mp hmem
  split at hentry
  · next hhere =>
      obtain ⟨mapping, hmapping, hpair⟩ := Option.map_eq_some_iff.mp hentry
      cases hpair
      exact ⟨room, hroom, rfl, hhere.2, by rw [hmapping]; rfl⟩
  · cases hentry

theorem AddressGiven.unique {roomKey other : String}
    (h : AddressGiven registry entranceKey roomKey slaveAddress)
    (h' : AddressGiven registry entranceKey other slaveAddress) : roomKey = other := by
  obtain ⟨room, hroom, rfl, hentrance, hslave⟩ := h
  obtain ⟨room', hroom', rfl, hentrance', hslave'⟩ := h'
  have hsame : room = room' := by
    refine KeyedTable.eq_of_filterMap registry.uniqueG301Addresses hroom hroom'
      (k := (entranceKey, slaveAddress)) ?_ ?_
    · obtain ⟨mapping, hmapping, rfl⟩ := Option.map_eq_some_iff.mp hslave
      rw [hmapping, ← hentrance]
      rfl
    · obtain ⟨mapping, hmapping, rfl⟩ := Option.map_eq_some_iff.mp hslave'
      rw [hmapping, ← hentrance']
      rfl
  rw [hsame]

section Paths

variable {p q : Progress F} {labels : List (Interaction × RoomIntentState F)}

theorem path_at (h : Path (AttemptStep intent slaveAddress) p labels q) :
    ∀ l ∈ labels, l.1.At slaveAddress := by
  have hquiet : ∀ {n : Interaction}, n.Quiet slaveAddress → n.At slaveAddress := by
    intro n hn
    cases n with
    | write _ _ _ _ => cases hn
    | read _ _ _ _ => exact hn
    | clock _ => trivial
  have hread : ∀ {expectations notes values} {st : RoomIntentState F},
      Readback slaveAddress expectations notes values →
      ∀ l ∈ notes.map (·, st), l.1.At slaveAddress := by
    intro expectations notes values st hback l hl
    obtain ⟨n, hn, rfl⟩ := List.mem_map.mp hl
    exact hquiet (hback.quiet n hn)
  induction h with
  | refl => simp
  | tail _ hstep ih =>
      refine List.forall_mem_append.mpr ⟨ih, ?_⟩
      cases hstep with
      | look hn => simpa using hquiet hn
      | restart => simp
      | plan _ => simp
      | write _ _ => simp [Interaction.At]
      | acknowledge => simp
      | await => simp
      | diverge _ hback _ => exact hread hback
      | confirm _ _ hback _ => exact hread hback
      | close _ _ _ => simp

theorem step_addressed (h : AttemptStep intent slaveAddress p labels q)
    (hp : Addressed slaveAddress (some p.state)) : Addressed slaveAddress (some q.state) := by
  have hkept : ∀ {st : RoomIntentState F} {a b : IntentAttempt F},
      Addressed slaveAddress (some (st.holding a)) →
      (∀ plan, b.plan = some plan → a.plan = some plan ∨ plan.slaveAddress = slaveAddress) →
      Addressed slaveAddress (some (st.holding b)) := by
    rintro st a b hst hplan _ _ plan ⟨⟩ ⟨⟩ hb
    rcases hplan plan hb with hsame | hown
    · exact hst _ a plan rfl rfl hsame
    · exact hown
  cases h with
  | look _ => exact hp
  | restart =>
      refine hkept hp ?_
      rintro plan ⟨⟩
  | plan hof =>
      refine hkept hp ?_
      rintro _ ⟨⟩
      exact .inr hof.slaveAddress_eq
  | write _ _ => exact hp
  | acknowledge => exact hkept hp fun _ h => .inl h
  | await => exact hkept hp fun _ h => .inl h
  | diverge _ _ _ => exact hkept hp fun _ h => .inl h
  | confirm _ _ _ _ => exact keepsAddress_markTerminal _ _ _ hp
  | close _ _ _ => exact keepsAddress_markTerminal _ _ _ hp

end Paths

theorem addressed_room {s : WorkerState E F} {roomKey : String} :
    Addressed slaveAddress (some (s.room roomKey)) ↔
      Addressed slaveAddress (s.intentStates roomKey) := by
  unfold WorkerState.room
  cases s.intentStates roomKey with
  | none =>
      refine iff_of_true ?_ ?_
      · rintro _ a plan ⟨⟩ ⟨⟩
      · rintro st a plan ⟨⟩
  | some st => exact Iff.rfl

structure CallFrame (w : G301EntranceWorker F) (view : ℕ → E → V) (roomKey : String)
    (s t : WorkerState E F) : Prop where
  rooms : ∀ other, other ≠ roomKey → t.intentStates other = s.intentStates other
  failures : ∀ slave, w.roomSlaveAddresses.lookup roomKey ≠ some slave →
    t.slaveFailures slave = s.slaveFailures slave
  views : ∀ slave, w.roomSlaveAddresses.lookup roomKey ≠ some slave →
    view slave t.env = view slave s.env

theorem KeepsTo.callFrame {view : ℕ → E → V} {s t : WorkerState E F} {roomKey : String}
    (h : KeepsTo view roomKey slaveAddress s.atRest t)
    (hslave : w.roomSlaveAddresses.lookup roomKey = some slaveAddress) :
    CallFrame w view roomKey s t where
  rooms := h.rooms
  failures slave hne := h.failures slave (by
    rintro rfl
    exact hne hslave)
  views slave hne := h.views slave (by
    rintro rfl
    exact hne hslave)

variable [DecidableEq F]

theorem history_addressed (w : G301EntranceWorker F) (env : G301Environment E) (e : E)
    (intents : List DesiredRoomIntent) {roomKey : String}
    (hslave : w.roomSlaveAddresses.lookup roomKey = some slaveAddress) :
    Addressed slaveAddress ((history w env e intents).state.intentStates roomKey) := by
  rw [← addressed_room]
  refine history_rule (I := fun h : WorkerHistory E F =>
    Addressed slaveAddress (some (h.state.room roomKey))) ?_ fun intents intent hconsistent ih => ?_
  · rintro _ a plan ⟨⟩ ⟨⟩
  · have heffect := hconsistent.effect env intent
    by_cases hroom : roomKey = intent.roomKey
    · subst hroom
      rcases heffect.cases with ⟨hsame, -⟩ | ⟨_, p, q, hslave', hopens, htakes, -⟩
      · exact hsame.symm ▸ ih
      · cases hslave.symm.trans hslave'
        obtain ⟨labels, hpath, -⟩ := htakes.path
        have hp : Addressed slaveAddress (some p.state) := by
          cases hopens with
          | fresh _ => rintro _ a plan ⟨⟩ ⟨⟩ ⟨⟩
          | retry _ _ _ => exact ih
          | resume _ _ _ => exact ih
        have hq : Addressed slaveAddress (some q.state) :=
          hpath.invariant (I := fun p => Addressed slaveAddress (some p.state))
            (fun _ _ _ hstep => step_addressed hstep) hp
        exact htakes.holds.eq_room.symm ▸ hq
    · have hsame : ((history w env e intents).call w env intent).state.room roomKey =
          (history w env e intents).state.room roomKey := heffect.room_elsewhere hroom
      exact hsame.symm ▸ ih

theorem history_at {env : G301Environment E} {e : E} {intents : List DesiredRoomIntent}
    {c : CallRecord E F} (hc : c ∈ (history w env e intents).calls) :
    ∀ n ∈ c.interactions, ∃ slaveAddress,
      w.roomSlaveAddresses.lookup c.intent.roomKey = some slaveAddress ∧ n.At slaveAddress := by
  obtain ⟨before, after, hcalls⟩ := List.append_of_mem hc
  obtain ⟨earlier, -, -, hstart, heffect⟩ := history_effect hcalls
  intro n hn
  rcases heffect.cases with ⟨-, hnone, -⟩ | ⟨slaveAddress, p, q, hslave, -, htakes, -⟩
  · rw [CallRecord.interactions, hnone, hstart] at hn
    cases hn
  · obtain ⟨labels, hpath, -, hlabels⟩ := htakes.interactions (by rw [hstart]; rfl)
    rw [CallRecord.interactions, hlabels] at hn
    obtain ⟨l, hl, rfl⟩ := List.mem_map.mp hn
    exact ⟨slaveAddress, hslave, path_at hpath l hl⟩

def CallRecord.readings (c : CallRecord E F) : List Instant := c.after.readings

variable {env : G301Environment E} {view : ℕ → E → V} {a b : DesiredRoomIntent}
  {s : WorkerState E F}

theorem callRecord_ends (w : G301EntranceWorker F) (env : G301Environment E) (s : WorkerState E F)
    (intent : DesiredRoomIntent) :
    Ends (applyIntent w env intent) s.atRest (callRecord w env s intent).result
      (callRecord w env s intent).after :=
  ends_outcome _ _

theorem callRecord_unconfigured (env : G301Environment E) (s : WorkerState E F)
    (ha : w.roomSlaveAddresses.lookup a.roomKey = none) :
    (callRecord w env s a).result = .ok (bareResult a .skipped
        (.text "room has no configured G301 slave address for this entrance")) ∧
      (callRecord w env s a).after = s.atRest := by
  have hskips : applyIntent w env a = pure (bareResult a .skipped
      (.text "room has no configured G301 slave address for this entrance")) := by
    unfold applyIntent
    rw [ha]
  have hends := callRecord_ends w env s a
  rw [hskips] at hends
  exact ends_pure.mp hends

def PlansAddressed (w : G301EntranceWorker F) (s : WorkerState E F) : Prop :=
  ∀ {roomKey slave}, w.roomSlaveAddresses.lookup roomKey = some slave →
    Addressed slave (s.intentStates roomKey)

section Halves

variable (hlocal : SlaveLocal env view) (hplans : PlansAddressed w s)
include hlocal hplans

theorem call_frame (a : DesiredRoomIntent) :
    CallFrame w view a.roomKey s (callRecord w env s a).after := by
  cases ha : w.roomSlaveAddresses.lookup a.roomKey with
  | none =>
      rw [(callRecord_unconfigured env s ha).2]
      exact ⟨fun _ _ => rfl, fun _ _ => rfl, fun _ _ => rfl⟩
  | some sa =>
      have hagree : AgreeOn view a.roomKey sa s.atRest s.atRest :=
        ⟨rfl, rfl, rfl, rfl, hplans ha⟩
      obtain ⟨-, hkeeps, -⟩ := (applyIntent_keeps hlocal w ha).alone hagree
        (callRecord_ends w env s a)
      exact hkeeps.callFrame ha

theorem call_after_other (hrooms : b.roomKey ≠ a.roomKey)
    (hslaves : ∀ slave, w.roomSlaveAddresses.lookup b.roomKey = some slave →
      w.roomSlaveAddresses.lookup a.roomKey ≠ some slave)
    (hclock : (callRecord w env (callRecord w env s a).after b).readings =
      (callRecord w env s b).readings) :
    (callRecord w env (callRecord w env s a).after b).result = (callRecord w env s b).result ∧
      (callRecord w env (callRecord w env s a).after b).after.intentStates b.roomKey =
        (callRecord w env s b).after.intentStates b.roomKey ∧
      (∀ slave, w.roomSlaveAddresses.lookup b.roomKey = some slave →
        (callRecord w env (callRecord w env s a).after b).after.slaveFailures slave =
          (callRecord w env s b).after.slaveFailures slave) ∧
      CallFrame w view b.roomKey (callRecord w env s a).after
        (callRecord w env (callRecord w env s a).after b).after := by
  have hframe := call_frame hlocal hplans a
  cases hb : w.roomSlaveAddresses.lookup b.roomKey with
  | none =>
      obtain ⟨hresult, hafter⟩ := callRecord_unconfigured env s hb
      obtain ⟨hresult', hafter'⟩ := callRecord_unconfigured env (callRecord w env s a).after hb
      rw [hresult, hafter, hresult', hafter']
      refine ⟨rfl, hframe.rooms _ hrooms, ?_, ⟨fun _ _ => rfl, fun _ _ => rfl, fun _ _ => rfl⟩⟩
      rintro slave ⟨⟩
  | some sb =>
      have hagree : AgreeOn view b.roomKey sb (callRecord w env s a).after.atRest s.atRest := by
        refine ⟨hframe.rooms _ hrooms, hframe.failures _ (hslaves sb hb),
          hframe.views _ (hslaves sb hb), rfl, ?_⟩
        exact (hframe.rooms _ hrooms).symm ▸ hplans hb
      have hsame : (callRecord w env s b).readings <+:
          (callRecord w env (callRecord w env s a).after b).readings :=
        hclock ▸ List.prefix_rfl
      obtain ⟨hresult, hafter, hkeeps, -⟩ := applyIntent_keeps hlocal w hb hagree
        (callRecord_ends w env _ b) (callRecord_ends w env s b) (List.prefix_refl _) hsame
      refine ⟨hresult, hafter.room, ?_, hkeeps.callFrame hb⟩
      rintro slave ⟨⟩
      exact hafter.failure

end Halves

theorem rooms_of_an_entrance_commute
    (hw : createWorker registry entranceKey settings zone fingerprint = .ok w)
    (before : G301Environment E') (e : E') (earlier : List DesiredRoomIntent)
    (hs : s.intentStates = (history w before e earlier).state.intentStates)
    (hlocal : SlaveLocal env view) (hrooms : a.roomKey ≠ b.roomKey)
    (hclock : (callRecord w env (callRecord w env s b).after a).readings =
      (callRecord w env s a).readings)
    (hclock' : (callRecord w env (callRecord w env s a).after b).readings =
      (callRecord w env s b).readings) :
    (callRecord w env s a).result = (callRecord w env (callRecord w env s b).after a).result ∧
      (callRecord w env (callRecord w env s a).after b).result = (callRecord w env s b).result ∧
      (callRecord w env (callRecord w env s a).after b).after.intentStates =
        (callRecord w env (callRecord w env s b).after a).after.intentStates ∧
      (callRecord w env (callRecord w env s a).after b).after.slaveFailures =
        (callRecord w env (callRecord w env s b).after a).after.slaveFailures ∧
      ∀ c ∈ (history w before e earlier).calls, ∀ n ∈ c.interactions, ∃ slaveAddress,
        AddressGiven registry entranceKey c.intent.roomKey slaveAddress ∧ n.At slaveAddress := by
  have hgiven : ∀ {roomKey slave}, w.roomSlaveAddresses.lookup roomKey = some slave →
      AddressGiven registry entranceKey roomKey slave := by
    intro roomKey slave hslave
    rw [createWorker_addresses hw] at hslave
    exact lookup_given hslave
  have hplans : PlansAddressed w s := by
    intro roomKey slave hslave
    rw [hs]
    exact history_addressed w before e earlier hslave
  have hslaves : ∀ slave, w.roomSlaveAddresses.lookup a.roomKey = some slave →
      w.roomSlaveAddresses.lookup b.roomKey ≠ some slave :=
    fun _ ha hb => hrooms ((hgiven ha).unique (hgiven hb))
  have hfirst := call_frame hlocal hplans a
  have hother := call_frame hlocal hplans b
  obtain ⟨hresult, hroom, hfailure, hframe⟩ := call_after_other hlocal hplans hrooms.symm
    (fun slave hb ha => hslaves slave ha hb) hclock'
  obtain ⟨hresult', hroom', hfailure', hframe'⟩ := call_after_other hlocal hplans hrooms hslaves
    hclock
  refine ⟨hresult'.symm, hresult, funext fun room => ?_, funext fun slave => ?_, ?_⟩
  · by_cases ha : room = a.roomKey
    · rw [ha, hframe.rooms _ hrooms]
      exact hroom'.symm
    · by_cases hb : room = b.roomKey
      · rw [hb, hframe'.rooms _ hrooms.symm]
        exact hroom
      · rw [hframe.rooms _ hb, hframe'.rooms _ ha]
        exact (hfirst.rooms _ ha).trans (hother.rooms _ hb).symm
  · by_cases ha : w.roomSlaveAddresses.lookup a.roomKey = some slave
    · rw [hframe.failures _ (hslaves _ ha)]
      exact (hfailure' _ ha).symm
    · by_cases hb : w.roomSlaveAddresses.lookup b.roomKey = some slave
      · rw [hframe'.failures _ ha]
        exact hfailure _ hb
      · rw [hframe.failures _ hb, hframe'.failures _ ha]
        exact (hfirst.failures _ ha).trans (hother.failures _ hb).symm
  · intro c hc n hn
    obtain ⟨slaveAddress, hslave, hat⟩ := history_at hc n hn
    exact ⟨slaveAddress, hgiven hslave, hat⟩

def demoTwoSlaves : G301Environment (ℕ → ℤ) where
  writeRegister := fun cells slave _ value => (.ok (), Function.update cells slave value)
  readHoldingRegisters := fun cells slave _ count => (.ok (List.replicate count (cells slave)), cells)
  clock := fun cells => (0, cells)
  sleep := fun cells _ => (false, cells)

theorem demoTwoSlaves_local : SlaveLocal demoTwoSlaves fun slave cells => cells slave where
  write_alike h _ _ := ⟨rfl, by simp [demoTwoSlaves]⟩
  write_elsewhere hne _ _ _ := Function.update_of_ne hne _ _
  read_alike h _ count := ⟨by simp only [demoTwoSlaves, h], h⟩
  read_elsewhere _ _ _ _ := rfl
  clock_elsewhere _ _ := rfl
  sleep_elsewhere _ _ _ := rfl
  sleep_alike _ _ _ := rfl

def demoMapped (key : String) (slaveAddress : ℕ) (h : 1 ≤ slaveAddress ∧ slaveAddress ≤ 255) : Room where
  key := key
  name := "Apartment " ++ key
  entranceKey := "entrance_b"
  g301 := some ⟨slaveAddress, h⟩

def demoMappings : RoomRegistry where
  property := { key := "local_stay_razlog", name := "Local Stay Hotel & Suites" }
  entrances := [{
    key := "entrance_b", name := "Entrance B", gatewayHost := some "192.0.2.7", gatewayPort := some 502 }]
  rooms := [demoMapped "214" 7 (by omega), demoMapped "215" 8 (by omega)]

def demoEntranceWorker : G301EntranceWorker IntentPayload where
  entranceKey := "entrance_b"
  roomSlaveAddresses := [("214", 7), ("215", 8)]
  settings := {}
  zone := sofiaWinterTime
  fingerprint := id
  validSettings := WorkerSettings.default_error

theorem hvacState_off : hvacStateError false .off none = none := rfl

def demoOff (roomKey : String) : DesiredRoomIntent where
  roomKey := roomKey
  intentVersion := 1
  automationPhase := .vacant
  controlMode := .automatic
  effectiveFrom := .utc 0
  expiresAt := none
  hvac := ⟨false, .off, none, hvacState_off⟩
  waterHeater := ⟨false⟩
  convectors := ⟨false⟩
  reason := "vacant"
  correlationId := 1

def demoIdle : WorkerState (ℕ → ℤ) IntentPayload := .initial _ fun _ => 0

theorem demo_rooms_commute :
    (callRecord demoEntranceWorker demoTwoSlaves
        (callRecord demoEntranceWorker demoTwoSlaves demoIdle (demoOff "214")).after
        (demoOff "215")).after.intentStates =
      (callRecord demoEntranceWorker demoTwoSlaves
        (callRecord demoEntranceWorker demoTwoSlaves demoIdle (demoOff "215")).after
        (demoOff "214")).after.intentStates := by
  have hw : createWorker demoMappings "entrance_b" {} sofiaWinterTime id =
      .ok demoEntranceWorker := by
    with_unfolding_all rfl
  exact (rooms_of_an_entrance_commute hw demoTwoSlaves (fun _ => 0) [] rfl demoTwoSlaves_local (by decide)
    (by with_unfolding_all rfl) (by with_unfolding_all rfl)).2.2.1

end ClockOrchestrator
