import ClockOrchestrator.G301Adapter.UnfailingBus
import ClockOrchestrator.Guarantees.UnitsAlone

namespace ClockOrchestrator

open Python Procedure Emission G301RegisterSimulator

variable {T F : Type} {w : G301EntranceWorker F} {clock : T → Instant × T} {pause : T → ℚ → T}
  {winner intent : DesiredRoomIntent} {slaveAddress : ℕ} {plan : G301Plan}

section Units

variable {P Q : G301RegisterSimulator → Prop} {entrance : G301EntranceSimulator}

def HasUnit (entrance : G301EntranceSimulator) (slaveAddress : ℕ)
    (P : G301RegisterSimulator → Prop) : Prop :=
  ∃ unit, entrance.devices slaveAddress = some unit ∧ P unit

theorem HasUnit.operate {α : Type} {operation : EntranceOperation}
    {use : G301RegisterSimulator → Except ClientFailure α × G301RegisterSimulator}
    (h : HasUnit entrance slaveAddress P) (hslave : operation.2.1 = slaveAddress)
    (huse : ∀ unit, P unit → Q (use unit).2) :
    HasUnit (entrance.operate operation use).2 slaveAddress Q := by
  subst hslave
  obtain ⟨unit, hunit, hP⟩ := h
  rw [G301EntranceSimulator.operate_present hunit]
  exact ⟨(use unit).2, Function.update_self _ _ _, huse unit hP⟩

structure Serviceable (slaveAddress delay : ℕ) (unit : G301RegisterSimulator) : Prop where
  used : unit.Used
  address : unit.slaveAddress = slaveAddress
  delay : unit.statusDelayReads = delay

variable {unit : G301RegisterSimulator} {delay : ℕ}

theorem Serviceable.write (h : Serviceable slaveAddress delay unit) (address : ℕ) (value : ℤ) :
    Serviceable slaveAddress delay (unit.writeRegister slaveAddress address value).2 :=
  ⟨h.used.write _ _ _, writeRegister_slaveAddress.trans h.address,
    writeRegister_statusDelayReads.trans h.delay⟩

theorem Serviceable.read (h : Serviceable slaveAddress delay unit) (address count : ℕ) :
    Serviceable slaveAddress delay (unit.readHoldingRegisters slaveAddress address count).2 :=
  ⟨h.used.read _ _ _, readHoldingRegisters_slaveAddress.trans h.address,
    readHoldingRegisters_statusDelayReads.trans h.delay⟩

theorem Serviceable.write_answers (h : Serviceable slaveAddress delay unit) {address : ℕ} {value : ℤ}
    {failure : ClientFailure}
    (hfailure : (unit.writeRegister slaveAddress address value).1 = .error failure) :
    ∃ message, failure = .valueError message := by
  unfold writeRegister at hfailure
  rw [if_neg (not_not.mpr h.address.symm)] at hfailure
  split at hfailure
  · cases hfailure
    exact ⟨_, rfl⟩
  · cases hfailure

theorem Serviceable.read_answers (h : Serviceable slaveAddress delay unit) (address : ℕ)
    {count : ℕ} (hcount : 1 ≤ count) : ∃ values,
      (unit.readHoldingRegisters slaveAddress address count).1 = .ok values ∧
        values.length = count := by
  unfold readHoldingRegisters
  rw [if_neg (not_not.mpr h.address.symm), if_neg (not_lt.mpr hcount)]
  exact ⟨_, rfl, by simp⟩

theorem serviceable_unfailing (clock : T → Instant × T) (pause : T → ℚ → T) :
    Unfailing (entranceEnvironment clock pause)
      (fun e => HasUnit e.1 slaveAddress (Serviceable slaveAddress delay)) slaveAddress where
  write {e} hunit address value := by
    refine ⟨fun failure hfailure => ?_, hunit.operate rfl fun _ h => h.write address value⟩
    obtain ⟨unit, hdevice, hserviceable⟩ := hunit
    have hanswer : (e.1.writeRegister slaveAddress address value).1 =
        (unit.writeRegister slaveAddress address value).1 :=
      congrArg Prod.fst (G301EntranceSimulator.operate_present hdevice)
    exact hserviceable.write_answers (hanswer.symm.trans hfailure)
  read {e} hunit address count hcount := by
    refine ⟨?_, hunit.operate rfl fun _ h => h.read address count⟩
    obtain ⟨unit, hdevice, hserviceable⟩ := hunit
    have hanswer : (e.1.readHoldingRegisters slaveAddress address count).1 =
        (unit.readHoldingRegisters slaveAddress address count).1 :=
      congrArg Prod.fst (G301EntranceSimulator.operate_present hdevice)
    obtain ⟨values, hvalues, hlength⟩ := hserviceable.read_answers address hcount
    exact ⟨values, hanswer.trans hvalues, hlength⟩
  clock hunit := hunit
  sleep hunit _ := hunit

theorem entrance_local (clock : T → Instant × T) (pause : T → ℚ → T) :
    SlaveLocal (entranceEnvironment clock pause) fun slave e => e.1.devices slave where
  write_alike hview _ _ := G301EntranceSimulator.operate_alike hview
  write_elsewhere hne _ _ _ := G301EntranceSimulator.operate_elsewhere hne
  read_alike hview _ _ := G301EntranceSimulator.operate_alike hview
  read_elsewhere hne _ _ _ := G301EntranceSimulator.operate_elsewhere hne
  clock_elsewhere _ _ := rfl
  sleep_elsewhere _ _ _ := rfl
  sleep_alike _ _ _ := rfl

def Untouched (registers : ℕ → ℤ) (slaveAddress : ℕ) (notes : List Interaction)
    (unit : G301RegisterSimulator) : Prop :=
  unit.Used ∧ ∀ address, ¬ IsStatus address →
    (∀ value answer, Interaction.write slaveAddress address value answer ∉ notes) →
      unit.registers address = registers address

theorem untouched_answersAlike (clock : T → Instant × T) (pause : T → ℚ → T) (registers : ℕ → ℤ)
    (slaveAddress : ℕ) :
    AnswersAlike (entranceEnvironment clock pause) (entranceEnvironment clock pause)
      (fun e e' notes => e = e' ∧
        HasUnit e.1 slaveAddress (Untouched registers slaveAddress notes)) slaveAddress where
  write h address value := by
    obtain ⟨rfl, hunit⟩ := h
    refine ⟨rfl, rfl, hunit.operate rfl fun unit hunit => ⟨hunit.1.write _ _ _, ?_⟩⟩
    intro other hstatus hnotes
    rw [writeRegister_registers _ hstatus]
    · exact hunit.2 other hstatus fun value answer hmem => hnotes value answer (by simp [hmem])
    · rintro rfl
      exact hnotes _ _ (List.mem_append_right _ (List.mem_singleton_self _))
  read h address count := by
    obtain ⟨rfl, hunit⟩ := h
    refine ⟨rfl, rfl, hunit.operate rfl fun unit hunit => ⟨hunit.1.read _ _ _, ?_⟩⟩
    intro other hstatus hnotes
    rw [readHoldingRegisters_registers hunit.1.pendingLeft hstatus]
    exact hunit.2 other hstatus fun value answer hmem => hnotes value answer (by simp [hmem])
  clock h := by
    obtain ⟨rfl, unit, hdevice, hused, hkept⟩ := h
    refine ⟨rfl, rfl, unit, hdevice, hused, fun other hstatus hnotes => hkept other hstatus ?_⟩
    exact fun value answer hmem => hnotes value answer (by simp [hmem])
  sleep h seconds := by
    obtain ⟨rfl, hunit⟩ := h
    exact ⟨rfl, rfl, hunit⟩

end Units

def CommandRegister (address : ℕ) : Prop :=
  address = G301Register.power.address ∨ address = G301Register.mode.address ∨
    address = G301Register.setTemperature.address

instance (address : ℕ) : Decidable (CommandRegister address) := inferInstanceAs (Decidable (_ ∨ _))

theorem PlanOf.commanded (h : PlanOf intent slaveAddress plan) :
    ∀ write ∈ plan.writes, CommandRegister write.address := by
  obtain ⟨profile, hplan⟩ := h
  rcases planRoomIntent_cases hplan with ⟨-, rfl⟩ | ⟨mode, found, target, -, -, -, -, -, rfl⟩
  · simp [planOfWrites, CommandRegister]
  · simp [planOfWrites, CommandRegister]

def deliver {E : Type} [DecidableEq F] (w : G301EntranceWorker F) (env : G301Environment E)
    (s : WorkerState E F) (deliveries : List DesiredRoomIntent) : WorkerState E F :=
  deliveries.foldl (fun s intent => (callRecord w env s intent).after) s

section Calls

variable [DecidableEq F] {s : WorkerState (G301EntranceSimulator × T) F} {registers : ℕ → ℤ}

theorem call_plans {E V : Type} {env : G301Environment E} {view : ℕ → E → V} {s : WorkerState E F}
    (hlocal : SlaveLocal env view) (hplans : PlansAddressed w s) :
    PlansAddressed w (callRecord w env s intent).after := by
  intro roomKey slave hslave
  by_cases hroom : roomKey = intent.roomKey
  · subst hroom
    have hagree : AgreeOn view intent.roomKey slave s.atRest s.atRest :=
      ⟨rfl, rfl, rfl, rfl, hplans hslave⟩
    exact ((applyIntent_keeps hlocal w hslave).alone hagree
      (callRecord_ends w env s intent)).1.addressed
  · rw [(call_frame hlocal hplans intent).rooms _ hroom]
    exact hplans hslave

omit [DecidableEq F] in
theorem sound_given {E : Type} {s : WorkerState E F}
    (hslave : w.roomSlaveAddresses.lookup intent.roomKey = some slaveAddress)
    (hsound : (s.room intent.roomKey).Sound w slaveAddress fun _ => True) :
    ∀ slave, w.roomSlaveAddresses.lookup intent.roomKey = some slave →
      (s.room intent.roomKey).Sound w slave fun _ => True := by
  intro slave hslave'
  cases hslave.symm.trans hslave'
  exact hsound

theorem call_commands {E : Type} {env : G301Environment E} {s : WorkerState E F}
    (heffect : CallEffect w intent s.atRest (callRecord w env s intent).after
      (callRecord w env s intent).result) {address : ℕ} {value : ℤ}
    {answer : Except ClientFailure Unit}
    (hwrite : .write slaveAddress address value answer ∈ (callRecord w env s intent).interactions) :
    CommandRegister address := by
  rcases heffect.cases with ⟨-, hmoments, -⟩ | ⟨slave, p, q, -, hopens, htakes, -⟩
  · rw [CallRecord.interactions, hmoments] at hwrite
    cases hwrite
  · obtain ⟨labels, hpath, -, hlabels⟩ := htakes.interactions rfl
    rw [CallRecord.interactions, hlabels] at hwrite
    obtain ⟨l, hl, hnote⟩ := List.mem_map.mp hwrite
    have hiswrite : l.1.isWrite = true := by
      rw [hnote]
      rfl
    rcases path_writes hpath hopens.stage with ⟨-, hquiet⟩ | ⟨plan, hplan, -, hwritten⟩
    · rw [hquiet l hl] at hiswrite
      cases hiswrite
    · obtain ⟨-, write, answer', hmem, hown⟩ := hwritten l hl hiswrite
      obtain ⟨-, rfl, -, -⟩ := Interaction.write.inj (hnote.symm.trans hown)
      exact hplan.commanded write hmem

structure Awaits (w : G301EntranceWorker F) (winner : DesiredRoomIntent) (slaveAddress delay : ℕ)
    (registers : ℕ → ℤ) (failures : Option SlaveFailureState)
    (s : WorkerState (G301EntranceSimulator × T) F) : Prop where
  plans : PlansAddressed w s
  sound : (s.room winner.roomKey).Sound w slaveAddress fun _ => True
  older : ∀ seen, (s.room winner.roomKey).lastSeenVersion = some seen → seen < winner.intentVersion
  failures : s.slaveFailures slaveAddress = failures ∨ s.slaveFailures slaveAddress = none
  unit : HasUnit s.env.1 slaveAddress (Serviceable slaveAddress delay)
  kept : HasUnit s.env.1 slaveAddress fun unit =>
    ∀ address, ¬ IsStatus address → ¬ CommandRegister address →
      unit.registers address = registers address

structure Prevails (w : G301EntranceWorker F) (winner : DesiredRoomIntent) (slaveAddress : ℕ)
    (plan : G301Plan) (s : WorkerState (G301EntranceSimulator × T) F) : Prop where
  plans : PlansAddressed w s
  sound : (s.room winner.roomKey).Sound w slaveAddress fun _ => True
  done : ∃ a, (s.room winner.roomKey).currentAttempt = some a ∧ a.MadeFrom w winner ∧
    a.phase = .terminal
  applied : (s.room winner.roomKey).lastAppliedVersion = some winner.intentVersion
  steady : HasUnit s.env.1 slaveAddress fun unit => ∀ write ∈ plan.writes,
    Steady write.value (unit.cell write.address) ∧
      Steady write.value (unit.cell (readbackExpectation write).address)

variable {delay : ℕ} {failures : Option SlaveFailureState}

section Deliveries

variable (clock : T → Instant × T) (pause : T → ℚ → T)

section Elsewhere

variable (hgiven : ∀ {roomKey}, w.roomSlaveAddresses.lookup roomKey = some slaveAddress →
    roomKey = winner.roomKey)
  (hroom : intent.roomKey ≠ winner.roomKey)
include hgiven hroom

theorem frame_elsewhere (hplans : PlansAddressed w s) :
    (callRecord w (entranceEnvironment clock pause) s intent).after.intentStates winner.roomKey =
        s.intentStates winner.roomKey ∧
      (callRecord w (entranceEnvironment clock pause) s intent).after.slaveFailures slaveAddress =
        s.slaveFailures slaveAddress ∧
      (callRecord w (entranceEnvironment clock pause) s intent).after.env.1.devices slaveAddress =
        s.env.1.devices slaveAddress := by
  have hframe := call_frame (entrance_local clock pause) hplans intent
  have hother : w.roomSlaveAddresses.lookup intent.roomKey ≠ some slaveAddress :=
    fun h => hroom (hgiven h)
  exact ⟨hframe.rooms _ hroom.symm, hframe.failures _ hother, hframe.views _ hother⟩

theorem Awaits.elsewhere (h : Awaits w winner slaveAddress delay registers failures s) :
    Awaits w winner slaveAddress delay registers failures
      (callRecord w (entranceEnvironment clock pause) s intent).after := by
  obtain ⟨hstates, hfailures, hdevices⟩ :=
    frame_elsewhere clock pause hgiven hroom h.plans
  have hsame : (callRecord w (entranceEnvironment clock pause) s intent).after.room
      winner.roomKey = s.room winner.roomKey := congrArg (·.getD (.empty F)) hstates
  refine ⟨call_plans (entrance_local clock pause) h.plans, ?_, ?_, ?_, ?_, ?_⟩
  · rw [hsame]
    exact h.sound
  · rw [hsame]
    exact h.older
  · rw [hfailures]
    exact h.failures
  · unfold HasUnit
    rw [hdevices]
    exact h.unit
  · unfold HasUnit
    rw [hdevices]
    exact h.kept

theorem Prevails.elsewhere (h : Prevails w winner slaveAddress plan s) :
    Prevails w winner slaveAddress plan
      (callRecord w (entranceEnvironment clock pause) s intent).after := by
  obtain ⟨hstates, -, hdevices⟩ :=
    frame_elsewhere clock pause hgiven hroom h.plans
  have hsame : (callRecord w (entranceEnvironment clock pause) s intent).after.room
      winner.roomKey = s.room winner.roomKey := congrArg (·.getD (.empty F)) hstates
  refine ⟨call_plans (entrance_local clock pause) h.plans, ?_, ?_, ?_, ?_⟩
  · rw [hsame]
    exact h.sound
  · rw [hsame]
    exact h.done
  · rw [hsame]
    exact h.applied
  · unfold HasUnit
    rw [hdevices]
    exact h.steady

end Elsewhere

omit [DecidableEq F] in
theorem CallEffect.sound {E : Type} {s t : WorkerState E F}
    {r : Except AdapterError IntentExecutionResult} (h : CallEffect w intent s t r)
    (hslave : w.roomSlaveAddresses.lookup intent.roomKey = some slaveAddress)
    (hsound : (s.room intent.roomKey).Sound w slaveAddress fun _ => True) :
    (t.room intent.roomKey).Sound w slaveAddress (fun _ => True) ∧
      (t.room intent.roomKey = s.room intent.roomKey ∨
        (t.room intent.roomKey).lastSeenVersion = some intent.intentVersion) := by
  rcases h.cases with ⟨hsame, -⟩ | ⟨_, p, q, hslave', hopens, htakes, -⟩
  · rw [hsame]
    exact ⟨hsound, .inl rfl⟩
  · cases hslave.symm.trans hslave'
    obtain ⟨labels, hpath, -⟩ := htakes.path
    obtain ⟨hq, a, ha, hmade, -⟩ := path_fits trivial hpath (hopens.fits hsound)
    rw [htakes.holds.eq_room]
    exact ⟨hq, .inr ((hq.seen_eq ha).trans (congrArg some hmade.version))⟩

theorem HasUnit.and {entrance : G301EntranceSimulator} {P Q : G301RegisterSimulator → Prop}
    (h : HasUnit entrance slaveAddress P) (h' : HasUnit entrance slaveAddress Q) :
    HasUnit entrance slaveAddress fun unit => P unit ∧ Q unit := by
  obtain ⟨unit, hunit, hP⟩ := h
  obtain ⟨unit', hunit', hQ⟩ := h'
  cases hunit.symm.trans hunit'
  exact ⟨unit, hunit, hP, hQ⟩

theorem Awaits.older_call (h : Awaits w winner slaveAddress delay registers failures s)
    (hslave : w.roomSlaveAddresses.lookup winner.roomKey = some slaveAddress)
    (hroom : intent.roomKey = winner.roomKey) (hversion : intent.intentVersion < winner.intentVersion) :
    Awaits w winner slaveAddress delay registers failures
      (callRecord w (entranceEnvironment clock pause) s intent).after := by
  rw [← hroom] at hslave
  have hsound : (s.room intent.roomKey).Sound w slaveAddress fun _ => True := by
    rw [hroom]
    exact h.sound
  have heffect := applyIntent_effect w (entranceEnvironment clock pause) (s := s.atRest)
    (sound_given hslave hsound) (callRecord_ends w (entranceEnvironment clock pause) s intent)
  have hstart : (unfailing F (fun e : G301EntranceSimulator × T =>
      HasUnit e.1 slaveAddress (Serviceable slaveAddress delay)) slaveAddress intent.roomKey).holds
      s.atRest := ⟨h.unit, h.plans hslave⟩
  obtain ⟨⟨hunit, -⟩, hfailures, -, -⟩ := applyIntent_serves (serviceable_unfailing clock pause) w
    hslave hstart (callRecord_ends w (entranceEnvironment clock pause) s intent)
  obtain ⟨hafter, hseen⟩ := heffect.sound hslave hsound
  obtain ⟨unit, hdevice, hserviceable, hkept⟩ := h.unit.and h.kept
  obtain ⟨-, -, after, hdevice', -, huntouched⟩ := call_alike
    (untouched_answersAlike clock pause unit.registers slaveAddress) hslave
    (s := s) (t := s) ⟨⟨rfl, unit, hdevice, hserviceable.used, fun _ _ _ => rfl⟩, rfl, rfl, rfl,
      h.plans hslave⟩
  refine ⟨call_plans (entrance_local clock pause) h.plans, ?_, fun seen hlast => ?_, ?_, hunit, after,
    hdevice', ?_⟩
  · rw [← hroom]
    exact hafter
  · rw [← hroom] at hlast
    rcases hseen with hsame | hown
    · rw [hsame, atRest_room, hroom] at hlast
      exact h.older seen hlast
    · cases hown.symm.trans hlast
      exact hversion
  · rcases hfailures with hsame | hcleared
    · rw [hsame]
      exact h.failures
    · rw [hcleared, Function.update_self]
      exact .inr rfl
  · intro address hstatus hcommanded
    rw [huntouched address hstatus fun value answer hwrite =>
      hcommanded (call_commands heffect hwrite)]
    exact hkept address hstatus hcommanded

def InForce (w : G301EntranceWorker F) (intent : DesiredRoomIntent) (reading : Instant) : Prop :=
  ¬ ExpiredAt w intent reading ∧ (intent.effectiveFrom.instant w.zone : ℚ) ≤
    reading + w.settings.validityClockSkewSeconds * secondMicros

def Elapsed (failures : Option SlaveFailureState) (reading : Instant) : Prop :=
  ∀ state limit, failures = some state → state.retryAfter = some limit → limit ≤ reading

omit [DecidableEq F] in
theorem cooldown_elapsed {E : Type} {s : WorkerState E F} {reading : Instant}
    (h : Elapsed (s.slaveFailures slaveAddress) reading) : cooldown s slaveAddress reading = none := by
  unfold cooldown slaveFailureState
  cases hstate : s.slaveFailures slaveAddress with
  | none => rfl
  | some state =>
      cases hretry : state.retryAfter with
      | none => simp [hretry]
      | some limit =>
          have hle := h state limit hstate hretry
          simp [hretry, hle]

structure Plannable (registers : ℕ → ℤ) (intent : DesiredRoomIntent) (slaveAddress : ℕ)
    (plan : G301Plan) (profile : G301DeviceProfile) : Prop where
  limits : buildDeviceProfile (registers G301Register.capabilities.address)
    (registers G301Register.modeLimitation.address)
    (registers G301Register.temperatureUpperLimit.address)
    (registers G301Register.temperatureLowerLimit.address) = .ok profile
  plan : planRoomIntent intent slaveAddress (some profile) = .ok plan

theorem fresh_call_settles {s : SimulatorState T F} {profile : G301DeviceProfile}
    (hused : s.env.1.Used)
    (hslave : w.roomSlaveAddresses.lookup winner.roomKey = some s.env.1.slaveAddress)
    (hsound : (s.room winner.roomKey).Sound w s.env.1.slaveAddress fun _ => True)
    (holder : ∀ seen, (s.room winner.roomKey).lastSeenVersion = some seen →
      seen < winner.intentVersion)
    (hforce : InForce w winner (clock s.env.2).1)
    (helapsed : Elapsed (s.slaveFailures s.env.1.slaveAddress) (clock s.env.2).1)
    (hplannable : Plannable s.env.1.registers winner s.env.1.slaveAddress plan profile)
    {r : Except AdapterError IntentExecutionResult} {t : SimulatorState T F}
    (hends : Ends (applyIntent w (simulatorEnvironment clock pause) winner) s.atRest r t) :
    ∃ result, r = .ok result ∧ Settles w s.env.1 plan t result := by
  have hheld := entered_holds s.atRest winner.roomKey
  have hstale : ∀ {a : IntentAttempt F}, (s.room winner.roomKey).currentAttempt = some a →
      a.MadeFrom w winner → False := by
    intro a ha hmade
    have hlt := holder a.version (hsound.seen_eq ha)
    rw [hmade.version] at hlt
    exact lt_irrefl _ hlt
  cases applyIntent_path w (simulatorEnvironment clock pause) (s := s.atRest)
    (sound_given hslave hsound) hends with
  | skipped hnone => cases hnone.symm.trans hslave
  | refused _ _ hseen _ =>
      obtain ⟨seen, hlast, hle⟩ := some_le_iff.mp hseen
      exact absurd (holder seen hlast) (not_lt.mpr hle)
  | replayed _ ha hmade _ _ _ => exact absurd hmade fun hmade => hstale ha hmade
  | retried _ ha hmade _ _ => exact absurd hmade fun hmade => hstale ha hmade
  | resumed _ ha hmade _ _ => exact absurd hmade fun hmade => hstale ha hmade
  | registered hslave' _ hrest =>
      cases hslave.symm.trans hslave'
      obtain ⟨n, hregister, henv, hfailures, hstates⟩ := modifyRoom_ok
        (s := s.atRest.entered winner.roomKey) winner.roomKey
        (·.register winner.intentVersion (intentFingerprint w winner))
      have hsame : n.env = s.env := henv
      have hregistered : Holds winner.roomKey s.atRest.intentStates n
          (((s.room winner.roomKey).register winner.intentVersion
            (intentFingerprint w winner)).holding
            ⟨winner.intentVersion, intentFingerprint w winner, .retryable, none, [], none⟩) :=
        hheld.modified hstates
      rw [ends_bind_ok hregister] at hrest
      have hexecute := (ends_bind_ok (currentAttempt_ok hregistered)).mp hrest
      obtain ⟨t, result, hexecuted, hsettles⟩ := executeIntent_ok w clock pause (s := n)
        (hsame ▸ hused) (hsame ▸ hforce.1) (hsame ▸ hforce.2)
        (cooldown_elapsed (by rw [hfailures, hsame]; exact helapsed))
        (hsame ▸ hplannable.limits) (hsame ▸ hplannable.plan) hregistered
      rw [hsame] at hexecuted hsettles
      obtain ⟨hresult, hafter⟩ := Prod.mk.inj (hexecute.symm.trans hexecuted)
      exact ⟨result, hresult, hafter ▸ hsettles⟩

theorem Awaits.winner_call (h : Awaits w winner slaveAddress delay registers failures s)
    (hslave : w.roomSlaveAddresses.lookup winner.roomKey = some slaveAddress)
    (hdelay : delay < w.settings.readbackAttempts) {profile : G301DeviceProfile}
    (hplannable : Plannable registers winner slaveAddress plan profile)
    (hforce : InForce w winner (clock s.env.2).1) (helapsed : Elapsed failures (clock s.env.2).1) :
    Prevails w winner slaveAddress plan
      (callRecord w (entranceEnvironment clock pause) s winner).after := by
  obtain ⟨unit, hdevice, ⟨hused, rfl, rfl⟩, hkept⟩ := h.unit.and h.kept
  have hsound := sound_given (s := s.atRest) hslave h.sound
  have heffect := applyIntent_effect w (entranceEnvironment clock pause) hsound
    (callRecord_ends w (entranceEnvironment clock pause) s winner)
  obtain ⟨hsame, hattached⟩ := call_alone clock pause hslave (h.plans hslave) hdevice
  have hkeeps : ∀ address, ¬ IsStatus address → ¬ CommandRegister address →
      unit.registers address = registers address := hkept
  have hplannable' : Plannable unit.registers winner unit.slaveAddress plan profile := by
    refine ⟨?_, hplannable.plan⟩
    rw [hkeeps _ (by decide) (by decide), hkeeps _ (by decide) (by decide),
      hkeeps _ (by decide) (by decide), hkeeps _ (by decide) (by decide)]
    exact hplannable.limits
  have hready : Elapsed (s.slaveFailures unit.slaveAddress) (clock s.env.2).1 := by
    rcases h.failures with hfailures | hcleared
    · rw [hfailures]
      exact helapsed
    · rw [hcleared]
      exact nofun
  obtain ⟨result, hresult, hsettles⟩ := fresh_call_settles clock pause (s := alone s unit) hused
    hslave h.sound
    h.older hforce hready hplannable'
    (callRecord_ends w (simulatorEnvironment clock pause) (alone s unit) winner)
  have happlied : result.status = .applied := hsettles.applied_iff.mpr fun e _ => by
    unfold delayOf
    split
    · exact .inl hdelay
    · exact .inl w.attemptsPositive.2
  have hown : (callRecord w (entranceEnvironment clock pause) s winner).result = .ok result :=
    hsame.result.trans hresult
  refine ⟨call_plans (entrance_local clock pause) h.plans, (heffect.sound hslave h.sound).1, ?_,
    heffect.applied_eq hsound trivial hown happlied, _, ?_,
    hsettles.steady happlied⟩
  · rcases heffect.cases with ⟨hkept, -, _, hr, hreplayed⟩ | ⟨_, p, q, hslave', hopens, htakes, hreports⟩
    · cases hown.symm.trans hr
      obtain ⟨a, _, ha, hmade, hphase, -⟩ := hreplayed happlied
      exact ⟨a, by rw [hkept]; exact ha, hmade, hphase⟩
    · cases hslave.symm.trans hslave'
      obtain ⟨labels, hpath, -⟩ := htakes.path
      obtain ⟨-, a, ha, hmade, hshows⟩ := path_fits trivial hpath (hopens.fits h.sound)
      refine ⟨a, by rw [htakes.holds.eq_room]; exact ha, hmade, ?_⟩
      exact hshows.terminal (.inl ((hreports.applied_iff result hown).mp happlied))
  · rw [hattached.devices, Function.update_self]

theorem Prevails.idle {E : Type} {env : G301Environment E} {s t : WorkerState E F}
    {r : Except AdapterError IntentExecutionResult} {a : IntentAttempt F}
    (hslave : w.roomSlaveAddresses.lookup intent.roomKey = some slaveAddress)
    (hsound : (s.room intent.roomKey).Sound w slaveAddress fun _ => True)
    (ha : (s.room intent.roomKey).currentAttempt = some a) (hphase : a.phase = .terminal)
    (hversion : intent.intentVersion ≤ a.version) (h : Ends (applyIntent w env intent) s r t) :
    t = s.entered intent.roomKey := by
  cases applyIntent_path w env (sound_given hslave hsound) h with
  | skipped hnone => cases hnone.symm.trans hslave
  | refused _ _ _ ht => exact ht
  | replayed _ _ _ _ _ ht => exact ht
  | registered _ hnew _ => exact absurd (hnew _ (hsound.seen_eq ha)) (not_lt.mpr hversion)
  | retried _ ha' _ hphase' _ =>
      cases ha.symm.trans ha'
      cases hphase.symm.trans hphase'
  | resumed _ ha' _ hphase' _ =>
      cases ha.symm.trans ha'
      simp [hphase] at hphase'

theorem Prevails.later_call (h : Prevails w winner slaveAddress plan s)
    (hslave : w.roomSlaveAddresses.lookup winner.roomKey = some slaveAddress)
    (hroom : intent.roomKey = winner.roomKey)
    (hversion : intent.intentVersion ≤ winner.intentVersion) :
    Prevails w winner slaveAddress plan
      (callRecord w (entranceEnvironment clock pause) s intent).after := by
  obtain ⟨a, ha, hmade, hphase⟩ := h.done
  have hafter : (callRecord w (entranceEnvironment clock pause) s intent).after =
      s.atRest.entered intent.roomKey := by
    refine Prevails.idle (s := s.atRest) (a := a) (hroom ▸ hslave) ?_ ?_ hphase ?_
      (callRecord_ends w (entranceEnvironment clock pause) s intent)
    · rw [hroom]
      exact h.sound
    · rw [hroom]
      exact ha
    · rw [hmade.version]
      exact hversion
  have hkept : (callRecord w (entranceEnvironment clock pause) s intent).after.room
      winner.roomKey = s.room winner.roomKey := by
    rw [hafter, ← hroom]
    exact (entered_holds s.atRest intent.roomKey).eq_room
  refine ⟨call_plans (entrance_local clock pause) h.plans, ?_, ?_, ?_, ?_⟩
  · rw [hkept]
    exact h.sound
  · rw [hkept]
    exact h.done
  · rw [hkept]
    exact h.applied
  · rw [hafter]
    exact h.steady

section Runs

variable (hslave : w.roomSlaveAddresses.lookup winner.roomKey = some slaveAddress)
  (hgiven : ∀ {roomKey}, w.roomSlaveAddresses.lookup roomKey = some slaveAddress →
    roomKey = winner.roomKey)
include hslave hgiven

theorem Awaits.run (h : Awaits w winner slaveAddress delay registers failures s)
    {deliveries : List DesiredRoomIntent} (holder : ∀ intent ∈ deliveries,
      intent.roomKey = winner.roomKey → intent.intentVersion < winner.intentVersion) :
    Awaits w winner slaveAddress delay registers failures
      (deliver w (entranceEnvironment clock pause) s deliveries) := by
  induction deliveries generalizing s with
  | nil => exact h
  | cons intent rest ih =>
      refine ih ?_ fun later hlater => holder later (by simp [hlater])
      by_cases hroom : intent.roomKey = winner.roomKey
      · exact h.older_call clock pause hslave hroom (holder intent (by simp) hroom)
      · exact h.elsewhere clock pause hgiven hroom

theorem Prevails.run (h : Prevails w winner slaveAddress plan s)
    {deliveries : List DesiredRoomIntent} (holder : ∀ intent ∈ deliveries,
      intent.roomKey = winner.roomKey → intent.intentVersion ≤ winner.intentVersion) :
    Prevails w winner slaveAddress plan
      (deliver w (entranceEnvironment clock pause) s deliveries) := by
  induction deliveries generalizing s with
  | nil => exact h
  | cons intent rest ih =>
      refine ih ?_ fun later hlater => holder later (by simp [hlater])
      by_cases hroom : intent.roomKey = winner.roomKey
      · exact h.later_call clock pause hslave hroom (holder intent (by simp) hroom)
      · exact h.elsewhere clock pause hgiven hroom

end Runs

variable {registry : RoomRegistry} {entranceKey : String} {settings : WorkerSettings} {zone : Zone}
  {fingerprint : IntentPayload → F}

theorem newest_intent_prevails {E : Type}
    (hw : createWorker registry entranceKey settings zone fingerprint = .ok w)
    (before : G301Environment E) (e : E) (earlier : List DesiredRoomIntent)
    (hs : s.intentStates = (history w before e earlier).state.intentStates)
    {unit : G301RegisterSimulator} {profile : G301DeviceProfile} {deliveries : List DesiredRoomIntent}
    (hslave : w.roomSlaveAddresses.lookup winner.roomKey = some slaveAddress)
    (hunit : s.env.1.devices slaveAddress = some unit)
    (hserviceable : Serviceable slaveAddress delay unit) (hdelay : delay < w.settings.readbackAttempts)
    (hplannable : Plannable unit.registers winner slaveAddress plan profile)
    (hunseen : ∀ seen, (s.room winner.roomKey).lastSeenVersion = some seen →
      seen < winner.intentVersion)
    (hdelivered : winner ∈ deliveries)
    (hnewest : ∀ intent ∈ deliveries, intent.roomKey = winner.roomKey →
      intent = winner ∨ intent.intentVersion < winner.intentVersion)
    (hready : ∀ sooner later, deliveries = sooner ++ winner :: later → winner ∉ sooner →
      InForce w winner (clock (deliver w (entranceEnvironment clock pause) s sooner).env.2).1 ∧
        Elapsed (s.slaveFailures slaveAddress)
          (clock (deliver w (entranceEnvironment clock pause) s sooner).env.2).1) :
    ((deliver w (entranceEnvironment clock pause) s deliveries).room
        winner.roomKey).lastAppliedVersion = some winner.intentVersion ∧
      ∃ after, (deliver w (entranceEnvironment clock pause) s deliveries).env.1.devices slaveAddress =
          some after ∧
        ∀ reads, ∀ write ∈ plan.writes,
          (after.afterReads reads).registers write.address = write.value ∧
            (after.afterReads reads).registers (readbackExpectation write).address = write.value := by
  have hgiven : ∀ {roomKey}, w.roomSlaveAddresses.lookup roomKey = some slaveAddress →
      roomKey = winner.roomKey := by
    intro roomKey hother
    rw [createWorker_addresses hw] at hother hslave
    exact (lookup_given hother).unique (lookup_given hslave)
  have hroom : s.room winner.roomKey =
      (history w before e earlier).state.room winner.roomKey := by
    unfold WorkerState.room
    rw [hs]
  have hawaits :
      Awaits w winner slaveAddress delay unit.registers (s.slaveFailures slaveAddress) s := by
    refine ⟨?_, ?_, hunseen, .inl rfl, ⟨unit, hunit, hserviceable⟩,
      ⟨unit, hunit, fun _ _ _ => rfl⟩⟩
    · intro roomKey slave hslave'
      rw [hs]
      exact history_addressed w before e earlier hslave'
    · have hconsistent : Consistent w (history w before e earlier) := history_consistent
      rw [hroom]
      exact (hconsistent.sound _ _ hslave).mono fun _ _ => trivial
  obtain ⟨sooner, later, hsplit, hfirst⟩ := List.eq_append_cons_of_mem hdelivered
  obtain ⟨hforce, helapsed⟩ := hready sooner later hsplit hfirst
  have holder : ∀ intent ∈ sooner, intent.roomKey = winner.roomKey →
      intent.intentVersion < winner.intentVersion := by
    intro intent hintent hsame
    refine (hnewest intent (by simp [hsplit, hintent]) hsame).resolve_left ?_
    rintro rfl
    exact hfirst hintent
  have hlater : ∀ intent ∈ later, intent.roomKey = winner.roomKey →
      intent.intentVersion ≤ winner.intentVersion := by
    intro intent hintent hsame
    rcases hnewest intent (by simp [hsplit, hintent]) hsame with rfl | hlt
    · exact le_rfl
    · exact hlt.le
  have hprevails := ((hawaits.run clock pause hslave hgiven holder).winner_call clock pause hslave
    hdelay hplannable hforce helapsed).run clock pause hslave hgiven hlater
  have hend : deliver w (entranceEnvironment clock pause) s deliveries =
      deliver w (entranceEnvironment clock pause)
        (callRecord w (entranceEnvironment clock pause)
          (deliver w (entranceEnvironment clock pause) s sooner) winner).after later := by
    unfold deliver
    rw [hsplit, List.foldl_append, List.foldl_cons]
  rw [hend]
  obtain ⟨after, hafter, hsteady⟩ := hprevails.steady
  refine ⟨hprevails.applied, after, hafter, fun reads write hwrite => ?_⟩
  obtain ⟨hcommand, hstatus⟩ := hsteady write hwrite
  exact ⟨(hcommand.afterReads reads).1, (hstatus.afterReads reads).1⟩

end Deliveries

end Calls

def demoSlowUnits : G301EntranceSimulator := .create fun slaveAddress =>
  if slaveAddress = 7 ∨ slaveAddress = 8 then some ⟨slaveAddress, 1, defaultRegisters, fun _ => none⟩
  else none

def demoNewest : DesiredRoomIntent := { demoHeat with intentVersion := 2 }

def demoNewestPlan : G301Plan := planOfWrites demoNewest 7
  [⟨G301Register.mode.address, 4, "desired HVAC mode is heat"⟩,
    ⟨G301Register.setTemperature.address, 215, "desired HVAC target temperature"⟩,
    ⟨G301Register.power.address, 1, "desired HVAC is enabled"⟩]

def demoDelivered : WorkerState (G301EntranceSimulator × Unit) IntentPayload :=
  deliver demoEntranceWorker (entranceEnvironment (fun _ => (0, ())) fun _ _ => ())
    (.initial _ (demoSlowUnits, ())) [demoOff "215", demoNewest, demoOff "214", demoNewest]

theorem late_delivery_changes_nothing : ∃ after, demoDelivered.env.1.devices 7 = some after ∧
    after.registers G301Register.powerStatus.address = 1 := by
  have hw : createWorker demoMappings "entrance_b" {} sofiaWinterTime id =
      .ok demoEntranceWorker := by
    with_unfolding_all rfl
  have hplannable : Plannable defaultRegisters demoNewest 7 demoNewestPlan
      ⟨parseCapabilities 0, .none, 16, 31⟩ := ⟨rfl, by decide +kernel⟩
  have hunit : Serviceable 7 1 ⟨7, 1, defaultRegisters, fun _ => none⟩ :=
    ⟨@Used.created 7 [] 1 _ (by simp [create]), rfl, rfl⟩
  have hdelivered : demoNewest ∈ [demoOff "215", demoNewest, demoOff "214", demoNewest] := by simp
  have hvalid : ¬ ExpiredAt demoEntranceWorker demoNewest 0 := by
    rintro ⟨_, hexpires, -⟩
    cases hexpires
  obtain ⟨-, after, hafter, hshows⟩ := newest_intent_prevails (fun _ => (0, ())) (fun _ _ => ())
    (s := .initial _ (demoSlowUnits, ())) hw demoTwoSlaves (fun _ => 0) [] rfl rfl rfl hunit
    (by decide) hplannable (fun seen hseen => by cases hseen) hdelivered (by decide +kernel)
    fun _ _ _ _ => ⟨⟨hvalid, by decide +kernel⟩, fun state limit hstate => by cases hstate⟩
  refine ⟨after, hafter, ?_⟩
  exact (hshows [] ⟨G301Register.power.address, 1, "desired HVAC is enabled"⟩ (by decide)).2

end ClockOrchestrator
