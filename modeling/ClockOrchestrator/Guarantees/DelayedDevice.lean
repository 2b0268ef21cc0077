import ClockOrchestrator.G301Adapter.CallEndings
import ClockOrchestrator.G301Adapter.Simulator
import ClockOrchestrator.Guarantees.SwitchOn

namespace ClockOrchestrator

open Python Procedure G301RegisterSimulator

variable {T F α : Type}

-- A worker whose client is the simulated device: nothing fails, and what the clock shows and how
-- long a sleep takes is the affair of the rest of the world.
def simulatorEnvironment (clock : T → Instant × T) (pause : T → ℚ → T) :
    G301Environment (G301RegisterSimulator × T) where
  writeRegister := fun e slaveAddress address value =>
    ((e.1.writeRegister slaveAddress address value).1,
      ((e.1.writeRegister slaveAddress address value).2, e.2))
  readHoldingRegisters := fun e slaveAddress address count =>
    ((e.1.readHoldingRegisters slaveAddress address count).1,
      ((e.1.readHoldingRegisters slaveAddress address count).2, e.2))
  clock := fun e => ((clock e.2).1, (e.1, (clock e.2).2))
  sleep := fun e seconds => (false, (e.1, pause e.2 seconds))

abbrev SimulatorState (T F : Type) := WorkerState (G301RegisterSimulator × T) F

variable {s t m : SimulatorState T F} {device device' : G301RegisterSimulator} {address : ℕ}

structure Leaves (s t : SimulatorState T F) (device : G301RegisterSimulator) : Prop where
  device : t.env.1 = device
  states : t.intentStates = s.intentStates

theorem Leaves.trans (h : Leaves s m device) (h' : Leaves m t device') : Leaves s t device' :=
  ⟨h'.device, h'.states.trans h.states⟩

variable (w : G301EntranceWorker F) (clock : T → Instant × T) (pause : T → ℚ → T)

theorem withRetry_ok {E : Type} {env : G301Environment E} {s t : WorkerState E F}
    {operation : WorkerM E F (Except ClientFailure α)} {value : α}
    (h : Ends operation s (.ok (.ok value)) t) :
    Ends (withRetry w env operation) s (.ok value) t := by
  obtain ⟨left, hleft⟩ := Nat.exists_eq_succ_of_ne_zero
    (Nat.one_le_iff_ne_zero.mp w.attemptsPositive.1)
  rw [withRetry, hleft, withRetryFrom]
  exact (ends_bind_ok h).mpr (ends_pure.mpr ⟨rfl, rfl⟩)

variable (address) in
theorem clientRead_ok {count : ℕ} (hcount : 1 ≤ count) :
    ∃ t, Ends (clientRead (simulatorEnvironment clock pause) s.env.1.slaveAddress address count) s
        (.ok (.ok ((List.range' address count).map s.env.1.registers))) t ∧
      Leaves s t (s.env.1.advancePendingStatus address count) := by
  have hread : s.env.1.readHoldingRegisters s.env.1.slaveAddress address count =
      (.ok ((List.range' address count).map s.env.1.registers),
        s.env.1.advancePendingStatus address count) := by
    rw [readHoldingRegisters, if_neg (not_not.mpr rfl), if_neg (not_lt.mpr hcount)]
  refine ⟨_, Prod.ext ?_ rfl, ?_, rfl⟩
  · change Except.ok (s.env.1.readHoldingRegisters _ address count).1 = _
    rw [hread]
  · change (s.env.1.readHoldingRegisters _ address count).2 = _
    rw [hread]

variable (address) in
theorem readOne_ok :
    ∃ t, Ends (readOne w (simulatorEnvironment clock pause) s.env.1.slaveAddress address) s
        (.ok (s.env.1.registers address)) t ∧ Leaves s t (s.env.1.advanceStatus address) := by
  obtain ⟨t, hread, hleaves⟩ := clientRead_ok address clock pause (s := s) le_rfl
  refine ⟨t, ?_, hleaves⟩
  rw [readOne, ends_bind_ok (withRetry_ok w hread)]
  exact ends_pure.mpr ⟨rfl, rfl⟩

theorem readDeviceProfile_ok (hleft : s.env.1.PendingLeft) {profile : G301DeviceProfile}
    (hprofile : buildDeviceProfile (s.env.1.registers G301Register.capabilities.address)
      (s.env.1.registers G301Register.modeLimitation.address)
      (s.env.1.registers G301Register.temperatureUpperLimit.address)
      (s.env.1.registers G301Register.temperatureLowerLimit.address) = .ok profile) :
    ∃ t, Ends (readDeviceProfile w (simulatorEnvironment clock pause) s.env.1.slaveAddress) s
        (.ok profile) t ∧ Leaves s t s.env.1 := by
  obtain ⟨m, hcapabilities, hm⟩ :=
    readOne_ok G301Register.capabilities.address w clock pause (s := s)
  rw [advanceStatus_settled (hleft.settled (by decide))] at hm
  obtain ⟨t, hlimits, ht⟩ := clientRead_ok G301Register.modeLimitation.address clock pause
    (s := m) (show 1 ≤ 3 by decide)
  rw [hm.device, advancePendingStatus_settled fun other hother =>
    hleft.settled (by revert other; decide)] at ht
  rw [hm.device] at hlimits
  refine ⟨t, ?_, hm.trans ht⟩
  have hthree : (List.range' G301Register.modeLimitation.address 3).map s.env.1.registers =
      [s.env.1.registers G301Register.modeLimitation.address,
        s.env.1.registers G301Register.temperatureUpperLimit.address,
        s.env.1.registers G301Register.temperatureLowerLimit.address] := rfl
  rw [hthree] at hlimits
  rw [readDeviceProfile, ends_bind_ok hcapabilities, ends_bind_ok (withRetry_ok w hlimits)]
  dsimp only
  rw [hprofile]
  exact ends_pure.mpr ⟨rfl, rfl⟩

theorem makePlan_ok {intent : DesiredRoomIntent} (hleft : s.env.1.PendingLeft)
    {profile : G301DeviceProfile} {plan : G301Plan}
    (hprofile : buildDeviceProfile (s.env.1.registers G301Register.capabilities.address)
      (s.env.1.registers G301Register.modeLimitation.address)
      (s.env.1.registers G301Register.temperatureUpperLimit.address)
      (s.env.1.registers G301Register.temperatureLowerLimit.address) = .ok profile)
    (hplan : planRoomIntent intent s.env.1.slaveAddress (some profile) = .ok plan) :
    ∃ t, Ends (makePlan w (simulatorEnvironment clock pause) intent s.env.1.slaveAddress) s
        (.ok plan) t ∧ Leaves s t s.env.1 := by
  unfold makePlan
  dsimp only
  split
  · obtain ⟨t, hread, ht⟩ := readDeviceProfile_ok w clock pause hleft hprofile
    refine ⟨t, ?_, ht⟩
    rw [ends_bind_ok hread, pure_bind, hplan]
    exact ends_pure.mpr ⟨rfl, rfl⟩
  · next hoff =>
      have hrange := PlanOf.range ⟨_, hplan⟩
      rw [planRoomIntent_off hrange hoff] at hplan
      refine ⟨s, ?_, rfl, rfl⟩
      rw [pure_bind, planRoomIntent_off hrange hoff, hplan]
      exact ends_pure.mpr ⟨rfl, rfl⟩

theorem readbackExpectation_expected (write : RegisterWrite) :
    (readbackExpectation write).expected = write.value := by
  unfold readbackExpectation
  repeat' split
  all_goals rfl

theorem buildDeviceProfile_limits {capabilities limitation upper lower : ℤ}
    {profile : G301DeviceProfile}
    (h : buildDeviceProfile capabilities limitation upper lower = .ok profile) :
    16 ≤ profile.lowerTemperatureC ∧ profile.upperTemperatureC ≤ 31 := by
  unfold buildDeviceProfile at h
  split at h
  · cases h
  · split at h
    · cases h
    · next hlower =>
        split at h
        · cases h
        · next hupper =>
            split at h
            · cases h
            · cases h
              exact ⟨(not_not.mp hlower).1, (not_not.mp hupper).2⟩

theorem planned_words {intent : DesiredRoomIntent} {slaveAddress : ℕ} {profile : G301DeviceProfile}
    {plan : G301Plan} (hplan : planRoomIntent intent slaveAddress (some profile) = .ok plan)
    (hlimits : 16 ≤ profile.lowerTemperatureC ∧ profile.upperTemperatureC ≤ 31) :
    ∀ write ∈ plan.writes, 0 ≤ write.value ∧ write.value ≤ 0xFFFF := by
  rcases planRoomIntent_cases hplan with ⟨-, rfl⟩ | ⟨mode, found, target, -, -, hfound, -, htarget, rfl⟩
  · simp [planOfWrites]
  · cases hfound
    obtain ⟨_, -, -, hlower, hupper⟩ := plannedTarget_ok htarget
    have hmode : 0 ≤ mode.value ∧ mode.value ≤ 5 := by cases mode <;> decide
    simp only [planOfWrites, List.forall_mem_cons, List.not_mem_nil, false_implies, implies_true,
      and_true]
    omega

theorem writeOne_ok {write : RegisterWrite} (hword : 0 ≤ write.value ∧ write.value ≤ 0xFFFF) :
    ∃ t, Ends (writeOne w (simulatorEnvironment clock pause) s.env.1.slaveAddress write) s (.ok ()) t ∧
      Leaves s t (s.env.1.applyWrite write) := by
  have hwrite : s.env.1.writeRegister s.env.1.slaveAddress write.address write.value =
      (.ok (), s.env.1.applyWrite write) := by
    rw [writeRegister, if_neg (not_not.mpr rfl), if_neg (not_not.mpr hword)]
    rfl
  refine ⟨_, withRetry_ok w (Prod.ext ?_ rfl), ?_, rfl⟩
  · change Except.ok (s.env.1.writeRegister _ write.address write.value).1 = _
    rw [hwrite]
  · change (s.env.1.writeRegister _ write.address write.value).2 = _
    rw [hwrite]

theorem sleepUnlessZero_ok (seconds : ℚ) :
    ∃ t, Ends (sleepUnlessZero (simulatorEnvironment clock pause) seconds) s (.ok ()) t ∧
      Leaves s t s.env.1 := by
  unfold sleepUnlessZero
  split
  · exact ⟨s, ends_pure.mpr ⟨rfl, rfl⟩, rfl, rfl⟩
  · exact ⟨_, rfl, rfl, rfl⟩

theorem modifyRoom_ok (roomKey : String) (f : RoomIntentState F → RoomIntentState F) :
    ∃ t, Ends (modifyRoom roomKey f) s (.ok ()) t ∧ t.env = s.env ∧
      t.slaveFailures = s.slaveFailures ∧
      t.intentStates = Function.update s.intentStates roomKey ((s.intentStates roomKey).map f) :=
  ⟨_, rfl, rfl, rfl, rfl⟩

theorem readClock_ok :
    ∃ t, Ends (readClock (simulatorEnvironment clock pause)) s (.ok (clock s.env.2).1) t ∧
      Leaves s t s.env.1 ∧ t.slaveFailures = s.slaveFailures :=
  ⟨_, rfl, ⟨rfl, rfl⟩, rfl⟩

theorem writeAll_ok (roomKey : String) {writes : List RegisterWrite} {slaveAddress : ℕ}
    (hslave : s.env.1.slaveAddress = slaveAddress)
    (hwords : ∀ write ∈ writes, 0 ≤ write.value ∧ write.value ≤ 0xFFFF) :
    ∃ t, Ends (writeAll w (simulatorEnvironment clock pause) slaveAddress roomKey writes) s
        (.ok ()) t ∧ t.env.1 = s.env.1.applyWrites writes := by
  induction writes generalizing s with
  | nil => exact ⟨s, ends_pure.mpr ⟨rfl, rfl⟩, rfl⟩
  | cons write rest ih =>
      obtain ⟨m, hone, hm⟩ := writeOne_ok w clock pause (s := s) (hwords write (by simp))
      rw [hslave] at hone
      obtain ⟨n, hkept, hn, -, -⟩ := modifyRoom_ok (s := m) roomKey fun state =>
        { state with
          currentAttempt := state.currentAttempt.map fun attempt =>
            { attempt with
              completedWrites :=
                attempt.completedWrites ++ [⟨hexAddress write.address, write.value⟩] } }
      have hdevice : n.env.1 = s.env.1.applyWrite write := by rw [hn, hm.device]
      have hsame : n.env.1.slaveAddress = slaveAddress := by
        rw [hdevice, ← hslave]
        exact applyWrites_slaveAddress [write]
      obtain ⟨t, hrest, ht⟩ := ih hsame fun later hlater => hwords later (by simp [hlater])
      refine ⟨t, ?_, by rw [ht, hdevice]; rfl⟩
      rw [writeAll, ends_bind_ok hone]
      exact (ends_bind_ok hkept).mpr hrest

section Readbacks

variable {slaveAddress : ℕ} {expectations : List ReadbackExpectation}

theorem readPass_ok (hslave : s.env.1.slaveAddress = slaveAddress)
    (hnodup : (expectations.map (·.address)).Nodup) (observed : Observed) :
    ∃ t, Ends (readPass w (simulatorEnvironment clock pause) slaveAddress expectations observed) s
        (.ok (recordObserved observed expectations
          (expectations.map fun e => s.env.1.registers e.address))) t ∧
      Leaves s t ((expectations.map (·.address)).foldl advanceStatus s.env.1) := by
  induction expectations generalizing s observed with
  | nil => exact ⟨s, ends_pure.mpr ⟨rfl, rfl⟩, rfl, rfl⟩
  | cons expectation rest ih =>
      obtain ⟨hfresh, hnodup⟩ := List.nodup_cons.mp hnodup
      obtain ⟨m, hone, hm⟩ := readOne_ok expectation.address w clock pause (s := s)
      rw [hslave] at hone
      have hsame : m.env.1.slaveAddress = slaveAddress := by
        rw [hm.device, advanceStatus_slaveAddress, hslave]
      obtain ⟨t, hrest, ht⟩ := ih hsame hnodup
        (Function.update observed expectation.address (some (s.env.1.registers expectation.address)))
      have hvalues : (rest.map fun e => m.env.1.registers e.address) =
          rest.map fun e => s.env.1.registers e.address := by
        refine List.map_congr_left fun e he => ?_
        have hne : e.address ≠ expectation.address := by
          intro heq
          exact hfresh (List.mem_map.mpr ⟨e, he, heq⟩)
        rw [hm.device]
        exact congrArg Prod.fst (advanceStatus_elsewhere hne)
      rw [hvalues] at hrest
      rw [hm.device] at ht
      exact ⟨t, (ends_bind_ok hone).mpr hrest, hm.trans ht⟩

variable {plan : G301Plan} {old : ℕ → ℤ} {delay : ℕ → ℕ} {n : ℕ}

def Lagging (plan : G301Plan) (old : ℕ → ℤ) (delay : ℕ → ℕ) (n : ℕ)
    (sim : G301RegisterSimulator) : Prop :=
  ∀ e ∈ plan.readbackExpectations,
    sim.cell e.address = awaiting (old e.address) e.expected (delay e.address - n)

def KeepsSteady (device device' : G301RegisterSimulator) : Prop :=
  ∀ address value, Steady value (device.cell address) → Steady value (device'.cell address)

theorem pass_ok (hslave : s.env.1.slaveAddress = plan.slaveAddress)
    (hnodup : (plan.readbackExpectations.map (·.address)).Nodup)
    (hlag : Lagging plan old delay n s.env.1) :
    ∃ t found, Ends (readPass w (simulatorEnvironment clock pause) plan.slaveAddress
        plan.readbackExpectations fun _ => none) s (.ok found) t ∧
      t.intentStates = s.intentStates ∧ t.env.1.slaveAddress = plan.slaveAddress ∧
      Lagging plan old delay (n + 1) t.env.1 ∧ KeepsSteady s.env.1 t.env.1 ∧
      (compareReadback plan found = [] ↔ ∀ e ∈ plan.readbackExpectations,
        delay e.address ≤ n ∨ old e.address = e.expected) := by
  obtain ⟨t, hread, ht⟩ := readPass_ok w clock pause hslave hnodup fun _ => none
  refine ⟨t, _, hread, ht.states, ?_, fun e he => ?_, fun address value hsteady => ?_, ?_⟩
  · rw [ht.device, advanceStatuses_slaveAddress, hslave]
  · rw [ht.device, advanceStatuses_cell hnodup (List.mem_map_of_mem he), hlag e he, awaiting_read,
      Nat.sub_sub]
  · rw [ht.device]
    exact hsteady.advanceStatuses _
  · rw [compareReadback_eq_nil, recordObserved_matches hnodup (by simp)]
    rw [List.map_inj_left]
    refine forall₂_congr fun e he => ?_
    have hshown : (awaiting (old e.address) e.expected (delay e.address - n)).1 = e.expected ↔
        delay e.address - n = 0 ∨ old e.address = e.expected := awaiting_shows
    rw [← hlag e he, Nat.sub_eq_zero_iff_le] at hshown
    exact hshown

theorem readbackFrom_ok {remaining : ℕ} (hleft : remaining ≠ 0)
    (hslave : s.env.1.slaveAddress = plan.slaveAddress)
    (hnodup : (plan.readbackExpectations.map (·.address)).Nodup)
    (hlag : Lagging plan old delay n s.env.1) (observed : Observed) :
    ∃ t found k, Ends (readbackFrom w (simulatorEnvironment clock pause) plan remaining observed) s
        (.ok found) t ∧
      t.intentStates = s.intentStates ∧ Lagging plan old delay k t.env.1 ∧
      KeepsSteady s.env.1 t.env.1 ∧
      (compareReadback plan found = [] ↔ ∀ e ∈ plan.readbackExpectations,
        delay e.address < n + remaining ∨ old e.address = e.expected) ∧
      (compareReadback plan found = [] → ∀ e ∈ plan.readbackExpectations,
        delay e.address ≤ k ∨ old e.address = e.expected) := by
  induction remaining generalizing s n observed with
  | zero => exact absurd rfl hleft
  | succ remaining ih =>
      obtain ⟨m, found, hpass, hstates, hslave', hlag', hkept, hfound⟩ :=
        pass_ok w clock pause hslave hnodup hlag
      by_cases hmatch : compareReadback plan found = []
      · refine ⟨m, found, n + 1, ?_, hstates, hlag', hkept, iff_of_true hmatch fun e he => ?_,
          fun _ e he => ?_⟩
        · rw [readbackFrom, ends_bind_ok hpass, if_pos hmatch]
          exact ends_pure.mpr ⟨rfl, rfl⟩
        · exact (hfound.mp hmatch e he).imp_left fun hle => by omega
        · exact (hfound.mp hmatch e he).imp_left fun hle => by omega
      · by_cases hlast : remaining = 0
        · subst hlast
          refine ⟨m, found, n + 1, ?_, hstates, hlag', hkept, ?_, fun h => absurd h hmatch⟩
          · rw [readbackFrom, ends_bind_ok hpass, if_neg hmatch]
            exact ends_pure.mpr ⟨rfl, rfl⟩
          · rw [hfound]
            exact forall₂_congr fun e he => or_congr_left Nat.lt_succ_iff.symm
        · obtain ⟨o, hsleep, ho⟩ :=
            sleepUnlessZero_ok clock pause (s := m) w.settings.readbackDelaySeconds
          have hslave'' : o.env.1.slaveAddress = plan.slaveAddress := by rw [ho.device, hslave']
          have hlag'' : Lagging plan old delay (n + 1) o.env.1 := by rw [ho.device]; exact hlag'
          obtain ⟨t, last, k, hrest, hrest', hlast', hkept', hiff, hsteady⟩ :=
            ih hlast hslave'' hlag'' found
          refine ⟨t, last, k, ?_, (hrest'.trans ho.states).trans hstates, hlast',
            fun address value h => hkept' address value ?_, ?_, hsteady⟩
          · rw [readbackFrom, ends_bind_ok hpass, if_neg hmatch]
            dsimp only
            rw [if_neg hlast]
            exact (ends_bind_ok hsleep).mpr hrest
          · rw [ho.device]
            exact hkept address value h
          · rw [hiff]
            refine forall₂_congr fun e he => or_congr_left ?_
            omega

end Readbacks

section Calls

variable {intent : DesiredRoomIntent} {base : IntentStates F} {st : RoomIntentState F}
  {a : IntentAttempt F} {plan : G301Plan}

theorem currentAttempt_ok (hs : Holds intent.roomKey base s (st.holding a)) :
    Ends (currentAttempt intent.roomKey) s (.ok (some a)) s := by
  unfold currentAttempt
  rw [ends_get_bind, hs.room]
  exact ends_pure.mpr ⟨rfl, rfl⟩

variable (intent) in
theorem markTerminal_ok (result : IntentExecutionResult) (applied : Bool) :
    ∃ t, Ends (markTerminal intent.roomKey result applied) s (.ok result) t ∧ t.env = s.env :=
  ⟨_, rfl, rfl⟩

theorem verifyAttempt_ok {old : ℕ → ℤ} {delay : ℕ → ℕ} (hplan : a.plan = some plan)
    (hs : Holds intent.roomKey base s (st.holding a))
    (hslave : s.env.1.slaveAddress = plan.slaveAddress)
    (hnodup : (plan.readbackExpectations.map (·.address)).Nodup)
    (hlag : Lagging plan old delay 0 s.env.1) :
    ∃ t result, Ends (verifyAttempt w (simulatorEnvironment clock pause) intent true) s
        (.ok (some result)) t ∧
      (result.status = .applied ∨ result.status = .readbackMismatch) ∧
      (result.status = .applied ↔ ∀ e ∈ plan.readbackExpectations,
        delay e.address < w.settings.readbackAttempts ∨ old e.address = e.expected) ∧
      KeepsSteady s.env.1 t.env.1 ∧
      (result.status = .applied → ∀ e ∈ plan.readbackExpectations,
        Steady e.expected (t.env.1.cell e.address)) := by
  have hattempts : w.settings.readbackAttempts ≠ 0 :=
    Nat.one_le_iff_ne_zero.mp w.attemptsPositive.2
  obtain ⟨m, found, k, hread, -, hlast, hkept, hiff, hsteady⟩ :=
    readbackFrom_ok w clock pause hattempts hslave hnodup hlag fun _ => none
  obtain ⟨t, hmarked, ht⟩ := markTerminal_ok intent (s := m)
    (verificationResult intent a.completedWrites (compareReadback plan found))
    (decide (compareReadback plan found = []))
  have hstatus : (verificationResult intent a.completedWrites (compareReadback plan found)).status =
      if compareReadback plan found = [] then .applied else .readbackMismatch := by
    unfold verificationResult
    split
    · rfl
    · rfl
  have happlied : (verificationResult intent a.completedWrites
      (compareReadback plan found)).status = .applied ↔ compareReadback plan found = [] := by
    rw [hstatus]
    split
    · next hmatch => exact iff_of_true rfl hmatch
    · next hmatch => exact iff_of_false nofun hmatch
  refine ⟨t, _, ?_, ?_, happlied.trans ?_, ht ▸ hkept, fun hdone e he => ?_⟩
  · rw [verifyAttempt, ends_bind_ok (currentAttempt_ok hs)]
    simp only [hplan]
    rw [ends_trying_bind]
    refine ⟨_, m, hread, ?_⟩
    dsimp only
    rw [if_neg (by simp)]
    exact (ends_bind_ok hmarked).mpr (ends_pure.mpr ⟨rfl, rfl⟩)
  · rw [hstatus]
    split
    · exact .inl rfl
    · exact .inr rfl
  · simpa using hiff
  · rw [ht, hlast e he]
    refine steady_awaiting ((hsteady (happlied.mp hdone) e he).imp_left fun hle => ?_)
    exact Nat.sub_eq_zero_of_le hle

structure Settles (w : G301EntranceWorker F) (device : G301RegisterSimulator) (plan : G301Plan)
    (t : SimulatorState T F) (result : IntentExecutionResult) : Prop where
  status : result.status = .applied ∨ result.status = .readbackMismatch
  applied_iff : result.status = .applied ↔ ∀ e ∈ plan.readbackExpectations,
    device.delayOf e.address < w.settings.readbackAttempts ∨
      device.registers e.address = e.expected
  steady : result.status = .applied → ∀ write ∈ plan.writes,
    Steady write.value (t.env.1.cell write.address) ∧
      Steady write.value (t.env.1.cell (readbackExpectation write).address)

theorem writeAndVerify_ok {profile : Option G301DeviceProfile}
    (hplanned : planRoomIntent intent s.env.1.slaveAddress profile = .ok plan)
    (hwords : ∀ write ∈ plan.writes, 0 ≤ write.value ∧ write.value ≤ 0xFFFF)
    (hleft : s.env.1.PendingLeft) (hs : Holds intent.roomKey base s (st.holding a)) :
    ∃ t result, Ends (writeAndVerify w (simulatorEnvironment clock pause) intent
        s.env.1.slaveAddress plan) s (.ok result) t ∧ Settles w s.env.1 plan t result := by
  have hof : PlanOf intent s.env.1.slaveAddress plan := ⟨profile, hplanned⟩
  obtain ⟨m, hplan, hm, -, hstates⟩ := modifyRoom_ok (s := s) intent.roomKey fun state =>
    { state with
      currentAttempt := state.currentAttempt.map ({ · with plan := some plan, phase := .writing }) }
  have hheld : Holds intent.roomKey base m
      (st.holding { a with plan := some plan, phase := .writing }) := hs.modified hstates
  obtain ⟨n, hwrites, hn⟩ := writeAll_ok w clock pause (s := m) intent.roomKey
    (congrArg (·.1.slaveAddress) hm) hwords
  rw [hm] at hn
  obtain ⟨b, hb, hwritten, -⟩ := writeAll_takes w _ rfl (fun _ hw => hw) hheld hwrites
  obtain ⟨o, hpending, ho, -, hstates'⟩ := modifyRoom_ok (s := n) intent.roomKey fun state =>
    { state with
      currentAttempt := state.currentAttempt.map ({ · with phase := .verificationPending }) }
  have hheld' : Holds intent.roomKey base o (st.holding { b with phase := .verificationPending }) :=
    hwritten.holds.modified hstates'
  have hdevice : o.env.1 = s.env.1.applyWrites plan.writes := by rw [ho, hn]
  have hcells := planned_cells hplanned hleft
  rw [← hdevice] at hcells
  have hexpectations : plan.readbackExpectations = plan.writes.map readbackExpectation := by
    rw [hof.eq_planOfWrites]
    rfl
  have hlag : Lagging plan s.env.1.registers s.env.1.delayOf 0 o.env.1 := by
    intro e he
    rw [hexpectations] at he
    obtain ⟨write, hwrite, rfl⟩ := List.mem_map.mp he
    rw [(hcells write hwrite).1, readbackExpectation_expected]
    rfl
  have hslave : o.env.1.slaveAddress = plan.slaveAddress := by
    rw [hdevice, applyWrites_slaveAddress, hof.slaveAddress_eq]
  have hb' : ({ b with phase := .verificationPending } : IntentAttempt F).plan = some plan := hb
  obtain ⟨p, result, hverify, hstatus, hiff, hkept, hsteady⟩ :=
    verifyAttempt_ok w clock pause hb' hheld' hslave hof.readback_nodup hlag
  obtain ⟨q, hrecord, hq⟩ : ∃ q, Ends (recordSlaveSuccess s.env.1.slaveAddress) p (.ok ()) q ∧
      q.env = p.env := ⟨_, rfl, rfl⟩
  refine ⟨q, result, ?_, hstatus, hiff, fun hdone write hwrite => ⟨?_, ?_⟩⟩
  · rw [writeAndVerify]
    refine (ends_bind_ok hplan).mpr (ends_trying_bind.mpr ⟨_, n, hwrites, ?_⟩)
    refine (ends_bind_ok hpending).mpr ((ends_bind_ok hverify).mpr ?_)
    dsimp only
    rw [if_pos hstatus]
    exact (ends_bind_ok hrecord).mpr (ends_pure.mpr ⟨rfl, rfl⟩)
  · rw [hq]
    refine hkept write.address write.value ?_
    rw [(hcells write hwrite).2]
    exact ⟨rfl, by simp⟩
  · rw [hq, ← readbackExpectation_expected write]
    exact hsteady hdone _ (hexpectations ▸ List.mem_map_of_mem hwrite)

def AlreadyShows (device : G301RegisterSimulator) (plan : G301Plan) : Prop :=
  ∀ e ∈ plan.readbackExpectations, IsStatus e.address → device.registers e.address = e.expected

theorem delayOf_lt_iff {r : ℕ} (hr : 1 ≤ r) :
    (∀ e ∈ plan.readbackExpectations,
      device.delayOf e.address < r ∨ device.registers e.address = e.expected) ↔
    device.statusDelayReads < r ∨ AlreadyShows device plan := by
  unfold delayOf
  constructor
  · intro h
    by_cases hdelay : device.statusDelayReads < r
    · exact .inl hdelay
    · refine .inr fun e he hstatus => (h e he).resolve_left ?_
      rw [if_pos hstatus]
      exact hdelay
  · rintro h e he
    by_cases hstatus : IsStatus e.address
    · rw [if_pos hstatus]
      exact h.imp_right fun hshows => hshows e he hstatus
    · rw [if_neg hstatus]
      exact .inl hr

section Effective

variable {profile : G301DeviceProfile}
  (hused : s.env.1.Used) (hvalid : ¬ ExpiredAt w intent (clock s.env.2).1)
  (heffective : (intent.effectiveFrom.instant w.zone : ℚ) ≤
    (clock s.env.2).1 + w.settings.validityClockSkewSeconds * secondMicros)
  (hcooldown : cooldown s s.env.1.slaveAddress (clock s.env.2).1 = none)
  (hlimits : buildDeviceProfile (s.env.1.registers G301Register.capabilities.address)
    (s.env.1.registers G301Register.modeLimitation.address)
    (s.env.1.registers G301Register.temperatureUpperLimit.address)
    (s.env.1.registers G301Register.temperatureLowerLimit.address) = .ok profile)
  (hpermitted : planRoomIntent intent s.env.1.slaveAddress (some profile) = .ok plan)
include hused hvalid heffective hcooldown hlimits hpermitted

theorem executeIntent_ok (hs : Holds intent.roomKey base s (st.holding a)) :
    ∃ t result, Ends (executeIntent w (simulatorEnvironment clock pause) intent
        s.env.1.slaveAddress) s (.ok result) t ∧ Settles w s.env.1 plan t result := by
  obtain ⟨m, hrestart, hm, hfailures, hstates⟩ := modifyRoom_ok (s := s) intent.roomKey fun state =>
    { state with
      currentAttempt := state.currentAttempt.map
        ({ · with phase := .retryable, plan := none, completedWrites := [] }) }
  obtain ⟨n, hclock, hn, hfailures'⟩ := readClock_ok clock pause (s := m)
  rw [hm] at hclock
  have hdevice : n.env.1 = s.env.1 := by rw [hn.device, hm]
  have hfree : cooldown n s.env.1.slaveAddress (clock s.env.2).1 = none := by
    rw [← hcooldown, cooldown_congr _ (hfailures'.trans hfailures)]
  rw [← hdevice] at hlimits hpermitted hused
  obtain ⟨o, hplan, ho⟩ := makePlan_ok w clock pause hused.pendingLeft hlimits hpermitted
  have hheld : Holds intent.roomKey base o
      (st.holding { a with phase := .retryable, plan := none, completedWrites := [] }) :=
    (ho.states.trans hn.states).trans (hs.modified hstates)
  obtain ⟨t, result, hwritten, hsettles⟩ := writeAndVerify_ok w clock pause (s := o)
    (ho.device ▸ hpermitted) (planned_words hpermitted (buildDeviceProfile_limits hlimits))
    (ho.device ▸ hused.pendingLeft) hheld
  rw [ho.device, hdevice] at hwritten hsettles
  rw [hdevice] at hplan
  refine ⟨t, result, ?_, hsettles⟩
  rw [executeIntent]
  refine (ends_bind_ok hrestart).mpr ((ends_bind_ok hclock).mpr ?_)
  have hexpired : ¬ intent.expiresAt.any (fun expires => decide ((expires.instant w.zone : ℚ) ≤
      (clock s.env.2).1 - w.settings.validityClockSkewSeconds * secondMicros)) = true := by
    rw [Option.any_eq_true]
    rintro ⟨expires, hexpires, hpast⟩
    exact hvalid ⟨expires, hexpires, of_decide_eq_true hpast⟩
  dsimp only
  rw [if_neg hexpired, if_neg (not_lt.mpr heffective), ends_get_bind, hfree]
  exact ends_trying_bind.mpr ⟨_, o, hplan, hwritten⟩

end Effective

variable [DecidableEq F]

theorem delayed_device_converges (hused : s.env.1.Used)
    (hslave : w.roomSlaveAddresses.lookup intent.roomKey = some s.env.1.slaveAddress)
    (hnewer : ∀ seen, (s.room intent.roomKey).lastSeenVersion = some seen →
      seen < intent.intentVersion)
    (hvalid : ¬ ExpiredAt w intent (clock s.env.2).1)
    (heffective : (intent.effectiveFrom.instant w.zone : ℚ) ≤
      (clock s.env.2).1 + w.settings.validityClockSkewSeconds * secondMicros)
    (hcooldown : cooldown s s.env.1.slaveAddress (clock s.env.2).1 = none)
    {profile : G301DeviceProfile}
    (hlimits : buildDeviceProfile (s.env.1.registers G301Register.capabilities.address)
      (s.env.1.registers G301Register.modeLimitation.address)
      (s.env.1.registers G301Register.temperatureUpperLimit.address)
      (s.env.1.registers G301Register.temperatureLowerLimit.address) = .ok profile)
    (hpermitted : planRoomIntent intent s.env.1.slaveAddress (some profile) = .ok plan) :
    ∃ t result, Ends (applyIntent w (simulatorEnvironment clock pause) intent) s (.ok result) t ∧
      (result.status = .applied ∨ result.status = .readbackMismatch) ∧
      (result.status = .applied ↔
        s.env.1.statusDelayReads < w.settings.readbackAttempts ∨ AlreadyShows s.env.1 plan) ∧
      (result.status = .applied → ∀ reads, ∀ write ∈ plan.writes,
        (t.env.1.afterReads reads).registers write.address = write.value ∧
          (t.env.1.afterReads reads).registers (readbackExpectation write).address = write.value) := by
  obtain ⟨m, hm, henv, hfailures, hstates⟩ : ∃ m : SimulatorState T F, m = { s with
      intentStates := Function.update s.intentStates intent.roomKey
        (some ((s.intentStates intent.roomKey).getD (.empty F))) } ∧ m.env = s.env ∧
      m.slaveFailures = s.slaveFailures ∧
      Holds intent.roomKey s.intentStates m (s.room intent.roomKey) := ⟨_, rfl, rfl, rfl, rfl⟩
  obtain ⟨n, hregister, hn, hfailures', hstates'⟩ := modifyRoom_ok (s := m) intent.roomKey
    (·.register intent.intentVersion (intentFingerprint w intent))
  have hheld : Holds intent.roomKey s.intentStates n
      (((s.room intent.roomKey).register intent.intentVersion (intentFingerprint w intent)).holding
        ⟨intent.intentVersion, intentFingerprint w intent, .retryable, none, [], none⟩) :=
    hstates.modified hstates'
  have hfree : cooldown n s.env.1.slaveAddress (clock s.env.2).1 = none := by
    rw [← hcooldown, cooldown_congr _ (hfailures'.trans hfailures)]
  have hsame : n.env = s.env := hn.trans henv
  obtain ⟨t, result, hexecuted, hsettles⟩ := executeIntent_ok w clock pause (s := n)
    (hsame ▸ hused) (hsame ▸ hvalid) (hsame ▸ heffective) (hsame ▸ hfree) (hsame ▸ hlimits)
    (hsame ▸ hpermitted) hheld
  rw [hsame] at hexecuted hsettles
  have hregistered : Ends (modifyRoom intent.roomKey
      (·.register intent.intentVersion (intentFingerprint w intent)) >>=
        fun _ => executeCurrent w (simulatorEnvironment clock pause) intent s.env.1.slaveAddress) m
      (.ok result) t :=
    (ends_bind_ok hregister).mpr ((ends_bind_ok (currentAttempt_ok hheld)).mpr hexecuted)
  refine ⟨t, result, ?_, hsettles.status, ?_, fun hdone reads write hwrite => ?_⟩
  · unfold applyIntent
    rw [hslave]
    dsimp only
    rw [ends_modify_bind, ends_get_bind, ← hm, hstates.room]
    dsimp only [Option.getD_some]
    cases hseen : (s.room intent.roomKey).lastSeenVersion with
    | none => exact hregistered
    | some seen =>
        have hlt := hnewer seen hseen
        dsimp only
        rw [if_neg (not_lt.mpr hlt.le), if_pos hlt]
        exact hregistered
  · rw [hsettles.applied_iff]
    exact delayOf_lt_iff w.attemptsPositive.2
  · obtain ⟨hcommand, hstatus⟩ := hsettles.steady hdone write hwrite
    exact ⟨(hcommand.afterReads reads).1, (hstatus.afterReads reads).1⟩

end Calls

def demoLagging (delay : ℕ) : SimulatorState Unit IntentPayload :=
  .initial _ ((writeRegister ⟨7, delay, defaultRegisters, fun _ => none⟩ 7
    G301Register.mode.address 1).2, ())

def demoHeatPlan : G301Plan :=
  planOfWrites demoHeat 7
    [⟨G301Register.mode.address, 4, "desired HVAC mode is heat"⟩,
      ⟨G301Register.setTemperature.address, 215, "desired HVAC target temperature"⟩,
      ⟨G301Register.power.address, 1, "desired HVAC is enabled"⟩]

theorem heating_is_confirmed_in_time :
    (∃ t result, Ends (applyIntent demoHeatWorker (simulatorEnvironment (fun _ => (0, ()))
        fun _ _ => ()) demoHeat) (demoLagging 1) (.ok result) t ∧ result.status = .applied) ∧
    ∃ t result, Ends (applyIntent demoHeatWorker (simulatorEnvironment (fun _ => (0, ()))
        fun _ _ => ()) demoHeat) (demoLagging 2) (.ok result) t ∧
      result.status = .readbackMismatch := by
  have hexpired : ¬ ExpiredAt demoHeatWorker demoHeat 0 := by
    rintro ⟨_, hexpires, -⟩
    cases hexpires
  have hcreated : ∀ delay : ℕ, Used ⟨7, delay, defaultRegisters, fun _ => none⟩ := fun delay =>
    @Used.created 7 [] delay _ (by simp [create])
  have hplan : planRoomIntent demoHeat 7 (some ⟨parseCapabilities 0, .none, 16, 31⟩) =
      .ok demoHeatPlan := by decide +kernel
  constructor
  · obtain ⟨t, result, hends, -, hiff, -⟩ := delayed_device_converges demoHeatWorker
      (fun _ => (0, ())) (fun _ _ => ()) (s := demoLagging 1)
      (.write 7 _ 1 (hcreated 1)) rfl nofun hexpired
      (by decide +kernel) rfl rfl hplan
    exact ⟨t, result, hends, hiff.mpr (.inl (by decide))⟩
  · obtain ⟨t, result, hends, hstatus, hiff, -⟩ := delayed_device_converges demoHeatWorker
      (fun _ => (0, ())) (fun _ _ => ()) (s := demoLagging 2)
      (.write 7 _ 1 (hcreated 2)) rfl nofun hexpired
      (by decide +kernel) rfl rfl hplan
    refine ⟨t, result, hends, hstatus.resolve_left fun happlied => ?_⟩
    rcases hiff.mp happlied with hdelay | hshows
    · exact absurd hdelay (by decide)
    · have hpower := hshows ⟨G301Register.powerStatus.address, 1, "actual power status"⟩
        (by decide +kernel) (.inl rfl)
      revert hpower
      decide

end ClockOrchestrator
