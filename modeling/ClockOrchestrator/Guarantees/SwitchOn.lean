import ClockOrchestrator.G301Adapter.WorkerHistory
import ClockOrchestrator.G301Adapter.WriteRuns

namespace ClockOrchestrator

open Python Procedure

variable {E F : Type} {intent : DesiredRoomIntent} {slaveAddress : ℕ}
  {done rest notes others : List Interaction} {x : Interaction}

def Interaction.acknowledged (slaveAddress : ℕ) : Interaction → Option (ℕ × ℤ)
  | .write slave address value (.ok ()) =>
      if slave = slaveAddress then some (address, value) else none
  | _ => none

def acknowledgedWrites (slaveAddress : ℕ) (notes : List Interaction) : List (ℕ × ℤ) :=
  notes.filterMap (Interaction.acknowledged slaveAddress)

theorem acknowledgedWrites_append :
    acknowledgedWrites slaveAddress (notes ++ others) =
      acknowledgedWrites slaveAddress notes ++ acknowledgedWrites slaveAddress others :=
  List.filterMap_append

theorem acknowledgedWrites_failures (slave address : ℕ) (value : ℤ)
    (failures : List ClientFailure) :
    acknowledgedWrites slaveAddress
      (failures.map fun failure => .write slave address value (.error failure)) = [] := by
  rw [acknowledgedWrites, List.filterMap_map, List.filterMap_eq_nil_iff]
  exact fun _ _ => rfl

theorem Unwritten.acknowledged (h : Unwritten notes) : acknowledgedWrites slaveAddress notes = [] := by
  rw [acknowledgedWrites, List.filterMap_eq_nil_iff]
  intro n hn
  cases n with
  | write _ _ _ _ => cases h _ hn
  | read _ _ _ _ => rfl
  | clock _ => rfl

theorem Unwritten.split_left (h : Unwritten notes) (hsplit : notes ++ others = done ++ x :: rest)
    (hx : x.isWrite = true) : ∃ later, done = notes ++ later ∧ others = later ++ x :: rest := by
  rcases List.append_eq_append_iff.mp hsplit with ⟨later, hdone, hothers⟩ | ⟨tail, hnotes, hrest⟩
  · exact ⟨later, hdone, hothers⟩
  · cases tail with
    | nil => exact ⟨[], by simp [hnotes], by simpa using hrest.symm⟩
    | cons y tail =>
        cases hrest
        have hunwritten : x.isWrite = false := h x (by rw [hnotes]; simp)
        rw [hunwritten] at hx
        cases hx

theorem Unwritten.split_right (h : Unwritten others) (hsplit : notes ++ others = done ++ x :: rest)
    (hx : x.isWrite = true) : ∃ earlier, notes = done ++ x :: earlier := by
  rcases List.append_eq_append_iff.mp hsplit with ⟨later, -, hothers⟩ | ⟨tail, hnotes, hrest⟩
  · have hunwritten : x.isWrite = false := h x (by rw [hothers]; simp)
    rw [hunwritten] at hx
    cases hx
  · cases tail with
    | nil =>
        have hunwritten : x.isWrite = false := h x (by rw [← List.nil_append others, ← hrest]; simp)
        rw [hunwritten] at hx
        cases hx
    | cons y tail =>
        cases hrest
        exact ⟨tail, hnotes⟩

theorem WriteRun.at_write {writes : List RegisterWrite} (h : WriteRun slaveAddress writes notes)
    {slave address : ℕ} {value : ℤ} {answer : Except ClientFailure Unit}
    (hnotes : notes = done ++ .write slave address value answer :: rest) :
    ∃ earlier write later, writes = earlier ++ write :: later ∧ slave = slaveAddress ∧
      write.address = address ∧ write.value = value ∧
      acknowledgedWrites slaveAddress done = earlier.map fun w => (w.address, w.value) := by
  induction h generalizing done with
  | done => simp at hnotes
  | @gaveUp write others failures =>
      obtain ⟨first, second, rfl, hfirst, hsecond⟩ := List.map_eq_append_iff.mp hnotes
      obtain ⟨failure, tail, rfl, hissued, -⟩ := List.map_eq_cons_iff.mp hsecond
      cases hissued
      exact ⟨[], write, others, rfl, rfl, rfl, rfl, hfirst ▸ acknowledgedWrites_failures ..⟩
  | @acknowledged write others notes failures hrun ih =>
      rcases List.append_eq_append_iff.mp hnotes with ⟨later, hdone, hlater⟩ | ⟨tail, hfailed, htail⟩
      · cases later with
        | nil =>
            cases hlater
            refine ⟨[], write, others, rfl, rfl, rfl, rfl, ?_⟩
            rw [hdone, List.append_nil]
            exact acknowledgedWrites_failures ..
        | cons y later =>
            cases hlater
            obtain ⟨earlier, write', later', rfl, hslave, haddress, hvalue, hacknowledged⟩ := ih rfl
            refine ⟨write :: earlier, write', later', rfl, hslave, haddress, hvalue, ?_⟩
            rw [hdone, acknowledgedWrites_append, acknowledgedWrites_failures, List.nil_append,
              List.map_cons, ← hacknowledged]
            simp [acknowledgedWrites, Interaction.acknowledged]
      · cases tail with
        | nil =>
            cases htail
            refine ⟨[], write, others, rfl, rfl, rfl, rfl, ?_⟩
            rw [List.append_nil] at hfailed
            rw [← hfailed]
            exact acknowledgedWrites_failures ..
        | cons y tail =>
            cases htail
            obtain ⟨first, second, -, hfirst, hsecond⟩ := List.map_eq_append_iff.mp hfailed
            obtain ⟨failure, rest', -, hissued, -⟩ := List.map_eq_cons_iff.mp hsecond
            cases hissued
            exact ⟨[], write, others, rfl, rfl, rfl, rfl, hfirst ▸ acknowledgedWrites_failures ..⟩

theorem ProfileRead.unwritten {profile : Option G301DeviceProfile}
    (h : ProfileRead slaveAddress notes profile) : Unwritten notes := by
  cases h with
  | unread hnotes => exact hnotes
  | read hnotes _ =>
      refine hnotes.append ?_
      intro n hn
      rw [List.mem_singleton.mp hn]
      rfl

def tenths (celsius : ℚ) : ℤ := roundHalfEven (celsius * 10).num (celsius * 10).den

inductive Configured (intent : DesiredRoomIntent) (slaveAddress : ℕ) : List Interaction → Prop
  | intro {looking writing : List Interaction} {raw upper lower : ℤ}
      {limitation : G301ModeLimitation} {mode : G301Mode} {celsius : ℚ} :
      Unwritten looking → G301ModeLimitation.ofRaw raw = some limitation →
      modeFromHvacMode intent.hvac.mode = some mode → ¬ limitation.Prohibits mode →
      intent.hvac.targetTemperatureC = some (.finite celsius) →
      10 * lower ≤ tenths celsius → tenths celsius ≤ 10 * upper →
      acknowledgedWrites slaveAddress writing = [(G301Register.mode.address, mode.value),
        (G301Register.setTemperature.address, tenths celsius)] →
      Configured intent slaveAddress (looking ++
        .read slaveAddress G301Register.modeLimitation.address 3 (.ok [raw, upper, lower]) :: writing)

theorem Executed.configured {slave : ℕ} {answer : Except ClientFailure Unit}
    (h : Executed intent slaveAddress notes)
    (hnotes : notes = done ++ .write slave G301Register.power.address 1 answer :: rest) :
    slave = slaveAddress ∧ Configured intent slaveAddress done := by
  cases h with
  | silent hquiet =>
      have hunwritten := hquiet (.write slave G301Register.power.address 1 answer)
        (by rw [hnotes]; simp)
      cases hunwritten
  | @written looking writing checking profile plan hread hplan hrun hchecking =>
      obtain ⟨later, rfl, hwriting⟩ := hread.unwritten.split_left hnotes rfl
      obtain ⟨tail, hwriting⟩ := hchecking.split_right hwriting rfl
      obtain ⟨earlier, write, others, hwrites, rfl, haddress, hvalue, hacknowledged⟩ :=
        hrun.at_write hwriting
      refine ⟨rfl, ?_⟩
      obtain ⟨mode, found, target, hmode, rfl, hvalid, htarget, hearlier⟩ :=
        planRoomIntent_before_power hplan hwrites haddress hvalue
      obtain ⟨celsius, hcelsius, rfl, hlower, hupper⟩ := plannedTarget_ok htarget
      cases hread with
      | read hquiet hbuilt =>
          obtain ⟨hlimitation, hup, hlow⟩ := buildDeviceProfile_ok hbuilt
          rw [hup] at hupper
          rw [hlow] at hlower
          rw [List.append_assoc]
          exact .intro hquiet hlimitation hmode (validateMode_ok hvalid) hcelsius hlower hupper
            (hacknowledged.trans hearlier)

theorem switched_on_only_configured [DecidableEq F] (w : G301EntranceWorker F)
    (env : G301Environment E) (e : E) (intents : List DesiredRoomIntent)
    {before after : List (CallRecord E F)} {c : CallRecord E F}
    (hcalls : (history w env e intents).calls = before ++ c :: after) {slave : ℕ}
    {answer : Except ClientFailure Unit}
    (hpower : c.interactions = done ++ .write slave G301Register.power.address 1 answer :: rest) :
    w.roomSlaveAddresses.lookup c.intent.roomKey = some slave ∧ Configured c.intent slave done ∧
      ∃ earlier mode celsius,
        acknowledgedWrites slave (before.flatMap (·.interactions) ++ done) =
          earlier ++ [(G301Register.mode.address, mode),
            (G301Register.setTemperature.address, tenths celsius)] ∧
        (modeFromHvacMode c.intent.hvac.mode).map G301Mode.value = some mode ∧
        c.intent.hvac.targetTemperatureC = some (.finite celsius) := by
  obtain ⟨sofar, -, hc⟩ := history_split hcalls
  have hends : Ends (applyIntent w env c.intent) (history w env e sofar).state.atRest c.result
      c.after := by
    rw [hc]
    exact ends_outcome _ _
  rcases applyIntent_executes w env hends with
    hsame | ⟨slaveAddress, hslave, notes, hnotes, hexecuted⟩
  · have hnone : c.interactions = [] := by
      rw [CallRecord.interactions, hsame]
      rfl
    rw [hnone] at hpower
    simp at hpower
  · have hemitted : c.interactions = notes := hnotes
    obtain ⟨rfl, hconfigured⟩ := hexecuted.configured (hemitted.symm.trans hpower)
    refine ⟨hslave, hconfigured, ?_⟩
    cases hconfigured with
    | @intro looking writing raw upper lower limitation mode celsius hquiet _ hmode _ hcelsius _ _
        hacknowledged =>
        refine ⟨acknowledgedWrites slave (before.flatMap (·.interactions)), mode.value, celsius, ?_,
          ?_, hcelsius⟩
        · rw [acknowledgedWrites_append, acknowledgedWrites_append, hquiet.acknowledged,
            List.nil_append, ← hacknowledged]
          rfl
        · rw [hmode]
          rfl

def demoHeater : G301Environment (ℕ → ℤ) where
  writeRegister := fun registers _ address value =>
    (.ok (), Function.update (Function.update registers address value) (address + 0x010E) value)
  readHoldingRegisters := fun registers _ address count =>
    (.ok ((List.range count).map fun i => registers (address + i)), registers)
  clock := fun registers => (0, registers)
  sleep := fun registers _ => (false, registers)

def demoHeaterStart : ℕ → ℤ
  | 0x0215 => 30
  | 0x0216 => 16
  | _ => 0

def demoHeatWorker : G301EntranceWorker IntentPayload where
  entranceKey := "entrance_a"
  roomSlaveAddresses := [("214", 7)]
  settings := {}
  zone := sofiaWinterTime
  fingerprint := id
  validSettings := WorkerSettings.default_error

def demoHeat : DesiredRoomIntent where
  roomKey := "214"
  intentVersion := 1
  automationPhase := .occupied
  controlMode := .automatic
  effectiveFrom := .utc 0
  expiresAt := none
  hvac := ⟨true, .heat, some (.finite (43 / 2)), by decide⟩
  waterHeater := ⟨false⟩
  convectors := ⟨false⟩
  reason := "occupied"
  correlationId := 1

def demoHeatCall : CallRecord (ℕ → ℤ) IntentPayload :=
  callRecord demoHeatWorker demoHeater (.initial _ demoHeaterStart) demoHeat

theorem heating_is_configured_first :
    Configured demoHeat 7 (demoHeatCall.interactions.take 5) := by
  have hpower : demoHeatCall.interactions[5]? =
      some (.write 7 G301Register.power.address 1 (.ok ())) := by with_unfolding_all rfl
  obtain ⟨hlength, hwrite⟩ := List.getElem?_eq_some_iff.mp hpower
  have hsplit := (List.take_append_drop 5 _).symm.trans
    (congrArg _ (List.drop_eq_getElem_cons hlength))
  rw [hwrite] at hsplit
  exact (switched_on_only_configured demoHeatWorker demoHeater demoHeaterStart [demoHeat]
    rfl hsplit).2.1

end ClockOrchestrator
