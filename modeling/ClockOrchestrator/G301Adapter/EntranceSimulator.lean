import ClockOrchestrator.G301Adapter.Simulator

namespace ClockOrchestrator

open Python

inductive OperationKind where
  | read
  | write
  deriving DecidableEq, Repr

abbrev EntranceOperation := OperationKind × ℕ × ℕ

structure G301EntranceSimulator where
  devices : ℕ → Option G301RegisterSimulator
  operations : List EntranceOperation

namespace G301EntranceSimulator

def create (devices : ℕ → Option G301RegisterSimulator) : G301EntranceSimulator := ⟨devices, []⟩

variable (entrance : G301EntranceSimulator) (slaveAddress address : ℕ)

def device : Except ClientFailure G301RegisterSimulator :=
  match entrance.devices slaveAddress with
  | some device => .ok device
  | none => .error (.transport (g301DeviceOffline slaveAddress))

-- The operation is noted before its device is looked up, and the device is changed in place.
def operate {α : Type} (operation : EntranceOperation)
    (use : G301RegisterSimulator → Except ClientFailure α × G301RegisterSimulator) :
    Except ClientFailure α × G301EntranceSimulator :=
  match entrance.device operation.2.1 with
  | .error failure =>
      (.error failure, { entrance with operations := entrance.operations ++ [operation] })
  | .ok device =>
      ((use device).1, {
        devices := Function.update entrance.devices operation.2.1 (some (use device).2)
        operations := entrance.operations ++ [operation] })

def readHoldingRegisters (count : ℕ) : Except ClientFailure (List ℤ) × G301EntranceSimulator :=
  entrance.operate (.read, slaveAddress, address)
    (·.readHoldingRegisters slaveAddress address count)

def writeRegister (value : ℤ) : Except ClientFailure Unit × G301EntranceSimulator :=
  entrance.operate (.write, slaveAddress, address) (·.writeRegister slaveAddress address value)

variable {entrance slaveAddress}

theorem operate_present {α : Type} {operation : EntranceOperation}
    {use : G301RegisterSimulator → Except ClientFailure α × G301RegisterSimulator}
    {device : G301RegisterSimulator} (h : entrance.devices operation.2.1 = some device) :
    entrance.operate operation use = ((use device).1, {
      devices := Function.update entrance.devices operation.2.1 (some (use device).2)
      operations := entrance.operations ++ [operation] }) := by
  simp [operate, G301EntranceSimulator.device, h]

theorem operate_elsewhere {α : Type} {operation : EntranceOperation} {other : ℕ}
    {use : G301RegisterSimulator → Except ClientFailure α × G301RegisterSimulator}
    (hne : other ≠ operation.2.1) :
    (entrance.operate operation use).2.devices other = entrance.devices other := by
  unfold operate
  cases entrance.device operation.2.1 with
  | error failure => rfl
  | ok device => exact Function.update_of_ne hne _ _

theorem operate_alike {α : Type} {entrance' : G301EntranceSimulator} {operation : EntranceOperation}
    {use : G301RegisterSimulator → Except ClientFailure α × G301RegisterSimulator}
    (h : entrance.devices operation.2.1 = entrance'.devices operation.2.1) :
    (entrance.operate operation use).1 = (entrance'.operate operation use).1 ∧
      (entrance.operate operation use).2.devices operation.2.1 =
        (entrance'.operate operation use).2.devices operation.2.1 := by
  cases hdevice : entrance'.devices operation.2.1 with
  | none =>
      rw [hdevice] at h
      simp [operate, device, h, hdevice]
  | some unit => simp [operate_present hdevice, operate_present (h.trans hdevice)]

end G301EntranceSimulator

namespace G301RegisterSimulator

def writeEach (sim : G301RegisterSimulator) (slaveAddress : ℕ) :
    List RegisterWrite → Except ClientFailure Unit × G301RegisterSimulator
  | [] => (.ok (), sim)
  | write :: rest =>
      match sim.writeRegister slaveAddress write.address write.value with
      | (.error failure, after) => (.error failure, after)
      | (.ok (), after) => after.writeEach slaveAddress rest

def readEach (sim : G301RegisterSimulator) (slaveAddress : ℕ) :
    List ReadbackExpectation → Observed → Except ClientFailure Observed × G301RegisterSimulator
  | [], observed => (.ok observed, sim)
  | expectation :: rest, observed =>
      match sim.readHoldingRegisters slaveAddress expectation.address 1 with
      | (.error failure, after) => (.error failure, after)
      | (.ok values, after) =>
          after.readEach slaveAddress rest
            (Function.update observed expectation.address values.head?)

def applyPlan (sim : G301RegisterSimulator) (plan : G301Plan) :
    Except ClientFailure Observed × G301RegisterSimulator :=
  if plan.slaveAddress ≠ sim.slaveAddress then
    (.error (.valueError "plan slave_address does not match simulator slave_address"), sim)
  else
    match sim.writeEach plan.slaveAddress plan.writes with
    | (.error failure, after) => (.error failure, after)
    | (.ok (), after) =>
        after.readEach plan.slaveAddress plan.readbackExpectations fun _ => none

def snapshot (sim : G301RegisterSimulator) : ℕ → ℤ := sim.registers

variable {sim : G301RegisterSimulator} {slaveAddress address count : ℕ} {value : ℤ}

theorem setStatus_statusDelayReads :
    (sim.setStatus address value).statusDelayReads = sim.statusDelayReads := by
  unfold setStatus
  split <;> rfl

theorem mirrorControlToStatus_statusDelayReads :
    (sim.mirrorControlToStatus address value).statusDelayReads = sim.statusDelayReads := by
  unfold mirrorControlToStatus
  split
  · exact setStatus_statusDelayReads
  · split
    · exact setStatus_statusDelayReads
    · rfl

theorem writeRegister_statusDelayReads :
    (sim.writeRegister slaveAddress address value).2.statusDelayReads = sim.statusDelayReads := by
  unfold writeRegister
  split
  · rfl
  · split
    · rfl
    · exact mirrorControlToStatus_statusDelayReads

theorem advanceStatuses_settled {other : ℕ} (hleft : sim.PendingLeft) (hstatus : ¬ IsStatus other)
    (addresses : List ℕ) :
    (addresses.foldl advanceStatus sim).registers other = sim.registers other ∧
      (addresses.foldl advanceStatus sim).PendingLeft := by
  induction addresses generalizing sim with
  | nil => exact ⟨rfl, hleft⟩
  | cons address rest ih =>
      have hleft' : (sim.advanceStatus address).PendingLeft := hleft.advanceStatus
      obtain ⟨hregister, hrest⟩ := ih hleft'
      refine ⟨hregister.trans ?_, hrest⟩
      by_cases hsame : other = address
      · subst hsame
        rw [advanceStatus_settled (hleft.settled hstatus)]
      · exact congrArg Prod.fst (advanceStatus_elsewhere hsame)

theorem advanceStatuses_statusDelayReads (addresses : List ℕ) :
    (addresses.foldl advanceStatus sim).statusDelayReads = sim.statusDelayReads := by
  induction addresses generalizing sim with
  | nil => rfl
  | cons address rest ih => rw [List.foldl_cons, ih, advanceStatus_statusDelayReads]

theorem setStatus_registers {other : ℕ} (hne : other ≠ address) :
    (sim.setStatus address value).registers other = sim.registers other := by
  unfold setStatus
  split
  · rfl
  · exact Function.update_of_ne hne _ _

theorem writeRegister_registers {other : ℕ} (hne : other ≠ address) (hstatus : ¬ IsStatus other) :
    (sim.writeRegister slaveAddress address value).2.registers other = sim.registers other := by
  obtain ⟨hpower, hmode⟩ := not_or.mp hstatus
  have hset : (sim.setRegister address value).registers other = sim.registers other :=
    Function.update_of_ne hne _ _
  unfold writeRegister mirrorControlToStatus
  split
  · rfl
  · split
    · rfl
    · split
      · exact (setStatus_registers hpower).trans hset
      · split
        · exact (setStatus_registers hmode).trans hset
        · exact hset

theorem readHoldingRegisters_registers {other : ℕ} (hleft : sim.PendingLeft)
    (hstatus : ¬ IsStatus other) :
    (sim.readHoldingRegisters slaveAddress address count).2.registers other =
      sim.registers other := by
  unfold readHoldingRegisters
  split
  · rfl
  · split
    · rfl
    · exact (advanceStatuses_settled hleft hstatus _).1

theorem readHoldingRegisters_statusDelayReads :
    (sim.readHoldingRegisters slaveAddress address count).2.statusDelayReads =
      sim.statusDelayReads := by
  unfold readHoldingRegisters
  split
  · rfl
  · split
    · rfl
    · exact advanceStatuses_statusDelayReads _

theorem writeRegister_slaveAddress :
    (sim.writeRegister slaveAddress address value).2.slaveAddress = sim.slaveAddress := by
  unfold writeRegister
  split
  · rfl
  · split
    · rfl
    · exact applyWrites_slaveAddress [⟨address, value, ""⟩]

theorem readHoldingRegisters_slaveAddress :
    (sim.readHoldingRegisters slaveAddress address count).2.slaveAddress = sim.slaveAddress := by
  unfold readHoldingRegisters
  split
  · rfl
  · split
    · rfl
    · exact advanceStatuses_slaveAddress _

theorem readHoldingRegisters_prompt (hleft : sim.PendingLeft) (hdelay : sim.statusDelayReads = 0) :
    (sim.readHoldingRegisters slaveAddress address count).2 = sim := by
  unfold readHoldingRegisters
  split
  · rfl
  · split
    · rfl
    · exact advancePendingStatus_settled fun _ _ => hleft.prompt hdelay

theorem readHoldingRegisters_shows {values : List ℤ}
    (h : (sim.readHoldingRegisters slaveAddress address count).1 = .ok values) :
    values = (List.range' address count).map sim.registers := by
  unfold readHoldingRegisters at h
  split at h
  · cases h
  · split at h
    · cases h
    · exact (Except.ok.inj h).symm

end G301RegisterSimulator

namespace G301EntranceSimulator

def registers (entrance : G301EntranceSimulator) (slaveAddress : ℕ) : ℕ → ℤ :=
  match entrance.devices slaveAddress with
  | some device => device.registers
  | none => fun _ => 0

def Prompt (entrance : G301EntranceSimulator) : Prop :=
  ∀ slaveAddress device, entrance.devices slaveAddress = some device →
    device.Used ∧ device.statusDelayReads = 0

variable {entrance : G301EntranceSimulator} {slaveAddress address : ℕ}

theorem Prompt.operate {α : Type} {operation : EntranceOperation}
    {use : G301RegisterSimulator → Except ClientFailure α × G301RegisterSimulator}
    (h : entrance.Prompt)
    (huse : ∀ device : G301RegisterSimulator, device.Used → device.statusDelayReads = 0 →
      (use device).2.Used ∧ (use device).2.statusDelayReads = 0) :
    (entrance.operate operation use).2.Prompt := by
  cases hdevice : entrance.devices operation.2.1 with
  | none =>
      unfold G301EntranceSimulator.operate G301EntranceSimulator.device
      rw [hdevice]
      exact h
  | some found =>
      rw [operate_present hdevice]
      intro slave device hslave
      dsimp only at hslave
      by_cases hsame : slave = operation.2.1
      · subst hsame
        rw [Function.update_self] at hslave
        cases hslave
        obtain ⟨hused, hdelay⟩ := h _ found hdevice
        exact huse found hused hdelay
      · rw [Function.update_of_ne hsame] at hslave
        exact h slave device hslave

theorem registers_elsewhere {α : Type} {operation : EntranceOperation} {other : ℕ}
    {use : G301RegisterSimulator → Except ClientFailure α × G301RegisterSimulator}
    (hne : other ≠ operation.2.1) :
    (entrance.operate operation use).2.registers other = entrance.registers other := by
  unfold registers
  rw [operate_elsewhere hne]

theorem Prompt.read_keeps (h : entrance.Prompt) {count other : ℕ} :
    (entrance.readHoldingRegisters slaveAddress address count).2.registers other =
      entrance.registers other := by
  by_cases hsame : other = slaveAddress
  · subst hsame
    cases hdevice : entrance.devices other with
    | none =>
        unfold registers readHoldingRegisters G301EntranceSimulator.operate G301EntranceSimulator.device
        simp only [hdevice]
    | some device =>
        obtain ⟨hused, hdelay⟩ := h _ device hdevice
        unfold registers readHoldingRegisters
        rw [operate_present hdevice,
          G301RegisterSimulator.readHoldingRegisters_prompt hused.pendingLeft hdelay]
        simp only [Function.update_self, hdevice]
  · exact registers_elsewhere hsame

theorem read_shows {count : ℕ} {values : List ℤ}
    (h : (entrance.readHoldingRegisters slaveAddress address count).1 = .ok values) :
    values = (List.range' address count).map (entrance.registers slaveAddress) := by
  cases hdevice : entrance.devices slaveAddress with
  | none => simp [readHoldingRegisters, operate, G301EntranceSimulator.device, hdevice] at h
  | some device =>
      unfold readHoldingRegisters at h
      rw [operate_present hdevice] at h
      unfold registers
      rw [hdevice]
      exact G301RegisterSimulator.readHoldingRegisters_shows h

end G301EntranceSimulator

end ClockOrchestrator
