import ClockOrchestrator.G301Adapter.PlanFacts
import Mathlib.Logic.Function.Iterate

namespace ClockOrchestrator

open Python

structure PendingStatus where
  value : ℤ
  remainingReads : ℕ
  deriving DecidableEq, Repr

-- A register that was never set reads as 0.
structure G301RegisterSimulator where
  slaveAddress : ℕ
  statusDelayReads : ℕ
  registers : ℕ → ℤ
  pendingStatus : ℕ → Option PendingStatus

def g301DeviceOffline (slaveAddress : ℕ) : G301TransportError :=
  ⟨.deviceOffline, "G301 slave " ++ toString slaveAddress ++ " is not present", true⟩

def defaultRegisters : ℕ → ℤ := fun address =>
  if address = G301Register.setTemperature.address then 220
  else if address = G301Register.temperatureUpperLimit.address then 31
  else if address = G301Register.temperatureLowerLimit.address then 16
  else 0

namespace G301RegisterSimulator

def create (slaveAddress : ℕ) (initial : List (ℕ × ℤ)) (statusDelayReads : ℤ) :
    Except PyError G301RegisterSimulator :=
  if ¬ (1 ≤ slaveAddress ∧ slaveAddress ≤ 255) then
    .error (.valueError "G301 slave_address must be in the confirmed 1-255 range")
  else if statusDelayReads < 0 then
    .error (.valueError "status_delay_reads cannot be negative")
  else .ok {
    slaveAddress := slaveAddress
    statusDelayReads := statusDelayReads.toNat
    registers := initial.foldl (fun registers entry => Function.update registers entry.1 entry.2)
      defaultRegisters
    pendingStatus := fun _ => none }

def setRegister (sim : G301RegisterSimulator) (address : ℕ) (value : ℤ) : G301RegisterSimulator :=
  { sim with registers := Function.update sim.registers address value }

def setPending (sim : G301RegisterSimulator) (address : ℕ) (pending : Option PendingStatus) :
    G301RegisterSimulator :=
  { sim with pendingStatus := Function.update sim.pendingStatus address pending }

def setStatus (sim : G301RegisterSimulator) (address : ℕ) (value : ℤ) : G301RegisterSimulator :=
  if sim.statusDelayReads ≠ 0 then sim.setPending address (some ⟨value, sim.statusDelayReads⟩)
  else sim.setRegister address value

def mirrorControlToStatus (sim : G301RegisterSimulator) (address : ℕ) (value : ℤ) :
    G301RegisterSimulator :=
  if address = G301Register.power.address then
    sim.setStatus G301Register.powerStatus.address value
  else if address = G301Register.mode.address then
    sim.setStatus G301Register.modeStatus.address value
  else sim

def advanceStatus (sim : G301RegisterSimulator) (address : ℕ) : G301RegisterSimulator :=
  match sim.pendingStatus address with
  | none => sim
  | some pending =>
      if pending.remainingReads - 1 ≤ 0 then
        (sim.setRegister address pending.value).setPending address none
      else sim.setPending address (some ⟨pending.value, pending.remainingReads - 1⟩)

def advancePendingStatus (sim : G301RegisterSimulator) (address count : ℕ) :
    G301RegisterSimulator :=
  (List.range' address count).foldl advanceStatus sim

def readHoldingRegisters (sim : G301RegisterSimulator) (slaveAddress address count : ℕ) :
    Except ClientFailure (List ℤ) × G301RegisterSimulator :=
  if slaveAddress ≠ sim.slaveAddress then
    (.error (.transport (g301DeviceOffline slaveAddress)), sim)
  else if count < 1 then (.error (.valueError "count must be at least 1"), sim)
  else (.ok ((List.range' address count).map sim.registers),
    sim.advancePendingStatus address count)

def writeRegister (sim : G301RegisterSimulator) (slaveAddress address : ℕ) (value : ℤ) :
    Except ClientFailure Unit × G301RegisterSimulator :=
  if slaveAddress ≠ sim.slaveAddress then
    (.error (.transport (g301DeviceOffline slaveAddress)), sim)
  else if ¬ (0 ≤ value ∧ value ≤ 0xFFFF) then
    (.error (.valueError "Modbus register values must fit in one unsigned word"), sim)
  else (.ok (), (sim.setRegister address value).mirrorControlToStatus address value)

inductive Used : G301RegisterSimulator → Prop
  | created {slaveAddress : ℕ} {initial : List (ℕ × ℤ)} {statusDelayReads : ℤ}
      {sim : G301RegisterSimulator} :
      create slaveAddress initial statusDelayReads = .ok sim → Used sim
  | read {sim : G301RegisterSimulator} (slaveAddress address count : ℕ) :
      Used sim → Used (sim.readHoldingRegisters slaveAddress address count).2
  | write {sim : G301RegisterSimulator} (slaveAddress address : ℕ) (value : ℤ) :
      Used sim → Used (sim.writeRegister slaveAddress address value).2

def IsStatus (address : ℕ) : Prop :=
  address = G301Register.powerStatus.address ∨ address = G301Register.modeStatus.address

instance (address : ℕ) : Decidable (IsStatus address) := inferInstanceAs (Decidable (_ ∨ _))

def PendingLeft (sim : G301RegisterSimulator) : Prop :=
  ∀ address pending, sim.pendingStatus address = some pending →
    IsStatus address ∧ 1 ≤ pending.remainingReads ∧ pending.remainingReads ≤ sim.statusDelayReads

variable {sim : G301RegisterSimulator} {address other : ℕ} {value : ℤ}

section Fields

variable {pending : Option PendingStatus}

@[simp] theorem setRegister_pendingStatus :
    (sim.setRegister address value).pendingStatus = sim.pendingStatus := rfl

@[simp] theorem setRegister_registers :
    (sim.setRegister address value).registers = Function.update sim.registers address value := rfl

@[simp] theorem setRegister_statusDelayReads :
    (sim.setRegister address value).statusDelayReads = sim.statusDelayReads := rfl

@[simp] theorem setRegister_slaveAddress :
    (sim.setRegister address value).slaveAddress = sim.slaveAddress := rfl

@[simp] theorem setPending_registers :
    (sim.setPending address pending).registers = sim.registers := rfl

@[simp] theorem setPending_pendingStatus :
    (sim.setPending address pending).pendingStatus =
      Function.update sim.pendingStatus address pending := rfl

@[simp] theorem setPending_statusDelayReads :
    (sim.setPending address pending).statusDelayReads = sim.statusDelayReads := rfl

@[simp] theorem setPending_slaveAddress :
    (sim.setPending address pending).slaveAddress = sim.slaveAddress := rfl

end Fields

theorem PendingLeft.setPending {pending : Option PendingStatus} (h : sim.PendingLeft)
    (hpending : ∀ p, pending = some p →
      IsStatus address ∧ 1 ≤ p.remainingReads ∧ p.remainingReads ≤ sim.statusDelayReads) :
    (sim.setPending address pending).PendingLeft := by
  intro a p hp
  rw [setPending_pendingStatus] at hp
  by_cases ha : a = address
  · subst ha
    rw [Function.update_self] at hp
    exact hpending p hp
  · rw [Function.update_of_ne ha] at hp
    exact h a p hp

theorem PendingLeft.advanceStatus (h : sim.PendingLeft) : (sim.advanceStatus address).PendingLeft := by
  unfold G301RegisterSimulator.advanceStatus
  split
  · exact h
  · next pending hpending =>
      obtain ⟨hstatus, hpositive, hbound⟩ := h address pending hpending
      split
      · have hset : (sim.setRegister address pending.value).PendingLeft := h
        exact hset.setPending (by simp)
      · refine h.setPending ?_
        rintro _ ⟨⟩
        exact ⟨hstatus, by dsimp only; omega, by dsimp only; omega⟩

theorem PendingLeft.advancePendingStatus {count : ℕ} (h : sim.PendingLeft) :
    (sim.advancePendingStatus address count).PendingLeft := by
  unfold G301RegisterSimulator.advancePendingStatus
  induction count generalizing sim address with
  | zero => exact h
  | succ count ih =>
      rw [List.range'_succ, List.foldl_cons]
      exact ih h.advanceStatus

theorem PendingLeft.setStatus (h : sim.PendingLeft) (hstatus : IsStatus address) :
    (sim.setStatus address value).PendingLeft := by
  unfold G301RegisterSimulator.setStatus
  split
  · next hdelay =>
      refine h.setPending ?_
      rintro _ ⟨⟩
      exact ⟨hstatus, Nat.one_le_iff_ne_zero.mpr hdelay, le_rfl⟩
  · exact h

theorem PendingLeft.mirrorControlToStatus (h : sim.PendingLeft) :
    (sim.mirrorControlToStatus address value).PendingLeft := by
  unfold G301RegisterSimulator.mirrorControlToStatus
  split
  · exact h.setStatus (.inl rfl)
  · split
    · exact h.setStatus (.inr rfl)
    · exact h

theorem Used.pendingLeft (h : sim.Used) : sim.PendingLeft := by
  induction h with
  | created hcreated =>
      unfold create at hcreated
      split at hcreated
      · cases hcreated
      · split at hcreated
        · cases hcreated
        · cases hcreated
          intro address pending hpending
          cases hpending
  | read slaveAddress address count _ ih =>
      unfold readHoldingRegisters
      split
      · exact ih
      · split
        · exact ih
        · exact ih.advancePendingStatus
  | @write sim slaveAddress address value _ ih =>
      unfold writeRegister
      split
      · exact ih
      · split
        · exact ih
        · have hset : (sim.setRegister address value).PendingLeft := ih
          exact hset.mirrorControlToStatus

abbrev Cell := ℤ × Option PendingStatus

def cell (sim : G301RegisterSimulator) (address : ℕ) : Cell :=
  (sim.registers address, sim.pendingStatus address)

def Cell.read : Cell → Cell
  | (value, none) => (value, none)
  | (value, some pending) =>
      if pending.remainingReads - 1 ≤ 0 then (pending.value, none)
      else (value, some ⟨pending.value, pending.remainingReads - 1⟩)

theorem advanceStatus_cell : (sim.advanceStatus address).cell address = (sim.cell address).read := by
  unfold G301RegisterSimulator.advanceStatus cell
  cases hpending : sim.pendingStatus address with
  | none => simp [Cell.read, hpending]
  | some pending =>
      dsimp only [Cell.read]
      split
      · simp
      · simp

theorem advanceStatus_elsewhere (hne : other ≠ address) :
    (sim.advanceStatus address).cell other = sim.cell other := by
  unfold G301RegisterSimulator.advanceStatus cell
  split
  · rfl
  · split
    · simp [Function.update_of_ne hne]
    · simp [Function.update_of_ne hne]

@[simp] theorem advanceStatus_statusDelayReads :
    (sim.advanceStatus address).statusDelayReads = sim.statusDelayReads := by
  unfold G301RegisterSimulator.advanceStatus
  split
  · rfl
  · split
    · rfl
    · rfl

@[simp] theorem advanceStatus_slaveAddress :
    (sim.advanceStatus address).slaveAddress = sim.slaveAddress := by
  unfold G301RegisterSimulator.advanceStatus
  split
  · rfl
  · split
    · rfl
    · rfl

def awaiting (old value : ℤ) : ℕ → Cell
  | 0 => (value, none)
  | n + 1 => (old, some ⟨value, n + 1⟩)

theorem awaiting_read (old value : ℤ) (n : ℕ) :
    (awaiting old value n).read = awaiting old value (n - 1) := by
  cases n with
  | zero => rfl
  | succ n =>
      cases n with
      | zero => rfl
      | succ n => simp [awaiting, Cell.read]

theorem awaiting_shows {old : ℤ} {n : ℕ} :
    (awaiting old value n).1 = value ↔ n = 0 ∨ old = value := by
  cases n with
  | zero => simp [awaiting]
  | succ n => simp [awaiting]

theorem PendingLeft.settled (h : sim.PendingLeft) (hstatus : ¬ IsStatus address) :
    sim.pendingStatus address = none := by
  by_contra hne
  obtain ⟨pending, hpending⟩ := Option.ne_none_iff_exists'.mp hne
  exact hstatus (h address pending hpending).1

theorem PendingLeft.prompt (h : sim.PendingLeft) (hdelay : sim.statusDelayReads = 0) :
    sim.pendingStatus address = none := by
  by_contra hne
  obtain ⟨pending, hpending⟩ := Option.ne_none_iff_exists'.mp hne
  have hbounds := (h address pending hpending).2
  omega

theorem advanceStatus_settled (h : sim.pendingStatus address = none) :
    sim.advanceStatus address = sim := by
  unfold G301RegisterSimulator.advanceStatus
  rw [h]

theorem advancePendingStatus_settled {count : ℕ}
    (h : ∀ other ∈ List.range' address count, sim.pendingStatus other = none) :
    sim.advancePendingStatus address count = sim := by
  unfold G301RegisterSimulator.advancePendingStatus
  induction count generalizing address with
  | zero => rfl
  | succ count ih =>
      rw [List.range'_succ] at h ⊢
      rw [List.foldl_cons, advanceStatus_settled (h address (by simp))]
      exact ih fun other hother => h other (by simp [hother])

def applyWrite (sim : G301RegisterSimulator) (write : RegisterWrite) : G301RegisterSimulator :=
  (sim.setRegister write.address write.value).mirrorControlToStatus write.address write.value

def applyWrites (sim : G301RegisterSimulator) (writes : List RegisterWrite) :
    G301RegisterSimulator :=
  writes.foldl applyWrite sim

def delayOf (sim : G301RegisterSimulator) (address : ℕ) : ℕ :=
  if IsStatus address then sim.statusDelayReads else 0

theorem planned_cells {intent : DesiredRoomIntent} {slaveAddress : ℕ}
    {profile : Option G301DeviceProfile} {plan : G301Plan}
    (hplan : planRoomIntent intent slaveAddress profile = .ok plan) (h : sim.PendingLeft) :
    ∀ write ∈ plan.writes,
      (sim.applyWrites plan.writes).cell (readbackExpectation write).address =
        awaiting (sim.registers (readbackExpectation write).address) write.value
          (sim.delayOf (readbackExpectation write).address) ∧
      (sim.applyWrites plan.writes).cell write.address = (write.value, none) := by
  have hpower : sim.pendingStatus G301Register.power.address = none := h.settled (by decide)
  have hmode : sim.pendingStatus G301Register.mode.address = none := h.settled (by decide)
  have htarget : sim.pendingStatus G301Register.setTemperature.address = none :=
    h.settled (by decide)
  simp only [G301Register.address] at hpower hmode htarget
  cases hdelay : sim.statusDelayReads with
  | zero =>
      have hpowerStatus : sim.pendingStatus G301Register.powerStatus.address = none :=
        h.prompt hdelay
      have hmodeStatus : sim.pendingStatus G301Register.modeStatus.address = none :=
        h.prompt hdelay
      simp only [G301Register.address] at hpowerStatus hmodeStatus
      rcases planRoomIntent_cases hplan with ⟨-, rfl⟩ | ⟨mode, found, target, -, -, -, -, -, rfl⟩
      · simp [planOfWrites, applyWrites, applyWrite, mirrorControlToStatus, setStatus, cell,
          readbackExpectation, awaiting, delayOf, G301Register.address, Function.update_apply, hdelay,
          hpower, hpowerStatus]
      · simp [planOfWrites, applyWrites, applyWrite, mirrorControlToStatus, setStatus, cell,
          readbackExpectation, awaiting, delayOf, G301Register.address, Function.update_apply, hdelay,
          hpower, hmode, htarget, hpowerStatus, hmodeStatus]
  | succ d =>
      rcases planRoomIntent_cases hplan with ⟨-, rfl⟩ | ⟨mode, found, target, -, -, -, -, -, rfl⟩
      · simp [planOfWrites, applyWrites, applyWrite, mirrorControlToStatus, setStatus, cell,
          readbackExpectation, awaiting, delayOf, IsStatus, G301Register.address,
          Function.update_apply, hdelay, hpower]
      · simp [planOfWrites, applyWrites, applyWrite, mirrorControlToStatus, setStatus, cell,
          readbackExpectation, awaiting, delayOf, IsStatus, G301Register.address,
          Function.update_apply, hdelay, hpower, hmode, htarget]

theorem applyWrites_slaveAddress (writes : List RegisterWrite) :
    (sim.applyWrites writes).slaveAddress = sim.slaveAddress := by
  have hstatus : ∀ (sim : G301RegisterSimulator) (address : ℕ) (value : ℤ),
      (sim.setStatus address value).slaveAddress = sim.slaveAddress := by
    intro sim address value
    unfold setStatus
    split
    · rfl
    · rfl
  unfold applyWrites
  induction writes generalizing sim with
  | nil => rfl
  | cons write rest ih =>
      rw [List.foldl_cons, ih]
      unfold applyWrite mirrorControlToStatus
      split
      · exact hstatus _ _ _
      · split
        · exact hstatus _ _ _
        · rfl

theorem advanceStatuses_elsewhere {addresses : List ℕ} (h : other ∉ addresses) :
    (addresses.foldl advanceStatus sim).cell other = sim.cell other := by
  induction addresses generalizing sim with
  | nil => rfl
  | cons address rest ih =>
      obtain ⟨hne, hrest⟩ := not_or.mp (mt List.mem_cons.mpr h)
      exact (ih hrest).trans (advanceStatus_elsewhere hne)

theorem advanceStatuses_cell {addresses : List ℕ} (hnodup : addresses.Nodup)
    (h : other ∈ addresses) :
    (addresses.foldl advanceStatus sim).cell other = (sim.cell other).read := by
  induction addresses generalizing sim with
  | nil => cases h
  | cons address rest ih =>
      obtain ⟨hfresh, hnodup⟩ := List.nodup_cons.mp hnodup
      rw [List.foldl_cons]
      by_cases hsame : other = address
      · subst hsame
        rw [advanceStatuses_elsewhere hfresh, advanceStatus_cell]
      · rw [ih hnodup ((List.mem_cons.mp h).resolve_left hsame), advanceStatus_elsewhere hsame]

theorem advanceStatuses_slaveAddress (addresses : List ℕ) :
    (addresses.foldl advanceStatus sim).slaveAddress = sim.slaveAddress := by
  induction addresses generalizing sim with
  | nil => rfl
  | cons address rest ih => rw [List.foldl_cons, ih, advanceStatus_slaveAddress]

def Steady (value : ℤ) (cell : Cell) : Prop :=
  cell.1 = value ∧ ∀ pending, cell.2 = some pending → pending.value = value

theorem Steady.read {cell : Cell} (h : Steady value cell) : Steady value cell.read := by
  obtain ⟨shown, pending⟩ := cell
  cases pending with
  | none => exact h
  | some pending =>
      have hvalue := h.2 pending rfl
      dsimp only [Cell.read]
      split
      · exact ⟨hvalue, by simp⟩
      · refine ⟨h.1, ?_⟩
        rintro _ ⟨⟩
        exact hvalue

theorem steady_awaiting {old : ℤ} {n : ℕ} (h : n = 0 ∨ old = value) :
    Steady value (awaiting old value n) := by
  refine ⟨awaiting_shows.mpr h, ?_⟩
  cases n with
  | zero => simp [awaiting]
  | succ n =>
      rintro _ ⟨⟩
      rfl

theorem Steady.advanceStatus (h : Steady value (sim.cell address)) (other : ℕ) :
    Steady value ((sim.advanceStatus other).cell address) := by
  by_cases hsame : address = other
  · subst hsame
    rw [advanceStatus_cell]
    exact h.read
  · rw [advanceStatus_elsewhere hsame]
    exact h

theorem Steady.advanceStatuses (h : Steady value (sim.cell address)) (others : List ℕ) :
    Steady value ((others.foldl G301RegisterSimulator.advanceStatus sim).cell address) := by
  induction others generalizing sim with
  | nil => exact h
  | cons other others ih => exact ih (h.advanceStatus other)

def afterReads (sim : G301RegisterSimulator) (reads : List (ℕ × ℕ)) : G301RegisterSimulator :=
  reads.foldl (fun sim range =>
    (sim.readHoldingRegisters sim.slaveAddress range.1 range.2).2) sim

theorem Steady.afterReads (h : Steady value (sim.cell address)) (reads : List (ℕ × ℕ)) :
    Steady value ((sim.afterReads reads).cell address) := by
  unfold G301RegisterSimulator.afterReads
  induction reads generalizing sim with
  | nil => exact h
  | cons range reads ih =>
      refine ih ?_
      dsimp only [readHoldingRegisters]
      rw [if_neg (not_not.mpr rfl)]
      split
      · exact h
      · exact h.advanceStatuses _

end G301RegisterSimulator

end ClockOrchestrator
