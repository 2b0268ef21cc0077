import ClockOrchestrator.G301Adapter.BusSimulation
import ClockOrchestrator.G301Adapter.EntranceSimulator
import ClockOrchestrator.Guarantees.DelayedDevice
import ClockOrchestrator.Guarantees.RoomIndependence

namespace ClockOrchestrator

open Python Procedure

variable {T F : Type}

def entranceEnvironment (clock : T → Instant × T) (pause : T → ℚ → T) :
    G301Environment (G301EntranceSimulator × T) where
  writeRegister := fun e slaveAddress address value =>
    ((e.1.writeRegister slaveAddress address value).1,
      ((e.1.writeRegister slaveAddress address value).2, e.2))
  readHoldingRegisters := fun e slaveAddress address count =>
    ((e.1.readHoldingRegisters slaveAddress address count).1,
      ((e.1.readHoldingRegisters slaveAddress address count).2, e.2))
  clock := fun e => ((clock e.2).1, (e.1, (clock e.2).2))
  sleep := fun e seconds => (false, (e.1, pause e.2 seconds))

def Interaction.operation : Interaction → Option EntranceOperation
  | .write slaveAddress address _ _ => some (.write, slaveAddress, address)
  | .read slaveAddress address _ _ => some (.read, slaveAddress, address)
  | .clock _ => none

structure Attached (entrance : G301EntranceSimulator) (slaveAddress : ℕ)
    (e : G301EntranceSimulator × T) (e' : G301RegisterSimulator × T) (notes : List Interaction) :
    Prop where
  devices : e.1.devices = Function.update entrance.devices slaveAddress (some e'.1)
  operations : e.1.operations = entrance.operations ++ notes.filterMap Interaction.operation
  world : e.2 = e'.2

theorem Attached.operate {entrance : G301EntranceSimulator} {slaveAddress : ℕ} {α : Type}
    {e : G301EntranceSimulator × T} {e' : G301RegisterSimulator × T} {notes : List Interaction}
    {operation : EntranceOperation} {n : Interaction}
    {use : G301RegisterSimulator → Except ClientFailure α × G301RegisterSimulator}
    (h : Attached entrance slaveAddress e e' notes) (hslave : operation.2.1 = slaveAddress)
    (hn : n.operation = some operation) :
    (e.1.operate operation use).1 = (use e'.1).1 ∧
      Attached entrance slaveAddress ((e.1.operate operation use).2, e.2) ((use e'.1).2, e'.2)
        (notes ++ [n]) := by
  subst hslave
  have hdevice : e.1.devices operation.2.1 = some e'.1 := by
    rw [h.devices, Function.update_self]
  rw [G301EntranceSimulator.operate_present hdevice]
  refine ⟨rfl, ?_, ?_, h.world⟩
  · rw [h.devices, Function.update_idem]
  · rw [h.operations, List.append_assoc, List.filterMap_append]
    simp [hn]

theorem attached_answersAlike (clock : T → Instant × T) (pause : T → ℚ → T)
    (entrance : G301EntranceSimulator) (slaveAddress : ℕ) :
    AnswersAlike (entranceEnvironment clock pause) (simulatorEnvironment clock pause)
      (Attached entrance slaveAddress) slaveAddress where
  write h address value := h.operate rfl rfl
  read h address count := h.operate rfl rfl
  clock h := by
    obtain ⟨hdevices, hoperations, hworld⟩ := h
    dsimp only [entranceEnvironment, simulatorEnvironment]
    rw [hworld]
    exact ⟨rfl, hdevices, by simp [hoperations, Interaction.operation], rfl⟩
  sleep h seconds := by
    obtain ⟨hdevices, hoperations, hworld⟩ := h
    dsimp only [entranceEnvironment, simulatorEnvironment]
    rw [hworld]
    exact ⟨rfl, hdevices, hoperations, rfl⟩

variable [DecidableEq F] {w : G301EntranceWorker F} {clock : T → Instant × T} {pause : T → ℚ → T}

structure SameCall {E E' : Type} (c : CallRecord E F) (c' : CallRecord E' F) : Prop where
  result : c.result = c'.result
  intentStates : c.after.intentStates = c'.after.intentStates
  slaveFailures : c.after.slaveFailures = c'.after.slaveFailures
  moments : c.after.moments = c'.after.moments

theorem call_alike {E E' : Type} {env : G301Environment E} {env' : G301Environment E'}
    {rel : E → E' → List Interaction → Prop} {slaveAddress : ℕ} {s : WorkerState E F}
    {t : WorkerState E' F} {intent : DesiredRoomIntent}
    (h : AnswersAlike env env' rel slaveAddress)
    (hslave : w.roomSlaveAddresses.lookup intent.roomKey = some slaveAddress)
    (hs : Mirrors rel slaveAddress intent.roomKey s.atRest t.atRest) :
    SameCall (callRecord w env s intent) (callRecord w env' t intent) ∧
      rel (callRecord w env s intent).after.env (callRecord w env' t intent).after.env
        (callRecord w env s intent).interactions := by
  obtain ⟨u, hu, hmirrors, -⟩ := applyIntent_mirrored h w hslave hs (callRecord_ends w env s intent)
  obtain ⟨hresult, hafter⟩ := Prod.mk.inj ((callRecord_ends w env' t intent).symm.trans hu)
  rw [← hafter] at hmirrors
  exact ⟨⟨hresult.symm, hmirrors.intentStates, hmirrors.slaveFailures, hmirrors.moments⟩,
    hmirrors.env⟩

def alone (s : WorkerState (G301EntranceSimulator × T) F) (unit : G301RegisterSimulator) :
    WorkerState (G301RegisterSimulator × T) F :=
  { s with env := (unit, s.env.2) }

variable (clock pause) in
theorem call_alone {s : WorkerState (G301EntranceSimulator × T) F} {intent : DesiredRoomIntent}
    {slaveAddress : ℕ} {unit : G301RegisterSimulator}
    (hslave : w.roomSlaveAddresses.lookup intent.roomKey = some slaveAddress)
    (haddressed : Addressed slaveAddress (s.intentStates intent.roomKey))
    (hunit : s.env.1.devices slaveAddress = some unit) :
    SameCall (callRecord w (entranceEnvironment clock pause) s intent)
        (callRecord w (simulatorEnvironment clock pause) (alone s unit) intent) ∧
      Attached s.env.1 slaveAddress
        (callRecord w (entranceEnvironment clock pause) s intent).after.env
        (callRecord w (simulatorEnvironment clock pause) (alone s unit) intent).after.env
        (callRecord w (entranceEnvironment clock pause) s intent).interactions := by
  refine call_alike (attached_answersAlike clock pause s.env.1 slaveAddress) hslave
    ⟨⟨?_, (List.append_nil _).symm, rfl⟩, rfl, rfl, rfl, haddressed⟩
  change s.env.1.devices = Function.update s.env.1.devices slaveAddress (some unit)
  rw [← hunit, Function.update_eq_self]

theorem entrance_serves_each_unit_alone (w : G301EntranceWorker F) (clock : T → Instant × T)
    (pause : T → ℚ → T) (entrance : G301EntranceSimulator) (x : T)
    (intents : List DesiredRoomIntent) {c : CallRecord (G301EntranceSimulator × T) F}
    (hc : c ∈ (history w (entranceEnvironment clock pause) (entrance, x) intents).calls)
    {slaveAddress : ℕ} {unit : G301RegisterSimulator}
    (hslave : w.roomSlaveAddresses.lookup c.intent.roomKey = some slaveAddress)
    (hunit : c.before.env.1.devices slaveAddress = some unit) :
    SameCall c (callRecord w (simulatorEnvironment clock pause) (alone c.before unit) c.intent) ∧
      Attached c.before.env.1 slaveAddress c.after.env
        (callRecord w (simulatorEnvironment clock pause) (alone c.before unit) c.intent).after.env
        c.interactions := by
  obtain ⟨before, after, hcalls⟩ := List.append_of_mem hc
  obtain ⟨earlier, -, hrecord⟩ := history_split hcalls
  have haddressed := history_addressed w (entranceEnvironment clock pause) (entrance, x) earlier
    hslave
  rw [hrecord] at hunit ⊢
  exact call_alone clock pause hslave haddressed hunit

def demoUnits : G301EntranceSimulator := .create fun slaveAddress =>
  if slaveAddress = 7 ∨ slaveAddress = 8 then some ⟨slaveAddress, 0, defaultRegisters, fun _ => none⟩
  else none

def demoUnitsCall : CallRecord (G301EntranceSimulator × Unit) IntentPayload :=
  callRecord demoEntranceWorker (entranceEnvironment (fun _ => (0, ())) fun _ _ => ())
    (.initial _ (demoUnits, ())) (demoOff "214")

theorem demo_units_kept_apart : demoUnitsCall.after.env.1.devices 8 = demoUnits.devices 8 := by
  have hmem : demoUnitsCall ∈ (history demoEntranceWorker
      (entranceEnvironment (fun _ => (0, ())) fun _ _ => ()) (demoUnits, ())
      [demoOff "214"]).calls := List.mem_singleton_self _
  obtain ⟨-, hattached⟩ := entrance_serves_each_unit_alone demoEntranceWorker _ _ _ _ _ hmem
    (show _ = some 7 from rfl) (show _ = some _ from rfl)
  rw [hattached.devices]
  exact Function.update_of_ne (by decide) _ _

end ClockOrchestrator
