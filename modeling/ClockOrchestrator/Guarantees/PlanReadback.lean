import ClockOrchestrator.G301Adapter.EntranceSimulator
import ClockOrchestrator.Guarantees.DelayedDevice

namespace ClockOrchestrator

open Python G301RegisterSimulator

variable {sim : G301RegisterSimulator} {slaveAddress : ℕ} {intent : DesiredRoomIntent}
  {plan : G301Plan} {profile : G301DeviceProfile}

theorem writeEach_ok {writes : List RegisterWrite} (hslave : slaveAddress = sim.slaveAddress)
    (hwords : ∀ write ∈ writes, 0 ≤ write.value ∧ write.value ≤ 0xFFFF) :
    sim.writeEach slaveAddress writes = (.ok (), sim.applyWrites writes) := by
  induction writes generalizing sim with
  | nil => rfl
  | cons write rest ih =>
      have hword := hwords write (by simp)
      have hone : sim.writeRegister slaveAddress write.address write.value =
          (.ok (), sim.applyWrite write) := by
        simp [writeRegister, applyWrite, hslave, hword]
      have hsame : slaveAddress = (sim.applyWrite write).slaveAddress :=
        hslave.trans (applyWrites_slaveAddress [write]).symm
      rw [writeEach, hone]
      exact ih hsame fun later hlater => hwords later (by simp [hlater])

theorem readEach_ok {expectations : List ReadbackExpectation} {observed : Observed}
    (hslave : slaveAddress = sim.slaveAddress) (hnodup : (expectations.map (·.address)).Nodup) :
    sim.readEach slaveAddress expectations observed =
      (.ok (recordObserved observed expectations (expectations.map (sim.registers ·.address))),
        (expectations.map (·.address)).foldl advanceStatus sim) := by
  induction expectations generalizing sim observed with
  | nil => rfl
  | cons expectation rest ih =>
      obtain ⟨hfresh, hnodup⟩ := List.nodup_cons.mp hnodup
      have hone : sim.readHoldingRegisters slaveAddress expectation.address 1 =
          (.ok [sim.registers expectation.address], sim.advanceStatus expectation.address) := by
        simp [readHoldingRegisters, advancePendingStatus, hslave]
      have hsame : slaveAddress = (sim.advanceStatus expectation.address).slaveAddress :=
        hslave.trans advanceStatus_slaveAddress.symm
      have hrest : (rest.map ((sim.advanceStatus expectation.address).registers ·.address)) =
          rest.map (sim.registers ·.address) := by
        refine List.map_congr_left fun e he => congrArg Prod.fst (advanceStatus_elsewhere ?_)
        intro heq
        exact hfresh (List.mem_map.mpr ⟨e, he, heq⟩)
      rw [readEach, hone]
      dsimp only
      rw [ih hsame hnodup, hrest]
      rfl

theorem apply_plan_confirms (hused : sim.Used)
    {capabilities limitation upper lower : ℤ}
    (hprofile : buildDeviceProfile capabilities limitation upper lower = .ok profile)
    (hplan : planRoomIntent intent sim.slaveAddress (some profile) = .ok plan) :
    ∃ observed, (sim.applyPlan plan).1 = .ok observed ∧
      (compareReadback plan observed = [] ↔
        sim.statusDelayReads = 0 ∨ AlreadyShows sim plan) ∧
      ∀ write ∈ plan.writes, (sim.applyPlan plan).2.snapshot write.address = write.value := by
  have hof : PlanOf intent sim.slaveAddress plan := ⟨_, hplan⟩
  have hcells := planned_cells hplan hused.pendingLeft
  have hexpectations : plan.readbackExpectations = plan.writes.map readbackExpectation := by
    rw [hof.eq_planOfWrites]
    rfl
  have hwrites : sim.writeEach plan.slaveAddress plan.writes =
      (.ok (), sim.applyWrites plan.writes) :=
    writeEach_ok hof.slaveAddress_eq (planned_words hplan (buildDeviceProfile_limits hprofile))
  have hslave : plan.slaveAddress = (sim.applyWrites plan.writes).slaveAddress :=
    hof.slaveAddress_eq.trans (applyWrites_slaveAddress plan.writes).symm
  have happlied : sim.applyPlan plan =
      (.ok (recordObserved (fun _ => none) plan.readbackExpectations
          (plan.readbackExpectations.map ((sim.applyWrites plan.writes).registers ·.address))),
        (plan.readbackExpectations.map (·.address)).foldl advanceStatus
          (sim.applyWrites plan.writes)) := by
    rw [applyPlan, if_neg (not_not.mpr hof.slaveAddress_eq), hwrites]
    exact readEach_ok hslave hof.readback_nodup
  rw [happlied]
  refine ⟨_, rfl, ?_, fun write hwrite => ?_⟩
  · rw [compareReadback_eq_nil, recordObserved_matches hof.readback_nodup (by simp),
      List.map_inj_left, ← Nat.lt_one_iff, ← delayOf_lt_iff le_rfl]
    refine forall₂_congr fun e he => ?_
    rw [hexpectations] at he
    obtain ⟨write, hwrite, rfl⟩ := List.mem_map.mp he
    have hshown := congrArg Prod.fst (hcells write hwrite).1
    change (sim.applyWrites plan.writes).registers (readbackExpectation write).address =
      (awaiting _ _ _).1 at hshown
    rw [hshown, readbackExpectation_expected, awaiting_shows, Nat.lt_one_iff]
  · have hset : Steady write.value ((sim.applyWrites plan.writes).cell write.address) := by
      rw [(hcells write hwrite).2]
      exact ⟨rfl, nofun⟩
    exact (hset.advanceStatuses _).1

theorem heating_is_not_confirmed_late :
    ∃ observed, ((demoLagging 1).env.1.applyPlan demoHeatPlan).1 = .ok observed ∧
      compareReadback demoHeatPlan observed ≠ [] := by
  have hused : (demoLagging 1).env.1.Used :=
    .write 7 _ 1 (@Used.created 7 [] 1 ⟨7, 1, defaultRegisters, fun _ => none⟩ (by simp [create]))
  have hprofile : buildDeviceProfile 0 0 31 16 = .ok ⟨parseCapabilities 0, .none, 16, 31⟩ := rfl
  obtain ⟨observed, hobserved, hiff, -⟩ :=
    apply_plan_confirms hused hprofile
      (show planRoomIntent demoHeat 7 _ = .ok demoHeatPlan by decide +kernel)
  refine ⟨observed, hobserved, fun hnone => ?_⟩
  rcases hiff.mp hnone with hdelay | hshows
  · exact absurd hdelay (by decide)
  · exact absurd (hshows ⟨G301Register.powerStatus.address, 1, "actual power status"⟩
      (by decide +kernel) (.inl rfl)) (by decide)

end ClockOrchestrator
