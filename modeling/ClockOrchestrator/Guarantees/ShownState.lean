import ClockOrchestrator.Guarantees.AppliedProof
import ClockOrchestrator.Guarantees.UnitsAlone

namespace ClockOrchestrator

open Python Procedure Emission

def Tells (shown : ℕ → ℤ) (slaveAddress : ℕ) (notes : List Interaction) : Prop :=
  ∀ pre post, notes = pre ++ post → (∀ n ∈ post, n.isWrite = false) →
    ∀ address count values, .read slaveAddress address count (.ok values) ∈ post →
      values = (List.range' address count).map shown

section Tells

variable {shown : ℕ → ℤ} {slaveAddress : ℕ} {notes : List Interaction} {n : Interaction}

theorem Tells.nil : Tells shown slaveAddress [] := by
  intro pre post hsplit _ address count values hmem
  obtain ⟨-, rfl⟩ := List.append_eq_nil_iff.mp hsplit.symm
  cases hmem

theorem Tells.write (hwrite : n.isWrite = true) : Tells shown slaveAddress (notes ++ [n]) := by
  intro pre post hsplit hquiet address count values hmem
  rcases List.eq_nil_or_concat post with rfl | ⟨between, last, rfl⟩
  · cases hmem
  · rw [List.concat_eq_append, ← List.append_assoc] at hsplit
    obtain ⟨-, hlast⟩ := List.append_inj' hsplit rfl
    have hsilent := hquiet last (by simp)
    rw [← (List.cons.inj hlast).1, hwrite] at hsilent
    cases hsilent

theorem Tells.note (h : Tells shown slaveAddress notes)
    (hn : ∀ address count values, n = .read slaveAddress address count (.ok values) →
      values = (List.range' address count).map shown) :
    Tells shown slaveAddress (notes ++ [n]) := by
  intro pre post hsplit hquiet address count values hmem
  rcases List.eq_nil_or_concat post with rfl | ⟨between, last, rfl⟩
  · cases hmem
  · rw [List.concat_eq_append] at hsplit hquiet hmem
    rw [← List.append_assoc] at hsplit
    obtain ⟨hnotes, hlast⟩ := List.append_inj' hsplit rfl
    obtain ⟨rfl, -⟩ := List.cons.inj hlast
    rcases List.mem_append.mp hmem with hmem | hmem
    · exact h pre between hnotes (fun m hm => hquiet m (by simp [hm])) _ _ _ hmem
    · exact hn _ _ _ (List.mem_singleton.mp hmem).symm

theorem Readback.values_shown {expectations : List ReadbackExpectation} {values : List ℤ}
    (h : Readback slaveAddress expectations notes values)
    (htells : ∀ address count answered, .read slaveAddress address count (.ok answered) ∈ notes →
      answered = (List.range' address count).map shown) :
    values = expectations.map fun e => shown e.address := by
  induction h with
  | nil => rfl
  | @cons e rest failures value notes values _ ih =>
      have hvalue := htells e.address 1 [value] (by simp)
      rw [List.map_cons, ih fun address count answered hmem =>
        htells address count answered (by simp [hmem])]
      exact congrArg₂ List.cons (List.cons.inj hvalue).1 rfl

theorem ShowsMatch.registers_shown {plan : G301Plan} (h : ShowsMatch slaveAddress plan notes)
    (htells : Tells shown slaveAddress notes) :
    ∀ e ∈ plan.readbackExpectations, shown e.address = e.expected := by
  obtain ⟨pre, readback, post, rfl, hread, hquiet⟩ := h
  have hvalues := hread.values_shown fun address count answered hmem =>
    htells pre (readback ++ post) (List.append_assoc ..) hquiet address count answered
      (List.mem_append_left _ hmem)
  exact fun e he => (List.map_inj_left.mp hvalues e he).symm

end Tells

variable {E F : Type} {env : G301Environment E} {registers : ℕ → E → ℕ → ℤ} {sane : E → Prop}

-- A bus of units that hold registers. An answered read shows what the unit holds, and no operation on
-- one unit changes another one; requests and answers may be lost.
structure HoldsRegisters (env : G301Environment E) (registers : ℕ → E → ℕ → ℤ)
    (sane : E → Prop) : Prop where
  write_elsewhere : ∀ {e}, sane e → ∀ {slave other}, other ≠ slave → ∀ address value,
    registers other (env.writeRegister e slave address value).2 = registers other e
  write_sane : ∀ {e}, sane e → ∀ slave address value,
    sane (env.writeRegister e slave address value).2
  read_shows : ∀ {e}, sane e → ∀ slave address count values,
    (env.readHoldingRegisters e slave address count).1 = .ok values →
      values = (List.range' address count).map (registers slave e)
  read_keeps : ∀ {e}, sane e → ∀ slave address count other,
    registers other (env.readHoldingRegisters e slave address count).2 = registers other e
  read_sane : ∀ {e}, sane e → ∀ slave address count,
    sane (env.readHoldingRegisters e slave address count).2
  clock_keeps : ∀ e slave, registers slave (env.clock e).2 = registers slave e
  clock_sane : ∀ {e}, sane e → sane (env.clock e).2
  sleep_keeps : ∀ e seconds slave, registers slave (env.sleep e seconds).2 = registers slave e
  sleep_sane : ∀ {e}, sane e → ∀ seconds, sane (env.sleep e seconds).2

structure Observes (registers : ℕ → E → ℕ → ℤ) (sane : E → Prop) (slaveAddress : ℕ) (first : E)
    (e e' : E) (notes : List Interaction) : Prop where
  same : e = e'
  sane : sane e
  tells : Tells (registers slaveAddress e) slaveAddress notes
  kept : (∀ n ∈ notes, n.isWrite = false) → registers slaveAddress e = registers slaveAddress first
  elsewhere : ∀ other, other ≠ slaveAddress → registers other e = registers other first

theorem Observes.quiet {slaveAddress : ℕ} {first e e' after : E} {notes : List Interaction}
    {n : Interaction} (h : Observes registers sane slaveAddress first e e' notes)
    (hsane : sane after) (hkeeps : ∀ slave, registers slave after = registers slave e)
    (hn : ∀ address count values, n = .read slaveAddress address count (.ok values) →
      values = (List.range' address count).map (registers slaveAddress e)) :
    Observes registers sane slaveAddress first after after (notes ++ [n]) where
  same := rfl
  sane := hsane
  tells := by
    rw [hkeeps]
    exact h.tells.note hn
  kept hquiet := (hkeeps _).trans (h.kept fun m hm => hquiet m (by simp [hm]))
  elsewhere other hne := (hkeeps other).trans (h.elsewhere other hne)

theorem HoldsRegisters.observed (h : HoldsRegisters env registers sane) (slaveAddress : ℕ)
    (first : E) : AnswersAlike env env (Observes registers sane slaveAddress first) slaveAddress where
  write hobserves address value := by
    obtain rfl := hobserves.same
    refine ⟨rfl, rfl, h.write_sane hobserves.sane _ _ _, .write rfl, fun hquiet => ?_,
      fun other hne => (h.write_elsewhere hobserves.sane hne _ _).trans (hobserves.elsewhere other hne)⟩
    cases hquiet _ (List.mem_append_right _ (List.mem_singleton_self _))
  read hobserves address count := by
    obtain rfl := hobserves.same
    refine ⟨rfl, hobserves.quiet (h.read_sane hobserves.sane _ _ _)
      (h.read_keeps hobserves.sane _ _ _) ?_⟩
    intro address' count' values hn
    obtain ⟨-, rfl, rfl, hanswer⟩ := Interaction.read.inj hn
    exact h.read_shows hobserves.sane _ _ _ _ hanswer
  clock hobserves := by
    obtain rfl := hobserves.same
    exact ⟨rfl, hobserves.quiet (h.clock_sane hobserves.sane) (h.clock_keeps _) nofun⟩
  sleep hobserves seconds := by
    obtain rfl := hobserves.same
    refine ⟨rfl, rfl, h.sleep_sane hobserves.sane _, ?_, fun hquiet => ?_, fun other hne => ?_⟩
    · rw [h.sleep_keeps]
      exact hobserves.tells
    · rw [h.sleep_keeps]
      exact hobserves.kept hquiet
    · rw [h.sleep_keeps]
      exact hobserves.elsewhere other hne

variable [DecidableEq F] {w : G301EntranceWorker F} {registry : RoomRegistry} {entranceKey : String}
  {settings : WorkerSettings} {zone : Zone} {fingerprint : IntentPayload → F}

theorem call_observed (h : HoldsRegisters env registers sane) {s : WorkerState E F}
    {intent : DesiredRoomIntent} {slaveAddress : ℕ}
    (hslave : w.roomSlaveAddresses.lookup intent.roomKey = some slaveAddress)
    (haddressed : Addressed slaveAddress (s.intentStates intent.roomKey)) (hsane : sane s.env) :
    Observes registers sane slaveAddress s.env (callRecord w env s intent).after.env
      (callRecord w env s intent).after.env (callRecord w env s intent).interactions :=
  (call_alike (h.observed slaveAddress s.env) hslave
    ⟨⟨rfl, hsane, .nil, fun _ => rfl, fun _ _ => rfl⟩, rfl, rfl, rfl, haddressed⟩).2

def ShowsVersion (w : G301EntranceWorker F) (registers : ℕ → E → ℕ → ℤ) (h : WorkerHistory E F)
    (roomKey : String) (version : ℕ) : Prop :=
  ∃ slaveAddress source plan, w.roomSlaveAddresses.lookup roomKey = some slaveAddress ∧
    h.received roomKey source ∧ source.intentVersion = version ∧
    PlanOf source slaveAddress plan ∧
    ∀ e ∈ plan.readbackExpectations, registers slaveAddress h.state.env e.address = e.expected

theorem ShowsVersion.call {h : WorkerHistory E F} {intent : DesiredRoomIntent} {roomKey : String}
    {version : ℕ} (hshows : ShowsVersion w registers h roomKey version)
    (hkept : ∀ slave, w.roomSlaveAddresses.lookup roomKey = some slave →
      registers slave (callRecord w env h.state intent).after.env = registers slave h.state.env) :
    ShowsVersion w registers (h.call w env intent) roomKey version := by
  obtain ⟨slave, source, plan, hslave, hreceived, hversion, hplan, hshown⟩ := hshows
  refine ⟨slave, source, plan, hslave, received_call hreceived, hversion, hplan, fun e he => ?_⟩
  rw [← hshown e he]
  exact congrFun (hkept slave hslave) _

omit [DecidableEq F] in
theorem version_of_fits {q : Progress F} {slaveAddress version : ℕ}
    {received : DesiredRoomIntent → Prop} {intent : DesiredRoomIntent}
    (h : Fits w slaveAddress received intent q) (hseen : q.state.lastSeenVersion = some version) :
    intent.intentVersion = version := by
  obtain ⟨hsound, a, ha, hmade, -⟩ := h
  rw [hsound.seen_eq ha, hmade.version] at hseen
  exact Option.some.inj hseen

theorem applied_is_shown
    (hw : createWorker registry entranceKey settings zone fingerprint = .ok w)
    (hbus : HoldsRegisters env registers sane) {e : E} (hsane : sane e)
    (intents : List DesiredRoomIntent) {roomKey : String} {version : ℕ}
    (hseen : ((history w env e intents).state.room roomKey).lastSeenVersion = some version)
    (happlied : ((history w env e intents).state.room roomKey).lastAppliedVersion = some version) :
    ShowsVersion w registers (history w env e intents) roomKey version := by
  revert roomKey version
  refine (history_rule (I := fun h => sane h.state.env ∧ ∀ {roomKey version},
    (h.state.room roomKey).lastSeenVersion = some version →
    (h.state.room roomKey).lastAppliedVersion = some version →
      ShowsVersion w registers h roomKey version) ⟨hsane, nofun⟩
    fun intents intent hconsistent ih => ?_).2
  obtain ⟨hsane, ih⟩ := ih
  have heffect := hconsistent.effect env intent
  cases hslave : w.roomSlaveAddresses.lookup intent.roomKey with
  | none =>
      have hrest := (callRecord_unconfigured env (history w env e intents).state hslave).2
      have hstate : ((history w env e intents).call w env intent).state =
          (history w env e intents).state.atRest := hrest
      rw [hstate]
      refine ⟨hsane, fun hseen happlied => (ih hseen happlied).call fun slave _ => ?_⟩
      rw [hrest]
      rfl
  | some slave =>
      have hobserved := call_observed hbus hslave
        (history_addressed w env e intents hslave) hsane
      refine ⟨hobserved.sane, fun {roomKey version} hseen happlied => ?_⟩
      by_cases hroom : roomKey = intent.roomKey
      · subst hroom
        rcases heffect.cases with ⟨hsame, hmoments, -⟩ | ⟨_, p, q, hslave', hopens, htakes, hreports⟩
        · have hsame : ((history w env e intents).call w env intent).state.room intent.roomKey =
              (history w env e intents).state.room intent.roomKey := hsame
          rw [hsame] at hseen happlied
          refine (ih hseen happlied).call fun other hother => ?_
          cases hslave.symm.trans hother
          refine hobserved.kept ?_
          rw [CallRecord.interactions, hmoments]
          simp [WorkerState.atRest]
        · cases hslave.symm.trans hslave'
          obtain ⟨labels, hpath, -, hlabels⟩ := htakes.interactions rfl
          have hp := hconsistent.fits env hslave hopens
          have hq := path_fits (received_own env) hpath hp
          have hafter : ((history w env e intents).call w env intent).state.room intent.roomKey =
              q.state := htakes.holds.eq_room
          rw [hafter] at hseen happlied
          obtain rfl := version_of_fits hq hseen
          obtain ⟨plan, a, hmade, ⟨-, source, hreceived, hfrom, hplan⟩, hmatch⟩ :=
            path_applied (received_own env) hpath hp hopens.not_settled
              ((hreports.applied_version hq).mp happlied)
          refine ⟨slave, source, plan, hslave, hreceived,
            hfrom.version.symm.trans hmade.version, hplan, ?_⟩
          rw [← hlabels] at hmatch
          exact hmatch.registers_shown hobserved.tells
      · have hsame : ((history w env e intents).call w env intent).state.room roomKey =
            (history w env e intents).state.room roomKey := heffect.room_elsewhere hroom
        rw [hsame] at hseen happlied
        refine (ih hseen happlied).call fun other hother => hobserved.elsewhere other ?_
        rintro rfl
        rw [createWorker_addresses hw] at hslave hother
        exact hroom ((lookup_given hother).unique (lookup_given hslave))

inductive Fate where
  | delivered
  | requestLost
  | answerLost
  deriving DecidableEq, Repr

def Fate.outcome {α : Type} (fate : Fate) (e : E) (operation : Except ClientFailure α × E) :
    Except ClientFailure α × E :=
  match fate with
  | .delivered => operation
  | .requestLost => (.error .timeout, e)
  | .answerLost => (.error .timeout, operation.2)

def unreliable (env : G301Environment E) (fates : ℕ → Fate) : G301Environment (E × ℕ) where
  writeRegister := fun e slaveAddress address value =>
    let outcome := (fates e.2).outcome e.1 (env.writeRegister e.1 slaveAddress address value)
    (outcome.1, outcome.2, e.2 + 1)
  readHoldingRegisters := fun e slaveAddress address count =>
    let outcome := (fates e.2).outcome e.1 (env.readHoldingRegisters e.1 slaveAddress address count)
    (outcome.1, outcome.2, e.2 + 1)
  clock := fun e => ((env.clock e.1).1, (env.clock e.1).2, e.2)
  sleep := fun e seconds => ((env.sleep e.1 seconds).1, (env.sleep e.1 seconds).2, e.2)

theorem Fate.outcome_cases {α : Type} {P : E → Prop} (fate : Fate) {e : E}
    {operation : Except ClientFailure α × E} (he : P e) (hoperation : P operation.2) :
    P (fate.outcome e operation).2 := by
  cases fate with
  | delivered => exact hoperation
  | requestLost => exact he
  | answerLost => exact hoperation

theorem Fate.outcome_ok {α : Type} {fate : Fate} {e : E} {operation : Except ClientFailure α × E}
    {value : α} (h : (fate.outcome e operation).1 = .ok value) : operation.1 = .ok value := by
  cases fate with
  | delivered => exact h
  | requestLost => cases h
  | answerLost => cases h

theorem HoldsRegisters.unreliable (h : HoldsRegisters env registers sane) (fates : ℕ → Fate) :
    HoldsRegisters (unreliable env fates) (fun slave e => registers slave e.1)
      fun e => sane e.1 where
  write_elsewhere {e} hsane {_ other} hne address value :=
    Fate.outcome_cases (P := fun after => registers other after = registers other e.1) _ rfl
      (h.write_elsewhere hsane hne address value)
  write_sane hsane _ _ _ := Fate.outcome_cases _ hsane (h.write_sane hsane _ _ _)
  read_shows hsane _ _ _ _ hanswer := h.read_shows hsane _ _ _ _ (Fate.outcome_ok hanswer)
  read_keeps {e} hsane slave address count other :=
    Fate.outcome_cases (P := fun after => registers other after = registers other e.1) _ rfl
      (h.read_keeps hsane slave address count other)
  read_sane hsane _ _ _ := Fate.outcome_cases _ hsane (h.read_sane hsane _ _ _)
  clock_keeps e slave := h.clock_keeps e.1 slave
  clock_sane hsane := h.clock_sane hsane
  sleep_keeps e seconds slave := h.sleep_keeps e.1 seconds slave
  sleep_sane hsane seconds := h.sleep_sane hsane seconds

theorem prompt_holdsRegisters {T : Type} (clock : T → Instant × T) (pause : T → ℚ → T) :
    HoldsRegisters (entranceEnvironment clock pause) (fun slave e => e.1.registers slave)
      fun e => e.1.Prompt where
  write_elsewhere {_} _ {_ _} hne _ _ := G301EntranceSimulator.registers_elsewhere hne
  write_sane hprompt slave address value := hprompt.operate fun device hused hdelay =>
    ⟨hused.write slave address value,
      (G301RegisterSimulator.writeRegister_statusDelayReads).trans hdelay⟩
  read_shows _ _ _ _ _ hanswer := G301EntranceSimulator.read_shows hanswer
  read_keeps hprompt _ _ _ _ := hprompt.read_keeps
  read_sane hprompt slave address count := hprompt.operate fun device hused hdelay => by
    rw [G301RegisterSimulator.readHoldingRegisters_prompt hused.pendingLeft hdelay]
    exact ⟨hused, hdelay⟩
  clock_keeps _ _ := rfl
  clock_sane hprompt := hprompt
  sleep_keeps _ _ _ := rfl
  sleep_sane hprompt _ := hprompt

theorem demoUnits_prompt : demoUnits.Prompt := by
  intro slave device hdevice
  have hslave : slave = 7 ∨ slave = 8 := by
    by_contra hne
    simp [demoUnits, G301EntranceSimulator.create, hne] at hdevice
  have hcreated : some device = some ⟨slave, 0, defaultRegisters, fun _ => none⟩ := by
    rw [← hdevice]
    exact if_pos hslave
  cases hcreated
  refine ⟨@G301RegisterSimulator.Used.created slave [] 0 _ ?_, rfl⟩
  rcases hslave with rfl | rfl
  · simp [G301RegisterSimulator.create]
  · simp [G301RegisterSimulator.create]

def demoTicking : G301Environment (G301EntranceSimulator × ℕ) :=
  entranceEnvironment (fun x => (10000000 * x, x + 1)) fun x _ => x

def demoLossy : G301Environment ((G301EntranceSimulator × ℕ) × ℕ) :=
  unreliable demoTicking fun n => if n = 0 then .answerLost else .delivered

theorem lost_answer_is_verified : ShowsVersion demoEntranceWorker
    (fun slave e => e.1.1.registers slave)
    (history demoEntranceWorker demoLossy ((demoUnits, 0), 0) [demoOff "214", demoOff "214"])
    "214" 1 := by
  have hw : createWorker demoMappings "entrance_b" {} sofiaWinterTime id =
      .ok demoEntranceWorker := by
    with_unfolding_all rfl
  exact applied_is_shown hw ((prompt_holdsRegisters _ _).unreliable _) demoUnits_prompt _
    (by decide +kernel) (by decide +kernel)

end ClockOrchestrator
