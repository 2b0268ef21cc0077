import ClockOrchestrator.G301Adapter.WorkerHistory

namespace ClockOrchestrator

open Python Procedure Emission

variable {E F : Type} {w : G301EntranceWorker F} {env : G301Environment E}
  {s t : WorkerState E F} {intent : DesiredRoomIntent} {slaveAddress : ℕ} {plan : G301Plan}
  {between : List (CallRecord E F)} {st : RoomIntentState F}

def Answered (w : G301EntranceWorker F) (slaveAddress : ℕ) (plan : G301Plan)
    (source : DesiredRoomIntent) (between : List (CallRecord E F)) (st : RoomIntentState F) : Prop :=
  ∀ a, st.currentAttempt = some a → a.version = source.intentVersion → a.MadeFrom w source ∧
    (a.phase = .terminal ∨
      ((a.phase = .writing ∨ a.phase = .verificationPending) ∧ a.plan = some plan) ∨
      ∃ k ∈ between, ShowsMismatch slaveAddress plan k.interactions)

theorem Answered.append {source : DesiredRoomIntent}
    (h : Answered w slaveAddress plan source between st) (c : CallRecord E F) :
    Answered w slaveAddress plan source (between ++ [c]) st := by
  intro a ha hversion
  obtain ⟨hmade, h⟩ := h a ha hversion
  refine ⟨hmade, ?_⟩
  rcases h with h | h | ⟨k, hk, hshows⟩
  · exact .inl h
  · exact .inr (.inl h)
  · exact .inr (.inr ⟨k, List.mem_append_left _ hk, hshows⟩)

theorem Answered.opens {source : DesiredRoomIntent} {p : Progress F}
    (h : Answered w slaveAddress plan source between st)
    (hseen : some source.intentVersion ≤ st.lastSeenVersion) (hopens : Opens w intent st p)
    (hversion : source.intentVersion = intent.intentVersion) :
    ∃ a, st.currentAttempt = some a ∧ a.MadeFrom w intent ∧ a.MadeFrom w source ∧
      ((∃ k ∈ between, ShowsMismatch slaveAddress plan k.interactions) ∨
        (a.phase = .writing ∨ a.phase = .verificationPending) ∧ a.plan = some plan ∧
          p = ⟨.verifying, st⟩) := by
  cases hopens with
  | fresh hnew =>
      obtain ⟨seen, hs, hle⟩ := some_le_iff.mp hseen
      exact absurd (hnew seen hs) (not_lt.mpr (hversion ▸ hle))
  | @retry a ha hmade hphase =>
      obtain ⟨hfrom, hleft⟩ := h a ha (hmade.version.trans hversion.symm)
      refine ⟨a, ha, hmade, hfrom, .inl ?_⟩
      rcases hleft with h | ⟨h, -⟩ | hshows
      · cases hphase.symm.trans h
      · simp [hphase] at h
      · exact hshows
  | @resume a ha hmade hphase =>
      obtain ⟨hfrom, hleft⟩ := h a ha (hmade.version.trans hversion.symm)
      refine ⟨a, ha, hmade, hfrom, ?_⟩
      rcases hleft with h | ⟨-, hplan⟩ | hshows
      · simp [h] at hphase
      · exact .inr ⟨hphase, hplan, rfl⟩
      · exact .inl hshows

theorem currentPlan_of_current {a : IntentAttempt F} (ha : st.currentAttempt = some a)
    (hplan : a.plan = some plan) : st.currentPlan = some plan := by
  rw [RoomIntentState.currentPlan, ha]
  exact hplan

theorem Answered.at_write {source : DesiredRoomIntent} {p q : Progress F}
    {dones rests : List (Interaction × RoomIntentState F)} {l : Interaction × RoomIntentState F}
    (h : Answered w slaveAddress plan source between st)
    (hseen : some source.intentVersion ≤ st.lastSeenVersion) (hopens : Opens w intent st p)
    (hversion : source.intentVersion = intent.intentVersion)
    (hpath : Path (AttemptStep intent slaveAddress) p (dones ++ l :: rests) q)
    (hwrite : l.1.isWrite = true) :
    intentFingerprint w source = intentFingerprint w intent ∧
      ((∃ k ∈ between, ShowsMismatch slaveAddress plan k.interactions) ∨
        ShowsMismatch slaveAddress plan (dones.map (·.1))) := by
  obtain ⟨a, ha, hmade, hfrom, hleft⟩ := h.opens hseen hopens hversion
  refine ⟨hfrom.fingerprint.symm.trans hmade.fingerprint, ?_⟩
  rcases hleft with hshows | ⟨-, hplan, rfl⟩
  · exact .inl hshows
  · exact .inr (path_rewrites hpath rfl (currentPlan_of_current ha hplan) hwrite)

section Call

variable {received : DesiredRoomIntent → Prop} {c : CallRecord E F}
  (h : CallEffect w c.intent c.before c.after c.result) (hreceived : received c.intent)
  (hsound : ∀ slaveAddress, w.roomSlaveAddresses.lookup c.intent.roomKey = some slaveAddress →
    c.roomBefore.Sound w slaveAddress received)
  (hmoments : c.before.moments = [])
include h hreceived hsound hmoments

theorem CallEffect.answersOwn (hwrite : ∃ m ∈ c.after.moments, m.interaction.isWrite = true) :
    ∃ slaveAddress plan, w.roomSlaveAddresses.lookup c.intent.roomKey = some slaveAddress ∧
      PlanOf c.intent slaveAddress plan ∧
      Answered w slaveAddress plan c.intent ([] : List (CallRecord E F)) c.roomAfter ∧
      ∀ m ∈ c.after.moments, m.interaction.isWrite = true → ∃ st,
        m.states c.intent.roomKey = some st ∧ WrittenUnder slaveAddress plan (m.interaction, st) := by
  rcases h.cases with ⟨-, hnone, -⟩ | ⟨slaveAddress, p, q, hslave, hopens, htakes, -⟩
  · obtain ⟨m, hm, -⟩ := hwrite
    rw [hnone, hmoments] at hm
    cases hm
  · obtain ⟨labels, hpath, hlabels, -⟩ := htakes.interactions hmoments
    have hafter : c.roomAfter = q.state := htakes.holds.eq_room
    rw [hlabels] at hwrite ⊢
    rw [hafter]
    rcases path_writes hpath hopens.stage with ⟨-, hsilent⟩ | ⟨plan, hplan, hq, hwritten⟩
    · obtain ⟨m, hm, hwrite⟩ := hwrite
      obtain ⟨l, hl, rfl⟩ := List.mem_map.mp hm
      cases (hsilent l hl).symm.trans hwrite
    · refine ⟨slaveAddress, plan, hslave, hplan, fun a ha _ => ?_, fun m hm hw => ?_⟩
      · obtain ⟨-, a', ha', hmade, hshows⟩ :=
          path_fits hreceived hpath (hopens.fits (hsound _ hslave))
        cases ha.symm.trans ha'
        refine ⟨hmade, ?_⟩
        rcases hq with hsettled | ⟨hopen, hholds⟩
        · exact .inl (hshows.terminal hsettled)
        · refine .inr (.inl ⟨?_, ?_⟩)
          · rcases hopen with hopen | hopen
            · rw [hopen] at hshows
              exact .inl hshows
            · rw [hopen] at hshows
              exact .inr hshows
          · rw [RoomIntentState.currentPlan, ha] at hholds
            exact hholds
      · obtain ⟨l, hl, rfl⟩ := List.mem_map.mp hm
        exact ⟨l.2, Function.update_self .., hwritten l hl hw⟩

theorem CallEffect.answers {source : DesiredRoomIntent}
    (hslave : w.roomSlaveAddresses.lookup c.intent.roomKey = some slaveAddress)
    (hseen : some source.intentVersion ≤ c.roomBefore.lastSeenVersion)
    (ha : Answered w slaveAddress plan source between c.roomBefore) :
    Answered w slaveAddress plan source (between ++ [c]) c.roomAfter := by
  rcases h.cases with ⟨hsame, -⟩ | ⟨_, p, q, hslave', hopens, htakes, -⟩
  · have hkept : c.roomAfter = c.roomBefore := hsame
    rw [hkept]
    exact ha.append c
  · cases hslave.symm.trans hslave'
    have hp := hopens.fits (hsound _ hslave)
    obtain ⟨labels, hpath, -, hlabels⟩ := htakes.interactions hmoments
    obtain ⟨-, b, hb, hmade, hshows⟩ := path_fits hreceived hpath hp
    have hafter : c.roomAfter = q.state := htakes.holds.eq_room
    rw [hafter]
    intro b' hb' hversion
    cases hb.symm.trans hb'
    have hown : c.intent.intentVersion = source.intentVersion :=
      hmade.version.symm.trans hversion
    obtain ⟨a, ha', hmade', hfrom, hleft⟩ := ha.opens hseen hopens hown.symm
    refine ⟨⟨hversion, ?_⟩, ?_⟩
    · exact (hmade.fingerprint.trans hmade'.fingerprint.symm).trans hfrom.fingerprint
    · rcases hleft with ⟨k, hk, hshows'⟩ | ⟨hphase, hplan, rfl⟩
      · exact .inr (.inr ⟨k, List.mem_append_left _ hk, hshows'⟩)
      · rcases path_resumed hpath rfl (currentPlan_of_current ha' hplan) with
          rfl | hsettled | hmismatch
        · cases hb.symm.trans ha'
          exact .inr (.inl ⟨hphase, hplan⟩)
        · exact .inl (hshows.terminal hsettled)
        · refine .inr (.inr ⟨c, List.mem_append_right _ (List.mem_singleton_self _), ?_⟩)
          rw [CallRecord.interactions, hlabels]
          exact hmismatch

end Call

variable [DecidableEq F] {e : E} {intents : List DesiredRoomIntent}

theorem history_answered {before after : List (CallRecord E F)} {c : CallRecord E F}
    (hcalls : (history w env e intents).calls = before ++ c :: after)
    (hwrite : ∃ m ∈ c.after.moments, m.interaction.isWrite = true) :
    ∃ slaveAddress plan, w.roomSlaveAddresses.lookup c.intent.roomKey = some slaveAddress ∧
      PlanOf c.intent slaveAddress plan ∧
      Answered w slaveAddress plan c.intent after
        ((history w env e intents).state.room c.intent.roomKey) ∧
      ∀ m ∈ c.after.moments, m.interaction.isWrite = true → ∃ st,
        m.states c.intent.roomKey = some st ∧ WrittenUnder slaveAddress plan (m.interaction, st) := by
  induction intents using List.reverseRecOn generalizing after with
  | nil => simp [history] at hcalls
  | append_singleton intents intent ih =>
      have hconsistent : Consistent w (history w env e intents) := history_consistent
      have heffect := hconsistent.effect env intent
      have hsound : ∀ slaveAddress, w.roomSlaveAddresses.lookup intent.roomKey = some slaveAddress →
          (callRecord w env (history w env e intents).state intent).roomBefore.Sound w slaveAddress
            (((history w env e intents).call w env intent).received intent.roomKey) :=
        fun _ hslave => hconsistent.soundCall env intent hslave
      rw [history_concat] at hcalls ⊢
      rcases append_singleton_split hcalls with ⟨rfl, -, rfl⟩ | ⟨between, rfl, hearlier⟩
      · exact heffect.answersOwn (received_own env) hsound rfl hwrite
      · obtain ⟨slaveAddress, plan, hslave, hplan, hanswered, hwritten⟩ := ih hearlier
        refine ⟨slaveAddress, plan, hslave, hplan, ?_, hwritten⟩
        by_cases hroom : c.intent.roomKey = intent.roomKey
        · have hmem : c ∈ (history w env e intents).calls := by
            rw [hearlier]
            exact List.mem_append_right _ (List.mem_cons_self ..)
          have hseen := history_seen c hmem (Option.isSome_iff_exists.mpr ⟨_, hslave⟩)
          rw [hroom] at hslave hseen hanswered ⊢
          exact heffect.answers (received_own env) hsound rfl hslave hseen hanswered
        · have hsame : ((history w env e intents).call w env intent).state.room c.intent.roomKey =
              (history w env e intents).state.room c.intent.roomKey :=
            heffect.room_elsewhere hroom
          rw [hsame]
          exact hanswered.append _

theorem no_blind_rewrite (w : G301EntranceWorker F) (env : G301Environment E) (e : E)
    (intents : List DesiredRoomIntent) {before after : List (CallRecord E F)} {c : CallRecord E F}
    (hcalls : (history w env e intents).calls = before ++ c :: after) {done rest : List (Moment F)}
    {m : Moment F} (hm : c.after.moments = done ++ m :: rest) (hwrite : m.interaction.isWrite = true) :
    (∃ st, m.states c.intent.roomKey = some st ∧
      st.lastSeenVersion = some c.intent.intentVersion ∧
      ∀ v, st.lastTerminalVersion = some v → v < c.intent.intentVersion) ∧
    (∀ d ∈ before, d.intent.roomKey = c.intent.roomKey →
      d.intent.intentVersion ≤ c.intent.intentVersion ∧
      ∀ v, d.roomAfter.lastTerminalVersion = some v → v < c.intent.intentVersion) ∧
    ∀ earlier d between, before = earlier ++ d :: between → d.SameVersion c →
      ∀ m' ∈ d.after.moments, m'.interaction.isWrite = true →
        intentFingerprint w d.intent = intentFingerprint w c.intent ∧
        ∃ slaveAddress plan st, w.roomSlaveAddresses.lookup c.intent.roomKey = some slaveAddress ∧
          PlanOf d.intent slaveAddress plan ∧ m'.states c.intent.roomKey = some st ∧
          WrittenUnder slaveAddress plan (m'.interaction, st) ∧
          ((∃ k ∈ between, ShowsMismatch slaveAddress plan k.interactions) ∨
            ShowsMismatch slaveAddress plan (done.map (·.interaction))) := by
  obtain ⟨sofar, rfl, -, hstart, heffect⟩ := history_effect hcalls
  have hconsistent : Consistent w (history w env e sofar) := history_consistent
  rcases heffect.cases with ⟨-, hnone, -⟩ | ⟨slaveAddress, p, q, hslave, hopens, htakes, -⟩
  · rw [hnone, hstart] at hm
    exact absurd hm (by simp [WorkerState.atRest])
  · obtain ⟨labels, hpath, hmoments, -⟩ := htakes.interactions (by rw [hstart]; rfl)
    obtain ⟨dones, others, rfl, hdones, hothers⟩ := List.map_eq_append_iff.mp (hmoments.symm.trans hm)
    obtain ⟨l, rests, rfl, rfl, -⟩ := List.map_eq_cons_iff.mp hothers
    rw [hstart, atRest_room] at hopens
    have hp := hconsistent.fits env hslave hopens
    have hl : l ∈ dones ++ l :: rests := List.mem_append_right _ (List.mem_cons_self ..)
    obtain ⟨hsound, a, ha, hmade, hwriting⟩ := path_write_fits (received_own env) hpath hp hl hwrite
    have hterminal : ∀ v, l.2.lastTerminalVersion = some v → v < c.intent.intentVersion :=
      fun v hv => hmade.version ▸ hsound.terminal_lt ha (by rw [hwriting]; simp) hv
    have hseen : l.2.lastSeenVersion = some c.intent.intentVersion :=
      (hsound.seen_eq ha).trans (congrArg some hmade.version)
    have hgrows := hopens.grows.trans ((path_grows (received_own env) hpath hp).2.1 l hl).2.1
    refine ⟨⟨l.2, Function.update_self .., hseen, hterminal⟩, fun d hd hroom => ⟨?_, fun v hv => ?_⟩, ?_⟩
    · have hold := history_seen d hd (by rw [hroom, hslave]; rfl)
      rw [hroom] at hold
      have hle := version_le_trans hold hgrows.seen
      rw [hseen] at hle
      exact le_some_iff.mp hle _ rfl
    · have hold := (history_grows d hd).terminal
      rw [hroom] at hold
      have hle := version_le_trans hold hgrows.terminal
      rw [hv] at hle
      obtain ⟨u, hu, hvu⟩ := some_le_iff.mp hle
      exact hvu.trans_lt (hterminal u hu)
    · intro earlier d between hsplit hsame m' hm' hw'
      obtain ⟨slave', plan, hslave', hplan, hanswered, hwritten⟩ := history_answered hsplit ⟨m', hm', hw'⟩
      obtain ⟨st, hst, hunder⟩ := hwritten m' hm' hw'
      have hd : d ∈ (history w env e sofar).calls := by
        rw [hsplit]
        exact List.mem_append_right _ (List.mem_cons_self ..)
      have hold := history_seen d hd (Option.isSome_iff_exists.mpr ⟨_, hslave'⟩)
      rw [hsame.1] at hslave' hanswered hst hold
      cases hslave.symm.trans hslave'
      obtain ⟨hprint, hshows⟩ := hanswered.at_write hold hopens hsame.2 hpath hwrite
      rw [← hdones, List.map_map]
      exact ⟨hprint, slaveAddress, plan, st, hslave, hplan, hst, hunder, hshows⟩

structure DemoUnit where
  power : ℤ
  lostWrites : ℕ
  time : Instant

def demoBus : G301Environment DemoUnit where
  writeRegister := fun unit _ _ value =>
    match unit.lostWrites with
    | 0 => (.ok (), { unit with power := value })
    | n + 1 => (.error .timeout, { unit with lostWrites := n })
  readHoldingRegisters := fun unit _ _ count => (.ok (List.replicate count unit.power), unit)
  clock := fun unit => (unit.time, { unit with time := unit.time + 10000000 })
  sleep := fun unit _ => (false, unit)

def demoWorker : G301EntranceWorker IntentPayload where
  entranceKey := "entrance_a"
  roomSlaveAddresses := [("214", 7)]
  settings := {}
  zone := sofiaWinterTime
  fingerprint := id
  validSettings := by decide +kernel

def demoSwitchOff : DesiredRoomIntent where
  roomKey := "214"
  intentVersion := 12
  automationPhase := .vacant
  controlMode := .automatic
  effectiveFrom := .utc 0
  expiresAt := none
  hvac := ⟨false, .off, none, by decide⟩
  waterHeater := ⟨false⟩
  convectors := ⟨false⟩
  reason := "vacant"
  correlationId := 1

def demoFirstCall : CallRecord DemoUnit IntentPayload :=
  callRecord demoWorker demoBus (.initial _ ⟨1, 1, 0⟩) demoSwitchOff

def demoRedelivery : CallRecord DemoUnit IntentPayload :=
  callRecord demoWorker demoBus demoFirstCall.after demoSwitchOff

theorem demoHistory_calls :
    (history demoWorker demoBus ⟨1, 1, 0⟩ [demoSwitchOff, demoSwitchOff]).calls =
      [demoFirstCall] ++ demoRedelivery :: [] := rfl

theorem redelivery_reads_before_it_rewrites : ∃ plan,
    PlanOf demoSwitchOff 7 plan ∧
      ShowsMismatch 7 plan ((demoRedelivery.after.moments.take 4).map (·.interaction)) := by
  have hfirst : (demoFirstCall.after.moments[1]?.any (·.interaction.isWrite)) = true := by
    decide +kernel
  have hsecond : (demoRedelivery.after.moments[4]?.any (·.interaction.isWrite)) = true := by
    decide +kernel
  obtain ⟨m', hm', hwrite'⟩ := (Option.any_eq_true _ _).mp hfirst
  obtain ⟨m, hm, hwrite⟩ := (Option.any_eq_true _ _).mp hsecond
  obtain ⟨hlength, rfl⟩ := List.getElem?_eq_some_iff.mp hm
  have hsplit := (List.take_append_drop 4 _).symm.trans
    (congrArg _ (List.drop_eq_getElem_cons hlength))
  obtain ⟨-, -, hrewrite⟩ := no_blind_rewrite demoWorker demoBus ⟨1, 1, 0⟩ [demoSwitchOff, demoSwitchOff]
    demoHistory_calls hsplit hwrite
  obtain ⟨-, slaveAddress, plan, st, hslave, hplan, -, -, hshows⟩ :=
    hrewrite [] demoFirstCall [] rfl ⟨rfl, rfl⟩ m' (List.mem_of_getElem? hm') hwrite'
  have haddress : slaveAddress = 7 := (Option.some.inj hslave).symm
  subst haddress
  exact ⟨plan, hplan, hshows.resolve_left (by simp)⟩

end ClockOrchestrator
