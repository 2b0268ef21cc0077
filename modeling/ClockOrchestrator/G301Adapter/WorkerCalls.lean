import ClockOrchestrator.G301Adapter.WorkerPaths

namespace ClockOrchestrator

open Python Procedure Emission

variable {E F : Type} {intent : DesiredRoomIntent} {slaveAddress : ℕ} {base : IntentStates F}
  {s t m : WorkerState E F} {p q : Progress F} {st : RoomIntentState F} {a : IntentAttempt F}

variable (w : G301EntranceWorker F) (env : G301Environment E)

def WorkerState.room (s : WorkerState E F) (roomKey : String) : RoomIntentState F :=
  (s.intentStates roomKey).getD (.empty F)

-- A call that finds no state of its room leaves an empty one there.
def WorkerState.entered (s : WorkerState E F) (roomKey : String) : WorkerState E F :=
  { s with intentStates := Function.update s.intentStates roomKey (some (s.room roomKey)) }

@[simp] theorem entered_moments (s : WorkerState E F) (roomKey : String) :
    (s.entered roomKey).moments = s.moments := rfl

theorem entered_holds (s : WorkerState E F) (roomKey : String) :
    Holds roomKey s.intentStates (s.entered roomKey) (s.room roomKey) := rfl

inductive Opens (intent : DesiredRoomIntent) (st : RoomIntentState F) : Progress F → Prop
  | fresh : (∀ seen, st.lastSeenVersion = some seen → seen < intent.intentVersion) →
      Opens intent st ⟨.planning, st.register intent.intentVersion (intentFingerprint w intent)⟩
  | retry {a : IntentAttempt F} : st.currentAttempt = some a → a.MadeFrom w intent →
      a.phase = .retryable → Opens intent st ⟨.planning, st⟩
  | resume {a : IntentAttempt F} : st.currentAttempt = some a → a.MadeFrom w intent →
      a.phase = .writing ∨ a.phase = .verificationPending → Opens intent st ⟨.verifying, st⟩

inductive CallPath (intent : DesiredRoomIntent) (s t : WorkerState E F) :
    Except AdapterError IntentExecutionResult → Prop
  | skipped {result : IntentExecutionResult} :
      w.roomSlaveAddresses.lookup intent.roomKey = none → result.status ≠ .applied → t = s →
      CallPath intent s t (.ok result)
  | refused {slaveAddress : ℕ} {result : IntentExecutionResult} :
      w.roomSlaveAddresses.lookup intent.roomKey = some slaveAddress → result.status ≠ .applied →
      some intent.intentVersion ≤ (s.room intent.roomKey).lastSeenVersion →
      t = s.entered intent.roomKey → CallPath intent s t (.ok result)
  | replayed {slaveAddress : ℕ} {a : IntentAttempt F} {cached : IntentExecutionResult} :
      w.roomSlaveAddresses.lookup intent.roomKey = some slaveAddress →
      (s.room intent.roomKey).currentAttempt = some a → a.MadeFrom w intent →
      a.phase = .terminal → a.cachedResult = some cached → t = s.entered intent.roomKey →
      CallPath intent s t (.ok { cached with correlationId := intent.correlationId })
  | registered {slaveAddress : ℕ} {r : Except AdapterError IntentExecutionResult} :
      w.roomSlaveAddresses.lookup intent.roomKey = some slaveAddress →
      (∀ seen, (s.room intent.roomKey).lastSeenVersion = some seen → seen < intent.intentVersion) →
      Ends (modifyRoom intent.roomKey (·.register intent.intentVersion (intentFingerprint w intent))
        >>= fun _ => executeCurrent w env intent slaveAddress) (s.entered intent.roomKey) r t →
      CallPath intent s t r
  | retried {slaveAddress : ℕ} {a : IntentAttempt F}
      {r : Except AdapterError IntentExecutionResult} :
      w.roomSlaveAddresses.lookup intent.roomKey = some slaveAddress →
      (s.room intent.roomKey).currentAttempt = some a → a.MadeFrom w intent →
      a.phase = .retryable →
      Ends (executeCurrent w env intent slaveAddress) (s.entered intent.roomKey) r t →
      CallPath intent s t r
  | resumed {slaveAddress : ℕ} {a : IntentAttempt F}
      {r : Except AdapterError IntentExecutionResult} :
      w.roomSlaveAddresses.lookup intent.roomKey = some slaveAddress →
      (s.room intent.roomKey).currentAttempt = some a → a.MadeFrom w intent →
      a.phase = .writing ∨ a.phase = .verificationPending →
      Ends (resumeVerification w env intent slaveAddress) (s.entered intent.roomKey) r t →
      CallPath intent s t r

inductive CallEffect (intent : DesiredRoomIntent) (s t : WorkerState E F) :
    Except AdapterError IntentExecutionResult → Prop
  | skipped {result : IntentExecutionResult} :
      w.roomSlaveAddresses.lookup intent.roomKey = none → result.status ≠ .applied → t = s →
      CallEffect intent s t (.ok result)
  | refused {slaveAddress : ℕ} {result : IntentExecutionResult} :
      w.roomSlaveAddresses.lookup intent.roomKey = some slaveAddress → result.status ≠ .applied →
      some intent.intentVersion ≤ (s.room intent.roomKey).lastSeenVersion →
      Holds intent.roomKey s.intentStates t (s.room intent.roomKey) → t.moments = s.moments →
      CallEffect intent s t (.ok result)
  | replayed {slaveAddress : ℕ} {a : IntentAttempt F} {cached : IntentExecutionResult} :
      w.roomSlaveAddresses.lookup intent.roomKey = some slaveAddress →
      (s.room intent.roomKey).currentAttempt = some a → a.MadeFrom w intent →
      a.phase = .terminal → a.cachedResult = some cached →
      Holds intent.roomKey s.intentStates t (s.room intent.roomKey) → t.moments = s.moments →
      CallEffect intent s t (.ok { cached with correlationId := intent.correlationId })
  | attempted {slaveAddress : ℕ} {p q : Progress F}
      {r : Except AdapterError IntentExecutionResult} :
      w.roomSlaveAddresses.lookup intent.roomKey = some slaveAddress →
      Opens w intent (s.room intent.roomKey) p →
      Takes intent slaveAddress s.intentStates s t p q → Reports r q → CallEffect intent s t r

theorem executeCurrent_takes {r : Except AdapterError IntentExecutionResult}
    (ha : st.currentAttempt = some a) (hs : Holds intent.roomKey base s st)
    (h : Ends (executeCurrent w env intent slaveAddress) s r t) :
    ∃ q, Takes intent slaveAddress base s t ⟨.planning, st⟩ q ∧ Reports r q := by
  have hst := holding_of_current ha
  rw [← hst] at hs ⊢
  exact executeIntent_takes w env hs (currentAttempt_bind hs h)

section Apply

variable [DecidableEq F] {received : DesiredRoomIntent → Prop}
  {r : Except AdapterError IntentExecutionResult}

theorem applySeenIntent_path
    (hslave : w.roomSlaveAddresses.lookup intent.roomKey = some slaveAddress)
    (hsound : (s.room intent.roomKey).Sound w slaveAddress received)
    (hseen : (s.room intent.roomKey).lastSeenVersion = some intent.intentVersion)
    (h : Ends (applySeenIntent w env intent slaveAddress (s.room intent.roomKey))
      (s.entered intent.roomKey) r t) : CallPath w env intent s t r := by
  unfold applySeenIntent at h
  cases ha : (s.room intent.roomKey).currentAttempt with
  | none =>
      rw [hsound.current, ha] at hseen
      cases hseen
  | some a =>
      have hversion : a.version = intent.intentVersion := by
        rw [hsound.seen_eq ha] at hseen
        exact Option.some.inj hseen
      simp only [ha, hversion, ne_eq, not_true_eq_false, if_false] at h
      split at h
      · obtain ⟨rfl, rfl⟩ := ends_pure.mp h
        exact .refused hslave (by simp [bareResult, executionResult])
          (some_le_iff.mpr ⟨_, hseen, le_rfl⟩) rfl
      · next hprint =>
          have hmade : a.MadeFrom w intent := ⟨hversion, not_not.mp hprint⟩
          split at h
          · next hphase =>
              obtain ⟨cached, hcached⟩ :=
                Option.isSome_iff_exists.mp ((hsound.terminal_iff a ha).mp hphase).1
              simp only [hcached] at h
              obtain ⟨rfl, rfl⟩ := ends_pure.mp h
              exact .replayed hslave ha hmade hphase hcached rfl
          · next hphase => exact .resumed hslave ha hmade (.inl hphase) h
          · next hphase => exact .resumed hslave ha hmade (.inr hphase) h
          · next hphase => exact .retried hslave ha hmade hphase h

theorem applyIntent_path
    (hsound : ∀ slaveAddress, w.roomSlaveAddresses.lookup intent.roomKey = some slaveAddress →
      (s.room intent.roomKey).Sound w slaveAddress received)
    (h : Ends (applyIntent w env intent) s r t) : CallPath w env intent s t r := by
  unfold applyIntent at h
  split at h
  · next hnone =>
      obtain ⟨rfl, rfl⟩ := ends_pure.mp h
      exact .skipped hnone (by simp [bareResult, executionResult]) rfl
  · next slaveAddress hslave =>
      rw [ends_modify_bind, ends_get_bind] at h
      simp only [Function.update_self, Option.getD_some] at h
      change Ends _ (s.entered intent.roomKey) r t at h
      split at h
      · next seen hseen =>
          split at h
          · next hstale =>
              obtain ⟨rfl, rfl⟩ := ends_pure.mp h
              exact .refused hslave (by simp [bareResult, executionResult])
                (some_le_iff.mpr ⟨seen, hseen, hstale.le⟩) rfl
          · next hold =>
              split at h
              · next hnew =>
                  refine .registered hslave (fun v hv => ?_) h
                  cases hseen.symm.trans hv
                  exact hnew
              · next hnew =>
                  have heq : seen = intent.intentVersion :=
                    le_antisymm (not_lt.mp hnew) (not_lt.mp hold) |>.symm
                  exact applySeenIntent_path w env hslave (hsound _ hslave)
                    (hseen.trans (congrArg some heq)) h
      · next hnone =>
          refine .registered hslave (fun v hv => ?_) h
          cases hnone.symm.trans hv

theorem applyIntent_effect
    (hsound : ∀ slaveAddress, w.roomSlaveAddresses.lookup intent.roomKey = some slaveAddress →
      (s.room intent.roomKey).Sound w slaveAddress received)
    (h : Ends (applyIntent w env intent) s r t) : CallEffect w intent s t r := by
  have hheld := entered_holds s intent.roomKey
  have hmoments := entered_moments s intent.roomKey
  cases applyIntent_path w env hsound h with
  | skipped hnone hresult ht => exact .skipped hnone hresult ht
  | refused hslave hresult hseen ht =>
      subst ht
      exact .refused hslave hresult hseen hheld hmoments
  | replayed hslave ha hmade hphase hcached ht =>
      subst ht
      exact .replayed hslave ha hmade hphase hcached hheld hmoments
  | registered hslave hnew hrest =>
      obtain ⟨n, hmoments', hn, hrest⟩ := modifyRoom_bind hheld hrest
      obtain ⟨q, htakes, hreports⟩ := executeCurrent_takes w env rfl hn hrest
      exact .attempted hslave (.fresh hnew) (htakes.since (hmoments'.trans hmoments)) hreports
  | retried hslave ha hmade hphase hrest =>
      obtain ⟨q, htakes, hreports⟩ := executeCurrent_takes w env ha hheld hrest
      exact .attempted hslave (.retry ha hmade hphase) (htakes.since hmoments) hreports
  | resumed hslave ha hmade hphase hrest =>
      obtain ⟨plan, hplan, source, -, -, hof⟩ := (hsound _ hslave).planned _ ha hphase
      have hst := holding_of_current ha
      rw [← hst] at hheld
      obtain ⟨q, htakes, hreports⟩ := resumeVerification_takes w env hplan hof hheld hrest
      rw [hst] at htakes
      exact .attempted hslave (.resume ha hmade hphase) (htakes.since hmoments) hreports

end Apply

theorem Holds.eq_room {roomKey : String} (h : Holds roomKey base t st) : t.room roomKey = st := by
  unfold WorkerState.room
  rw [h, Function.update_self]
  rfl

theorem Holds.elsewhere {roomKey other : String} (h : Holds roomKey base t st)
    (hne : other ≠ roomKey) : t.intentStates other = base other := by
  rw [h, Function.update_of_ne hne]

variable {w} {received : DesiredRoomIntent → Prop}

theorem Takes.interactions
    (h : Takes intent slaveAddress base s t p q) (hs : s.moments = []) :
    ∃ labels, Path (AttemptStep intent slaveAddress) p labels q ∧
      t.moments = labels.map (roomMoment intent.roomKey base) ∧
      t.moments.map (·.interaction) = labels.map (·.1) := by
  obtain ⟨labels, hpath, hmoments⟩ := h.path
  rw [hs, List.nil_append] at hmoments
  refine ⟨labels, hpath, hmoments, ?_⟩
  rw [hmoments, List.map_map]
  rfl

theorem Opens.fits (h : Opens w intent st p) (hsound : st.Sound w slaveAddress received) :
    Fits w slaveAddress received intent p := by
  cases h with
  | fresh hnew => exact ⟨hsound.register hnew, _, rfl, ⟨rfl, rfl⟩, rfl⟩
  | retry ha hmade hphase => exact ⟨hsound, _, ha, hmade, hphase⟩
  | resume ha hmade hphase => exact ⟨hsound, _, ha, hmade, hphase⟩

theorem Opens.grows (h : Opens w intent st p) : st.Grows p.state := by
  cases h with
  | fresh hnew => exact ⟨le_some_iff.mpr fun v hv => (hnew v hv).le, version_le_refl _, version_le_refl _⟩
  | retry _ _ _ => exact .refl _
  | resume _ _ _ => exact .refl _

theorem Opens.stage (h : Opens w intent st p) : p.stage = .verifying ∨ p.stage = .planning := by
  cases h with
  | fresh _ => exact .inr rfl
  | retry _ _ _ => exact .inr rfl
  | resume _ _ _ => exact .inl rfl

theorem Reports.applied_version {r : Except AdapterError IntentExecutionResult}
    (h : Reports r q) (hq : Fits w slaveAddress received intent q) :
    q.state.lastAppliedVersion = some intent.intentVersion ↔ q.stage = .applied := by
  obtain ⟨hsound, a, ha, hmade, hshows⟩ := hq
  rw [← hmade.version]
  by_cases hsettled : q.stage.Settled
  · obtain ⟨result, hr, hcached⟩ := h.settled hsettled
    rw [ha] at hcached
    rw [← hsound.applied_iff a result ha (hshows.terminal hsettled) hcached]
    exact h.applied_iff result hr
  · refine iff_of_false (fun hv => ?_) fun happlied => hsettled (.inl happlied)
    exact lt_irrefl _ (hsound.applied_lt ha (hshows.open hsettled) hv)

namespace CallEffect

variable {r : Except AdapterError IntentExecutionResult}

theorem elsewhere (h : CallEffect w intent s t r) {other : String} (hne : other ≠ intent.roomKey) :
    t.intentStates other = s.intentStates other := by
  cases h with
  | skipped _ _ ht => rw [ht]
  | refused _ _ _ ht _ => exact ht.elsewhere hne
  | replayed _ _ _ _ _ ht _ => exact ht.elsewhere hne
  | attempted _ _ htakes _ => exact htakes.holds.elsewhere hne

theorem room_elsewhere (h : CallEffect w intent s t r) {other : String}
    (hne : other ≠ intent.roomKey) : t.room other = s.room other :=
  congrArg (·.getD (.empty F)) (h.elsewhere hne)

theorem unconfigured (h : CallEffect w intent s t r)
    (hnone : w.roomSlaveAddresses.lookup intent.roomKey = none) : t = s := by
  cases h with
  | skipped _ _ ht => exact ht
  | refused hslave => cases hnone.symm.trans hslave
  | replayed hslave => cases hnone.symm.trans hslave
  | attempted hslave => cases hnone.symm.trans hslave

theorem seen (h : CallEffect w intent s t r)
    (hslave : w.roomSlaveAddresses.lookup intent.roomKey = some slaveAddress)
    (hsound : (s.room intent.roomKey).Sound w slaveAddress received) (hreceived : received intent) :
    some intent.intentVersion ≤ (t.room intent.roomKey).lastSeenVersion := by
  cases h with
  | skipped hnone => cases hnone.symm.trans hslave
  | refused _ _ hseen ht _ => exact ht.eq_room.symm ▸ hseen
  | replayed _ ha hmade _ _ ht _ =>
      rw [ht.eq_room, hsound.seen_eq ha, hmade.version]
      exact version_le_refl _
  | attempted hslave' hopens htakes _ =>
      cases hslave.symm.trans hslave'
      obtain ⟨labels, hpath, -⟩ := htakes.path
      obtain ⟨hq, a, ha, hmade, -⟩ := path_fits hreceived hpath (hopens.fits hsound)
      rw [htakes.holds.eq_room, hq.seen_eq ha, hmade.version]
      exact version_le_refl _

theorem grows (h : CallEffect w intent s t r)
    (hsound : ∀ slaveAddress, w.roomSlaveAddresses.lookup intent.roomKey = some slaveAddress →
      (s.room intent.roomKey).Sound w slaveAddress received)
    (hreceived : received intent) (roomKey : String) :
    (s.room roomKey).Grows (t.room roomKey) := by
  by_cases hroom : roomKey = intent.roomKey
  · subst hroom
    cases h with
    | skipped _ _ ht => exact ht.symm ▸ .refl _
    | refused _ _ _ ht _ => exact ht.eq_room.symm ▸ .refl _
    | replayed _ _ _ _ _ ht _ => exact ht.eq_room.symm ▸ .refl _
    | attempted hslave hopens htakes _ =>
        obtain ⟨labels, hpath, -⟩ := htakes.path
        have hp := hopens.fits (hsound _ hslave)
        rw [htakes.holds.eq_room]
        exact hopens.grows.trans (path_grows hreceived hpath hp).1
  · exact (h.room_elsewhere hroom).symm ▸ .refl _

theorem applied_eq (h : CallEffect w intent s t r) {result : IntentExecutionResult}
    (hsound : ∀ slaveAddress, w.roomSlaveAddresses.lookup intent.roomKey = some slaveAddress →
      (s.room intent.roomKey).Sound w slaveAddress received)
    (hreceived : received intent) (hr : r = .ok result) (happlied : result.status = .applied) :
    (t.room intent.roomKey).lastAppliedVersion = some intent.intentVersion := by
  cases h with
  | skipped _ hresult _ =>
      cases hr
      exact absurd happlied hresult
  | refused _ hresult _ _ _ =>
      cases hr
      exact absurd happlied hresult
  | @replayed _ a cached hslave ha hmade hphase hcached ht _ =>
      cases hr
      rw [ht.eq_room, ← hmade.version]
      exact ((hsound _ hslave).applied_iff a cached ha hphase hcached).mp happlied
  | attempted hslave hopens htakes hreports =>
      obtain ⟨labels, hpath, -⟩ := htakes.path
      have hq := path_fits hreceived hpath (hopens.fits (hsound _ hslave))
      rw [htakes.holds.eq_room]
      exact (hreports.applied_version hq).mpr ((hreports.applied_iff result hr).mp happlied)

theorem cases (h : CallEffect w intent s t r) :
    (t.room intent.roomKey = s.room intent.roomKey ∧ t.moments = s.moments ∧ ∃ result,
      r = .ok result ∧ (result.status = .applied → ∃ a cached,
        (s.room intent.roomKey).currentAttempt = some a ∧ a.MadeFrom w intent ∧
        a.phase = .terminal ∧ a.cachedResult = some cached ∧
        result = { cached with correlationId := intent.correlationId })) ∨
    ∃ slaveAddress p q, w.roomSlaveAddresses.lookup intent.roomKey = some slaveAddress ∧
      Opens w intent (s.room intent.roomKey) p ∧
      Takes intent slaveAddress s.intentStates s t p q ∧ Reports r q := by
  cases h with
  | skipped _ hresult ht => exact .inl ⟨by rw [ht], by rw [ht], _, rfl, fun h => absurd h hresult⟩
  | refused _ hresult _ ht hmoments =>
      exact .inl ⟨ht.eq_room, hmoments, _, rfl, fun h => absurd h hresult⟩
  | replayed _ ha hmade hphase hcached ht hmoments =>
      exact .inl ⟨ht.eq_room, hmoments, _, rfl, fun _ => ⟨_, _, ha, hmade, hphase, hcached, rfl⟩⟩
  | attempted hslave hopens htakes hreports =>
      exact .inr ⟨_, _, _, hslave, hopens, htakes, hreports⟩

end CallEffect

end ClockOrchestrator
