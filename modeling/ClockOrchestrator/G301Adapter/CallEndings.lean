import ClockOrchestrator.G301Adapter.CallShapes
import ClockOrchestrator.G301Adapter.WorkerCalls

namespace ClockOrchestrator

open Python Procedure

def ExecutionStatus.Clears (status : ExecutionStatus) : Prop :=
  status = .applied ∨ status = .readbackMismatch

def ExecutionStatus.Failure (status : ExecutionStatus) : Prop :=
  status = .timeout ∨ status = .modbusException ∨ status = .deviceOffline ∨ status = .failed ∨
    status = .appliedUnconfirmed

theorem transportFailureStatus_failure (error : G301TransportError) :
    (transportFailureStatus error).Failure := by
  unfold transportFailureStatus ExecutionStatus.Failure
  cases error.kind <;> simp

theorem ExecutionStatus.Failure.not_clears {status : ExecutionStatus} (h : status.Failure) :
    ¬ status.Clears := by
  rintro (rfl | rfl) <;> simp [ExecutionStatus.Failure] at h

theorem ExecutionStatus.Failure.not_refusal {status : ExecutionStatus} (h : status.Failure) :
    ¬ status.Refusal := by
  rintro (rfl | rfl) <;> simp [ExecutionStatus.Failure] at h

theorem ExecutionStatus.Clears.not_refusal {status : ExecutionStatus} (h : status.Clears) :
    ¬ status.Refusal := by
  rintro (rfl | rfl) <;> simp [ExecutionStatus.Clears] at h

def SlaveFailureState.next {F : Type} (w : G301EntranceWorker F) (state : SlaveFailureState)
    (reading : Instant) : SlaveFailureState :=
  ⟨state.consecutiveFailures + 1,
    some (reading + slaveRetryDelay w (state.consecutiveFailures + 1) * secondMicros)⟩

variable {E F : Type} (w : G301EntranceWorker F) (intent : DesiredRoomIntent) (slaveAddress : ℕ)

inductive Served (s t : WorkerState E F) :
    Except AdapterError IntentExecutionResult → List Interaction → Prop
  | raised {e : AdapterError} {ops : List Interaction} :
      Operated slaveAddress s t ops → Served s t (.error e) ops
  | unrecorded {result : IntentExecutionResult} {ops : List Interaction} :
      Operated slaveAddress s t ops → ¬ result.status.Clears →
      (result.status.Failure → ops ≠ []) →
      (result.status.Refusal → Unwritten ops ∧
        (1 ≤ slaveAddress ∧ slaveAddress ≤ 255 → ¬ DevicePermits intent slaveAddress ops)) →
      Served s t (.ok result) ops
  | cleared {result : IntentExecutionResult} {m : WorkerState E F} {ops : List Interaction} :
      Operated slaveAddress s m ops → t.moments = m.moments → result.status.Clears →
      t.slaveFailures = Function.update m.slaveFailures slaveAddress none →
      Served s t (.ok result) ops
  | failed {result : IntentExecutionResult} {m : WorkerState E F} {ops : List Interaction}
      {reading : Instant} :
      Operated slaveAddress s m ops → Emits m t [.clock reading] → result.status.Failure →
      (∀ until', result.message ≠ some (.retryCooldown until')) →
      t.slaveFailures = Function.update m.slaveFailures slaveAddress
        (some ((slaveFailureState m slaveAddress).next w reading)) →
      Served s t (.ok result) (ops ++ [.clock reading])

def ExpiredAt (reading : Instant) : Prop :=
  ∃ expires, intent.expiresAt = some expires ∧
    (expires.instant w.zone : ℚ) ≤ reading - w.settings.validityClockSkewSeconds * secondMicros

inductive Execution (s t : WorkerState E F) :
    Except AdapterError IntentExecutionResult → Instant → List Interaction → Prop
  | expired {result : IntentExecutionResult} {reading : Instant} :
      Emits s t [.clock reading] → t.slaveFailures = s.slaveFailures →
      ExpiredAt w intent reading → result.status = .expired →
      Execution s t (.ok result) reading []
  | waiting {result : IntentExecutionResult} {reading : Instant} :
      Emits s t [.clock reading] → t.slaveFailures = s.slaveFailures →
      result.status = .notYetEffective ∨ (∃ retryAfter,
        cooldown s slaveAddress reading = some retryAfter ∧
          result = cooldownResult intent retryAfter) →
      Execution s t (.ok result) reading []
  | served {r : Except AdapterError IntentExecutionResult} {m : WorkerState E F}
      {reading : Instant} {notes : List Interaction} :
      Emits s m [.clock reading] → m.slaveFailures = s.slaveFailures →
      cooldown s slaveAddress reading = none → Served w intent slaveAddress m t r notes →
      Execution s t r reading notes

inductive Resumption (plan : G301Plan) (s t : WorkerState E F) :
    Except AdapterError IntentExecutionResult → Prop
  | waiting {reading : Instant} {retryAfter : ℚ} :
      Emits s t [.clock reading] → t.slaveFailures = s.slaveFailures →
      cooldown s slaveAddress reading = some retryAfter →
      Resumption plan s t (.ok (cooldownResult intent retryAfter))
  | verified {r : Except AdapterError IntentExecutionResult} {m : WorkerState E F}
      {reading : Instant} {notes : List Interaction} :
      Emits s m [.clock reading] → m.slaveFailures = s.slaveFailures →
      cooldown s slaveAddress reading = none → Served w intent slaveAddress m t r notes →
      (∀ result, r = .ok result → ¬ result.status.Refusal) → Resumption plan s t r
  | reexecuted {r : Except AdapterError IntentExecutionResult} {m n : WorkerState E F}
      {first reading : Instant} {looking readback notes : List Interaction} {values : List ℤ} :
      Emits s m [.clock first] → m.slaveFailures = s.slaveFailures →
      cooldown s slaveAddress first = none → Operated slaveAddress m n (looking ++ readback) →
      Unwritten looking → Readback slaveAddress plan.readbackExpectations readback values →
      values ≠ ReadbackExpectation.values plan.readbackExpectations →
      Execution w intent slaveAddress n t r reading notes → Resumption plan s t r

inductive CallEnding (s t : WorkerState E F) : Except AdapterError IntentExecutionResult → Prop
  | idle {result : IntentExecutionResult} :
      t.moments = s.moments → t.slaveFailures = s.slaveFailures →
      t.room intent.roomKey = s.room intent.roomKey → CallEnding s t (.ok result)
  | executed {slaveAddress : ℕ} {p : Progress F} {reading : Instant} {notes : List Interaction}
      {r : Except AdapterError IntentExecutionResult} :
      w.roomSlaveAddresses.lookup intent.roomKey = some slaveAddress →
      Opens w intent (s.room intent.roomKey) p → p.stage = .planning →
      Execution w intent slaveAddress s t r reading notes → CallEnding s t r
  | resumed {slaveAddress : ℕ} {a : IntentAttempt F} {plan : G301Plan}
      {r : Except AdapterError IntentExecutionResult} :
      w.roomSlaveAddresses.lookup intent.roomKey = some slaveAddress →
      (s.room intent.roomKey).currentAttempt = some a → a.MadeFrom w intent →
      a.phase = .writing ∨ a.phase = .verificationPending → a.plan = some plan →
      Resumption w intent slaveAddress plan s t r → CallEnding s t r

variable {w intent slaveAddress} {s t m : WorkerState E F} {ops : List Interaction}
  {base : IntentStates F} {st : RoomIntentState F} {a : IntentAttempt F}

theorem Holds.modified {f : RoomIntentState F → RoomIntentState F}
    (h : Holds intent.roomKey base s st)
    (hm : m.intentStates = Function.update s.intentStates intent.roomKey
      ((s.intentStates intent.roomKey).map f)) : Holds intent.roomKey base m (f st) := by
  unfold Holds at h ⊢
  rw [hm, h, Function.update_self, Function.update_idem]
  rfl

variable (slaveAddress) in
theorem cooldown_congr (hfailures : m.slaveFailures = s.slaveFailures) (reading : Instant) :
    cooldown s slaveAddress reading = cooldown m slaveAddress reading := by
  unfold cooldown slaveFailureState
  rw [hfailures]

theorem Execution.since {r : Except AdapterError IntentExecutionResult} {reading : Instant}
    {notes : List Interaction} (hkept : Operated slaveAddress s m [])
    (h : Execution w intent slaveAddress m t r reading notes) :
    Execution w intent slaveAddress s t r reading notes := by
  have hcooldown := cooldown_congr slaveAddress hkept.failures reading
  cases h with
  | expired hclock hsame hexpired hstatus =>
      exact .expired (hkept.emits.trans hclock) (hsame.trans hkept.failures) hexpired hstatus
  | waiting hclock hsame hwait =>
      exact .waiting (hkept.emits.trans hclock) (hsame.trans hkept.failures) (hcooldown ▸ hwait)
  | served hclock hsame hfree hserved =>
      exact .served (hkept.emits.trans hclock) (hsame.trans hkept.failures)
        (hcooldown.trans hfree) hserved

theorem Resumption.since {plan : G301Plan} {r : Except AdapterError IntentExecutionResult}
    (hkept : Operated slaveAddress s m []) (h : Resumption w intent slaveAddress plan m t r) :
    Resumption w intent slaveAddress plan s t r := by
  have hcooldown := cooldown_congr slaveAddress hkept.failures
  cases h with
  | waiting hclock hsame hwait =>
      exact .waiting (hkept.emits.trans hclock) (hsame.trans hkept.failures)
        ((hcooldown _).trans hwait)
  | verified hclock hsame hfree hserved hrefusal =>
      exact .verified (hkept.emits.trans hclock) (hsame.trans hkept.failures)
        ((hcooldown _).trans hfree) hserved hrefusal
  | reexecuted hclock hsame hfree hops hquiet hread hne hexecution =>
      exact .reexecuted (hkept.emits.trans hclock) (hsame.trans hkept.failures)
        ((hcooldown _).trans hfree) hops hquiet hread hne hexecution

theorem Served.emits {r : Except AdapterError IntentExecutionResult} {notes : List Interaction}
    (h : Served w intent slaveAddress s t r notes) : Emits s t notes := by
  cases h with
  | raised hops => exact hops.emits
  | unrecorded hops _ _ _ => exact hops.emits
  | cleared hops hmoments _ _ =>
      rw [Emits, WorkerState.interactions, hmoments]
      exact hops.emits
  | failed hops hclock _ _ _ => exact hops.emits.trans hclock

theorem Execution.emits {r : Except AdapterError IntentExecutionResult} {reading : Instant}
    {notes : List Interaction} (h : Execution w intent slaveAddress s t r reading notes) :
    Emits s t (.clock reading :: notes) := by
  cases h with
  | expired hclock _ _ _ => exact hclock
  | waiting hclock _ _ => exact hclock
  | served hclock _ _ hserved => exact hclock.trans hserved.emits

theorem Resumption.emits {plan : G301Plan} {r : Except AdapterError IntentExecutionResult}
    (h : Resumption w intent slaveAddress plan s t r) :
    ∃ reading notes, Emits s t (.clock reading :: notes) := by
  cases h with
  | waiting hclock _ _ => exact ⟨_, _, hclock⟩
  | verified hclock _ _ hserved _ => exact ⟨_, _, hclock.trans hserved.emits⟩
  | reexecuted hclock _ _ hops _ _ _ hexecution =>
      exact ⟨_, _, (hclock.trans hops.emits).trans hexecution.emits⟩

theorem Served.refused {result : IntentExecutionResult} {notes : List Interaction}
    (h : Served w intent slaveAddress s t (.ok result) notes) (hrefusal : result.status.Refusal) :
    Unwritten notes ∧
      (1 ≤ slaveAddress ∧ slaveAddress ≤ 255 → ¬ DevicePermits intent slaveAddress notes) := by
  cases h with
  | unrecorded _ _ _ hrefused => exact hrefused hrefusal
  | cleared _ _ hclears _ => exact absurd hrefusal hclears.not_refusal
  | failed _ _ hfailure _ _ => exact absurd hrefusal hfailure.not_refusal

theorem Execution.refused {result : IntentExecutionResult} {reading : Instant}
    {notes : List Interaction}
    (h : Execution w intent slaveAddress s t (.ok result) reading notes)
    (hrefusal : result.status.Refusal) :
    Unwritten notes ∧ (ExpiredAt w intent reading ∨
      (1 ≤ slaveAddress ∧ slaveAddress ≤ 255 → ¬ DevicePermits intent slaveAddress notes)) := by
  cases h with
  | expired _ _ hexpired _ => exact ⟨by simp [Unwritten], .inl hexpired⟩
  | waiting _ _ hwait =>
      rcases hwait with hstatus | ⟨_, -, rfl⟩
      · simp [ExecutionStatus.Refusal, hstatus] at hrefusal
      · simp [ExecutionStatus.Refusal, cooldownResult, bareResult, executionResult] at hrefusal
  | served _ _ _ hserved =>
      obtain ⟨hquiet, hpermits⟩ := hserved.refused hrefusal
      exact ⟨hquiet, .inr hpermits⟩

inductive Concludes (slaveAddress : ℕ) (plan : G301Plan) (terminalOnMismatch : Bool)
    (ops : List Interaction) : Except AdapterError (Option IntentExecutionResult) → Prop
  | raised {e : AdapterError} : Concludes slaveAddress plan terminalOnMismatch ops (.error e)
  | settled {result : IntentExecutionResult} :
      result.status = .applied ∨ result.status = .readbackMismatch ∧ terminalOnMismatch = true →
      Concludes slaveAddress plan terminalOnMismatch ops (.ok (some result))
  | unconfirmed {result : IntentExecutionResult} {message : String} :
      result.status = .appliedUnconfirmed → result.message = some (.text message) →
      Concludes slaveAddress plan terminalOnMismatch ops (.ok (some result))
  | mismatched {looking readback : List Interaction} {values : List ℤ} :
      terminalOnMismatch = false → ops = looking ++ readback → Unwritten looking →
      Readback slaveAddress plan.readbackExpectations readback values →
      values ≠ ReadbackExpectation.values plan.readbackExpectations →
      Concludes slaveAddress plan terminalOnMismatch ops (.ok none)

variable (w) (env : G301Environment E)

theorem verifyAttempt_concludes {plan : G301Plan} {source : DesiredRoomIntent}
    {terminalOnMismatch : Bool} {r : Except AdapterError (Option IntentExecutionResult)}
    (hplan : a.plan = some plan) (hof : PlanOf source slaveAddress plan)
    (hs : Holds intent.roomKey base s (st.holding a))
    (h : Ends (verifyAttempt w env intent terminalOnMismatch) s r t) :
    ∃ ops, Operated slaveAddress s t ops ∧ Concludes slaveAddress plan terminalOnMismatch ops r := by
  obtain ⟨answer, m, hended, hjudges⟩ := verifyAttempt_judges w env hplan hs h
  obtain ⟨ops, hops⟩ := readback_operates w env hof.slaveAddress_eq s _ m hended
  have hkept : Operated slaveAddress m t [] → Operated slaveAddress s t ops := fun hm =>
    List.append_nil ops ▸ hops.trans hm
  cases hjudges with
  | left hmismatch hfalse ht =>
      subst ht
      rcases readback_ends w env hended with ⟨n, _, heq, hlooks, hall⟩ | ⟨_, heq, -⟩
      · cases heq
        obtain ⟨notes, values, hnotes, hread, hfound⟩ := hall.readback hof
        obtain ⟨looking, hlooking, hquiet⟩ := hlooks
        have hsplit : ops = looking ++ notes :=
          hops.emits.unique (hlooking.emits.trans hnotes.emits)
        refine ⟨ops, hops, .mismatched hfalse hsplit ?_ hread fun heq => ?_⟩
        · exact fun n hn => (hquiet n hn).not_write
        · exact hmismatch (hfound.mpr heq)
      · cases heq
  | @marked found _ hdone hmark =>
      obtain ⟨rfl, hm⟩ := markTerminal_operated slaveAddress hmark
      refine ⟨ops, hkept hm, .settled ?_⟩
      by_cases hmatch : compareReadback plan found = []
      · exact .inl (by simp [verificationResult, hmatch, executionResult])
      · exact .inr ⟨by simp [verificationResult, hmatch, executionResult],
          hdone.resolve_left hmatch⟩
  | unread hmark =>
      obtain ⟨rfl, hm⟩ := markTerminal_operated slaveAddress hmark
      exact ⟨ops, hkept hm, .unconfirmed rfl rfl⟩
  | postponed ht =>
      subst ht
      exact ⟨ops, hops, .unconfirmed rfl rfl⟩
  | raised ht =>
      subst ht
      exact ⟨ops, hops, .raised⟩

variable (intent) in
theorem recordSlaveFailure_served {result : IntentExecutionResult}
    {r : Except AdapterError IntentExecutionResult} (hops : Operated slaveAddress s m ops)
    (hfailure : result.status.Failure)
    (hmessage : ∀ until', result.message ≠ some (.retryCooldown until'))
    (h : Ends (recordSlaveFailure w env slaveAddress >>= fun _ => pure result) m r t) :
    r = .ok result ∧ ∃ notes, Served w intent slaveAddress s t r notes := by
  obtain ⟨reading, n, hreading, hrest, hrecord⟩ := recordSlaveFailure_records w env h
  obtain ⟨rfl, rfl⟩ := ends_pure.mp hrest
  exact ⟨rfl, _, .failed hops hreading hfailure hmessage hrecord⟩

variable (intent) in
theorem recordVerification_served {result : IntentExecutionResult} {success failure : Prop}
    [Decidable success] [Decidable failure] {r : Except AdapterError IntentExecutionResult}
    {plan : G301Plan} {terminalOnMismatch : Bool} {others : List Interaction}
    (hconcludes : Concludes slaveAddress plan terminalOnMismatch others (.ok (some result)))
    (hsuccess : success ↔ result.status = .applied ∨
      result.status = .readbackMismatch ∧ terminalOnMismatch = true)
    (hfailure : failure ↔ result.status = .appliedUnconfirmed)
    (hops : Operated slaveAddress s m ops)
    (h : Ends (do
      if success then recordSlaveSuccess slaveAddress
      else if failure then recordSlaveFailure w env slaveAddress
      return result) m r t) :
    r = .ok result ∧ ¬ result.status.Refusal ∧
      ∃ notes, Served w intent slaveAddress s t r notes := by
  dsimp only at h
  split at h
  · next hdone =>
      unfold recordSlaveSuccess at h
      rw [ends_modify_bind] at h
      obtain ⟨rfl, rfl⟩ := ends_pure.mp h
      have hclears : result.status.Clears := (hsuccess.mp hdone).imp_right And.left
      exact ⟨rfl, hclears.not_refusal, ops, .cleared hops rfl hclears rfl⟩
  · next hdone =>
      cases hconcludes with
      | settled hsettled => exact absurd (hsuccess.mpr hsettled) hdone
      | unconfirmed hstatus htext =>
          rw [if_pos (hfailure.mpr hstatus)] at h
          have hfailed : result.status.Failure := .inr (.inr (.inr (.inr hstatus)))
          obtain ⟨hr, hserved⟩ := recordSlaveFailure_served w intent env hops hfailed
            (by simp [htext]) h
          exact ⟨hr, hfailed.not_refusal, hserved⟩

theorem transportFailed_served {error : G301TransportError} {writes : List RegisterWriteResult}
    {r : Except AdapterError IntentExecutionResult} (hops : Operated slaveAddress s m ops)
    (hne : ops ≠ [])
    (h : Ends (markTerminal intent.roomKey (transportFailureResult intent error writes) false)
      m r t) : ∃ notes, Served w intent slaveAddress s t r notes := by
  obtain ⟨rfl, hmarked⟩ := markTerminal_operated slaveAddress h
  have ht := hops.trans hmarked
  rw [List.append_nil] at ht
  have hfailure := transportFailureStatus_failure error
  exact ⟨_, .unrecorded ht hfailure.not_clears (fun _ => hne)
    fun hrefusal => absurd hrefusal hfailure.not_refusal⟩

theorem writeAndVerify_served {plan : G301Plan} {r : Except AdapterError IntentExecutionResult}
    (hof : PlanOf intent slaveAddress plan) (hs : Holds intent.roomKey base m (st.holding a))
    (hops : Operated slaveAddress s m ops)
    (h : Ends (writeAndVerify w env intent slaveAddress plan) m r t) :
    ∃ notes, Served w intent slaveAddress s t r notes := by
  unfold writeAndVerify at h
  obtain ⟨n, hplanned, hrest, hn⟩ := modifyRoom_operated slaveAddress h
  have hn : Holds intent.roomKey base n (st.holding { a with plan := some plan, phase := .writing }) :=
    hs.modified hn
  obtain ⟨answer, o, hwrites, hrest⟩ := ends_trying_bind.mp hrest
  obtain ⟨more, hmore, hne⟩ := writeAll_operated w env hwrites
  obtain ⟨b, hb, hwritten, -⟩ := writeAll_takes w env rfl (fun _ hw => hw) hn hwrites
  have ho := hops.trans (hplanned.trans hmore)
  cases answer with
  | error e =>
      cases e with
      | transport error =>
          have hrest := currentAttempt_bind hwritten.holds hrest
          dsimp only at hrest
          split at hrest
          · exact transportFailed_served w ho (by simp [hne _ rfl]) hrest
          · obtain ⟨o', hpending, hrest, -⟩ := modifyRoom_operated slaveAddress hrest
            refine (recordSlaveFailure_served w _ env (ho.trans hpending)
              (transportFailureStatus_failure error) ?_ hrest).2
            simp [transportFailureResult, executionResult]
      | _ =>
          obtain ⟨rfl, rfl⟩ := ends_throw.mp hrest
          exact ⟨_, .raised ho⟩
  | ok _ =>
      obtain ⟨o', hpending, hrest, ho'⟩ := modifyRoom_operated slaveAddress hrest
      have ho' : Holds intent.roomKey base o' (st.holding { b with phase := .verificationPending }) :=
        hwritten.holds.modified ho'
      have hb' : ({ b with phase := .verificationPending } : IntentAttempt F).plan = some plan := hb
      rcases ends_bind.mp hrest with ⟨verified, n', hverify, hrest⟩ | ⟨e, hverify, rfl⟩
      · obtain ⟨_, hlast, hconcludes⟩ := verifyAttempt_concludes w env hb' hof ho' hverify
        cases verified with
        | none =>
            cases hconcludes with
            | mismatched hfalse => cases hfalse
        | some result =>
            exact (recordVerification_served w _ env hconcludes (by simp) .rfl
              ((ho.trans hpending).trans hlast) hrest).2.2
      · obtain ⟨_, hlast, -⟩ := verifyAttempt_concludes w env hb' hof ho' hverify
        exact ⟨_, .raised ((ho.trans hpending).trans hlast)⟩

theorem planFailed_served {e : AdapterError} {r : Except AdapterError IntentExecutionResult}
    (hops : Operated slaveAddress s m ops) (hquiet : Unwritten ops)
    (htransport : ∀ error, e = .transport error → ops ≠ [])
    (hrefuses : e.Refuses → 1 ≤ slaveAddress ∧ slaveAddress ≤ 255 →
      ¬ DevicePermits intent slaveAddress ops)
    (h : Ends (planFailed w env intent slaveAddress e) m r t) :
    ∃ notes, Served w intent slaveAddress s t r notes := by
  have hrejected : ∀ {message : String}, e.Refuses →
      Ends (markTerminal intent.roomKey (bareResult intent .rejected (.text message)) false) m r t →
      ∃ notes, Served w intent slaveAddress s t r notes := by
    intro message he h
    obtain ⟨rfl, hmarked⟩ := markTerminal_operated slaveAddress h
    have ht := hops.trans hmarked
    rw [List.append_nil] at ht
    refine ⟨ops, .unrecorded ht ?_ ?_ fun _ => ⟨hquiet, hrefuses he⟩⟩
    · simp [bareResult, executionResult, ExecutionStatus.Clears]
    · simp [bareResult, executionResult, ExecutionStatus.Failure]
  unfold planFailed at h
  cases e with
  | planning message => exact hrejected (.planning _) h
  | valueError message => exact hrejected (.valueError _) h
  | transport error =>
      dsimp only at h
      split at h
      · exact transportFailed_served w hops (htransport _ rfl) h
      · refine (recordSlaveFailure_served w _ env hops (transportFailureStatus_failure error) ?_ h).2
        simp [transportFailureResult, executionResult]
  | _ =>
      obtain ⟨rfl, rfl⟩ := ends_throw.mp h
      exact ⟨_, .raised hops⟩

theorem executeIntent_execution {r : Except AdapterError IntentExecutionResult}
    (hs : Holds intent.roomKey base s (st.holding a))
    (h : Ends (executeIntent w env intent slaveAddress) s r t) :
    ∃ reading notes, Execution w intent slaveAddress s t r reading notes := by
  unfold executeIntent at h
  obtain ⟨n, hrestart, hrest, hn⟩ := modifyRoom_operated slaveAddress h
  have hn := hs.modified hn
  obtain ⟨reading, m, hclock, hrest⟩ := readClock_reads env hrest
  have hm : Emits s m [.clock reading] := hrestart.emits.trans hclock.emits
  have hkept : m.slaveFailures = s.slaveFailures := hclock.slaveFailures.trans hrestart.failures
  have hcooldown : cooldown m slaveAddress reading = cooldown s slaveAddress reading :=
    cooldown_congr slaveAddress hkept.symm reading
  refine ⟨reading, ?_⟩
  dsimp only at hrest
  split at hrest
  · next hexpired =>
      obtain ⟨rfl, hmarked⟩ := markTerminal_operated slaveAddress hrest
      refine ⟨[], .expired (hm.trans hmarked.emits) (hmarked.failures.trans hkept) ?_ rfl⟩
      obtain ⟨expires, hexpires, hpast⟩ := (Option.any_eq_true _ _).mp hexpired
      exact ⟨expires, hexpires, of_decide_eq_true hpast⟩
  · split at hrest
    · obtain ⟨rfl, rfl⟩ := ends_pure.mp hrest
      exact ⟨[], .waiting hm hkept (.inl rfl)⟩
    · rw [ends_get_bind] at hrest
      split at hrest
      · next retryAfter hwait =>
          obtain ⟨rfl, rfl⟩ := ends_pure.mp hrest
          exact ⟨[], .waiting hm hkept (.inr ⟨retryAfter, hcooldown ▸ hwait, rfl⟩)⟩
      · next hfree =>
          obtain ⟨answer, o, hplan, hrest⟩ := ends_trying_bind.mp hrest
          obtain ⟨ops, hops, htransport, hrefuses⟩ := makePlan_operated w env hplan
          obtain ⟨hlooks, hof, -⟩ := makePlan_ends w env hplan
          suffices hserved : ∃ notes, Served w intent slaveAddress m t r notes by
            obtain ⟨notes, hserved⟩ := hserved
            exact ⟨notes, .served hm hkept (hcooldown ▸ hfree) hserved⟩
          cases answer with
          | error e =>
              refine planFailed_served w env hops (hlooks.silent.unwritten hops.emits) ?_
                (fun he => hrefuses e rfl he) hrest
              exact fun error he => htransport error (congrArg _ he)
          | ok plan =>
              have ho := (Takes.of_looks (p := ⟨.planning, _⟩) (hclock.intentStates.trans hn) hlooks).holds
              exact writeAndVerify_served w env (hof plan rfl) ho hops hrest

theorem resumeVerification_resumption {plan : G301Plan} {source : DesiredRoomIntent}
    {r : Except AdapterError IntentExecutionResult} (hplan : a.plan = some plan)
    (hof : PlanOf source slaveAddress plan) (hs : Holds intent.roomKey base s (st.holding a))
    (h : Ends (resumeVerification w env intent slaveAddress) s r t) :
    Resumption w intent slaveAddress plan s t r := by
  unfold resumeVerification at h
  obtain ⟨reading, m, hclock, hrest⟩ := readClock_reads env h
  have hm : Holds intent.roomKey base m (st.holding a) := hclock.intentStates.trans hs
  have hcooldown : cooldown m slaveAddress reading = cooldown s slaveAddress reading :=
    cooldown_congr slaveAddress hclock.slaveFailures.symm reading
  rw [ends_get_bind] at hrest
  split at hrest
  · next retryAfter hwait =>
      obtain ⟨rfl, rfl⟩ := ends_pure.mp hrest
      exact .waiting hclock.emits hclock.slaveFailures (hcooldown ▸ hwait)
  · next hfree =>
      have hfree := hcooldown ▸ hfree
      have hrest := currentAttempt_bind hm hrest
      simp only [Option.bind_some, hplan, Option.isNone_some, Bool.false_eq_true, if_false] at hrest
      rcases ends_bind.mp hrest with ⟨verified, n, hverify, hrest⟩ | ⟨e, hverify, rfl⟩
      · obtain ⟨ops, hops, hconcludes⟩ := verifyAttempt_concludes w env hplan hof hm hverify
        cases verified with
        | some result =>
            obtain ⟨rfl, hrefusal, notes, hserved⟩ := recordVerification_served w
              intent env hconcludes (by simp) .rfl hops hrest
            refine .verified hclock.emits hclock.slaveFailures hfree hserved ?_
            rintro _ ⟨⟩
            exact hrefusal
        | none =>
            cases hconcludes with
            | mismatched _ hsplit hquiet hread hne =>
                subst hsplit
                obtain ⟨o, hkept, hrest, ho⟩ :=
                  modifyRoom_operated slaveAddress hrest
                have hn : Holds intent.roomKey base n (st.holding a) := by
                  rcases verifyAttempt_takes w env (.inl rfl) hplan hof hm hverify with
                    ⟨_, answer, hanswer, -⟩ | ⟨-, -, _, _, _, ⟨_, hlooks, -⟩, hnotes, -⟩
                  · cases answer with
                    | error e => cases hanswer
                    | ok result => cases hanswer
                  · exact (hnotes.intentStates.trans hlooks.intentStates).trans hm
                obtain ⟨again, notes, hexecution⟩ :=
                  executeIntent_execution w env (hn.modified ho) hrest
                have hoperated := hops.trans hkept
                rw [List.append_nil] at hoperated
                exact .reexecuted hclock.emits hclock.slaveFailures hfree hoperated hquiet hread hne
                  hexecution
      · obtain ⟨ops, hops, -⟩ := verifyAttempt_concludes w env hplan hof hm hverify
        exact .verified hclock.emits hclock.slaveFailures hfree (.raised hops) (by simp)

theorem executeCurrent_execution {r : Except AdapterError IntentExecutionResult}
    (ha : st.currentAttempt = some a) (hs : Holds intent.roomKey base s st)
    (h : Ends (executeCurrent w env intent slaveAddress) s r t) :
    ∃ reading notes, Execution w intent slaveAddress s t r reading notes := by
  rw [← holding_of_current ha] at hs
  exact executeIntent_execution w env hs (currentAttempt_bind hs h)

theorem applyIntent_ending [DecidableEq F] {received : DesiredRoomIntent → Prop}
    {r : Except AdapterError IntentExecutionResult}
    (hsound : ∀ slaveAddress, w.roomSlaveAddresses.lookup intent.roomKey = some slaveAddress →
      (s.room intent.roomKey).Sound w slaveAddress received)
    (h : Ends (applyIntent w env intent) s r t) : CallEnding w intent s t r := by
  have hheld := entered_holds s intent.roomKey
  have hkept : ∀ slaveAddress, Operated slaveAddress s (s.entered intent.roomKey) [] :=
    fun _ => .of_moments rfl rfl
  cases applyIntent_path w env hsound h with
  | skipped _ _ ht =>
      subst ht
      exact .idle rfl rfl rfl
  | refused _ _ _ ht =>
      subst ht
      exact .idle rfl rfl hheld.eq_room
  | replayed _ _ _ _ _ ht =>
      subst ht
      exact .idle rfl rfl hheld.eq_room
  | registered hslave hnew hrest =>
      obtain ⟨n, hn, hrest, hstates⟩ := modifyRoom_operated _ hrest
      obtain ⟨reading, notes, hexecution⟩ :=
        executeCurrent_execution w env rfl (hheld.modified hstates) hrest
      exact .executed hslave (.fresh hnew) rfl (hexecution.since ((hkept _).trans hn))
  | retried hslave ha hmade hphase hrest =>
      obtain ⟨reading, notes, hexecution⟩ := executeCurrent_execution w env ha hheld hrest
      exact .executed hslave (.retry ha hmade hphase) rfl (hexecution.since (hkept _))
  | resumed hslave ha hmade hphase hrest =>
      obtain ⟨plan, hplan, source, -, -, hof⟩ := (hsound _ hslave).planned _ ha hphase
      rw [← holding_of_current ha] at hheld
      exact .resumed hslave ha hmade hphase hplan
        ((resumeVerification_resumption w env hplan hof hheld hrest).since (hkept _))

end ClockOrchestrator
