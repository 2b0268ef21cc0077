import ClockOrchestrator.G301Adapter.SlaveCoupling
import ClockOrchestrator.Guarantees.Refusals

namespace ClockOrchestrator

open Python Procedure Emission

variable {E F : Type}

def Gated (slaveAddress : ℕ) (retryAfter : Option ℚ) (notes : List Interaction) : Prop :=
  ∀ done n rest, notes = done ++ n :: rest → (∀ reading, n ≠ .clock reading) →
    n.Operates slaveAddress ∧ ∃ pre, ∃ reading : Instant, ∃ ops, done = pre ++ .clock reading :: ops ∧
      (∀ o ∈ ops, o.Operates slaveAddress) ∧ ∀ limit, retryAfter = some limit → limit ≤ reading

section Gates

variable {slaveAddress : ℕ} {retryAfter : Option ℚ} {notes others : List Interaction}

theorem Gated.append (h : Gated slaveAddress retryAfter notes)
    (h' : Gated slaveAddress retryAfter others) :
    Gated slaveAddress retryAfter (notes ++ others) := by
  intro done n rest hsplit hn
  rcases List.append_eq_append_iff.mp hsplit with ⟨between, rfl, hothers⟩ | ⟨between, hnotes, hrest⟩
  · obtain ⟨hoperates, pre, reading, ops, rfl, hops, hlimit⟩ := h' _ _ _ hothers hn
    exact ⟨hoperates, notes ++ pre, reading, ops, (List.append_assoc ..).symm, hops, hlimit⟩
  · cases between with
    | nil =>
        rw [List.append_nil] at hnotes
        subst hnotes
        obtain ⟨hoperates, pre, reading, ops, hnil, hops, hlimit⟩ := h' [] n rest hrest.symm hn
        simp at hnil
    | cons first between =>
        obtain ⟨rfl, -⟩ := List.cons.inj hrest
        exact h _ _ _ hnotes hn

theorem Gated.clock (reading : Instant) : Gated slaveAddress retryAfter [.clock reading] := by
  intro done n rest hsplit hn
  cases done with
  | nil => exact absurd (List.cons.inj hsplit).1.symm (hn reading)
  | cons first done => simp at hsplit

theorem Gated.stretch {reading : Instant} {ops : List Interaction}
    (hops : ∀ n ∈ ops, n.Operates slaveAddress)
    (hlimit : ∀ limit, retryAfter = some limit → limit ≤ reading) :
    Gated slaveAddress retryAfter (.clock reading :: ops) := by
  intro done n rest hsplit hn
  cases done with
  | nil => exact absurd (List.cons.inj hsplit).1.symm (hn reading)
  | cons first done =>
      obtain ⟨rfl, rfl⟩ := List.cons.inj hsplit
      refine ⟨hops n (by simp), [], reading, done, rfl, fun o ho => hops o (by simp [ho]), hlimit⟩

end Gates

variable {w : G301EntranceWorker F} {intent : DesiredRoomIntent} {slaveAddress : ℕ}
  {s t : WorkerState E F} {r : Except AdapterError IntentExecutionResult}

theorem cooldown_passed {reading : Instant} (h : cooldown s slaveAddress reading = none) :
    ∀ limit, (slaveFailureState s slaveAddress).retryAfter = some limit → limit ≤ reading := by
  intro limit hlimit
  rw [cooldown, hlimit, Option.filter_some] at h
  by_contra hnot
  simp [not_le.mp hnot] at h

theorem Served.gated {notes : List Interaction} {reading : Instant} {retryAfter : Option ℚ}
    (h : Served w intent slaveAddress s t r notes)
    (hlimit : ∀ limit, retryAfter = some limit → limit ≤ reading) :
    Gated slaveAddress retryAfter (.clock reading :: notes) := by
  cases h with
  | raised hops => exact .stretch hops.operates hlimit
  | unrecorded hops _ _ _ => exact .stretch hops.operates hlimit
  | cleared hops _ _ _ => exact .stretch hops.operates hlimit
  | failed hops _ _ _ _ => exact (Gated.stretch hops.operates hlimit).append (.clock _)

theorem Execution.gated {notes : List Interaction} {reading : Instant}
    (h : Execution w intent slaveAddress s t r reading notes) :
    Gated slaveAddress (slaveFailureState s slaveAddress).retryAfter (.clock reading :: notes) := by
  cases h with
  | expired _ _ _ _ => exact .clock reading
  | waiting _ _ _ => exact .clock reading
  | served _ _ hfree hserved => exact hserved.gated (cooldown_passed hfree)

theorem Resumption.gated {plan : G301Plan} {notes : List Interaction}
    (h : Resumption w intent slaveAddress plan s t r) (hnotes : Emits s t notes) :
    Gated slaveAddress (slaveFailureState s slaveAddress).retryAfter notes := by
  cases h with
  | waiting hclock _ _ =>
      rw [hnotes.unique hclock]
      exact .clock _
  | verified hclock _ hfree hserved _ =>
      rw [hnotes.unique (hclock.trans hserved.emits)]
      exact hserved.gated (cooldown_passed hfree)
  | reexecuted hclock hkept hfree hops _ _ _ hexecution =>
      rw [hnotes.unique ((hclock.trans hops.emits).trans hexecution.emits)]
      refine (Gated.stretch hops.operates (cooldown_passed hfree)).append ?_
      have hgated := hexecution.gated
      unfold slaveFailureState at hgated ⊢
      rw [hops.failures, hkept] at hgated
      exact hgated

instance (status : ExecutionStatus) : Decidable status.Clears :=
  inferInstanceAs (Decidable (_ ∨ _))

instance (status : ExecutionStatus) : Decidable status.Failure :=
  inferInstanceAs (Decidable (_ ∨ _))

inductive SlaveRecord where
  | nothing
  | success
  | failure (reading : Instant)

def ResultMessage.isCooldown : ResultMessage → Bool
  | .text _ => false
  | .retryCooldown _ => true

def lastReading (notes : List Interaction) : Option Instant := notes.getLast?.bind (·.reading)

-- The reading at which a failure is recorded is the last that a call does, and a result that was
-- settled by an earlier call is returned without doing anything.
def slaveRecord (r : Except AdapterError IntentExecutionResult) (notes : List Interaction) :
    SlaveRecord :=
  match r with
  | .error _ => .nothing
  | .ok result =>
      if notes = [] then .nothing
      else if result.status.Clears then .success
      else if result.status.Failure ∧ ¬ result.message.any (·.isCooldown) then
        match lastReading notes with
        | some reading => .failure reading
        | none => .nothing
      else .nothing

def SlaveRecord.apply (w : G301EntranceWorker F) (slaveAddress : ℕ)
    (failures : ℕ → Option SlaveFailureState) : SlaveRecord → ℕ → Option SlaveFailureState
  | .nothing => failures
  | .success => Function.update failures slaveAddress none
  | .failure reading => Function.update failures slaveAddress
      (some (((failures slaveAddress).getD ⟨0, none⟩).next w reading))

theorem lastReading_clock (notes : List Interaction) (reading : Instant) :
    lastReading (notes ++ [.clock reading]) = some reading := by
  rw [lastReading, List.getLast?_append, List.getLast?_singleton]
  rfl

theorem lastReading_operated {notes ops : List Interaction} (hne : ops ≠ [])
    (hops : ∀ n ∈ ops, n.Operates slaveAddress) : lastReading (notes ++ ops) = none := by
  obtain ⟨last, hlast⟩ := Option.ne_none_iff_exists'.mp (mt List.getLast?_eq_none_iff.mp hne)
  rw [lastReading, List.getLast?_append, hlast]
  have hoperates := hops last (List.mem_of_getLast? hlast)
  cases last with
  | write _ _ _ _ => rfl
  | read _ _ _ _ => rfl
  | clock _ => exact hoperates.elim

section Records

variable {result : IntentExecutionResult} {notes : List Interaction}

theorem slaveRecord_cleared (hnotes : notes ≠ []) (h : result.status.Clears) :
    slaveRecord (.ok result) notes = .success := by
  rw [slaveRecord, if_neg hnotes, if_pos h]

theorem slaveRecord_failed {reading : Instant} (hnotes : notes ≠ []) (h : result.status.Failure)
    (hmessage : ∀ until', result.message ≠ some (.retryCooldown until'))
    (hlast : lastReading notes = some reading) :
    slaveRecord (.ok result) notes = .failure reading := by
  have hcooldown : ¬ result.message.any (·.isCooldown) = true := by
    rw [Option.any_eq_true]
    rintro ⟨message, hsome, hcooldown⟩
    cases message with
    | text _ => cases hcooldown
    | retryCooldown limit => exact hmessage limit hsome
  rw [slaveRecord, if_neg hnotes, if_neg h.not_clears, if_pos ⟨h, hcooldown⟩, hlast]

theorem slaveRecord_nothing (hclears : ¬ result.status.Clears)
    (hfailure : result.status.Failure →
      result.message.any (·.isCooldown) = true ∨ lastReading notes = none) :
    slaveRecord (.ok result) notes = .nothing := by
  unfold slaveRecord
  dsimp only
  rw [if_neg hclears]
  by_cases hnotes : notes = []
  · rw [if_pos hnotes]
  · rw [if_neg hnotes]
    split
    · next hfailed =>
        rw [(hfailure hfailed.1).resolve_left hfailed.2]
    · rfl

end Records

theorem Served.records (pre : List Interaction) {notes : List Interaction} {first : Instant}
    (h : Served w intent slaveAddress s t r notes) :
    t.slaveFailures =
      (slaveRecord r (pre ++ .clock first :: notes)).apply w slaveAddress s.slaveFailures := by
  cases h with
  | raised hops => exact hops.failures
  | unrecorded hops hclears hfailure _ =>
      rw [slaveRecord_nothing hclears]
      · exact hops.failures
      · intro hfailed
        rw [← List.singleton_append, ← List.append_assoc]
        exact .inr (lastReading_operated (hfailure hfailed) hops.operates)
  | cleared hops _ hclears hrecord =>
      rw [slaveRecord_cleared (by simp) hclears, hrecord, hops.failures]
      rfl
  | @failed result m ops reading hops _ hfailure hmessage hrecord =>
      have hlast : lastReading (pre ++ .clock first :: (ops ++ [.clock reading])) = some reading := by
        rw [← List.cons_append, ← List.append_assoc]
        exact lastReading_clock _ _
      rw [slaveRecord_failed (by simp) hfailure hmessage hlast, hrecord, SlaveRecord.apply,
        slaveFailureState, hops.failures]

theorem Execution.records (pre : List Interaction) {notes : List Interaction} {reading : Instant}
    (h : Execution w intent slaveAddress s t r reading notes) :
    t.slaveFailures =
      (slaveRecord r (pre ++ .clock reading :: notes)).apply w slaveAddress s.slaveFailures := by
  cases h with
  | expired _ hkept _ hstatus =>
      rw [slaveRecord_nothing (by simp [hstatus, ExecutionStatus.Clears])
        (by simp [hstatus, ExecutionStatus.Failure])]
      exact hkept
  | waiting _ hkept hwait =>
      rcases hwait with hstatus | ⟨limit, -, rfl⟩
      · rw [slaveRecord_nothing (by simp [hstatus, ExecutionStatus.Clears])
          (by simp [hstatus, ExecutionStatus.Failure])]
        exact hkept
      · rw [slaveRecord_nothing (by simp [cooldownResult, bareResult, executionResult, ExecutionStatus.Clears])
          fun _ => .inl rfl]
        exact hkept
  | served _ hkept _ hserved =>
      rw [hserved.records pre, hkept]

theorem Resumption.records {plan : G301Plan} {notes : List Interaction}
    (h : Resumption w intent slaveAddress plan s t r) (hnotes : Emits s t notes) :
    t.slaveFailures = (slaveRecord r notes).apply w slaveAddress s.slaveFailures := by
  cases h with
  | waiting _ hkept _ =>
      rw [slaveRecord_nothing (by simp [cooldownResult, bareResult, executionResult, ExecutionStatus.Clears])
        fun _ => .inl rfl]
      exact hkept
  | verified hclock hkept _ hserved _ =>
      rw [hnotes.unique (hclock.trans hserved.emits), ← hkept]
      exact hserved.records []
  | reexecuted hclock hkept _ hops _ _ _ hexecution =>
      rw [hnotes.unique ((hclock.trans hops.emits).trans hexecution.emits), ← hkept, ← hops.failures]
      exact hexecution.records _

def CallRecord.slaveRecord (c : CallRecord E F) : SlaveRecord :=
  ClockOrchestrator.slaveRecord c.result c.interactions

theorem CallEnding.serves {c : CallRecord E F}
    (h : CallEnding w c.intent c.before c.after c.result) (hmoments : c.before.moments = []) :
    (c.interactions = [] ∧ c.after.slaveFailures = c.before.slaveFailures) ∨
      ∃ slaveAddress, w.roomSlaveAddresses.lookup c.intent.roomKey = some slaveAddress ∧
        Gated slaveAddress (slaveFailureState c.before slaveAddress).retryAfter c.interactions ∧
        c.after.slaveFailures = c.slaveRecord.apply w slaveAddress c.before.slaveFailures := by
  have hnotes : ∀ {notes : List Interaction}, Emits c.before c.after notes →
      c.interactions = notes := fun hemits => CallRecord.interactions_of_emits hmoments hemits
  unfold CallRecord.slaveRecord
  generalize c.result = r at h
  cases h with
  | idle hsame hkept _ =>
      rw [hmoments] at hsame
      exact .inl ⟨by simp [CallRecord.interactions, hsame], hkept⟩
  | executed hslave _ _ hexecution =>
      rw [hnotes hexecution.emits]
      exact .inr ⟨_, hslave, hexecution.gated, hexecution.records []⟩
  | resumed hslave _ _ _ _ hresumption =>
      obtain ⟨_, _, hemits⟩ := hresumption.emits
      rw [hnotes hemits]
      exact .inr ⟨_, hslave, hresumption.gated hemits, hresumption.records hemits⟩

def failuresSinceSuccess (w : G301EntranceWorker F) (slaveAddress : ℕ)
    (calls : List (CallRecord E F)) : List Instant :=
  calls.foldl (fun readings c =>
    if w.roomSlaveAddresses.lookup c.intent.roomKey = some slaveAddress then
      match c.slaveRecord with
      | .nothing => readings
      | .success => []
      | .failure reading => readings ++ [reading]
    else readings) []

def retryState (w : G301EntranceWorker F) (readings : List Instant) : Option SlaveFailureState :=
  readings.getLast?.map fun reading =>
    ⟨readings.length, some (reading + min
      (w.settings.slaveRetryBaseSeconds * 2 ^ min (readings.length - 1) 16)
      w.settings.slaveRetryMaxSeconds * secondMicros)⟩

theorem failuresSinceSuccess_concat (calls : List (CallRecord E F)) (c : CallRecord E F) :
    failuresSinceSuccess w slaveAddress (calls ++ [c]) =
      if w.roomSlaveAddresses.lookup c.intent.roomKey = some slaveAddress then
        match c.slaveRecord with
        | .nothing => failuresSinceSuccess w slaveAddress calls
        | .success => []
        | .failure reading => failuresSinceSuccess w slaveAddress calls ++ [reading]
      else failuresSinceSuccess w slaveAddress calls := by
  unfold failuresSinceSuccess
  rw [List.foldl_append]
  rfl

theorem retryState_next (readings : List Instant) (reading : Instant) :
    some (((retryState w readings).getD ⟨0, none⟩).next w reading) =
      retryState w (readings ++ [reading]) := by
  have hcount : ((retryState w readings).getD ⟨0, none⟩).consecutiveFailures = readings.length := by
    cases hlast : readings.getLast? with
    | none =>
        rw [List.getLast?_eq_none_iff] at hlast
        simp [retryState, hlast]
    | some last => simp [retryState, hlast]
  rw [SlaveFailureState.next, hcount, retryState, List.getLast?_append, List.getLast?_singleton,
    List.length_append]
  rfl

theorem SlaveRecord.apply_elsewhere {other : ℕ} (record : SlaveRecord)
    (failures : ℕ → Option SlaveFailureState) (hne : slaveAddress ≠ other) :
    record.apply w other failures slaveAddress = failures slaveAddress := by
  cases record with
  | nothing => rfl
  | success => exact Function.update_of_ne hne _ _
  | failure reading => exact Function.update_of_ne hne _ _

theorem slaveRecord_idle {c : CallRecord E F} (h : c.interactions = []) :
    c.slaveRecord = .nothing := by
  unfold CallRecord.slaveRecord slaveRecord
  rw [h]
  cases c.result <;> rfl

variable {env : G301Environment E} {e : E} {intents : List DesiredRoomIntent} [DecidableEq F]

theorem history_retries :
    (history w env e intents).state.slaveFailures slaveAddress =
      retryState w (failuresSinceSuccess w slaveAddress (history w env e intents).calls) := by
  refine history_rule (I := fun h => h.state.slaveFailures slaveAddress =
    retryState w (failuresSinceSuccess w slaveAddress h.calls)) rfl fun intents intent hconsistent ih => ?_
  have hserves := CallEnding.serves (c := callRecord w env (history w env e intents).state intent)
    (hconsistent.ending env intent) rfl
  change (callRecord w env (history w env e intents).state intent).after.slaveFailures slaveAddress =
    retryState w (failuresSinceSuccess w slaveAddress ((history w env e intents).calls ++ [_]))
  rw [failuresSinceSuccess_concat]
  rcases hserves with ⟨hidle, hkept⟩ | ⟨other, hslave, -, hrecord⟩
  · rw [hkept, slaveRecord_idle hidle, ite_self]
    exact ih
  · rw [hrecord]
    by_cases hsame : other = slaveAddress
    · subst hsame
      rw [if_pos hslave]
      cases CallRecord.slaveRecord _ with
      | nothing => exact ih
      | success => exact Function.update_self _ _ _
      | failure reading =>
          refine (Function.update_self _ _ _).trans ?_
          rw [← retryState_next, ← ih]
          rfl
    · rw [if_neg fun h => hsame (Option.some.inj (hslave.symm.trans h)),
        SlaveRecord.apply_elsewhere _ _ (Ne.symm hsame)]
      exact ih

theorem cooldown_respected_and_bounded (w : G301EntranceWorker F) (env : G301Environment E) (e : E)
    (intents : List DesiredRoomIntent) :
    (∀ before c after, (history w env e intents).calls = before ++ c :: after →
      ∀ done n rest, c.interactions = done ++ n :: rest → (∀ reading, n ≠ .clock reading) →
        ∃ slaveAddress, w.roomSlaveAddresses.lookup c.intent.roomKey = some slaveAddress ∧
          n.Operates slaveAddress ∧ ∃ pre, ∃ reading : Instant, ∃ ops,
            done = pre ++ .clock reading :: ops ∧ (∀ o ∈ ops, o.Operates slaveAddress) ∧
            ∀ limit, ((retryState w (failuresSinceSuccess w slaveAddress before)).bind
              (·.retryAfter)) = some limit → limit ≤ reading) ∧
    ∀ slaveAddress, (history w env e intents).state.slaveFailures slaveAddress =
      retryState w (failuresSinceSuccess w slaveAddress (history w env e intents).calls) := by
  refine ⟨fun before c after hcalls done n rest hsplit hn => ?_, fun _ => history_retries⟩
  obtain ⟨earlier, rfl, -, hstart, -⟩ := history_effect hcalls
  have hmoments : c.before.moments = [] := by rw [hstart]; rfl
  rcases (history_ending hcalls).serves hmoments with ⟨hidle, -⟩ | ⟨slaveAddress, hslave, hgated, -⟩
  · simp [hidle] at hsplit
  · refine ⟨slaveAddress, hslave, ?_⟩
    rw [hstart] at hgated
    obtain ⟨hoperates, pre, reading, ops, hdone, hops, hlimit⟩ := hgated done n rest hsplit hn
    refine ⟨hoperates, pre, reading, ops, hdone, hops, fun limit hsome => hlimit limit ?_⟩
    rw [← history_retries] at hsome
    obtain ⟨state, hstate, hretry⟩ := Option.bind_eq_some_iff.mp hsome
    have hfound : (history w env e earlier).state.atRest.slaveFailures slaveAddress = some state :=
      hstate
    rw [slaveFailureState, hfound]
    exact hretry

end ClockOrchestrator
