import ClockOrchestrator.G301Adapter.CallCoupling
import ClockOrchestrator.Support.Simulation

namespace ClockOrchestrator

open Python Procedure

variable {E E' F α : Type} {env : G301Environment E} {env' : G301Environment E'}
  {rel : E → E' → List Interaction → Prop} {slaveAddress : ℕ} {roomKey : String}
  {intent : DesiredRoomIntent}

structure AnswersAlike (env : G301Environment E) (env' : G301Environment E')
    (rel : E → E' → List Interaction → Prop) (slaveAddress : ℕ) : Prop where
  write : ∀ {e e' notes}, rel e e' notes → ∀ address value,
    (env.writeRegister e slaveAddress address value).1 =
        (env'.writeRegister e' slaveAddress address value).1 ∧
      rel (env.writeRegister e slaveAddress address value).2
        (env'.writeRegister e' slaveAddress address value).2
        (notes ++ [.write slaveAddress address value
          (env.writeRegister e slaveAddress address value).1])
  read : ∀ {e e' notes}, rel e e' notes → ∀ address count,
    (env.readHoldingRegisters e slaveAddress address count).1 =
        (env'.readHoldingRegisters e' slaveAddress address count).1 ∧
      rel (env.readHoldingRegisters e slaveAddress address count).2
        (env'.readHoldingRegisters e' slaveAddress address count).2
        (notes ++ [.read slaveAddress address count
          (env.readHoldingRegisters e slaveAddress address count).1])
  clock : ∀ {e e' notes}, rel e e' notes →
    (env.clock e).1 = (env'.clock e').1 ∧
      rel (env.clock e).2 (env'.clock e').2 (notes ++ [.clock (env.clock e).1])
  sleep : ∀ {e e' notes}, rel e e' notes → ∀ seconds,
    (env.sleep e seconds).1 = (env'.sleep e' seconds).1 ∧
      rel (env.sleep e seconds).2 (env'.sleep e' seconds).2 notes

structure Mirrors (rel : E → E' → List Interaction → Prop) (slaveAddress : ℕ) (roomKey : String)
    (s : WorkerState E F) (s' : WorkerState E' F) : Prop where
  env : rel s.env s'.env s.interactions
  intentStates : s.intentStates = s'.intentStates
  slaveFailures : s.slaveFailures = s'.slaveFailures
  moments : s.moments = s'.moments
  addressed : Addressed slaveAddress (s.intentStates roomKey)

abbrev MirroredCall (F : Type) (rel : E → E' → List Interaction → Prop) (slaveAddress : ℕ)
    (roomKey : String) (x : WorkerM E F α) (y : WorkerM E' F α) : Prop :=
  Simulates (Mirrors rel slaveAddress roomKey) (fun _ => True) x y

theorem modifyRoom_mirrored {f : RoomIntentState F → RoomIntentState F}
    (hf : KeepsAddress slaveAddress f) :
    MirroredCall F rel slaveAddress roomKey (modifyRoom roomKey f) (modifyRoom roomKey f) := by
  refine .modify fun s s' hs => ⟨hs.env, ?_, hs.slaveFailures, hs.moments, ?_⟩
  · rw [hs.intentStates]
  · simp only [Function.update_self]
    intro st a plan hst ha hplan
    obtain ⟨old, hold, rfl⟩ := Option.map_eq_some_iff.mp hst
    exact hf old (hold ▸ hs.addressed) _ a plan rfl ha hplan

theorem modifyAttempt_mirrored {f : IntentAttempt F → IntentAttempt F}
    (hf : ∀ a plan, (f a).plan = some plan → a.plan = some plan ∨ plan.slaveAddress = slaveAddress) :
    MirroredCall F rel slaveAddress roomKey (modifyAttempt roomKey f) (modifyAttempt roomKey f) :=
  modifyRoom_mirrored (keepsAddress_of_attempt hf)

theorem markTerminal_mirrored (result : IntentExecutionResult) (applied : Bool) :
    MirroredCall F rel slaveAddress roomKey (markTerminal roomKey result applied)
      (markTerminal roomKey result applied) :=
  (modifyRoom_mirrored (keepsAddress_markTerminal result applied)).then (.pure trivial)

theorem currentAttempt_mirrored :
    Simulates (Mirrors (F := F) rel slaveAddress roomKey)
      (fun attempt => ∀ a plan, attempt = some a → a.plan = some plan →
        plan.slaveAddress = slaveAddress) (currentAttempt roomKey) (currentAttempt roomKey) := by
  refine .get_bind fun s s' hs => ?_
  rw [← hs.intentStates]
  refine .pure fun a plan ha hplan => ?_
  obtain ⟨st, hst, ha⟩ := Option.bind_eq_some_iff.mp ha
  exact hs.addressed st a plan hst ha hplan

theorem recordSlaveSuccess_mirrored (slave : ℕ) :
    MirroredCall F rel slaveAddress roomKey (recordSlaveSuccess slave) (recordSlaveSuccess slave) := by
  refine .modify fun s s' hs => ⟨hs.env, hs.intentStates, ?_, hs.moments, hs.addressed⟩
  rw [hs.slaveFailures]

theorem interact_mirrored {f : E → α × E} {f' : E' → α × E'} {note : α → Interaction}
    (h : ∀ {e e' notes}, rel e e' notes →
      (f e).1 = (f' e').1 ∧ rel (f e).2 (f' e').2 (notes ++ [note (f e).1])) :
    MirroredCall F rel slaveAddress roomKey (interact f note) (interact f' note) := by
  intro s s' r t hs hx
  obtain ⟨hanswer, hrel⟩ := h hs.env
  obtain ⟨rfl, rfl⟩ := Prod.mk.inj hx
  refine ⟨{ s' with
      env := (f' s'.env).2
      moments := s'.moments ++ [⟨note (f' s'.env).1, s'.intentStates⟩] },
    Prod.ext (congrArg Except.ok hanswer.symm) rfl,
    ⟨?_, hs.intentStates, hs.slaveFailures, ?_, hs.addressed⟩, fun _ _ => trivial⟩
  · simpa [WorkerState.interactions] using hrel
  · simp only [hs.moments, hs.intentStates, hanswer]

section Calls

variable (h : AnswersAlike env env' rel slaveAddress) (w : G301EntranceWorker F)
include h

theorem readClock_mirrored :
    MirroredCall F rel slaveAddress roomKey (readClock env) (readClock env') :=
  interact_mirrored h.clock

theorem clientWrite_mirrored (address : ℕ) (value : ℤ) :
    MirroredCall F rel slaveAddress roomKey (clientWrite env slaveAddress address value)
      (clientWrite env' slaveAddress address value) :=
  interact_mirrored fun hrel => h.write hrel address value

theorem clientRead_mirrored (address count : ℕ) :
    MirroredCall F rel slaveAddress roomKey (clientRead env slaveAddress address count)
      (clientRead env' slaveAddress address count) :=
  interact_mirrored fun hrel => h.read hrel address count

theorem sleepUnlessZero_mirrored (seconds : ℚ) :
    MirroredCall F rel slaveAddress roomKey (sleepUnlessZero env seconds)
      (sleepUnlessZero env' seconds) := by
  refine .ite (.pure trivial) ?_
  intro s s' r t hs hx
  obtain ⟨hcancelled, hrel⟩ := h.sleep hs.env seconds
  obtain ⟨rfl, rfl⟩ := sleep_answers env hx
  refine ⟨{ s' with env := (env'.sleep s'.env seconds).2 }, ?_,
    ⟨hrel, hs.intentStates, hs.slaveFailures, hs.moments, hs.addressed⟩, fun _ _ => trivial⟩
  obtain ⟨ht, hr⟩ := sleep_answers env' (ends_outcome (sleep env' seconds) s')
  rw [hcancelled]
  exact Prod.ext hr ht

variable {operation : WorkerM E F (Except ClientFailure α)}
  {operation' : WorkerM E' F (Except ClientFailure α)}

theorem withRetryFrom_mirrored
    (hoperation : MirroredCall F rel slaveAddress roomKey operation operation')
    (attempt remaining : ℕ) (lastError : Option G301TransportError) :
    MirroredCall F rel slaveAddress roomKey (withRetryFrom w env operation attempt remaining lastError)
      (withRetryFrom w env' operation' attempt remaining lastError) := by
  induction remaining generalizing attempt lastError with
  | zero => cases lastError <;> exact .throw _
  | succ remaining ih =>
      have hbackoff : MirroredCall F rel slaveAddress roomKey
          (withRetryFrom.backoff w env attempt remaining)
          (withRetryFrom.backoff w env' attempt remaining) :=
        .ite (.pure trivial) (sleepUnlessZero_mirrored h _)
      refine .bind hoperation fun answer _ => ?_
      rcases answer with (_ | error | message | _) | value
      · exact hbackoff.then (ih _ _)
      · exact .ite (.throw _) (hbackoff.then (ih _ _))
      · exact .throw _
      · exact .throw _
      · exact .pure trivial

theorem withRetry_mirrored (hoperation : MirroredCall F rel slaveAddress roomKey operation operation') :
    MirroredCall F rel slaveAddress roomKey (withRetry w env operation) (withRetry w env' operation') :=
  withRetryFrom_mirrored h w hoperation _ _ _

theorem readOne_mirrored (address : ℕ) :
    MirroredCall F rel slaveAddress roomKey (readOne w env slaveAddress address)
      (readOne w env' slaveAddress address) := by
  refine .bind (withRetry_mirrored h w (clientRead_mirrored h address 1)) fun values _ => ?_
  rcases values with _ | ⟨value, _ | _⟩
  · exact .throw _
  · exact .pure trivial
  · exact .throw _

theorem writeOne_mirrored (write : RegisterWrite) :
    MirroredCall F rel slaveAddress roomKey (writeOne w env slaveAddress write)
      (writeOne w env' slaveAddress write) :=
  withRetry_mirrored h w (clientWrite_mirrored h _ _)

theorem readDeviceProfile_mirrored :
    MirroredCall F rel slaveAddress roomKey (readDeviceProfile w env slaveAddress)
      (readDeviceProfile w env' slaveAddress) := by
  refine .bind (readOne_mirrored h w _) fun raw _ => ?_
  refine .bind (withRetry_mirrored h w (clientRead_mirrored h _ 3)) fun limits _ => ?_
  rcases limits with _ | ⟨limitation, _ | ⟨upper, _ | ⟨lower, _ | _⟩⟩⟩
  · exact .throw _
  · exact .throw _
  · exact .throw _
  · dsimp only
    cases buildDeviceProfile raw limitation upper lower with
    | ok profile => exact .pure trivial
    | error e => exact .throw _
  · exact .throw _

theorem readPass_mirrored (expectations : List ReadbackExpectation) (observed : Observed) :
    MirroredCall F rel slaveAddress roomKey (readPass w env slaveAddress expectations observed)
      (readPass w env' slaveAddress expectations observed) := by
  induction expectations generalizing observed with
  | nil => exact .pure trivial
  | cons expectation rest ih => exact .bind (readOne_mirrored h w _) fun value _ => ih _

theorem readback_mirrored {plan : G301Plan} (hplan : plan.slaveAddress = slaveAddress) :
    MirroredCall F rel slaveAddress roomKey (readback w env plan) (readback w env' plan) := by
  have hfrom : ∀ remaining observed, MirroredCall F rel slaveAddress roomKey
      (readbackFrom w env plan remaining observed)
      (readbackFrom w env' plan remaining observed) := by
    intro remaining
    induction remaining with
    | zero => exact fun _ => .pure trivial
    | succ remaining ih =>
        intro observed
        rw [readbackFrom, readbackFrom, hplan]
        refine .bind (readPass_mirrored h w _ _) fun found _ => ?_
        exact .ite (.pure trivial) (.ite (ih _) (.then (sleepUnlessZero_mirrored h _) (ih _)))
  exact hfrom _ _

theorem recordSlaveFailure_mirrored :
    MirroredCall F rel slaveAddress roomKey (recordSlaveFailure w env slaveAddress)
      (recordSlaveFailure w env' slaveAddress) := by
  refine .get_bind fun s s' hs => .bind (readClock_mirrored h) fun reading _ => ?_
  refine .modify fun t t' ht => ⟨ht.env, ht.intentStates, ?_, ht.moments, ht.addressed⟩
  simp only [slaveFailureState, hs.slaveFailures, ht.slaveFailures]

theorem verifyAttempt_mirrored (terminalOnMismatch : Bool) :
    MirroredCall F rel slaveAddress intent.roomKey (verifyAttempt w env intent terminalOnMismatch)
      (verifyAttempt w env' intent terminalOnMismatch) := by
  have hmarked : ∀ result applied, MirroredCall F rel slaveAddress intent.roomKey
      (markTerminal intent.roomKey result applied >>= fun result => pure (some result))
      (markTerminal intent.roomKey result applied >>= fun result => pure (some result)) :=
    fun result applied => .bind (markTerminal_mirrored result applied) fun _ _ => .pure trivial
  refine .bind currentAttempt_mirrored fun attempt hattempt => ?_
  cases attempt with
  | none => exact .throw _
  | some a =>
      dsimp only
      cases hplan : a.plan with
      | none => exact .throw _
      | some plan =>
          refine .bind (readback_mirrored h w (hattempt a plan rfl hplan)).trying fun answer _ => ?_
          rcases answer with (error | _ | _ | _ | _ | _) | observed
          · exact .ite (hmarked _ _) (.pure trivial)
          · exact .throw _
          · exact .throw _
          · exact .throw _
          · exact .throw _
          · exact .throw _
          · exact .ite (.pure trivial) (hmarked _ _)

theorem writeAll_mirrored (writes : List RegisterWrite) :
    MirroredCall F rel slaveAddress roomKey (writeAll w env slaveAddress roomKey writes)
      (writeAll w env' slaveAddress roomKey writes) := by
  induction writes with
  | nil => exact .pure trivial
  | cons write rest ih =>
      exact (writeOne_mirrored h w write).then
        ((modifyAttempt_mirrored (by exact fun a plan hplan => .inl hplan)).then ih)

theorem writeFailed_mirrored (error : G301TransportError) :
    MirroredCall F rel slaveAddress intent.roomKey (writeFailed w env intent slaveAddress error)
      (writeFailed w env' intent slaveAddress error) := by
  refine .bind currentAttempt_mirrored fun attempt _ => ?_
  refine .ite (markTerminal_mirrored _ _) (.then (modifyAttempt_mirrored ?_) ?_)
  · exact fun a plan hplan => .inl hplan
  · exact (recordSlaveFailure_mirrored h w).then (.pure trivial)

theorem writeAndVerify_mirrored {plan : G301Plan} (hplan : plan.slaveAddress = slaveAddress) :
    MirroredCall F rel slaveAddress intent.roomKey (writeAndVerify w env intent slaveAddress plan)
      (writeAndVerify w env' intent slaveAddress plan) := by
  refine (modifyAttempt_mirrored ?_).then (.bind (writeAll_mirrored h w _).trying fun answer _ => ?_)
  · rintro a _ ⟨⟩
    exact .inr hplan
  · rcases answer with (error | _ | _ | _ | _ | _) | _
    · exact writeFailed_mirrored h w _
    · exact .throw _
    · exact .throw _
    · exact .throw _
    · exact .throw _
    · exact .throw _
    · refine (modifyAttempt_mirrored (by exact fun a plan hplan => .inl hplan)).then ?_
      refine .bind (verifyAttempt_mirrored h w true) fun verified _ => ?_
      cases verified with
      | none => exact .throw _
      | some result =>
          refine .ite ((recordSlaveSuccess_mirrored _).then (.pure trivial)) ?_
          exact .ite ((recordSlaveFailure_mirrored h w).then (.pure trivial)) (.pure trivial)

theorem makePlan_mirrored :
    Simulates (Mirrors (F := F) rel slaveAddress roomKey)
      (fun plan => plan.slaveAddress = slaveAddress) (makePlan w env intent slaveAddress)
      (makePlan w env' intent slaveAddress) := by
  have hfound : ∀ profile : Option G301DeviceProfile,
      MirroredCall F rel slaveAddress roomKey (pure profile) (pure profile) := fun _ => .pure trivial
  refine .ite (.bind (readDeviceProfile_mirrored h w) fun found _ =>
    .bind (hfound (some found)) fun profile _ => ?_) (.bind (hfound none) fun profile _ => ?_)
  all_goals
    dsimp only
    cases hplan : planRoomIntent intent slaveAddress profile with
    | ok plan => exact .pure (PlanOf.slaveAddress_eq ⟨profile, hplan⟩)
    | error e => exact .throw _

theorem planFailed_mirrored (e : AdapterError) :
    MirroredCall F rel slaveAddress intent.roomKey (planFailed w env intent slaveAddress e)
      (planFailed w env' intent slaveAddress e) := by
  cases e with
  | planning message => exact markTerminal_mirrored _ _
  | valueError message => exact markTerminal_mirrored _ _
  | transport error =>
      exact .ite (markTerminal_mirrored _ _)
        ((recordSlaveFailure_mirrored h w).then (.pure trivial))
  | assertion => exact .throw _
  | runtimeError message => exact .throw _
  | other => exact .throw _

theorem executeIntent_mirrored :
    MirroredCall F rel slaveAddress intent.roomKey (executeIntent w env intent slaveAddress)
      (executeIntent w env' intent slaveAddress) := by
  refine (modifyAttempt_mirrored ?_).then (.bind (readClock_mirrored h) fun reading _ => ?_)
  · rintro a _ ⟨⟩
  · refine .ite (markTerminal_mirrored _ _) (.ite (.pure trivial) (.get_bind fun s s' hs => ?_))
    have hsame : cooldown s slaveAddress reading = cooldown s' slaveAddress reading := by
      simp only [cooldown, slaveFailureState, hs.slaveFailures]
    rw [hsame]
    cases cooldown s' slaveAddress reading with
    | some retryAfter => exact .pure trivial
    | none =>
        refine .bind (makePlan_mirrored h w).trying fun answer hanswer => ?_
        cases answer with
        | error e => exact planFailed_mirrored h w _
        | ok plan => exact writeAndVerify_mirrored h w (hanswer plan rfl)

theorem resumeVerification_mirrored :
    MirroredCall F rel slaveAddress intent.roomKey (resumeVerification w env intent slaveAddress)
      (resumeVerification w env' intent slaveAddress) := by
  have hagain : MirroredCall F rel slaveAddress intent.roomKey
      (modifyAttempt intent.roomKey ({ · with phase := .retryable }) >>=
        fun _ => executeIntent w env intent slaveAddress)
      (modifyAttempt intent.roomKey ({ · with phase := .retryable }) >>=
        fun _ => executeIntent w env' intent slaveAddress) :=
    (modifyAttempt_mirrored (by exact fun a plan hplan => .inl hplan)).then
      (executeIntent_mirrored h w)
  refine .bind (readClock_mirrored h) fun reading _ => .get_bind fun s s' hs => ?_
  have hsame : cooldown s slaveAddress reading = cooldown s' slaveAddress reading := by
    simp only [cooldown, slaveFailureState, hs.slaveFailures]
  rw [hsame]
  cases cooldown s' slaveAddress reading with
  | some retryAfter => exact .pure trivial
  | none =>
      refine .bind currentAttempt_mirrored fun attempt _ => .ite hagain ?_
      refine .bind (verifyAttempt_mirrored h w false) fun verified _ => ?_
      cases verified with
      | some result =>
          refine .ite ((recordSlaveSuccess_mirrored _).then (.pure trivial)) ?_
          exact .ite ((recordSlaveFailure_mirrored h w).then (.pure trivial)) (.pure trivial)
      | none => exact hagain

theorem executeCurrent_mirrored :
    MirroredCall F rel slaveAddress intent.roomKey (executeCurrent w env intent slaveAddress)
      (executeCurrent w env' intent slaveAddress) := by
  refine .bind currentAttempt_mirrored fun attempt _ => ?_
  cases attempt with
  | none => exact .throw _
  | some a => exact executeIntent_mirrored h w

variable [DecidableEq F]

theorem applySeenIntent_mirrored (state : RoomIntentState F) :
    MirroredCall F rel slaveAddress intent.roomKey (applySeenIntent w env intent slaveAddress state)
      (applySeenIntent w env' intent slaveAddress state) := by
  unfold applySeenIntent
  cases state.currentAttempt with
  | none => exact .throw _
  | some a =>
      refine .ite (.throw _) (.ite (.pure trivial) ?_)
      cases a.phase with
      | terminal =>
          dsimp only
          cases a.cachedResult with
          | none => exact .throw _
          | some cached => exact .pure trivial
      | writing => exact resumeVerification_mirrored h w
      | verificationPending => exact resumeVerification_mirrored h w
      | retryable => exact executeCurrent_mirrored h w

theorem applyIntent_mirrored
    (hslave : w.roomSlaveAddresses.lookup intent.roomKey = some slaveAddress) :
    MirroredCall F rel slaveAddress intent.roomKey (applyIntent w env intent)
      (applyIntent w env' intent) := by
  have hregister : MirroredCall F rel slaveAddress intent.roomKey
      (modifyRoom intent.roomKey (·.register intent.intentVersion (intentFingerprint w intent)) >>=
        fun _ => executeCurrent w env intent slaveAddress)
      (modifyRoom intent.roomKey (·.register intent.intentVersion (intentFingerprint w intent)) >>=
        fun _ => executeCurrent w env' intent slaveAddress) := by
    refine (modifyRoom_mirrored ?_).then (executeCurrent_mirrored h w)
    rintro st - _ a plan ⟨⟩ ⟨⟩ ⟨⟩
  unfold applyIntent
  rw [hslave]
  refine .then (.modify fun s s' hs => ⟨hs.env, ?_, hs.slaveFailures, hs.moments, ?_⟩)
    (.get_bind fun s s' hs => ?_)
  · simp only [hs.intentStates]
  · simp only [Function.update_self]
    rintro _ a plan ⟨⟩ ha hplan
    cases hst : s.intentStates intent.roomKey with
    | none =>
        rw [hst] at ha
        cases ha
    | some st =>
        rw [hst] at ha
        exact hs.addressed st a plan hst ha hplan
  · rw [← hs.intentStates]
    dsimp only
    cases ((s.intentStates intent.roomKey).getD (.empty F)).lastSeenVersion with
    | none => exact hregister
    | some seen =>
        exact .ite (.pure trivial) (.ite hregister (applySeenIntent_mirrored h w _))

end Calls

end ClockOrchestrator
