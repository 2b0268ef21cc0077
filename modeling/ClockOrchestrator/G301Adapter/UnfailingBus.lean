import ClockOrchestrator.G301Adapter.CallCoupling
import ClockOrchestrator.Support.Contract

namespace ClockOrchestrator

open Python Procedure

variable {E F α : Type} {env : G301Environment E} {good : E → Prop} {slaveAddress : ℕ}
  {roomKey : String} {intent : DesiredRoomIntent}

structure Unfailing (env : G301Environment E) (good : E → Prop) (slaveAddress : ℕ) : Prop where
  write : ∀ {e}, good e → ∀ address value,
    (∀ failure, (env.writeRegister e slaveAddress address value).1 = .error failure →
      ∃ message, failure = .valueError message) ∧
    good (env.writeRegister e slaveAddress address value).2
  read : ∀ {e}, good e → ∀ address count, 1 ≤ count →
    (∃ values, (env.readHoldingRegisters e slaveAddress address count).1 = .ok values ∧
      values.length = count) ∧
    good (env.readHoldingRegisters e slaveAddress address count).2
  clock : ∀ {e}, good e → good (env.clock e).2
  sleep : ∀ {e}, good e → ∀ seconds, good (env.sleep e seconds).2

def unfailing (F : Type) (good : E → Prop) (slaveAddress : ℕ) (roomKey : String) :
    Contract AdapterError (WorkerState E F) where
  holds s := good s.env ∧ Addressed slaveAddress (s.intentStates roomKey)
  frame s t := t.slaveFailures = s.slaveFailures ∨
    t.slaveFailures = Function.update s.slaveFailures slaveAddress none
  raises e := ∀ error, e ≠ .transport error
  frame_refl _ := .inl rfl
  frame_trans {s m t} h h' := by
    rcases h with h | h <;> rcases h' with h' | h' <;> simp [h, h']

abbrev Serves (F : Type) (good : E → Prop) (slaveAddress : ℕ) (roomKey : String)
    (x : WorkerM E F α) : Prop :=
  Meets (unfailing F good slaveAddress roomKey) (fun _ => True) x

theorem modifyRoom_serves {f : RoomIntentState F → RoomIntentState F}
    (hf : KeepsAddress slaveAddress f) :
    Serves F good slaveAddress roomKey (modifyRoom roomKey f) := by
  refine .modify fun s hs => ⟨⟨hs.1, ?_⟩, .inl rfl⟩
  simp only [Function.update_self]
  intro st a plan hst ha hplan
  obtain ⟨old, hold, rfl⟩ := Option.map_eq_some_iff.mp hst
  exact hf old (hold ▸ hs.2) _ a plan rfl ha hplan

theorem modifyAttempt_serves {f : IntentAttempt F → IntentAttempt F}
    (hf : ∀ a plan, (f a).plan = some plan → a.plan = some plan ∨ plan.slaveAddress = slaveAddress) :
    Serves F good slaveAddress roomKey (modifyAttempt roomKey f) :=
  modifyRoom_serves (keepsAddress_of_attempt hf)

theorem markTerminal_serves (result : IntentExecutionResult) (applied : Bool) :
    Meets (unfailing F good slaveAddress roomKey) (· = result) (markTerminal roomKey result applied) :=
  .then (modifyRoom_serves (keepsAddress_markTerminal result applied)) (.pure rfl)

theorem currentAttempt_serves :
    Meets (unfailing F good slaveAddress roomKey)
      (fun attempt => ∀ a plan, attempt = some a → a.plan = some plan →
        plan.slaveAddress = slaveAddress) (currentAttempt roomKey) := by
  refine .get_bind fun s hs => .pure fun a plan ha hplan => ?_
  obtain ⟨st, hst, ha⟩ := Option.bind_eq_some_iff.mp ha
  exact hs.2 st a plan hst ha hplan

theorem recordSlaveSuccess_serves :
    Serves F good slaveAddress roomKey (recordSlaveSuccess slaveAddress) :=
  .modify fun _ hs => ⟨hs, .inr rfl⟩

section Calls

variable (h : Unfailing env good slaveAddress) (w : G301EntranceWorker F)
include h

theorem readClock_serves : Serves F good slaveAddress roomKey (readClock env) := by
  intro s r t hs hx
  obtain ⟨reading, rfl, -⟩ := interact_ends hx
  cases hx
  exact ⟨⟨h.clock hs.1, hs.2⟩, .inl rfl, nofun, fun _ _ => trivial⟩

theorem clientWrite_serves (address : ℕ) (value : ℤ) :
    Meets (unfailing F good slaveAddress roomKey)
      (fun answer => ∀ failure, answer = .error failure → ∃ message, failure = .valueError message)
      (clientWrite env slaveAddress address value) := by
  intro s r t hs hx
  obtain ⟨hanswer, hgood⟩ := h.write hs.1 address value
  cases hx
  refine ⟨⟨hgood, hs.2⟩, .inl rfl, nofun, ?_⟩
  rintro _ ⟨⟩
  exact hanswer

theorem clientRead_serves (address : ℕ) {count : ℕ} (hcount : 1 ≤ count) :
    Meets (unfailing F good slaveAddress roomKey)
      (fun answer => ∃ values, answer = .ok values ∧ values.length = count)
      (clientRead env slaveAddress address count) := by
  intro s r t hs hx
  obtain ⟨hanswer, hgood⟩ := h.read hs.1 address count hcount
  cases hx
  refine ⟨⟨hgood, hs.2⟩, .inl rfl, nofun, ?_⟩
  rintro _ ⟨⟩
  exact hanswer

theorem sleepUnlessZero_serves (seconds : ℚ) :
    Serves F good slaveAddress roomKey (sleepUnlessZero env seconds) := by
  refine .ite (.pure trivial) ?_
  intro s r t hs hx
  obtain ⟨rfl, rfl⟩ := sleep_answers env hx
  refine ⟨⟨h.sleep hs.1 seconds, hs.2⟩, .inl rfl, ?_, fun _ _ => trivial⟩
  intro e he error
  split at he
  · cases he
    simp
  · cases he

omit h in
theorem withRetry_serves {post : α → Prop} {operation : WorkerM E F (Except ClientFailure α)}
    (hoperation : Meets (unfailing F good slaveAddress roomKey)
      (fun answer => (∀ failure, answer = .error failure → ∃ message, failure = .valueError message) ∧
        ∀ value, answer = .ok value → post value) operation) :
    Meets (unfailing F good slaveAddress roomKey) post (withRetry w env operation) := by
  obtain ⟨left, hleft⟩ := Nat.exists_eq_succ_of_ne_zero
    (Nat.one_le_iff_ne_zero.mp w.attemptsPositive.1)
  rw [withRetry, hleft, withRetryFrom]
  refine .bind hoperation fun answer hanswer => ?_
  cases answer with
  | ok value => exact .pure (hanswer.2 value rfl)
  | error failure =>
      obtain ⟨message, rfl⟩ := hanswer.1 failure rfl
      refine .throw fun error he => ?_
      cases he

theorem read_serves (address : ℕ) {count : ℕ} (hcount : 1 ≤ count) :
    Meets (unfailing F good slaveAddress roomKey) (fun values => values.length = count)
      (withRetry w env (clientRead env slaveAddress address count)) := by
  refine withRetry_serves w fun s r t hs hx => ?_
  obtain ⟨hgood, hframe, hraised, hvalue⟩ := clientRead_serves h address hcount hs hx
  refine ⟨hgood, hframe, hraised, fun answer hanswer => ?_⟩
  obtain ⟨values, rfl, hlength⟩ := hvalue answer hanswer
  refine ⟨nofun, ?_⟩
  rintro _ ⟨⟩
  exact hlength

theorem writeOne_serves (write : RegisterWrite) :
    Serves F good slaveAddress roomKey (writeOne w env slaveAddress write) := by
  refine withRetry_serves w fun s r t hs hx => ?_
  obtain ⟨hgood, hframe, hraised, hvalue⟩ :=
    clientWrite_serves h write.address write.value hs hx
  exact ⟨hgood, hframe, hraised, fun answer hanswer => ⟨hvalue answer hanswer, fun _ _ => trivial⟩⟩

theorem readOne_serves (address : ℕ) :
    Serves F good slaveAddress roomKey (readOne w env slaveAddress address) := by
  refine .bind (read_serves h w address le_rfl) fun values hlength => ?_
  obtain ⟨value, rfl⟩ := List.length_eq_one_iff.mp hlength
  exact .pure trivial

theorem readDeviceProfile_serves :
    Serves F good slaveAddress roomKey (readDeviceProfile w env slaveAddress) := by
  refine .bind (readOne_serves h w _) fun raw _ => ?_
  refine .bind (read_serves h w _ (by decide)) fun limits hlength => ?_
  obtain ⟨limitation, upper, lower, rfl⟩ := List.length_eq_three.mp hlength
  dsimp only
  cases buildDeviceProfile raw limitation upper lower with
  | ok profile => exact .pure trivial
  | error e => exact .throw nofun

theorem readPass_serves (expectations : List ReadbackExpectation) (observed : Observed) :
    Serves F good slaveAddress roomKey (readPass w env slaveAddress expectations observed) := by
  induction expectations generalizing observed with
  | nil => exact .pure trivial
  | cons expectation rest ih => exact .bind (readOne_serves h w _) fun value _ => ih _

theorem readback_serves {plan : G301Plan} (hplan : plan.slaveAddress = slaveAddress) :
    Serves F good slaveAddress roomKey (readback w env plan) := by
  have hfrom : ∀ remaining observed,
      Serves F good slaveAddress roomKey (readbackFrom w env plan remaining observed) := by
    intro remaining
    induction remaining with
    | zero => exact fun _ => .pure trivial
    | succ remaining ih =>
        intro observed
        rw [readbackFrom, hplan]
        refine .bind (readPass_serves h w _ _) fun found _ => ?_
        exact .ite (.pure trivial) (.ite (ih _) (.then (sleepUnlessZero_serves h _) (ih _)))
  exact hfrom _ _

theorem writeAll_serves (writes : List RegisterWrite) :
    Serves F good slaveAddress roomKey (writeAll w env slaveAddress roomKey writes) := by
  induction writes with
  | nil => exact .pure trivial
  | cons write rest ih =>
      exact (writeOne_serves h w write).then
        ((modifyAttempt_serves (by exact fun a plan hplan => .inl hplan)).then ih)

theorem verifyAttempt_serves (terminalOnMismatch : Bool) :
    Meets (unfailing F good slaveAddress intent.roomKey)
      (fun verified => ∀ result, verified = some result → result.status ≠ .appliedUnconfirmed)
      (verifyAttempt w env intent terminalOnMismatch) := by
  refine .bind currentAttempt_serves fun attempt hattempt => ?_
  cases attempt with
  | none => exact .throw nofun
  | some a =>
      dsimp only
      cases hplan : a.plan with
      | none => exact .throw nofun
      | some plan =>
          refine .bind (readback_serves h w (hattempt a plan rfl hplan)).trying fun answer hanswer => ?_
          rcases answer with (error | _ | _ | _ | _ | _) | observed
          · exact absurd rfl (hanswer.1 _ rfl error)
          · exact .throw nofun
          · exact .throw nofun
          · exact .throw nofun
          · exact .throw nofun
          · exact .throw nofun
          · refine .ite (.pure nofun) (.bind (markTerminal_serves _ _) fun result hresult => ?_)
            refine .pure ?_
            rintro _ ⟨⟩
            rw [hresult]
            unfold verificationResult
            split <;> simp [executionResult]

theorem writeAndVerify_serves {plan : G301Plan} (hplan : plan.slaveAddress = slaveAddress) :
    Serves F good slaveAddress intent.roomKey (writeAndVerify w env intent slaveAddress plan) := by
  refine (modifyAttempt_serves ?_).then (.bind (writeAll_serves h w _).trying fun answer hanswer => ?_)
  · rintro a _ ⟨⟩
    exact .inr hplan
  · rcases answer with (error | _ | _ | _ | _ | _) | _
    · exact absurd rfl (hanswer.1 _ rfl error)
    · exact .throw nofun
    · exact .throw nofun
    · exact .throw nofun
    · exact .throw nofun
    · exact .throw nofun
    · refine (modifyAttempt_serves (by exact fun a plan hplan => .inl hplan)).then ?_
      refine .bind (verifyAttempt_serves h w true) fun verified hverified => ?_
      cases verified with
      | none => exact .throw nofun
      | some result =>
          dsimp only
          rw [if_neg (hverified result rfl)]
          exact .ite (recordSlaveSuccess_serves.then (.pure trivial)) (.pure trivial)

theorem makePlan_serves :
    Meets (unfailing F good slaveAddress roomKey) (fun plan => plan.slaveAddress = slaveAddress)
      (makePlan w env intent slaveAddress) := by
  have hfound : ∀ profile : Option G301DeviceProfile,
      Serves F good slaveAddress roomKey (pure profile) := fun _ => .pure trivial
  refine .ite (.bind (readDeviceProfile_serves h w) fun found _ =>
    .bind (hfound (some found)) fun profile _ => ?_) (.bind (hfound none) fun profile _ => ?_)
  all_goals
    dsimp only
    cases hplan : planRoomIntent intent slaveAddress profile with
    | ok plan => exact .pure (PlanOf.slaveAddress_eq ⟨profile, hplan⟩)
    | error e =>
        refine .throw fun error he => ?_
        subst he
        cases planRoomIntent_refuses hplan

theorem executeIntent_serves :
    Serves F good slaveAddress intent.roomKey (executeIntent w env intent slaveAddress) := by
  have hmarked : ∀ result applied,
      Serves F good slaveAddress intent.roomKey (markTerminal intent.roomKey result applied) :=
    fun result applied s r t hs hx => by
      obtain ⟨ht, hframe, hraised, -⟩ := markTerminal_serves result applied hs hx
      exact ⟨ht, hframe, hraised, fun _ _ => trivial⟩
  refine (modifyAttempt_serves ?_).then (.bind (readClock_serves h) fun reading _ => ?_)
  · rintro a _ ⟨⟩
  · refine .ite (hmarked _ _) (.ite (.pure trivial) (.get_bind fun s hs => ?_))
    cases cooldown s slaveAddress reading with
    | some retryAfter => exact .pure trivial
    | none =>
        refine .bind (makePlan_serves h w).trying fun answer hanswer => ?_
        rcases answer with (error | _ | _ | _ | _ | _) | plan
        · exact absurd rfl (hanswer.1 _ rfl error)
        · exact hmarked _ _
        · exact hmarked _ _
        · exact .throw nofun
        · exact .throw nofun
        · exact .throw nofun
        · exact writeAndVerify_serves h w (hanswer.2 plan rfl)

theorem resumeVerification_serves :
    Serves F good slaveAddress intent.roomKey (resumeVerification w env intent slaveAddress) := by
  have hagain : Serves F good slaveAddress intent.roomKey
      (modifyAttempt intent.roomKey ({ · with phase := .retryable }) >>=
        fun _ => executeIntent w env intent slaveAddress) :=
    (modifyAttempt_serves (by exact fun a plan hplan => .inl hplan)).then (executeIntent_serves h w)
  refine .bind (readClock_serves h) fun reading _ => .get_bind fun s hs => ?_
  cases cooldown s slaveAddress reading with
  | some retryAfter => exact .pure trivial
  | none =>
      refine .bind currentAttempt_serves fun attempt _ => .ite hagain ?_
      refine .bind (verifyAttempt_serves h w false) fun verified hverified => ?_
      cases verified with
      | none => exact hagain
      | some result =>
          dsimp only
          rw [if_neg (hverified result rfl)]
          exact .ite (recordSlaveSuccess_serves.then (.pure trivial)) (.pure trivial)

theorem executeCurrent_serves :
    Serves F good slaveAddress intent.roomKey (executeCurrent w env intent slaveAddress) := by
  refine .bind currentAttempt_serves fun attempt _ => ?_
  cases attempt with
  | none => exact .throw nofun
  | some a => exact executeIntent_serves h w

variable [DecidableEq F]

theorem applySeenIntent_serves (state : RoomIntentState F) :
    Serves F good slaveAddress intent.roomKey (applySeenIntent w env intent slaveAddress state) := by
  unfold applySeenIntent
  cases state.currentAttempt with
  | none => exact .throw nofun
  | some a =>
      refine .ite (.throw nofun) (.ite (.pure trivial) ?_)
      cases a.phase with
      | terminal =>
          dsimp only
          cases a.cachedResult with
          | none => exact .throw nofun
          | some cached => exact .pure trivial
      | writing => exact resumeVerification_serves h w
      | verificationPending => exact resumeVerification_serves h w
      | retryable => exact executeCurrent_serves h w

theorem applyIntent_serves
    (hslave : w.roomSlaveAddresses.lookup intent.roomKey = some slaveAddress) :
    Serves F good slaveAddress intent.roomKey (applyIntent w env intent) := by
  have hregister : Serves F good slaveAddress intent.roomKey
      (modifyRoom intent.roomKey (·.register intent.intentVersion (intentFingerprint w intent)) >>=
        fun _ => executeCurrent w env intent slaveAddress) := by
    refine (modifyRoom_serves ?_).then (executeCurrent_serves h w)
    rintro st - _ a plan ⟨⟩ ⟨⟩ ⟨⟩
  unfold applyIntent
  rw [hslave]
  refine .then (.modify fun s hs => ⟨⟨hs.1, ?_⟩, .inl rfl⟩) (.get_bind fun s hs => ?_)
  · simp only [Function.update_self]
    rintro _ a plan ⟨⟩ ha hplan
    cases hst : s.intentStates intent.roomKey with
    | none =>
        rw [hst] at ha
        cases ha
    | some st =>
        rw [hst] at ha
        exact hs.2 st a plan hst ha hplan
  · dsimp only
    cases ((s.intentStates intent.roomKey).getD (.empty F)).lastSeenVersion with
    | none => exact hregister
    | some seen =>
        exact .ite (.pure trivial) (.ite hregister (applySeenIntent_serves h w _))

end Calls

end ClockOrchestrator
