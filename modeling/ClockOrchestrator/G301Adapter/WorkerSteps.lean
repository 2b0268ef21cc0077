import ClockOrchestrator.G301Adapter.AttemptMachine

namespace ClockOrchestrator

open Python Procedure

def AdapterError.Internal : AdapterError → Prop
  | .assertion => True
  | .runtimeError _ => True
  | _ => False

variable {E F α : Type} {s t m : WorkerState E F}

structure Interacts (s t : WorkerState E F) (notes : List Interaction) : Prop where
  intentStates : t.intentStates = s.intentStates
  slaveFailures : t.slaveFailures = s.slaveFailures
  moments : t.moments = s.moments ++ notes.map (⟨·, s.intentStates⟩)

theorem Interacts.refl (s : WorkerState E F) : Interacts s s [] :=
  ⟨rfl, rfl, (List.append_nil _).symm⟩

theorem Interacts.trans {xs ys : List Interaction} (h : Interacts s m xs) (h' : Interacts m t ys) :
    Interacts s t (xs ++ ys) where
  intentStates := h'.intentStates.trans h.intentStates
  slaveFailures := h'.slaveFailures.trans h.slaveFailures
  moments := by
    rw [h'.moments, h.moments, h.intentStates, List.map_append, List.append_assoc]

theorem interact_ends {f : E → α × E} {note : α → Interaction} {r : Except AdapterError α}
    (h : Ends (interact f note) s r t) : ∃ answer, r = .ok answer ∧ Interacts s t [note answer] := by
  cases h
  exact ⟨_, rfl, rfl, rfl, rfl⟩

variable (w : G301EntranceWorker F) (env : G301Environment E)

theorem sleep_answers {seconds : ℚ} {r : Except AdapterError Unit}
    (h : Ends (sleep env seconds) s r t) :
    t = { s with env := (env.sleep s.env seconds).2 } ∧
      r = if (env.sleep s.env seconds).1 then .error .other else .ok () := by
  unfold Ends outcome sleep at h
  cases hcancelled : (env.sleep s.env seconds).1 with
  | true =>
      simp only [hcancelled, if_true, Prod.mk.injEq] at h
      exact ⟨h.2.symm, h.1.symm⟩
  | false =>
      simp only [hcancelled, Bool.false_eq_true, if_false, Prod.mk.injEq] at h
      exact ⟨h.2.symm, h.1.symm⟩

theorem sleep_ends {seconds : ℚ} {r : Except AdapterError Unit}
    (h : Ends (sleep env seconds) s r t) :
    Interacts s t [] ∧ (r = .ok () ∨ r = .error .other) := by
  obtain ⟨rfl, rfl⟩ := sleep_answers env h
  refine ⟨⟨rfl, rfl, (List.append_nil _).symm⟩, ?_⟩
  split
  · exact .inr rfl
  · exact .inl rfl

theorem sleepUnlessZero_ends {seconds : ℚ} {r : Except AdapterError Unit}
    (h : Ends (sleepUnlessZero env seconds) s r t) :
    Interacts s t [] ∧ (r = .ok () ∨ r = .error .other) := by
  unfold sleepUnlessZero at h
  split at h
  · obtain ⟨rfl, rfl⟩ := ends_pure.mp h
    exact ⟨.refl _, .inl rfl⟩
  · exact sleep_ends env h

theorem backoff_ends {attempt remaining : ℕ} {r : Except AdapterError Unit}
    (h : Ends (withRetryFrom.backoff w env attempt remaining) s r t) :
    Interacts s t [] ∧ (r = .ok () ∨ r = .error .other) := by
  unfold withRetryFrom.backoff at h
  split at h
  · obtain ⟨rfl, rfl⟩ := ends_pure.mp h
    exact ⟨.refl _, .inl rfl⟩
  · exact sleepUnlessZero_ends env h

theorem G301EntranceWorker.attemptsPositive :
    1 ≤ w.settings.maxOperationAttempts ∧ 1 ≤ w.settings.readbackAttempts := by
  have hvalid := w.validSettings
  unfold WorkerSettings.error at hvalid
  by_contra hnot
  split at hvalid
  · cases hvalid
  · split at hvalid
    · cases hvalid
    · split at hvalid
      · cases hvalid
      · next hoperations hreadbacks =>
          exact hnot ⟨not_lt.mp hoperations, not_lt.mp hreadbacks⟩

inductive Retried (note : Except ClientFailure α → Interaction) (s t : WorkerState E F) :
    Except AdapterError α → Prop
  | ok (failures : List ClientFailure) {value : α} :
      Interacts s t (failures.map (fun failure => note (.error failure)) ++ [note (.ok value)]) →
      Retried note s t (.ok value)
  | error (failures : List ClientFailure) {e : AdapterError} :
      Interacts s t (failures.map fun failure => note (.error failure)) → ¬ e.Internal →
      Retried note s t (.error e)

def ClientFailure.Raises (failure : ClientFailure) (e : AdapterError) : Prop :=
  match failure with
  | .timeout => e = .transport (g301TransportTimeout "G301 operation timed out") ∨ e = .other
  | .transport error => e = .transport error ∨ e = .other
  | .valueError message => e = .valueError message
  | .other => e = .other

theorem ClientFailure.Raises.not_internal {failure : ClientFailure} {e : AdapterError}
    (h : failure.Raises e) : ¬ e.Internal := by
  cases failure with
  | timeout => rcases h with rfl | rfl <;> exact id
  | transport error => rcases h with rfl | rfl <;> exact id
  | valueError message => cases h; exact id
  | other => cases h; exact id

inductive Tried (note : Except ClientFailure α → Interaction) (s t : WorkerState E F) :
    Except AdapterError α → Prop
  | ok (failures : List ClientFailure) {value : α} :
      Interacts s t (failures.map (fun failure => note (.error failure)) ++ [note (.ok value)]) →
      Tried note s t (.ok value)
  | error (failures : List ClientFailure) {last : ClientFailure} {e : AdapterError} :
      Interacts s t ((failures ++ [last]).map fun failure => note (.error failure)) →
      last.Raises e → Tried note s t (.error e)

theorem Tried.after {note : Except ClientFailure α → Interaction} {failure : ClientFailure}
    {r : Except AdapterError α} (h : Interacts s m [note (.error failure)])
    (h' : Tried note m t r) : Tried note s t r := by
  cases h' with
  | @ok failures value h' => exact .ok (failure :: failures) (h.trans h')
  | @error failures last e h' he => exact .error (failure :: failures) (h.trans h') he

theorem Tried.retried {note : Except ClientFailure α → Interaction} {r : Except AdapterError α}
    (h : Tried note s t r) : Retried note s t r := by
  cases h with
  | ok failures h => exact .ok failures h
  | error failures h he => exact .error _ h he.not_internal

section Retry

variable {operation : WorkerM E F (Except ClientFailure α)}
  {note : Except ClientFailure α → Interaction}
  (hoperation : ∀ s r t, Ends operation s r t →
    ∃ answer, r = .ok answer ∧ Interacts s t [note answer])
include hoperation

theorem withRetryFrom_tried {remaining attempt : ℕ} {lastError : Option G301TransportError}
    {r : Except AdapterError α} (hleft : remaining ≠ 0)
    (h : Ends (withRetryFrom w env operation attempt remaining lastError) s r t) :
    Tried note s t r := by
  induction remaining generalizing attempt lastError s with
  | zero => exact absurd rfl hleft
  | succ remaining ih =>
      have hagain : ∀ {failure : ClientFailure} {error : G301TransportError} {m : WorkerState E F},
          Interacts s m [note (.error failure)] → failure.Raises (.transport error) →
          failure.Raises .other →
          Ends (withRetryFrom.backoff w env attempt remaining >>= fun _ =>
            withRetryFrom w env operation (attempt + 1) remaining (some error)) m r t →
          Tried note s t r := by
        intro failure error m hm hraises hcancel h
        rcases ends_bind.mp h with ⟨_, m', hback, hrest⟩ | ⟨e, hback, rfl⟩
        · obtain ⟨hsleep, -⟩ := backoff_ends w env hback
          have hm' : Interacts s m' [note (.error failure)] := hm.trans hsleep
          by_cases hlast : remaining = 0
          · subst hlast
            obtain ⟨rfl, rfl⟩ := ends_throw.mp hrest
            exact .error [] hm' hraises
          · exact .after hm' (ih hlast hrest)
        · obtain ⟨hsleep, hother⟩ := backoff_ends w env hback
          obtain rfl : e = .other := by simpa using hother
          have hm' : Interacts s t [note (.error failure)] := hm.trans hsleep
          exact .error [] hm' hcancel
      rw [withRetryFrom] at h
      rcases ends_bind.mp h with ⟨answer, m, hop, hrest⟩ | ⟨e, hop, rfl⟩
      · obtain ⟨answer', hanswer, hm⟩ := hoperation _ _ _ hop
        cases hanswer
        cases answer with
        | ok value =>
            obtain ⟨rfl, rfl⟩ := ends_pure.mp hrest
            exact .ok [] hm
        | error failure =>
            cases failure with
            | timeout => exact hagain hm (.inl rfl) (.inr rfl) hrest
            | transport error =>
                dsimp only at hrest
                split at hrest
                · obtain ⟨rfl, rfl⟩ := ends_throw.mp hrest
                  exact .error [] hm (.inl rfl)
                · exact hagain hm (.inl rfl) (.inr rfl) hrest
            | valueError message =>
                obtain ⟨rfl, rfl⟩ := ends_throw.mp hrest
                exact .error [] hm rfl
            | other =>
                obtain ⟨rfl, rfl⟩ := ends_throw.mp hrest
                exact .error [] hm rfl
      · obtain ⟨answer, hanswer, -⟩ := hoperation _ _ _ hop
        cases hanswer

theorem withRetry_tried {r : Except AdapterError α} (h : Ends (withRetry w env operation) s r t) :
    Tried note s t r := by
  refine withRetryFrom_tried w env hoperation ?_ h
  have hattempts := w.attemptsPositive.1
  omega

theorem withRetry_ends {r : Except AdapterError α} (h : Ends (withRetry w env operation) s r t) :
    Retried note s t r :=
  (withRetry_tried w env hoperation h).retried

end Retry

@[simp] theorem quiet_read {slave slaveAddress address count : ℕ}
    {answer : Except ClientFailure (List ℤ)} :
    (Interaction.read slave address count answer).Quiet slaveAddress ↔ slave = slaveAddress := .rfl

@[simp] theorem quiet_clock {slaveAddress : ℕ} {reading : Instant} :
    (Interaction.clock reading).Quiet slaveAddress := trivial

def Looks (slaveAddress : ℕ) (s t : WorkerState E F) : Prop :=
  ∃ notes, Interacts s t notes ∧ ∀ n ∈ notes, n.Quiet slaveAddress

variable {slaveAddress : ℕ}

theorem Looks.refl (s : WorkerState E F) : Looks slaveAddress s s := ⟨[], .refl s, by simp⟩

theorem Looks.trans (h : Looks slaveAddress s m) (h' : Looks slaveAddress m t) :
    Looks slaveAddress s t := by
  obtain ⟨xs, hxs, hquiet⟩ := h
  obtain ⟨ys, hys, hquiet'⟩ := h'
  exact ⟨xs ++ ys, hxs.trans hys, List.forall_mem_append.mpr ⟨hquiet, hquiet'⟩⟩

variable (slaveAddress) in
theorem readClock_ends {r : Except AdapterError Instant} (h : Ends (readClock env) s r t) :
    ∃ reading, r = .ok reading ∧ Looks slaveAddress s t := by
  obtain ⟨reading, rfl, hclock⟩ := interact_ends h
  exact ⟨reading, rfl, _, hclock, by simp⟩

theorem clientRead_ends {address count : ℕ} {r : Except AdapterError (List ℤ)}
    (h : Ends (withRetry w env (clientRead env slaveAddress address count)) s r t) :
    Retried (.read slaveAddress address count) s t r :=
  withRetry_ends w env (fun _ _ _ hop => interact_ends hop) h

theorem Retried.looks {address count : ℕ} {r : Except AdapterError (List ℤ)}
    (h : Retried (.read slaveAddress address count) s t r) : Looks slaveAddress s t := by
  cases h with
  | ok failures h => exact ⟨_, h, by simp [or_imp, forall_and]⟩
  | error failures h _ => exact ⟨_, h, by simp⟩

inductive ReadsOne (slaveAddress address : ℕ) (s t : WorkerState E F) : Except AdapterError ℤ → Prop
  | ok (failures : List ClientFailure) {value : ℤ} :
      Interacts s t
        (failures.map (fun failure => .read slaveAddress address 1 (.error failure)) ++
          [.read slaveAddress address 1 (.ok [value])]) →
      ReadsOne slaveAddress address s t (.ok value)
  | error {e : AdapterError} : Looks slaveAddress s t → ¬ e.Internal →
      ReadsOne slaveAddress address s t (.error e)

theorem readOne_ends {address : ℕ} {r : Except AdapterError ℤ}
    (h : Ends (readOne w env slaveAddress address) s r t) : ReadsOne slaveAddress address s t r := by
  unfold readOne at h
  rcases ends_bind.mp h with ⟨values, m, hread, hrest⟩ | ⟨e, hread, rfl⟩
  · have hretried := clientRead_ends w env hread
    have hlooks := hretried.looks
    cases hretried with
    | ok failures hread =>
        split at hrest
        · obtain ⟨rfl, rfl⟩ := ends_pure.mp hrest
          exact .ok failures hread
        · obtain ⟨rfl, rfl⟩ := ends_throw.mp hrest
          exact .error hlooks (by simp [AdapterError.Internal])
  · have hretried := clientRead_ends w env hread
    have hlooks := hretried.looks
    cases hretried with
    | error failures _ he => exact .error hlooks he

theorem ReadsOne.looks {address : ℕ} {r : Except AdapterError ℤ}
    (h : ReadsOne slaveAddress address s t r) : Looks slaveAddress s t := by
  cases h with
  | ok failures h => exact ⟨_, h, by simp [or_imp, forall_and]⟩
  | error h _ => exact h

theorem readDeviceProfile_ends {r : Except AdapterError G301DeviceProfile}
    (h : Ends (readDeviceProfile w env slaveAddress) s r t) :
    Looks slaveAddress s t ∧ ∀ e, r = .error e → ¬ e.Internal := by
  unfold readDeviceProfile at h
  rcases ends_bind.mp h with ⟨raw, m, hone, hrest⟩ | ⟨e, hone, rfl⟩
  · have hone := (readOne_ends w env hone).looks
    rcases ends_bind.mp hrest with ⟨limits, n, hread, hrest⟩ | ⟨e, hread, rfl⟩
    · have hlooks := hone.trans (clientRead_ends w env hread).looks
      split at hrest
      · split at hrest
        · obtain ⟨rfl, rfl⟩ := ends_pure.mp hrest
          exact ⟨hlooks, by simp⟩
        · obtain ⟨rfl, rfl⟩ := ends_throw.mp hrest
          exact ⟨hlooks, by simp [AdapterError.Internal]⟩
      · obtain ⟨rfl, rfl⟩ := ends_throw.mp hrest
        exact ⟨hlooks, by simp [AdapterError.Internal]⟩
    · have hretried := clientRead_ends w env hread
      refine ⟨hone.trans hretried.looks, ?_⟩
      cases hretried with
      | error failures _ he => simpa using he
  · have hone := readOne_ends w env hone
    refine ⟨hone.looks, ?_⟩
    cases hone with
    | error _ he => simpa using he

inductive AdapterError.Refuses : AdapterError → Prop
  | planning (message : String) : Refuses (.planning message)
  | valueError (message : String) : Refuses (.valueError message)

theorem AdapterError.Refuses.not_internal {e : AdapterError} (h : e.Refuses) : ¬ e.Internal := by
  cases h with
  | planning message => exact id
  | valueError message => exact id

theorem plannedTarget_refuses {profile : G301DeviceProfile} {target : Option PyFloat}
    {e : AdapterError} (h : plannedTarget profile target = .error e) : e.Refuses := by
  unfold plannedTarget at h
  split at h
  · cases h
    exact .planning _
  · split at h
    · cases h
      exact .planning _
    · split at h
      · cases h
      · cases h
        exact .valueError _

theorem validateMode_refuses {mode : G301Mode} {profile : G301DeviceProfile} {e : AdapterError}
    (h : validateMode mode profile = .error e) : e.Refuses := by
  unfold validateMode at h
  split at h
  · cases h
    exact .planning _
  · split at h
    · cases h
      exact .planning _
    · cases h

theorem planRoomIntent_refuses {intent : DesiredRoomIntent} {profile : Option G301DeviceProfile}
    {e : AdapterError} (h : planRoomIntent intent slaveAddress profile = .error e) :
    e.Refuses := by
  unfold planRoomIntent at h
  split at h
  · cases h
    exact .planning _
  · split at h
    · cases h
    · split at h
      · cases h
        exact .planning _
      · split at h
        · cases h
          exact .planning _
        · next mode _ _ found =>
            cases hvalid : validateMode mode found with
            | error e' =>
                rw [hvalid] at h
                cases h
                exact validateMode_refuses hvalid
            | ok u =>
                cases htarget : plannedTarget found intent.hvac.targetTemperatureC with
                | error e' =>
                    rw [hvalid, htarget] at h
                    cases h
                    exact plannedTarget_refuses htarget
                | ok target =>
                    rw [hvalid, htarget] at h
                    cases h

theorem makePlan_ends {intent : DesiredRoomIntent} {r : Except AdapterError G301Plan}
    (h : Ends (makePlan w env intent slaveAddress) s r t) :
    Looks slaveAddress s t ∧ (∀ plan, r = .ok plan → PlanOf intent slaveAddress plan) ∧
      ∀ e, r = .error e → ¬ e.Internal := by
  have hplan : ∀ {profile : Option G301DeviceProfile} {x : WorkerM E F G301Plan}
      {m : WorkerState E F}, Ends x m r t → Looks slaveAddress s m →
      (∀ plan, planRoomIntent intent slaveAddress profile = .ok plan → x = pure plan) →
      (∀ e, planRoomIntent intent slaveAddress profile = .error e → x = throw e) →
      Looks slaveAddress s t ∧ (∀ plan, r = .ok plan → PlanOf intent slaveAddress plan) ∧
        ∀ e, r = .error e → ¬ e.Internal := by
    intro profile x m hrest hlooks hok herror
    cases hplan : planRoomIntent intent slaveAddress profile with
    | ok plan =>
        rw [hok plan hplan] at hrest
        obtain ⟨rfl, rfl⟩ := ends_pure.mp hrest
        refine ⟨hlooks, ?_, by simp⟩
        rintro p ⟨⟩
        exact ⟨profile, hplan⟩
    | error e =>
        rw [herror e hplan] at hrest
        obtain ⟨rfl, rfl⟩ := ends_throw.mp hrest
        refine ⟨hlooks, by simp, ?_⟩
        rintro e' ⟨⟩
        exact (planRoomIntent_refuses hplan).not_internal
  unfold makePlan at h
  dsimp only at h
  split at h
  · rcases ends_bind.mp h with ⟨profile, m, hread, hrest⟩ | ⟨e, hread, rfl⟩
    · rw [pure_bind] at hrest
      exact hplan hrest (readDeviceProfile_ends w env hread).1 (fun plan hp => by rw [hp])
        fun e hp => by rw [hp]
    · obtain ⟨hlooks, he⟩ := readDeviceProfile_ends w env hread
      exact ⟨hlooks, by simp, by simpa using he⟩
  · rw [pure_bind] at h
    exact hplan h (.refl _) (fun plan hp => by rw [hp]) fun e hp => by rw [hp]

def ReadsAll (plan : G301Plan) (s t : WorkerState E F) (observed : Observed) : Prop :=
  ∃ notes values, Interacts s t notes ∧
    Readback plan.slaveAddress plan.readbackExpectations notes values ∧
    plan.readbackExpectations.length = values.length ∧
    observed = recordObserved (fun _ => none) plan.readbackExpectations values

theorem ReadsAll.looks {plan : G301Plan} {observed : Observed} (h : ReadsAll plan s t observed) :
    Looks plan.slaveAddress s t := by
  obtain ⟨notes, values, hnotes, hread, -⟩ := h
  exact ⟨notes, hnotes, hread.quiet⟩

theorem ReadsAll.readback {intent : DesiredRoomIntent} {plan : G301Plan} {observed : Observed}
    (h : ReadsAll plan s t observed) (hplan : PlanOf intent slaveAddress plan) :
    ∃ notes values, Interacts s t notes ∧
      Readback slaveAddress plan.readbackExpectations notes values ∧
      (compareReadback plan observed = [] ↔
        values = ReadbackExpectation.values plan.readbackExpectations) := by
  obtain ⟨notes, values, hnotes, hread, hlength, rfl⟩ := h
  rw [hplan.slaveAddress_eq] at hread
  refine ⟨notes, values, hnotes, hread, ?_⟩
  rw [compareReadback_eq_nil]
  exact recordObserved_matches hplan.readback_nodup hlength _

theorem readPass_ends {expectations : List ReadbackExpectation} {observed : Observed}
    {r : Except AdapterError Observed}
    (h : Ends (readPass w env slaveAddress expectations observed) s r t) :
    (∃ notes values, Interacts s t notes ∧ Readback slaveAddress expectations notes values ∧
      expectations.length = values.length ∧
      r = .ok (recordObserved observed expectations values)) ∨
    ∃ e, r = .error e ∧ Looks slaveAddress s t ∧ ¬ e.Internal := by
  induction expectations generalizing observed s with
  | nil =>
      obtain ⟨rfl, rfl⟩ := ends_pure.mp h
      exact .inl ⟨[], [], .refl _, .nil, rfl, rfl⟩
  | cons expectation rest ih =>
      rw [readPass] at h
      rcases ends_bind.mp h with ⟨value, m, hone, hrest⟩ | ⟨e, hone, rfl⟩
      · have hone := readOne_ends w env hone
        have hlooks := hone.looks
        cases hone with
        | ok failures hone =>
            rcases ih hrest with ⟨notes, values, hnotes, hread, hlength, rfl⟩ | ⟨e, rfl, hmore, he⟩
            · have hcons :=
                @Readback.cons slaveAddress expectation rest failures value notes values hread
              refine .inl ⟨_, value :: values, ?_, hcons, congrArg Nat.succ hlength, rfl⟩
              simpa using hone.trans hnotes
            · exact .inr ⟨e, rfl, hlooks.trans hmore, he⟩
      · have hone := readOne_ends w env hone
        have hlooks := hone.looks
        cases hone with
        | error _ he => exact .inr ⟨e, rfl, hlooks, he⟩

theorem readbackFrom_ends {plan : G301Plan} {remaining : ℕ} {observed : Observed}
    {r : Except AdapterError Observed} (hleft : remaining ≠ 0)
    (h : Ends (readbackFrom w env plan remaining observed) s r t) :
    (∃ m found, r = .ok found ∧ Looks plan.slaveAddress s m ∧ ReadsAll plan m t found) ∨
    ∃ e, r = .error e ∧ Looks plan.slaveAddress s t ∧ ¬ e.Internal := by
  induction remaining generalizing observed s with
  | zero => exact absurd rfl hleft
  | succ remaining ih =>
      rw [readbackFrom] at h
      rcases ends_bind.mp h with ⟨found, m, hpass, hrest⟩ | ⟨e, hpass, rfl⟩
      · rcases readPass_ends w env hpass with ⟨notes, values, hpass⟩ | ⟨e, he, -⟩
        · have hall : ReadsAll plan s m found :=
            ⟨notes, values, hpass.1, hpass.2.1, hpass.2.2.1, Except.ok.inj hpass.2.2.2⟩
          split at hrest
          · obtain ⟨rfl, rfl⟩ := ends_pure.mp hrest
            exact .inl ⟨s, found, rfl, .refl _, hall⟩
          · split at hrest
            · next hzero =>
                subst hzero
                obtain ⟨rfl, rfl⟩ := ends_pure.mp hrest
                exact .inl ⟨s, found, rfl, .refl _, hall⟩
            · next hmore =>
                rcases ends_bind.mp hrest with ⟨_, n, hsleep, hrest⟩ | ⟨e, hsleep, rfl⟩
                · have hpaused : Looks plan.slaveAddress s n :=
                    hall.looks.trans ⟨[], (sleepUnlessZero_ends env hsleep).1, by simp⟩
                  rcases ih hmore hrest with ⟨n', found', hr, hlooks, hlast⟩ | ⟨e, rfl, hlooks, he⟩
                  · exact .inl ⟨n', found', hr, hpaused.trans hlooks, hlast⟩
                  · exact .inr ⟨e, rfl, hpaused.trans hlooks, he⟩
                · obtain ⟨hpause, hother⟩ := sleepUnlessZero_ends env hsleep
                  have he : e = .other := by simpa using hother
                  exact .inr ⟨e, rfl, hall.looks.trans ⟨[], hpause, by simp⟩,
                    by simp [he, AdapterError.Internal]⟩
        · cases he
      · rcases readPass_ends w env hpass with ⟨notes, values, hpass⟩ | ⟨e', he, hlooks, hint⟩
        · cases hpass.2.2.2
        · cases he
          exact .inr ⟨e, rfl, hlooks, hint⟩

theorem readback_ends {plan : G301Plan} {r : Except AdapterError Observed}
    (h : Ends (readback w env plan) s r t) :
    (∃ m found, r = .ok found ∧ Looks plan.slaveAddress s m ∧ ReadsAll plan m t found) ∨
    ∃ e, r = .error e ∧ Looks plan.slaveAddress s t ∧ ¬ e.Internal := by
  refine readbackFrom_ends w env ?_ h
  have hattempts := w.attemptsPositive.2
  omega

end ClockOrchestrator
