import ClockOrchestrator.G301Adapter.AttemptPaths
import ClockOrchestrator.G301Adapter.WorkerSteps

namespace ClockOrchestrator

open Python Procedure Emission

variable {E F : Type} {intent : DesiredRoomIntent} {slaveAddress : ℕ} {base : IntentStates F}
  {s t m : WorkerState E F} {p q : Progress F} {st : RoomIntentState F} {a : IntentAttempt F}

def roomMoment (roomKey : String) (base : IntentStates F)
    (label : Interaction × RoomIntentState F) : Moment F :=
  ⟨label.1, Function.update base roomKey (some label.2)⟩

def Holds (roomKey : String) (base : IntentStates F) (s : WorkerState E F)
    (st : RoomIntentState F) : Prop :=
  s.intentStates = Function.update base roomKey (some st)

structure Takes (intent : DesiredRoomIntent) (slaveAddress : ℕ) (base : IntentStates F)
    (s t : WorkerState E F) (p q : Progress F) : Prop where
  holds : Holds intent.roomKey base t q.state
  path : ∃ labels, Path (AttemptStep intent slaveAddress) p labels q ∧
    t.moments = s.moments ++ labels.map (roomMoment intent.roomKey base)

namespace Takes

theorem refl (hs : Holds intent.roomKey base s p.state) :
    Takes intent slaveAddress base s s p p :=
  ⟨hs, [], .refl, (List.append_nil _).symm⟩

theorem trans {o : Progress F} (h : Takes intent slaveAddress base s m p o)
    (h' : Takes intent slaveAddress base m t o q) : Takes intent slaveAddress base s t p q := by
  obtain ⟨xs, hpath, hmoments⟩ := h.path
  obtain ⟨ys, hpath', hmoments'⟩ := h'.path
  refine ⟨h'.holds, xs ++ ys, hpath.trans hpath', ?_⟩
  rw [hmoments', hmoments, List.map_append, List.append_assoc]

theorem emitting {notes : List Interaction} (hs : Holds intent.roomKey base s p.state)
    (hpath : Path (AttemptStep intent slaveAddress) p (notes.map (·, p.state)) q)
    (hnotes : t.moments = s.moments ++ notes.map (⟨·, s.intentStates⟩))
    (ht : Holds intent.roomKey base t q.state) : Takes intent slaveAddress base s t p q := by
  refine ⟨ht, _, hpath, ?_⟩
  rw [hnotes, hs, List.map_map]
  rfl

theorem silent (hstep : AttemptStep intent slaveAddress p [] q) (hmoments : t.moments = s.moments)
    (ht : Holds intent.roomKey base t q.state) : Takes intent slaveAddress base s t p q :=
  ⟨ht, [], .single hstep, by rw [hmoments, List.map_nil, List.append_nil]⟩

theorem of_looks (hs : Holds intent.roomKey base s p.state) (h : Looks slaveAddress s t) :
    Takes intent slaveAddress base s t p p := by
  obtain ⟨notes, hnotes, hquiet⟩ := h
  refine emitting hs (.loops ?_) hnotes.moments (hnotes.intentStates.trans hs)
  rintro _ hl
  obtain ⟨n, hn, rfl⟩ := List.mem_map.mp hl
  exact .look (hquiet n hn)

theorem relabel (h : Takes intent slaveAddress base s m p q)
    (hstates : t.intentStates = m.intentStates) (hmoments : t.moments = m.moments) :
    Takes intent slaveAddress base s t p q :=
  ⟨hstates.trans h.holds, hmoments ▸ h.path⟩

theorem since (h : Takes intent slaveAddress base m t p q) (hmoments : m.moments = s.moments) :
    Takes intent slaveAddress base s t p q :=
  ⟨h.holds, hmoments ▸ h.path⟩

end Takes

theorem Holds.room (h : Holds intent.roomKey base s st) : s.intentStates intent.roomKey = some st := by
  rw [h, Function.update_self]

theorem currentAttempt_bind {β : Type} {g : Option (IntentAttempt F) → WorkerM E F β}
    {r : Except AdapterError β} (hs : Holds intent.roomKey base s (st.holding a))
    (h : Ends (currentAttempt intent.roomKey >>= g) s r t) : Ends (g (some a)) s r t := by
  unfold currentAttempt at h
  rw [bind_assoc, ends_get_bind, pure_bind, hs.room] at h
  exact h

theorem modifyRoom_ends {f : RoomIntentState F → RoomIntentState F} {r : Except AdapterError Unit}
    (hs : Holds intent.roomKey base s st) (h : Ends (modifyRoom intent.roomKey f) s r t) :
    r = .ok () ∧ t.moments = s.moments ∧ Holds intent.roomKey base t (f st) := by
  unfold modifyRoom at h
  obtain ⟨rfl, rfl⟩ := ends_modify.mp h
  refine ⟨rfl, rfl, ?_⟩
  unfold Holds at hs ⊢
  dsimp only
  rw [hs, Function.update_self, Function.update_idem]
  rfl

theorem modifyRoom_bind {β : Type} {f : RoomIntentState F → RoomIntentState F}
    {g : Unit → WorkerM E F β} {r : Except AdapterError β} (hs : Holds intent.roomKey base s st)
    (h : Ends (modifyRoom intent.roomKey f >>= g) s r t) :
    ∃ m, m.moments = s.moments ∧ Holds intent.roomKey base m (f st) ∧ Ends (g ()) m r t := by
  rcases ends_bind.mp h with ⟨_, m, hmodify, hrest⟩ | ⟨e, hmodify, -⟩
  · obtain ⟨-, hmoments, hm⟩ := modifyRoom_ends hs hmodify
    exact ⟨m, hmoments, hm, hrest⟩
  · cases (modifyRoom_ends hs hmodify).1

theorem modifyAttempt_takes {β : Type} {f : IntentAttempt F → IntentAttempt F} {stage stage' : Stage}
    {g : Unit → WorkerM E F β} {r : Except AdapterError β}
    (hstep : AttemptStep intent slaveAddress ⟨stage, st.holding a⟩ [] ⟨stage', st.holding (f a)⟩)
    (hs : Holds intent.roomKey base s (st.holding a))
    (h : Ends (modifyAttempt intent.roomKey f >>= g) s r t) :
    ∃ m, Takes intent slaveAddress base s m ⟨stage, st.holding a⟩ ⟨stage', st.holding (f a)⟩ ∧
      Ends (g ()) m r t := by
  obtain ⟨m, hmoments, hm, hrest⟩ := modifyRoom_bind hs h
  exact ⟨m, .silent hstep hmoments hm, hrest⟩

variable (w : G301EntranceWorker F) (env : G301Environment E)

variable (slaveAddress) in
theorem readClock_takes {β : Type} {g : Instant → WorkerM E F β} {r : Except AdapterError β}
    (hs : Holds intent.roomKey base s p.state) (h : Ends (readClock env >>= g) s r t) :
    ∃ reading m, Takes intent slaveAddress base s m p p ∧ Ends (g reading) m r t := by
  rcases ends_bind.mp h with ⟨reading, m, hclock, hrest⟩ | ⟨e, hclock, -⟩
  · obtain ⟨_, -, hlooks⟩ := readClock_ends env slaveAddress hclock
    exact ⟨reading, m, .of_looks hs hlooks, hrest⟩
  · obtain ⟨_, hr, -⟩ := readClock_ends env slaveAddress hclock
    cases hr

theorem recordSlaveFailure_takes {β : Type} {g : Unit → WorkerM E F β} {r : Except AdapterError β}
    (hs : Holds intent.roomKey base s p.state)
    (h : Ends (recordSlaveFailure w env slaveAddress >>= g) s r t) :
    ∃ m, Takes intent slaveAddress base s m p p ∧ Ends (g ()) m r t := by
  unfold recordSlaveFailure at h
  rw [bind_assoc, ends_get_bind, bind_assoc] at h
  obtain ⟨reading, m, hclock, hrest⟩ := readClock_takes slaveAddress env hs h
  rw [ends_modify_bind] at hrest
  refine ⟨_, ?_, hrest⟩
  exact hclock.relabel rfl rfl

theorem recordSlaveSuccess_takes {β : Type} {g : Unit → WorkerM E F β} {r : Except AdapterError β}
    (hs : Holds intent.roomKey base s p.state)
    (h : Ends (recordSlaveSuccess slaveAddress >>= g) s r t) :
    ∃ m, Takes intent slaveAddress base s m p p ∧ Ends (g ()) m r t := by
  unfold recordSlaveSuccess at h
  rw [ends_modify_bind] at h
  refine ⟨_, ?_, h⟩
  exact (Takes.refl hs).relabel rfl rfl

structure Reports (r : Except AdapterError IntentExecutionResult) (q : Progress F) : Prop where
  internal : ∀ e, r = .error e → ¬ e.Internal
  applied_iff : ∀ result, r = .ok result → (result.status = .applied ↔ q.stage = .applied)
  settled : q.stage.Settled → ∃ result, r = .ok result ∧
    q.state.currentAttempt.bind (·.cachedResult) = some result

theorem Reports.of_error {e : AdapterError} (he : ¬ e.Internal) (hq : ¬ q.stage.Settled) :
    Reports (.error e) q where
  internal := by
    rintro _ ⟨⟩
    exact he
  applied_iff := by simp
  settled := fun hsettled => absurd hsettled hq

theorem Reports.of_open {result : IntentExecutionResult} (hresult : result.status ≠ .applied)
    (hq : ¬ q.stage.Settled) : Reports (.ok result) q where
  internal := by simp
  applied_iff := by
    rintro _ ⟨⟩
    exact iff_of_false hresult fun happlied => hq (.inl happlied)
  settled := fun hsettled => absurd hsettled hq

theorem markTerminal_closes {stage : Stage} {result : IntentExecutionResult}
    {r : Except AdapterError IntentExecutionResult} (hstage : ¬ stage.Settled)
    (hresult : result.status ≠ .applied) (hrefusal : result.status.Refusal → stage = .planning)
    (hs : Holds intent.roomKey base s (st.holding a))
    (h : Ends (markTerminal intent.roomKey result false) s r t) :
    ∃ q, Takes intent slaveAddress base s t ⟨stage, st.holding a⟩ q ∧ Reports r q := by
  unfold markTerminal at h
  obtain ⟨m, hmoments, hm, hrest⟩ := modifyRoom_bind hs h
  obtain ⟨rfl, rfl⟩ := ends_pure.mp hrest
  refine ⟨_, .silent (.close hstage hresult hrefusal) hmoments hm, by simp, ?_, ?_⟩
  · rintro _ ⟨⟩
    exact iff_of_false hresult nofun
  · intro _
    exact ⟨result, rfl, rfl⟩

theorem writeOne_takes {plan : G301Plan} {write : RegisterWrite} {r : Except AdapterError Unit}
    (hplan : a.plan = some plan) (hwrite : write ∈ plan.writes)
    (hs : Holds intent.roomKey base s (st.holding a))
    (h : Ends (writeOne w env slaveAddress write) s r t) :
    Takes intent slaveAddress base s t ⟨.writing, st.holding a⟩ ⟨.writing, st.holding a⟩ ∧
      ∀ e, r = .error e → ¬ e.Internal := by
  have hissued : ∀ {notes : List Interaction}, Interacts s t notes →
      (∀ n ∈ notes, ∃ answer, n = .write slaveAddress write.address write.value answer) →
      Takes intent slaveAddress base s t ⟨.writing, st.holding a⟩ ⟨.writing, st.holding a⟩ := by
    intro notes hnotes hall
    refine .emitting hs (.loops ?_) hnotes.moments (hnotes.intentStates.trans hs)
    rintro _ hl
    obtain ⟨n, hn, rfl⟩ := List.mem_map.mp hl
    obtain ⟨answer, rfl⟩ := hall n hn
    exact .write hplan hwrite
  have hretried := withRetry_ends w env (fun _ _ _ hop => interact_ends hop) h
  cases hretried with
  | ok failures hnotes =>
      refine ⟨hissued hnotes (List.forall_mem_append.mpr ⟨?_, ?_⟩), by simp⟩
      · intro n hn
        obtain ⟨failure, -, rfl⟩ := List.mem_map.mp hn
        exact ⟨_, rfl⟩
      · intro n hn
        exact ⟨_, List.mem_singleton.mp hn⟩
  | error failures hnotes he =>
      refine ⟨hissued hnotes ?_, by simpa using he⟩
      intro n hn
      obtain ⟨failure, -, rfl⟩ := List.mem_map.mp hn
      exact ⟨_, rfl⟩

theorem writeAll_takes {plan : G301Plan} {writes : List RegisterWrite}
    {r : Except AdapterError Unit} (hplan : a.plan = some plan)
    (hwrites : ∀ write ∈ writes, write ∈ plan.writes)
    (hs : Holds intent.roomKey base s (st.holding a))
    (h : Ends (writeAll w env slaveAddress intent.roomKey writes) s r t) :
    ∃ b, b.plan = some plan ∧
      Takes intent slaveAddress base s t ⟨.writing, st.holding a⟩ ⟨.writing, st.holding b⟩ ∧
      ∀ e, r = .error e → ¬ e.Internal := by
  induction writes generalizing s a with
  | nil =>
      obtain ⟨rfl, rfl⟩ := ends_pure.mp h
      exact ⟨a, hplan, .refl hs, by simp⟩
  | cons write rest ih =>
      rw [List.forall_mem_cons] at hwrites
      rw [writeAll] at h
      rcases ends_bind.mp h with ⟨_, m, hone, hrest⟩ | ⟨e, hone, rfl⟩
      · obtain ⟨hissued, -⟩ := writeOne_takes w env hplan hwrites.1 hs hone
        obtain ⟨n, hrecorded, hrest⟩ := modifyAttempt_takes .acknowledge hissued.holds hrest
        obtain ⟨b, hb, htakes, he⟩ := ih (by exact hplan) hwrites.2 hrecorded.holds hrest
        exact ⟨b, hb, (hissued.trans hrecorded).trans htakes, he⟩
      · obtain ⟨hissued, he⟩ := writeOne_takes w env hplan hwrites.1 hs hone
        exact ⟨a, hplan, hissued, by simpa using he⟩

theorem transportFailureStatus_open (error : G301TransportError) :
    transportFailureStatus error ≠ .applied ∧ ¬ (transportFailureStatus error).Refusal := by
  unfold transportFailureStatus ExecutionStatus.Refusal
  cases error.kind <;> simp

theorem writeFailed_takes {error : G301TransportError}
    {r : Except AdapterError IntentExecutionResult}
    (hs : Holds intent.roomKey base s (st.holding a))
    (h : Ends (writeFailed w env intent slaveAddress error) s r t) :
    ∃ q, Takes intent slaveAddress base s t ⟨.writing, st.holding a⟩ q ∧ Reports r q := by
  obtain ⟨happlied, hrefusal⟩ := transportFailureStatus_open error
  have hrest := currentAttempt_bind hs h
  dsimp only at hrest
  split at hrest
  · exact markTerminal_closes nofun happlied (fun hr => absurd hr hrefusal) hs hrest
  · obtain ⟨m, hpending, hrest⟩ := modifyAttempt_takes .await hs hrest
    obtain ⟨n, hrecorded, hrest⟩ := recordSlaveFailure_takes w env hpending.holds hrest
    obtain ⟨rfl, rfl⟩ := ends_pure.mp hrest
    exact ⟨_, hpending.trans hrecorded, .of_open happlied nofun⟩

theorem markTerminal_confirms {stage : Stage} {plan : G301Plan} {notes : List Interaction}
    {result : IntentExecutionResult} {r : Except AdapterError IntentExecutionResult}
    (hstage : stage = .verifying ∨ stage = .checking) (hplan : a.plan = some plan)
    (hs : Holds intent.roomKey base s (st.holding a)) (hnotes : Interacts s m notes)
    (hread : Readback slaveAddress plan.readbackExpectations notes
      (ReadbackExpectation.values plan.readbackExpectations))
    (hresult : result.status = .applied)
    (h : Ends (markTerminal intent.roomKey result true) m r t) :
    ∃ q, Takes intent slaveAddress base s t ⟨stage, st.holding a⟩ q ∧ Reports r q := by
  unfold markTerminal at h
  have hm : Holds intent.roomKey base m (st.holding a) := hnotes.intentStates.trans hs
  obtain ⟨n, hmoments, hn, hrest⟩ := modifyRoom_bind hm h
  obtain ⟨rfl, rfl⟩ := ends_pure.mp hrest
  refine ⟨_, .emitting hs (.single (.confirm hstage hplan hread hresult))
    (hmoments.trans hnotes.moments) hn, by simp, ?_, ?_⟩
  · rintro _ ⟨⟩
    exact iff_of_true hresult rfl
  · intro _
    exact ⟨result, rfl, rfl⟩

inductive Judges (intent : DesiredRoomIntent) (plan : G301Plan) (a : IntentAttempt F)
    (terminalOnMismatch : Bool) (m t : WorkerState E F) :
    Except AdapterError Observed → Except AdapterError (Option IntentExecutionResult) → Prop
  | left {found : Observed} :
      compareReadback plan found ≠ [] → terminalOnMismatch = false → t = m →
      Judges intent plan a terminalOnMismatch m t (.ok found) (.ok none)
  | marked {found : Observed} {answer : Except AdapterError IntentExecutionResult} :
      compareReadback plan found = [] ∨ terminalOnMismatch = true →
      Ends (markTerminal intent.roomKey
        (verificationResult intent a.completedWrites (compareReadback plan found))
        (compareReadback plan found = [])) m answer t →
      Judges intent plan a terminalOnMismatch m t (.ok found) (answer.map some)
  | unread {error : G301TransportError} {answer : Except AdapterError IntentExecutionResult} :
      Ends (markTerminal intent.roomKey (unconfirmedResult intent error a.completedWrites) false)
        m answer t →
      Judges intent plan a terminalOnMismatch m t (.error (.transport error)) (answer.map some)
  | postponed {error : G301TransportError} : t = m →
      Judges intent plan a terminalOnMismatch m t (.error (.transport error))
        (.ok (some (unconfirmedResult intent error a.completedWrites)))
  | raised {e : AdapterError} : t = m →
      Judges intent plan a terminalOnMismatch m t (.error e) (.error e)

theorem markTerminal_some {result : IntentExecutionResult} {applied : Bool}
    {r : Except AdapterError (Option IntentExecutionResult)}
    (h : Ends (markTerminal intent.roomKey result applied >>= fun result => pure (some result))
      m r t) :
    ∃ answer, r = answer.map some ∧ Ends (markTerminal intent.roomKey result applied) m answer t := by
  rcases ends_bind.mp h with ⟨answer, n, hmark, hrest⟩ | ⟨e, hmark, rfl⟩
  · obtain ⟨rfl, rfl⟩ := ends_pure.mp hrest
    exact ⟨.ok answer, rfl, hmark⟩
  · exact ⟨.error e, rfl, hmark⟩

theorem verifyAttempt_judges {plan : G301Plan} {terminalOnMismatch : Bool}
    {r : Except AdapterError (Option IntentExecutionResult)} (hplan : a.plan = some plan)
    (hs : Holds intent.roomKey base s (st.holding a))
    (h : Ends (verifyAttempt w env intent terminalOnMismatch) s r t) :
    ∃ answer m, Ends (readback w env plan) s answer m ∧
      Judges intent plan a terminalOnMismatch m t answer r := by
  unfold verifyAttempt at h
  have hrest := currentAttempt_bind hs h
  simp only [hplan, ends_trying_bind] at hrest
  obtain ⟨answer, m, hended, hrest⟩ := hrest
  refine ⟨answer, m, hended, ?_⟩
  cases answer with
  | ok found =>
      dsimp only at hrest
      split at hrest
      · next hleft =>
          obtain ⟨rfl, rfl⟩ := ends_pure.mp hrest
          exact .left hleft.1 (by simpa using hleft.2) rfl
      · next hleft =>
          obtain ⟨answer, rfl, hmark⟩ := markTerminal_some hrest
          refine .marked ?_ hmark
          by_contra hnot
          rw [not_or] at hnot
          exact hleft ⟨hnot.1, by simpa using hnot.2⟩
  | error e =>
      cases e with
      | transport error =>
          dsimp only at hrest
          split at hrest
          · obtain ⟨answer, rfl, hmark⟩ := markTerminal_some hrest
            exact .unread hmark
          · obtain ⟨rfl, rfl⟩ := ends_pure.mp hrest
            exact .postponed rfl
      | _ =>
          obtain ⟨rfl, rfl⟩ := ends_throw.mp hrest
          exact .raised rfl

def LeavesMismatch (slaveAddress : ℕ) (plan : G301Plan) (s t : WorkerState E F) : Prop :=
  ∃ m notes values, Looks slaveAddress s m ∧ Interacts m t notes ∧
    Readback slaveAddress plan.readbackExpectations notes values ∧
    values ≠ ReadbackExpectation.values plan.readbackExpectations

theorem verifyAttempt_takes {stage : Stage} {plan : G301Plan} {source : DesiredRoomIntent}
    {terminalOnMismatch : Bool} {r : Except AdapterError (Option IntentExecutionResult)}
    (hstage : stage = .verifying ∨ stage = .checking) (hplan : a.plan = some plan)
    (hof : PlanOf source slaveAddress plan) (hs : Holds intent.roomKey base s (st.holding a))
    (h : Ends (verifyAttempt w env intent terminalOnMismatch) s r t) :
    (∃ q answer, r = answer.map some ∧
      Takes intent slaveAddress base s t ⟨stage, st.holding a⟩ q ∧ Reports answer q) ∨
    r = .ok none ∧ terminalOnMismatch = false ∧ LeavesMismatch slaveAddress plan s t := by
  have hopen : ¬ stage.Settled := by
    rcases hstage with rfl | rfl
    · exact nofun
    · exact nofun
  obtain ⟨answer, m, hended, hjudges⟩ := verifyAttempt_judges w env hplan hs h
  rcases readback_ends w env hended with ⟨n, found, rfl, hlooks, hall⟩ | ⟨e, rfl, hlooks, he⟩
  · obtain ⟨notes, values, hnotes, hread, hfound⟩ := hall.readback hof
    rw [hof.slaveAddress_eq] at hlooks
    have hn := Takes.of_looks (p := ⟨stage, st.holding a⟩) hs hlooks
    cases hjudges with
    | left hmismatch hfalse ht =>
        subst ht
        refine .inr ⟨rfl, hfalse, n, notes, values, hlooks, hnotes, hread, ?_⟩
        exact fun heq => hmismatch (hfound.mpr heq)
    | marked _ hmark =>
        by_cases hmatch : compareReadback plan found = []
        · rw [decide_eq_true hmatch] at hmark
          rw [hfound.mp hmatch] at hread
          obtain ⟨q, htakes, hreports⟩ := markTerminal_confirms hstage hplan hn.holds hnotes hread
            (by simp [verificationResult, hmatch, executionResult]) hmark
          exact .inl ⟨q, _, rfl, hn.trans htakes, hreports⟩
        · rw [decide_eq_false hmatch] at hmark
          have hm := Takes.of_looks (p := ⟨stage, st.holding a⟩) hn.holds
            ⟨notes, hnotes, hread.quiet⟩
          obtain ⟨q, htakes, hreports⟩ := markTerminal_closes hopen
            (by simp [verificationResult, hmatch, executionResult])
            (by simp [verificationResult, hmatch, executionResult, ExecutionStatus.Refusal])
            hm.holds hmark
          exact .inl ⟨q, _, rfl, (hn.trans hm).trans htakes, hreports⟩
  · rw [hof.slaveAddress_eq] at hlooks
    have hm := Takes.of_looks (p := ⟨stage, st.holding a⟩) hs hlooks
    cases hjudges with
    | unread hmark =>
        obtain ⟨q, htakes, hreports⟩ := markTerminal_closes hopen
          (by simp [unconfirmedResult, executionResult])
          (by simp [unconfirmedResult, executionResult, ExecutionStatus.Refusal]) hm.holds hmark
        exact .inl ⟨q, _, rfl, hm.trans htakes, hreports⟩
    | postponed ht =>
        subst ht
        exact .inl ⟨_, .ok _, rfl, hm,
          .of_open (by simp [unconfirmedResult, executionResult]) hopen⟩
    | raised ht =>
        subst ht
        exact .inl ⟨_, .error _, rfl, hm, .of_error he hopen⟩

theorem recordVerification_takes {result : IntentExecutionResult} {success failure : Prop}
    [Decidable success] [Decidable failure] {r : Except AdapterError IntentExecutionResult}
    (hs : Holds intent.roomKey base s q.state) (hreports : Reports (.ok result) q)
    (h : Ends (do
      if success then recordSlaveSuccess slaveAddress
      else if failure then recordSlaveFailure w env slaveAddress
      return result) s r t) :
    Takes intent slaveAddress base s t q q ∧ Reports r q := by
  dsimp only at h
  split at h
  · obtain ⟨m, hrecorded, hrest⟩ := recordSlaveSuccess_takes hs h
    obtain ⟨rfl, rfl⟩ := ends_pure.mp hrest
    exact ⟨hrecorded, hreports⟩
  · split at h
    · obtain ⟨m, hrecorded, hrest⟩ := recordSlaveFailure_takes w env hs h
      obtain ⟨rfl, rfl⟩ := ends_pure.mp hrest
      exact ⟨hrecorded, hreports⟩
    · obtain ⟨rfl, rfl⟩ := ends_pure.mp h
      exact ⟨.refl hs, hreports⟩

theorem verifyAttempt_bind {stage : Stage} {plan : G301Plan} {source : DesiredRoomIntent}
    {terminalOnMismatch : Bool}
    {g : Option IntentExecutionResult → WorkerM E F IntentExecutionResult}
    {r : Except AdapterError IntentExecutionResult}
    (hstage : stage = .verifying ∨ stage = .checking) (hplan : a.plan = some plan)
    (hof : PlanOf source slaveAddress plan) (hs : Holds intent.roomKey base s (st.holding a))
    (hrecord : ∀ {q : Progress F} {m : WorkerState E F} {result : IntentExecutionResult},
      Holds intent.roomKey base m q.state → Reports (.ok result) q → Ends (g (some result)) m r t →
      Takes intent slaveAddress base m t q q ∧ Reports r q)
    (h : Ends (verifyAttempt w env intent terminalOnMismatch >>= g) s r t) :
    (∃ q, Takes intent slaveAddress base s t ⟨stage, st.holding a⟩ q ∧ Reports r q) ∨
    ∃ m, terminalOnMismatch = false ∧ LeavesMismatch slaveAddress plan s m ∧
      Ends (g none) m r t := by
  rcases ends_bind.mp h with ⟨verified, m, hverify, hrest⟩ | ⟨e, hverify, rfl⟩
  · rcases verifyAttempt_takes w env hstage hplan hof hs hverify with
      ⟨q, answer, hanswer, htakes, hreports⟩ | ⟨hnone, hfalse, hleaves⟩
    · cases answer with
      | error e => cases hanswer
      | ok result =>
          cases hanswer
          obtain ⟨hrecorded, hreports'⟩ := hrecord htakes.holds hreports hrest
          exact .inl ⟨q, htakes.trans hrecorded, hreports'⟩
    · cases hnone
      exact .inr ⟨m, hfalse, hleaves, hrest⟩
  · rcases verifyAttempt_takes w env hstage hplan hof hs hverify with
      ⟨q, answer, hanswer, htakes, hreports⟩ | ⟨hnone, -, -⟩
    · cases answer with
      | error e =>
          cases hanswer
          exact .inl ⟨q, htakes, hreports⟩
      | ok result => cases hanswer
    · cases hnone

theorem writeAndVerify_takes {plan : G301Plan} {r : Except AdapterError IntentExecutionResult}
    (hof : PlanOf intent slaveAddress plan) (hs : Holds intent.roomKey base s (st.holding a))
    (h : Ends (writeAndVerify w env intent slaveAddress plan) s r t) :
    ∃ q, Takes intent slaveAddress base s t ⟨.planning, st.holding a⟩ q ∧ Reports r q := by
  unfold writeAndVerify at h
  obtain ⟨m, hplanned, hrest⟩ := modifyAttempt_takes (.plan hof) hs h
  obtain ⟨answer, n, hwrites, hrest⟩ := ends_trying_bind.mp hrest
  obtain ⟨b, hb, hwritten, he⟩ :=
    writeAll_takes w env rfl (fun _ hw => hw) hplanned.holds hwrites
  have hn := hplanned.trans hwritten
  cases answer with
  | error e =>
      cases e with
      | transport error =>
          obtain ⟨q, hfailed, hreports⟩ := writeFailed_takes w env hn.holds hrest
          exact ⟨q, hn.trans hfailed, hreports⟩
      | _ =>
          obtain ⟨rfl, rfl⟩ := ends_throw.mp hrest
          exact ⟨_, hn, .of_error (he _ rfl) nofun⟩
  | ok _ =>
      obtain ⟨n', hpending, hrest⟩ := modifyAttempt_takes .await hn.holds hrest
      have hn' := hn.trans hpending
      have hb' : ({ b with phase := .verificationPending } : IntentAttempt F).plan = some plan := hb
      rcases verifyAttempt_bind w env (.inr rfl) hb' hof hn'.holds
        (fun hm hreports => recordVerification_takes w env hm hreports) hrest with
        ⟨q, htakes, hreports⟩ | ⟨_, hfalse, -⟩
      · exact ⟨q, hn'.trans htakes, hreports⟩
      · cases hfalse

theorem planFailed_takes {e : AdapterError} {r : Except AdapterError IntentExecutionResult}
    (he : ¬ e.Internal) (hs : Holds intent.roomKey base s (st.holding a))
    (h : Ends (planFailed w env intent slaveAddress e) s r t) :
    ∃ q, Takes intent slaveAddress base s t ⟨.planning, st.holding a⟩ q ∧ Reports r q := by
  unfold planFailed at h
  cases e with
  | planning message =>
      exact markTerminal_closes nofun (by simp [bareResult, executionResult]) (fun _ => rfl) hs h
  | valueError message =>
      exact markTerminal_closes nofun (by simp [bareResult, executionResult]) (fun _ => rfl) hs h
  | transport error =>
      obtain ⟨happlied, -⟩ := transportFailureStatus_open error
      dsimp only at h
      split at h
      · exact markTerminal_closes nofun happlied (fun _ => rfl) hs h
      · obtain ⟨m, hrecorded, hrest⟩ :=
          recordSlaveFailure_takes (p := ⟨.planning, st.holding a⟩) w env hs h
        obtain ⟨rfl, rfl⟩ := ends_pure.mp hrest
        exact ⟨_, hrecorded, .of_open happlied nofun⟩
  | _ =>
      obtain ⟨rfl, rfl⟩ := ends_throw.mp h
      exact ⟨_, .refl hs, .of_error he nofun⟩

theorem executeIntent_takes {r : Except AdapterError IntentExecutionResult}
    (hs : Holds intent.roomKey base s (st.holding a))
    (h : Ends (executeIntent w env intent slaveAddress) s r t) :
    ∃ q, Takes intent slaveAddress base s t ⟨.planning, st.holding a⟩ q ∧ Reports r q := by
  unfold executeIntent at h
  obtain ⟨m, hrestart, hrest⟩ := modifyAttempt_takes .restart hs h
  obtain ⟨reading, n, hclock, hrest⟩ := readClock_takes slaveAddress env hrestart.holds hrest
  have hn := hrestart.trans hclock
  have hopen : ¬ Stage.planning.Settled := nofun
  dsimp only at hrest
  split at hrest
  · obtain ⟨q, htakes, hreports⟩ := markTerminal_closes hopen (by simp [bareResult, executionResult])
      (fun _ => rfl) hn.holds hrest
    exact ⟨q, hn.trans htakes, hreports⟩
  · split at hrest
    · obtain ⟨rfl, rfl⟩ := ends_pure.mp hrest
      exact ⟨_, hn, .of_open (by simp [bareResult, executionResult]) nofun⟩
    · rw [ends_get_bind] at hrest
      split at hrest
      · obtain ⟨rfl, rfl⟩ := ends_pure.mp hrest
        exact ⟨_, hn, .of_open (by simp [cooldownResult, bareResult, executionResult]) nofun⟩
      · obtain ⟨answer, o, hplan, hrest⟩ := ends_trying_bind.mp hrest
        obtain ⟨hlooks, hof, he⟩ := makePlan_ends w env hplan
        have ho := hn.trans (.of_looks hn.holds hlooks)
        cases answer with
        | error e =>
            obtain ⟨q, htakes, hreports⟩ := planFailed_takes w env (he e rfl) ho.holds hrest
            exact ⟨q, ho.trans htakes, hreports⟩
        | ok plan =>
            obtain ⟨q, htakes, hreports⟩ := writeAndVerify_takes w env (hof plan rfl) ho.holds hrest
            exact ⟨q, ho.trans htakes, hreports⟩

theorem resumeVerification_takes {plan : G301Plan} {source : DesiredRoomIntent}
    {r : Except AdapterError IntentExecutionResult} (hplan : a.plan = some plan)
    (hof : PlanOf source slaveAddress plan) (hs : Holds intent.roomKey base s (st.holding a))
    (h : Ends (resumeVerification w env intent slaveAddress) s r t) :
    ∃ q, Takes intent slaveAddress base s t ⟨.verifying, st.holding a⟩ q ∧ Reports r q := by
  unfold resumeVerification at h
  obtain ⟨reading, m, hm, hrest⟩ :=
    readClock_takes (p := ⟨.verifying, st.holding a⟩) slaveAddress env hs h
  rw [ends_get_bind] at hrest
  split at hrest
  · obtain ⟨rfl, rfl⟩ := ends_pure.mp hrest
    exact ⟨_, hm, .of_open (by simp [cooldownResult, bareResult, executionResult]) nofun⟩
  · have hrest := currentAttempt_bind hm.holds hrest
    simp only [Option.bind_some, hplan, Option.isNone_some, Bool.false_eq_true, if_false] at hrest
    rcases verifyAttempt_bind w env (.inl rfl) hplan hof hm.holds
      (fun hm hreports => recordVerification_takes w env hm hreports) hrest with
      ⟨q, htakes, hreports⟩ | ⟨o, -, ⟨n, notes, values, hlooks, hnotes, hread, hne⟩, hrest⟩
    · exact ⟨q, hm.trans htakes, hreports⟩
    · have hn := hm.trans (.of_looks hm.holds hlooks)
      have ho : Holds intent.roomKey base o (st.holding a) := hnotes.intentStates.trans hn.holds
      obtain ⟨o', hmoments, ho', hrest⟩ := modifyRoom_bind ho hrest
      have hdiverged := Takes.emitting hn.holds (.single (.diverge hplan hread hne))
        (hmoments.trans hnotes.moments) ho'
      obtain ⟨q, htakes, hreports⟩ := executeIntent_takes w env hdiverged.holds hrest
      exact ⟨q, (hn.trans hdiverged).trans htakes, hreports⟩

end ClockOrchestrator
