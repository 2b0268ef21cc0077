import ClockOrchestrator.G301Adapter.WorkerSteps

namespace ClockOrchestrator

open Python Procedure

variable {E F α : Type} {s t m : WorkerState E F} {intent : DesiredRoomIntent} {slaveAddress : ℕ}
  {notes others : List Interaction}

def WorkerState.interactions (s : WorkerState E F) : List Interaction :=
  s.moments.map (·.interaction)

def Emits (s t : WorkerState E F) (notes : List Interaction) : Prop :=
  t.interactions = s.interactions ++ notes

theorem Emits.refl (s : WorkerState E F) : Emits s s [] := (List.append_nil _).symm

theorem Emits.trans (h : Emits s m notes) (h' : Emits m t others) : Emits s t (notes ++ others) := by
  rw [Emits, h', h, List.append_assoc]

theorem Interacts.emits (h : Interacts s t notes) : Emits s t notes := by
  rw [Emits, WorkerState.interactions, h.moments, List.map_append, List.map_map]
  exact congrArg _ (List.map_id _)

def Unwritten (notes : List Interaction) : Prop := ∀ n ∈ notes, n.isWrite = false

theorem Unwritten.append (h : Unwritten notes) (h' : Unwritten others) :
    Unwritten (notes ++ others) :=
  List.forall_mem_append.mpr ⟨h, h'⟩

def Silent (s t : WorkerState E F) : Prop := ∃ notes, Emits s t notes ∧ Unwritten notes

instance : Std.Refl (Silent (E := E) (F := F)) := ⟨fun s => ⟨[], .refl s, nofun⟩⟩

instance : IsTrans (WorkerState E F) Silent where
  trans := by
    rintro s m t ⟨notes, hnotes, hquiet⟩ ⟨others, hothers, hquiet'⟩
    exact ⟨notes ++ others, hnotes.trans hothers, hquiet.append hquiet'⟩

theorem Silent.of_moments (h : t.moments = s.moments) : Silent s t := by
  refine ⟨[], ?_, nofun⟩
  rw [Emits, WorkerState.interactions, h, List.append_nil]
  rfl

theorem Looks.silent (h : Looks slaveAddress s t) : Silent s t := by
  obtain ⟨notes, hnotes, hquiet⟩ := h
  exact ⟨notes, hnotes.emits, fun n hn => (hquiet n hn).not_write⟩

section Silences

variable (w : G301EntranceWorker F) (env : G301Environment E)

theorem readClock_silent : Guarantees Silent (readClock (F := F) env) := by
  intro s r t h
  obtain ⟨_, -, hlooks⟩ := readClock_ends env 0 h
  exact hlooks.silent

theorem modifyRoom_silent (roomKey : String) (f : RoomIntentState F → RoomIntentState F) :
    Guarantees Silent (modifyRoom (E := E) roomKey f) :=
  .modify fun _ => .of_moments rfl

theorem currentAttempt_silent (roomKey : String) :
    Guarantees Silent (currentAttempt (E := E) (F := F) roomKey) :=
  .bind .get fun _ => .pure _

theorem recordSlaveSuccess_silent (slaveAddress : ℕ) :
    Guarantees Silent (recordSlaveSuccess (E := E) (F := F) slaveAddress) :=
  .modify fun _ => .of_moments rfl

theorem recordSlaveFailure_silent (slaveAddress : ℕ) :
    Guarantees Silent (recordSlaveFailure w env slaveAddress) :=
  .bind .get fun _ => .bind (readClock_silent env) fun _ => .modify fun _ => .of_moments rfl

theorem markTerminal_silent (roomKey : String) (result : IntentExecutionResult) (applied : Bool) :
    Guarantees Silent (markTerminal (E := E) (F := F) roomKey result applied) :=
  .bind (modifyRoom_silent roomKey _) fun _ => .pure _

theorem readback_silent (plan : G301Plan) : Guarantees Silent (readback w env plan) := by
  intro s r t h
  rcases readback_ends w env h with ⟨m, found, -, hlooks, hall⟩ | ⟨e, -, hlooks, -⟩
  · exact (hlooks.trans hall.looks).silent
  · exact hlooks.silent

theorem verifyAttempt_silent (intent : DesiredRoomIntent) (terminalOnMismatch : Bool) :
    Guarantees Silent (verifyAttempt w env intent terminalOnMismatch) := by
  have hmarked : ∀ result applied, Guarantees Silent
      (markTerminal (E := E) (F := F) intent.roomKey result applied >>=
        fun result => pure (some result)) :=
    fun result applied => .bind (markTerminal_silent _ result applied) fun _ => .pure _
  refine .bind (currentAttempt_silent _) fun attempt => ?_
  split
  · exact .throw _
  · split
    · exact .throw _
    · refine .bind (.trying (readback_silent w env _)) fun answer => ?_
      split
      · dsimp only
        split
        · exact hmarked _ _
        · exact .pure _
      · exact .throw _
      · dsimp only
        split
        · exact .pure _
        · exact hmarked _ _

theorem writeFailed_silent (intent : DesiredRoomIntent) (slaveAddress : ℕ)
    (error : G301TransportError) :
    Guarantees Silent (writeFailed w env intent slaveAddress error) := by
  refine .bind (currentAttempt_silent _) fun attempt => ?_
  dsimp only
  split
  · exact markTerminal_silent _ _ _
  · exact .bind (modifyRoom_silent _ _) fun _ => .bind (recordSlaveFailure_silent w env _)
      fun _ => .pure _

theorem planFailed_silent (intent : DesiredRoomIntent) (slaveAddress : ℕ) (e : AdapterError) :
    Guarantees Silent (planFailed w env intent slaveAddress e) := by
  unfold planFailed
  split
  · exact markTerminal_silent _ _ _
  · exact markTerminal_silent _ _ _
  · split
    · exact markTerminal_silent _ _ _
    · exact .bind (recordSlaveFailure_silent w env _) fun _ => .pure _
  · exact .throw _

end Silences

inductive WriteRun (slaveAddress : ℕ) : List RegisterWrite → List Interaction → Prop
  | done : WriteRun slaveAddress [] []
  | gaveUp {write : RegisterWrite} {rest : List RegisterWrite} (failures : List ClientFailure) :
      WriteRun slaveAddress (write :: rest)
        (failures.map fun failure => .write slaveAddress write.address write.value (.error failure))
  | acknowledged {write : RegisterWrite} {rest : List RegisterWrite} {notes : List Interaction}
      (failures : List ClientFailure) :
      WriteRun slaveAddress rest notes →
      WriteRun slaveAddress (write :: rest)
        (failures.map (fun failure => .write slaveAddress write.address write.value (.error failure))
          ++ .write slaveAddress write.address write.value (.ok ()) :: notes)

inductive ProfileRead (slaveAddress : ℕ) : List Interaction → Option G301DeviceProfile → Prop
  | unread {notes : List Interaction} : Unwritten notes → ProfileRead slaveAddress notes none
  | read {notes : List Interaction} {capabilities limitation upper lower : ℤ}
      {profile : G301DeviceProfile} :
      Unwritten notes → buildDeviceProfile capabilities limitation upper lower = .ok profile →
      ProfileRead slaveAddress
        (notes ++ [.read slaveAddress G301Register.modeLimitation.address 3
          (.ok [limitation, upper, lower])]) (some profile)

inductive Executed (intent : DesiredRoomIntent) (slaveAddress : ℕ) : List Interaction → Prop
  | silent {notes : List Interaction} : Unwritten notes → Executed intent slaveAddress notes
  | written {looking writing checking : List Interaction} {profile : Option G301DeviceProfile}
      {plan : G301Plan} :
      ProfileRead slaveAddress looking profile →
      planRoomIntent intent slaveAddress profile = .ok plan →
      WriteRun slaveAddress plan.writes writing → Unwritten checking →
      Executed intent slaveAddress (looking ++ (writing ++ checking))

theorem ProfileRead.after {profile : Option G301DeviceProfile} (h : Unwritten notes)
    (h' : ProfileRead slaveAddress others profile) :
    ProfileRead slaveAddress (notes ++ others) profile := by
  cases h' with
  | unread hothers => exact .unread (h.append hothers)
  | read hothers hbuilt =>
      rw [← List.append_assoc]
      exact .read (h.append hothers) hbuilt

theorem Executed.after (h : Unwritten notes) (h' : Executed intent slaveAddress others) :
    Executed intent slaveAddress (notes ++ others) := by
  cases h' with
  | silent hothers => exact .silent (h.append hothers)
  | written hread hplan hrun hchecking =>
      rw [← List.append_assoc]
      exact .written (hread.after h) hplan hrun hchecking

def Executes (intent : DesiredRoomIntent) (slaveAddress : ℕ) (s t : WorkerState E F) : Prop :=
  ∃ notes, Emits s t notes ∧ Executed intent slaveAddress notes

theorem Silent.executes (h : Silent s t) : Executes intent slaveAddress s t := by
  obtain ⟨notes, hnotes, hquiet⟩ := h
  exact ⟨notes, hnotes, .silent hquiet⟩

theorem Silent.then_executes (h : Silent s m) (h' : Executes intent slaveAddress m t) :
    Executes intent slaveAddress s t := by
  obtain ⟨notes, hnotes, hquiet⟩ := h
  obtain ⟨others, hothers, hexecuted⟩ := h'
  exact ⟨notes ++ others, hnotes.trans hothers, hexecuted.after hquiet⟩

theorem executes_of_silent {x : WorkerM E F α} (hx : Guarantees Silent x) :
    Guarantees (Executes intent slaveAddress) x :=
  fun s r t h => (hx s r t h).executes

theorem executes_bind {β : Type} {x : WorkerM E F α} {f : α → WorkerM E F β}
    (hx : Guarantees Silent x) (hf : ∀ a, Guarantees (Executes intent slaveAddress) (f a)) :
    Guarantees (Executes intent slaveAddress) (x >>= f) := by
  intro s r t h
  rcases ends_bind.mp h with ⟨a, m, hm, hrest⟩ | ⟨e, he, -⟩
  · exact (hx s _ m hm).then_executes (hf a m r t hrest)
  · exact (hx s _ t he).executes

section Executions

variable (w : G301EntranceWorker F) (env : G301Environment E)

theorem writeAll_runs {roomKey : String} {writes : List RegisterWrite}
    {r : Except AdapterError Unit} (h : Ends (writeAll w env slaveAddress roomKey writes) s r t) :
    ∃ notes, Emits s t notes ∧ WriteRun slaveAddress writes notes := by
  induction writes generalizing s with
  | nil =>
      obtain ⟨-, rfl⟩ := ends_pure.mp h
      exact ⟨[], .refl _, .done⟩
  | cons write rest ih =>
      rw [writeAll] at h
      rcases ends_bind.mp h with ⟨_, m, hone, hrest⟩ | ⟨e, hone, -⟩
      · cases withRetry_ends w env (fun _ _ _ hop => interact_ends hop) hone with
        | ok failures hissued =>
            rcases ends_bind.mp hrest with ⟨_, n, hmodify, hrest⟩ | ⟨e, hmodify, -⟩
            · obtain ⟨-, rfl⟩ := ends_modify.mp hmodify
              obtain ⟨notes, hnotes, hrun⟩ := ih hrest
              refine ⟨_, hissued.emits.trans hnotes, ?_⟩
              rw [List.append_assoc]
              exact .acknowledged failures hrun
            · cases (ends_modify.mp hmodify).1
      · cases withRetry_ends w env (fun _ _ _ hop => interact_ends hop) hone with
        | error failures hissued _ => exact ⟨_, hissued.emits, .gaveUp failures⟩

theorem readDeviceProfile_reads {profile : G301DeviceProfile}
    (h : Ends (readDeviceProfile w env slaveAddress) s (.ok profile) t) :
    ∃ notes, Emits s t notes ∧ ProfileRead slaveAddress notes (some profile) := by
  unfold readDeviceProfile at h
  rcases ends_bind.mp h with ⟨raw, m, hone, hrest⟩ | ⟨e, -, he⟩
  · obtain ⟨earlier, hearlier, hquiet⟩ := (readOne_ends w env hone).looks.silent
    rcases ends_bind.mp hrest with ⟨limits, n, hread, hrest⟩ | ⟨e, -, he⟩
    · cases clientRead_ends w env hread with
      | ok failures hread =>
          have hfailed : Unwritten (failures.map fun failure =>
              .read slaveAddress G301Register.modeLimitation.address 3 (.error failure)) := by
            intro n hn
            obtain ⟨failure, -, rfl⟩ := List.mem_map.mp hn
            rfl
          split at hrest
          · split at hrest
            · next hbuilt =>
                obtain ⟨hprofile, rfl⟩ := ends_pure.mp hrest
                cases hprofile
                refine ⟨_, hearlier.trans hread.emits, ?_⟩
                rw [← List.append_assoc]
                exact .read (hquiet.append hfailed) hbuilt
            · cases (ends_throw.mp hrest).1
          · cases (ends_throw.mp hrest).1
    · cases he
  · cases he

theorem makePlan_reads {plan : G301Plan}
    (h : Ends (makePlan w env intent slaveAddress) s (.ok plan) t) :
    ∃ notes profile, Emits s t notes ∧ ProfileRead slaveAddress notes profile ∧
      planRoomIntent intent slaveAddress profile = .ok plan := by
  unfold makePlan at h
  dsimp only at h
  split at h
  · rcases ends_bind.mp h with ⟨profile, m, hread, hrest⟩ | ⟨e, -, he⟩
    · obtain ⟨notes, hnotes, hprofile⟩ := readDeviceProfile_reads w env hread
      rw [pure_bind] at hrest
      split at hrest
      · next hplan =>
          obtain ⟨hsame, rfl⟩ := ends_pure.mp hrest
          cases hsame
          exact ⟨notes, some profile, hnotes, hprofile, hplan⟩
      · cases (ends_throw.mp hrest).1
    · cases he
  · rw [pure_bind] at h
    split at h
    · next hplan =>
        obtain ⟨hsame, rfl⟩ := ends_pure.mp h
        cases hsame
        exact ⟨[], none, .refl _, .unread nofun, hplan⟩
    · cases (ends_throw.mp h).1

theorem writeAndVerify_runs {plan : G301Plan} {r : Except AdapterError IntentExecutionResult}
    (h : Ends (writeAndVerify w env intent slaveAddress plan) s r t) :
    ∃ writing checking, Emits s t (writing ++ checking) ∧
      WriteRun slaveAddress plan.writes writing ∧ Unwritten checking := by
  unfold writeAndVerify at h
  rcases ends_bind.mp h with ⟨_, m, hmodify, hrest⟩ | ⟨e, hmodify, -⟩
  · obtain ⟨-, rfl⟩ := ends_modify.mp hmodify
    obtain ⟨answer, n, hwrites, hrest⟩ := ends_trying_bind.mp hrest
    obtain ⟨writing, hwriting, hrun⟩ := writeAll_runs w env hwrites
    obtain ⟨checking, hchecking, hquiet⟩ : Silent n t := by
      revert hrest
      refine fun hrest => (?_ : Guarantees Silent _) n r t hrest
      split
      · exact writeFailed_silent w env _ _ _
      · exact .throw _
      · refine .bind (modifyRoom_silent _ _) fun _ => ?_
        refine .bind (verifyAttempt_silent w env _ _) fun verified => ?_
        split
        · exact .throw _
        · split
          · exact .bind (recordSlaveSuccess_silent _) fun _ => .pure _
          · split
            · exact .bind (recordSlaveFailure_silent w env _) fun _ => .pure _
            · exact .pure _
    exact ⟨writing, checking, hwriting.trans hchecking, hrun, hquiet⟩
  · cases (ends_modify.mp hmodify).1

theorem makePlan_silent (intent : DesiredRoomIntent) (slaveAddress : ℕ) :
    Guarantees Silent (makePlan w env intent slaveAddress) :=
  fun _ _ _ h => (makePlan_ends w env h).1.silent

theorem planned_executes (intent : DesiredRoomIntent) (slaveAddress : ℕ) :
    Guarantees (Executes intent slaveAddress) (do
      match ← trying (makePlan w env intent slaveAddress) with
      | .error e => planFailed w env intent slaveAddress e
      | .ok plan => writeAndVerify w env intent slaveAddress plan) := by
  intro s r t h
  obtain ⟨answer, m, hplan, hrest⟩ := ends_trying_bind.mp h
  cases answer with
  | error e =>
      exact (makePlan_silent w env intent slaveAddress s _ m hplan).then_executes
        (planFailed_silent w env intent slaveAddress e m r t hrest).executes
  | ok plan =>
      obtain ⟨looking, profile, hlooking, hread, hplanned⟩ := makePlan_reads w env hplan
      obtain ⟨writing, checking, hnotes, hrun, hchecking⟩ := writeAndVerify_runs w env hrest
      exact ⟨_, hlooking.trans hnotes, .written hread hplanned hrun hchecking⟩

theorem executeIntent_executes (intent : DesiredRoomIntent) (slaveAddress : ℕ) :
    Guarantees (Executes intent slaveAddress) (executeIntent w env intent slaveAddress) := by
  refine executes_bind (modifyRoom_silent _ _) fun _ => ?_
  refine executes_bind (readClock_silent env) fun reading => ?_
  dsimp only
  split
  · exact executes_of_silent (markTerminal_silent _ _ _)
  · split
    · exact executes_of_silent (.pure _)
    · refine executes_bind .get fun s => ?_
      split
      · exact executes_of_silent (.pure _)
      · exact planned_executes w env intent slaveAddress

theorem resumeVerification_executes (intent : DesiredRoomIntent) (slaveAddress : ℕ) :
    Guarantees (Executes intent slaveAddress) (resumeVerification w env intent slaveAddress) := by
  have hagain : Guarantees (Executes intent slaveAddress) (do
      modifyAttempt intent.roomKey ({ · with phase := .retryable })
      executeIntent w env intent slaveAddress) :=
    executes_bind (modifyRoom_silent _ _) fun _ => executeIntent_executes w env intent slaveAddress
  refine executes_bind (readClock_silent env) fun reading => ?_
  refine executes_bind .get fun s => ?_
  split
  · exact executes_of_silent (.pure _)
  · refine executes_bind (currentAttempt_silent _) fun attempt => ?_
    split
    · exact hagain
    · refine executes_bind (verifyAttempt_silent w env _ _) fun verified => ?_
      split
      · refine executes_of_silent ?_
        dsimp only
        split
        · exact .bind (recordSlaveSuccess_silent _) fun _ => .pure _
        · split
          · exact .bind (recordSlaveFailure_silent w env _) fun _ => .pure _
          · exact .pure _
      · exact hagain

theorem executeCurrent_executes (intent : DesiredRoomIntent) (slaveAddress : ℕ) :
    Guarantees (Executes intent slaveAddress) (executeCurrent w env intent slaveAddress) := by
  refine executes_bind (currentAttempt_silent _) fun attempt => ?_
  split
  · exact executes_of_silent (.throw _)
  · exact executeIntent_executes w env intent slaveAddress

variable [DecidableEq F]

theorem applySeenIntent_executes (intent : DesiredRoomIntent) (slaveAddress : ℕ)
    (state : RoomIntentState F) :
    Guarantees (Executes intent slaveAddress)
      (applySeenIntent w env intent slaveAddress state) := by
  unfold applySeenIntent
  split
  · exact executes_of_silent (.throw _)
  · split
    · exact executes_of_silent (.throw _)
    · split
      · exact executes_of_silent (.pure _)
      · split
        · split
          · exact executes_of_silent (.throw _)
          · exact executes_of_silent (.pure _)
        · exact resumeVerification_executes w env intent slaveAddress
        · exact resumeVerification_executes w env intent slaveAddress
        · exact executeCurrent_executes w env intent slaveAddress

theorem applyIntent_executes {r : Except AdapterError IntentExecutionResult}
    (h : Ends (applyIntent w env intent) s r t) :
    t = s ∨ ∃ slaveAddress, w.roomSlaveAddresses.lookup intent.roomKey = some slaveAddress ∧
      Executes intent slaveAddress s t := by
  unfold applyIntent at h
  split at h
  · obtain ⟨-, rfl⟩ := ends_pure.mp h
    exact .inl rfl
  · next slaveAddress hslave =>
      refine .inr ⟨slaveAddress, hslave, ?_⟩
      refine (?_ : Guarantees (Executes intent slaveAddress) _) s r t h
      have hregister : Guarantees (Executes intent slaveAddress) (do
          modifyRoom intent.roomKey
            (·.register intent.intentVersion (intentFingerprint w intent))
          executeCurrent w env intent slaveAddress) :=
        executes_bind (modifyRoom_silent _ _) fun _ =>
          executeCurrent_executes w env intent slaveAddress
      refine executes_bind (.modify fun _ => .of_moments rfl) fun _ => ?_
      refine executes_bind .get fun s => ?_
      dsimp only
      split
      · split
        · exact executes_of_silent (.pure _)
        · split
          · exact hregister
          · exact applySeenIntent_executes w env intent slaveAddress _
      · exact hregister

end Executions

end ClockOrchestrator
