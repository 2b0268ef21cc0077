import ClockOrchestrator.G301Adapter.WriteRuns

namespace ClockOrchestrator

open Python Procedure

def Interaction.Operates (slaveAddress : ℕ) : Interaction → Prop
  | .write slave _ _ _ => slave = slaveAddress
  | .read slave _ _ _ => slave = slaveAddress
  | .clock _ => False

variable {E F α : Type} {s t m : WorkerState E F} {intent : DesiredRoomIntent} {slaveAddress : ℕ}
  {ops others : List Interaction}

structure Operated (slaveAddress : ℕ) (s t : WorkerState E F) (ops : List Interaction) : Prop where
  emits : Emits s t ops
  failures : t.slaveFailures = s.slaveFailures
  operates : ∀ n ∈ ops, n.Operates slaveAddress

theorem Operated.refl (s : WorkerState E F) : Operated slaveAddress s s [] :=
  ⟨.refl s, rfl, by simp⟩

theorem Operated.trans (h : Operated slaveAddress s m ops) (h' : Operated slaveAddress m t others) :
    Operated slaveAddress s t (ops ++ others) :=
  ⟨h.emits.trans h'.emits, h'.failures.trans h.failures,
    List.forall_mem_append.mpr ⟨h.operates, h'.operates⟩⟩

theorem Interacts.operated (h : Interacts s t ops) (hops : ∀ n ∈ ops, n.Operates slaveAddress) :
    Operated slaveAddress s t ops :=
  ⟨h.emits, h.slaveFailures, hops⟩

theorem Operated.of_moments (hmoments : t.moments = s.moments)
    (hfailures : t.slaveFailures = s.slaveFailures) : Operated slaveAddress s t [] := by
  refine ⟨?_, hfailures, by simp⟩
  rw [Emits, WorkerState.interactions, hmoments, List.append_nil]
  rfl

def Operates (slaveAddress : ℕ) (s t : WorkerState E F) : Prop :=
  ∃ ops, Operated slaveAddress s t ops

instance : Std.Refl (Operates (E := E) (F := F) slaveAddress) := ⟨fun s => ⟨[], .refl s⟩⟩

instance : IsTrans (WorkerState E F) (Operates slaveAddress) where
  trans := by
    rintro s m t ⟨ops, hops⟩ ⟨others, hothers⟩
    exact ⟨ops ++ others, hops.trans hothers⟩

variable (slaveAddress) in
theorem Tried.operated {note : Except ClientFailure α → Interaction} {r : Except AdapterError α}
    (h : Tried note s t r) (hnote : ∀ answer, (note answer).Operates slaveAddress) :
    ∃ ops, Operated slaveAddress s t ops ∧ ops ≠ [] ∧
      (∀ value, r = .ok value → note (.ok value) ∈ ops) ∧
      ∀ message, r = .error (.valueError message) → note (.error (.valueError message)) ∈ ops := by
  cases h with
  | @ok failures value h =>
      refine ⟨_, h.operated ?_, by simp, by simp, by simp⟩
      intro n hn
      simp only [List.mem_append, List.mem_map, List.mem_singleton] at hn
      rcases hn with ⟨failure, -, rfl⟩ | rfl
      · exact hnote _
      · exact hnote _
  | @error failures last e h he =>
      refine ⟨_, h.operated ?_, by simp, by simp, ?_⟩
      · intro n hn
        obtain ⟨failure, -, rfl⟩ := List.mem_map.mp hn
        exact hnote _
      · rintro message ⟨⟩
        cases last with
        | valueError found =>
            cases he
            simp
        | timeout => rcases he with he | he <;> cases he
        | transport error => rcases he with he | he <;> cases he
        | other => cases he

variable (w : G301EntranceWorker F) (env : G301Environment E)

theorem read_tried {address count : ℕ} {r : Except AdapterError (List ℤ)}
    (h : Ends (withRetry w env (clientRead env slaveAddress address count)) s r t) :
    Tried (.read slaveAddress address count) s t r :=
  withRetry_tried w env (fun _ _ _ hop => interact_ends hop) h

theorem Tried.not_planning {note : Except ClientFailure α → Interaction} {message : String}
    (h : Tried note s t (.error (.planning message))) : False := by
  cases h with
  | @error failures last e h he =>
      cases last with
      | timeout => rcases he with he | he <;> cases he
      | transport error => rcases he with he | he <;> cases he
      | valueError found => cases he
      | other => cases he

theorem readOne_operated {address : ℕ} {r : Except AdapterError ℤ}
    (h : Ends (readOne w env slaveAddress address) s r t) :
    ∃ ops, Operated slaveAddress s t ops ∧ ops ≠ [] ∧
      (∀ value, r = .ok value → .read slaveAddress address 1 (.ok [value]) ∈ ops) ∧
      ∀ e, r = .error e → e.Refuses →
        ∃ message, .read slaveAddress address 1 (.error (.valueError message)) ∈ ops := by
  unfold readOne at h
  rcases ends_bind.mp h with ⟨values, m, hread, hrest⟩ | ⟨e, hread, rfl⟩
  · obtain ⟨ops, hops, hne, hvalues, -⟩ :=
      (read_tried w env hread).operated slaveAddress fun _ => rfl
    split at hrest
    · obtain ⟨rfl, rfl⟩ := ends_pure.mp hrest
      refine ⟨ops, hops, hne, ?_, by simp⟩
      rintro _ ⟨⟩
      exact hvalues _ rfl
    · obtain ⟨rfl, rfl⟩ := ends_throw.mp hrest
      refine ⟨ops, hops, hne, by simp, ?_⟩
      rintro _ ⟨⟩ ⟨⟩
  · have htried := read_tried w env hread
    obtain ⟨ops, hops, hne, -, hvalue⟩ := htried.operated slaveAddress fun _ => rfl
    refine ⟨ops, hops, hne, by simp, ?_⟩
    rintro _ ⟨⟩ hrefuses
    cases hrefuses with
    | planning message => exact htried.not_planning.elim
    | valueError message => exact ⟨message, hvalue message rfl⟩

structure DevicePermits (intent : DesiredRoomIntent) (slaveAddress : ℕ)
    (answers : List Interaction) : Prop where
  readable : ∀ address count message,
    address = G301Register.capabilities.address ∨ address = G301Register.modeLimitation.address →
      Interaction.read slaveAddress address count (.error (.valueError message)) ∉ answers
  admits : ∀ capabilities mode upper lower,
    .read slaveAddress G301Register.capabilities.address 1 (.ok [capabilities]) ∈ answers →
    .read slaveAddress G301Register.modeLimitation.address 3 (.ok [mode, upper, lower]) ∈ answers →
      ∃ profile plan, buildDeviceProfile capabilities mode upper lower = .ok profile ∧
        planRoomIntent intent slaveAddress (some profile) = .ok plan

variable (intent) in
theorem readDeviceProfile_operated {r : Except AdapterError G301DeviceProfile}
    (h : Ends (readDeviceProfile w env slaveAddress) s r t) :
    ∃ ops, Operated slaveAddress s t ops ∧ ops ≠ [] ∧
      (∀ profile, r = .ok profile → DevicePermits intent slaveAddress ops →
        ∃ plan, planRoomIntent intent slaveAddress (some profile) = .ok plan) ∧
      ∀ e, r = .error e → e.Refuses → ¬ DevicePermits intent slaveAddress ops := by
  unfold readDeviceProfile at h
  rcases ends_bind.mp h with ⟨capabilities, m, hone, hrest⟩ | ⟨e, hone, rfl⟩
  · obtain ⟨ops, hops, hne, hcapabilities, -⟩ := readOne_operated w env hone
    rcases ends_bind.mp hrest with ⟨limits, n, hread, hrest⟩ | ⟨e, hread, rfl⟩
    · obtain ⟨more, hmore, -, hlimits, -⟩ :=
        (read_tried w env hread).operated slaveAddress fun _ => rfl
      have hboth := hops.trans hmore
      have hnonempty : ops ++ more ≠ [] := by simp [hne]
      split at hrest
      · next _ mode upper lower =>
          have hadmits : DevicePermits intent slaveAddress (ops ++ more) →
              ∃ profile plan, buildDeviceProfile capabilities mode upper lower = .ok profile ∧
                planRoomIntent intent slaveAddress (some profile) = .ok plan := fun hpermits =>
            hpermits.admits capabilities mode upper lower
              (List.mem_append_left _ (hcapabilities capabilities rfl))
              (List.mem_append_right _ (hlimits _ rfl))
          split at hrest
          · next profile hbuilt =>
              obtain ⟨rfl, rfl⟩ := ends_pure.mp hrest
              refine ⟨_, hboth, hnonempty, ?_, by simp⟩
              rintro _ ⟨⟩ hpermits
              obtain ⟨found, plan, hfound, hplan⟩ := hadmits hpermits
              cases hbuilt.symm.trans hfound
              exact ⟨plan, hplan⟩
          · next e hbuilt =>
              obtain ⟨rfl, rfl⟩ := ends_throw.mp hrest
              refine ⟨_, hboth, hnonempty, by simp, ?_⟩
              rintro _ ⟨⟩ - hpermits
              obtain ⟨found, plan, hfound, -⟩ := hadmits hpermits
              cases hbuilt.symm.trans hfound
      · obtain ⟨rfl, rfl⟩ := ends_throw.mp hrest
        refine ⟨_, hboth, hnonempty, by simp, ?_⟩
        rintro _ ⟨⟩ ⟨⟩
    · have htried := read_tried w env hread
      obtain ⟨more, hmore, -, -, hvalue⟩ := htried.operated slaveAddress fun _ => rfl
      refine ⟨ops ++ more, hops.trans hmore, by simp [hne], by simp, ?_⟩
      rintro _ ⟨⟩ hrefuses hpermits
      cases hrefuses with
      | planning message => exact htried.not_planning
      | valueError message =>
          exact hpermits.readable _ _ message (.inr rfl) (List.mem_append_right _ (hvalue message rfl))
  · obtain ⟨ops, hops, hne, -, hrefused⟩ := readOne_operated w env hone
    refine ⟨ops, hops, hne, by simp, ?_⟩
    rintro _ ⟨⟩ hrefuses hpermits
    obtain ⟨message, hmessage⟩ := hrefused e rfl hrefuses
    exact hpermits.readable _ _ message (.inl rfl) hmessage

theorem Emits.unique (h : Emits s t ops) (h' : Emits s t others) : ops = others :=
  List.append_cancel_left (h.symm.trans h')

theorem Silent.unwritten (h : Silent s t) (hops : Emits s t ops) : Unwritten ops := by
  obtain ⟨notes, hnotes, hquiet⟩ := h
  exact hops.unique hnotes ▸ hquiet

theorem makePlan_operated {r : Except AdapterError G301Plan}
    (h : Ends (makePlan w env intent slaveAddress) s r t) :
    ∃ ops, Operated slaveAddress s t ops ∧
      (∀ error, r = .error (.transport error) → ops ≠ []) ∧
      ∀ e, r = .error e → e.Refuses → 1 ≤ slaveAddress ∧ slaveAddress ≤ 255 →
        ¬ DevicePermits intent slaveAddress ops := by
  unfold makePlan at h
  dsimp only at h
  split at h
  · rcases ends_bind.mp h with ⟨profile, m, hread, hrest⟩ | ⟨e, hread, rfl⟩
    · obtain ⟨ops, hops, hne, hpermits, -⟩ := readDeviceProfile_operated intent w env hread
      rw [pure_bind] at hrest
      split at hrest
      · obtain ⟨rfl, rfl⟩ := ends_pure.mp hrest
        exact ⟨ops, hops, by simp, by simp⟩
      · next e hplan =>
          obtain ⟨rfl, rfl⟩ := ends_throw.mp hrest
          refine ⟨ops, hops, fun _ _ => hne, ?_⟩
          rintro _ ⟨⟩ - - hpermitted
          obtain ⟨plan, hok⟩ := hpermits profile rfl hpermitted
          cases hplan.symm.trans hok
    · obtain ⟨ops, hops, hne, -, hrefused⟩ :=
        readDeviceProfile_operated intent w env hread
      refine ⟨ops, hops, fun _ _ => hne, ?_⟩
      rintro _ ⟨⟩ hrefuses -
      exact hrefused e rfl hrefuses
  · next hoff =>
      rw [pure_bind] at h
      split at h
      · obtain ⟨rfl, rfl⟩ := ends_pure.mp h
        exact ⟨[], .refl _, by simp, by simp⟩
      · next e hplan =>
          obtain ⟨rfl, rfl⟩ := ends_throw.mp h
          have hrefuses := planRoomIntent_refuses hplan
          refine ⟨[], .refl _, ?_, ?_⟩
          · rintro error ⟨⟩
            cases hrefuses
          · intro _ _ _ hrange
            cases hplan.symm.trans (planRoomIntent_off hrange hoff none)

theorem sleepUnlessZero_operates (seconds : ℚ) :
    Guarantees (Operates (F := F) slaveAddress) (sleepUnlessZero env seconds) :=
  fun _ _ _ h => ⟨[], (sleepUnlessZero_ends env h).1.operated (by simp)⟩

theorem readPass_operates (expectations : List ReadbackExpectation) (observed : Observed) :
    Guarantees (Operates (F := F) slaveAddress)
      (readPass w env slaveAddress expectations observed) := by
  induction expectations generalizing observed with
  | nil => exact .pure _
  | cons expectation rest ih =>
      refine .bind (fun s r t h => ?_) fun value => ih _
      obtain ⟨ops, hops, -⟩ := readOne_operated w env h
      exact ⟨ops, hops⟩

theorem readback_operates {plan : G301Plan} (hplan : plan.slaveAddress = slaveAddress) :
    Guarantees (Operates (F := F) slaveAddress) (readback w env plan) := by
  unfold readback
  generalize w.settings.readbackAttempts = remaining
  generalize (fun _ => none : Observed) = observed
  induction remaining generalizing observed with
  | zero => exact .pure _
  | succ remaining ih =>
      refine .bind (hplan ▸ readPass_operates w env _ _) fun found => ?_
      split
      · exact .pure _
      · dsimp only
        split
        · exact ih _
        · exact .bind (sleepUnlessZero_operates env _) fun _ => ih _

section Records

variable {β : Type} {roomKey : String} {r : Except AdapterError β}

variable (slaveAddress) in
theorem modifyRoom_operated {f : RoomIntentState F → RoomIntentState F}
    {g : Unit → WorkerM E F β} (h : Ends (modifyRoom roomKey f >>= g) s r t) :
    ∃ m, Operated slaveAddress s m [] ∧ Ends (g ()) m r t ∧
      m.intentStates = Function.update s.intentStates roomKey ((s.intentStates roomKey).map f) := by
  unfold modifyRoom at h
  rw [ends_modify_bind] at h
  refine ⟨_, ?_, h, rfl⟩
  exact .of_moments rfl rfl

theorem readClock_reads {g : Instant → WorkerM E F β} (h : Ends (readClock env >>= g) s r t) :
    ∃ reading m, Interacts s m [.clock reading] ∧ Ends (g reading) m r t := by
  rcases ends_bind.mp h with ⟨reading, m, hclock, hrest⟩ | ⟨e, hclock, -⟩
  · obtain ⟨_, hreading, hm⟩ := interact_ends hclock
    cases hreading
    exact ⟨reading, m, hm, hrest⟩
  · obtain ⟨_, hreading, -⟩ := interact_ends hclock
    cases hreading

theorem recordSlaveFailure_records {g : Unit → WorkerM E F β}
    (h : Ends (recordSlaveFailure w env slaveAddress >>= g) s r t) :
    ∃ reading m, Emits s m [.clock reading] ∧ Ends (g ()) m r t ∧
      m.slaveFailures = Function.update s.slaveFailures slaveAddress
        (some ⟨(slaveFailureState s slaveAddress).consecutiveFailures + 1,
          some (reading + slaveRetryDelay w
            ((slaveFailureState s slaveAddress).consecutiveFailures + 1) * secondMicros)⟩) := by
  unfold recordSlaveFailure at h
  rw [bind_assoc, ends_get_bind, bind_assoc] at h
  obtain ⟨reading, m, hclock, hrest⟩ := readClock_reads env h
  rw [ends_modify_bind] at hrest
  refine ⟨reading, _, ?_, hrest, ?_⟩
  · exact hclock.emits
  · change Function.update m.slaveFailures slaveAddress _ = _
    rw [hclock.slaveFailures]

variable (slaveAddress) in
theorem markTerminal_operated {result : IntentExecutionResult} {applied : Bool}
    {r : Except AdapterError IntentExecutionResult}
    (h : Ends (markTerminal roomKey result applied) s r t) :
    r = .ok result ∧ Operated slaveAddress s t [] := by
  unfold markTerminal at h
  obtain ⟨m, hm, hrest, -⟩ := modifyRoom_operated slaveAddress h
  obtain ⟨rfl, rfl⟩ := ends_pure.mp hrest
  exact ⟨rfl, hm⟩

end Records

theorem writeAll_operated {roomKey : String} {writes : List RegisterWrite}
    {r : Except AdapterError Unit} (h : Ends (writeAll w env slaveAddress roomKey writes) s r t) :
    ∃ ops, Operated slaveAddress s t ops ∧ ∀ e, r = .error e → ops ≠ [] := by
  induction writes generalizing s with
  | nil =>
      obtain ⟨rfl, rfl⟩ := ends_pure.mp h
      exact ⟨[], .refl _, by simp⟩
  | cons write rest ih =>
      rw [writeAll] at h
      rcases ends_bind.mp h with ⟨_, m, hone, hrest⟩ | ⟨e, hone, rfl⟩
      · have htried := withRetry_tried w env (fun _ _ _ hop => interact_ends hop) hone
        obtain ⟨ops, hops, hne, -⟩ := htried.operated slaveAddress fun _ => rfl
        obtain ⟨n, hkept, hrest, -⟩ := modifyRoom_operated slaveAddress hrest
        obtain ⟨more, hmore, -⟩ := ih hrest
        exact ⟨_, hops.trans (hkept.trans hmore), by simp [hne]⟩
      · have htried := withRetry_tried w env (fun _ _ _ hop => interact_ends hop) hone
        obtain ⟨ops, hops, hne, -⟩ := htried.operated slaveAddress fun _ => rfl
        exact ⟨ops, hops, fun _ _ => hne⟩

end ClockOrchestrator
