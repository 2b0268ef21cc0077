import ClockOrchestrator.G301Adapter.SlaveCoupling

namespace ClockOrchestrator

open Python Procedure

variable {E F V α : Type} {env : G301Environment E} {view : ℕ → E → V} {slaveAddress : ℕ}
  {roomKey : String} {intent : DesiredRoomIntent}

def KeepsAddress (slaveAddress : ℕ) (f : RoomIntentState F → RoomIntentState F) : Prop :=
  ∀ st, Addressed slaveAddress (some st) → Addressed slaveAddress (some (f st))

theorem modifyRoom_keeps {f : RoomIntentState F → RoomIntentState F}
    (hf : KeepsAddress slaveAddress f) :
    Keeps view roomKey slaveAddress (modifyRoom (E := E) roomKey f) := by
  refine .modify fun s s' hs => ⟨⟨?_, hs.failure, hs.view, hs.readings, ?_⟩, ?_⟩
  · simp only [Function.update_self, hs.room]
  · simp only [Function.update_self]
    intro st a plan hst ha hplan
    obtain ⟨old, hold, rfl⟩ := Option.map_eq_some_iff.mp hst
    exact hf old (hold ▸ hs.addressed) _ a plan rfl ha hplan
  · exact ⟨fun other hne => Function.update_of_ne hne _ _, fun _ _ => rfl, fun _ _ => rfl, [],
      .refl s, by simp⟩

theorem keepsAddress_of_attempt {f : IntentAttempt F → IntentAttempt F}
    (hf : ∀ a plan, (f a).plan = some plan → a.plan = some plan ∨ plan.slaveAddress = slaveAddress) :
    KeepsAddress slaveAddress
      fun st : RoomIntentState F => { st with currentAttempt := st.currentAttempt.map f } := by
  rintro st hst _ a plan ⟨⟩ ha hplan
  obtain ⟨old, hold, rfl⟩ := Option.map_eq_some_iff.mp ha
  rcases hf old plan hplan with hsame | hown
  · exact hst st old plan rfl hold hsame
  · exact hown

theorem modifyAttempt_keeps {f : IntentAttempt F → IntentAttempt F}
    (hf : ∀ a plan, (f a).plan = some plan → a.plan = some plan ∨ plan.slaveAddress = slaveAddress) :
    Keeps view roomKey slaveAddress (modifyAttempt (E := E) roomKey f) :=
  modifyRoom_keeps (keepsAddress_of_attempt hf)

theorem keepsAddress_markTerminal (result : IntentExecutionResult) (applied : Bool) :
    KeepsAddress slaveAddress fun st : RoomIntentState F => st.markTerminal result applied := by
  rintro st hst _ a plan ⟨⟩ ha hplan
  cases hcurrent : st.currentAttempt with
  | none =>
      simp only [RoomIntentState.markTerminal, hcurrent] at ha
      cases ha
  | some old =>
      simp only [RoomIntentState.markTerminal, hcurrent, Option.some.injEq] at ha
      subst ha
      exact hst st old plan rfl hcurrent hplan

theorem markTerminal_keeps (result : IntentExecutionResult) (applied : Bool) :
    Keeps view roomKey slaveAddress (markTerminal (E := E) (F := F) roomKey result applied) :=
  (modifyRoom_keeps (keepsAddress_markTerminal result applied)).then (.pure trivial)

theorem currentAttempt_keeps :
    Lockstep (slaveCoupling F view roomKey slaveAddress)
      (fun attempt => ∀ a plan, attempt = some a → a.plan = some plan →
        plan.slaveAddress = slaveAddress) (currentAttempt (E := E) roomKey) := by
  refine .get_bind (fun s s' hs => ?_) fun s hs => .pure fun a plan ha hplan => ?_
  · rw [hs.room]
  · obtain ⟨st, hst, ha⟩ := Option.bind_eq_some_iff.mp ha
    exact hs.addressed st a plan hst ha hplan

theorem recordSlaveSuccess_keeps :
    Keeps view roomKey slaveAddress (recordSlaveSuccess (E := E) (F := F) slaveAddress) := by
  refine .modify fun s s' hs => ⟨⟨hs.room, ?_, hs.view, hs.readings, hs.addressed⟩, ?_⟩
  · simp only [Function.update_self]
  · exact ⟨fun _ _ => rfl, fun other hne => Function.update_of_ne hne _ _, fun _ _ => rfl, [],
      .refl s, by simp⟩

section Calls

variable (hlocal : SlaveLocal env view) (w : G301EntranceWorker F)
include hlocal

theorem recordSlaveFailure_keeps :
    Keeps view roomKey slaveAddress (recordSlaveFailure w env slaveAddress) := by
  refine .get_bind (fun s s' hs => ?_) fun s _ => .bind (readClock_keeps hlocal) fun reading _ => ?_
  · simp only [slaveFailureState, hs.failure]
  · refine .modify fun s s' hs => ⟨⟨hs.room, ?_, hs.view, hs.readings, hs.addressed⟩, ?_⟩
    · simp only [Function.update_self]
    · exact ⟨fun _ _ => rfl, fun other hne => Function.update_of_ne hne _ _, fun _ _ => rfl, [],
        .refl s, by simp⟩

theorem verifyAttempt_keeps (terminalOnMismatch : Bool) :
    Keeps view intent.roomKey slaveAddress (verifyAttempt w env intent terminalOnMismatch) := by
  have hmarked : ∀ result applied, Keeps view intent.roomKey slaveAddress
      (markTerminal (E := E) (F := F) intent.roomKey result applied >>=
        fun result => pure (some result)) :=
    fun result applied => .bind (markTerminal_keeps result applied) fun _ _ => .pure trivial
  refine .bind currentAttempt_keeps fun attempt hattempt => ?_
  split
  · exact .throw _
  · next a =>
      split
      · exact .throw _
      · next plan hplan =>
          refine .bind (readback_keeps hlocal w (hattempt a plan rfl hplan)).trying fun answer _ => ?_
          split
          · dsimp only
            split
            · exact hmarked _ _
            · exact .pure trivial
          · exact .throw _
          · dsimp only
            split
            · exact .pure trivial
            · exact hmarked _ _

theorem writeAll_keeps (writes : List RegisterWrite) :
    Keeps view roomKey slaveAddress (writeAll w env slaveAddress roomKey writes) := by
  induction writes with
  | nil => exact .pure trivial
  | cons write rest ih =>
      exact (writeOne_keeps hlocal w write).then
        ((modifyAttempt_keeps (by exact fun a plan hplan => .inl hplan)).then ih)

theorem writeFailed_keeps (error : G301TransportError) :
    Keeps view intent.roomKey slaveAddress (writeFailed w env intent slaveAddress error) := by
  refine .bind currentAttempt_keeps fun attempt _ => ?_
  dsimp only
  split
  · exact markTerminal_keeps _ _
  · refine (modifyAttempt_keeps (by exact fun a plan hplan => .inl hplan)).then ?_
    exact (recordSlaveFailure_keeps hlocal w).then (.pure trivial)

theorem writeAndVerify_keeps {plan : G301Plan} (hplan : plan.slaveAddress = slaveAddress) :
    Keeps view intent.roomKey slaveAddress (writeAndVerify w env intent slaveAddress plan) := by
  refine (modifyAttempt_keeps ?_).then (.bind (writeAll_keeps hlocal w _).trying fun answer _ => ?_)
  · rintro a _ ⟨⟩
    exact .inr hplan
  · split
    · exact writeFailed_keeps hlocal w _
    · exact .throw _
    · refine (modifyAttempt_keeps (by exact fun a plan hplan => .inl hplan)).then ?_
      refine .bind (verifyAttempt_keeps hlocal w true) fun verified _ => ?_
      split
      · exact .throw _
      · split
        · exact recordSlaveSuccess_keeps.then (.pure trivial)
        · split
          · exact (recordSlaveFailure_keeps hlocal w).then (.pure trivial)
          · exact .pure trivial

theorem makePlan_keeps :
    Lockstep (slaveCoupling F view roomKey slaveAddress)
      (fun plan => plan.slaveAddress = slaveAddress) (makePlan w env intent slaveAddress) := by
  unfold makePlan
  dsimp only
  split
  · refine .bind (readDeviceProfile_keeps hlocal w) fun profile _ => ?_
    rw [pure_bind]
    split
    · next hplan => exact .pure (PlanOf.slaveAddress_eq ⟨_, hplan⟩)
    · exact .throw _
  · rw [pure_bind]
    split
    · next hplan => exact .pure (PlanOf.slaveAddress_eq ⟨_, hplan⟩)
    · exact .throw _

theorem planFailed_keeps (e : AdapterError) :
    Keeps view intent.roomKey slaveAddress (planFailed w env intent slaveAddress e) := by
  unfold planFailed
  split
  · exact markTerminal_keeps _ _
  · exact markTerminal_keeps _ _
  · split
    · exact markTerminal_keeps _ _
    · exact (recordSlaveFailure_keeps hlocal w).then (.pure trivial)
  · exact .throw _

theorem executeIntent_keeps :
    Keeps view intent.roomKey slaveAddress (executeIntent w env intent slaveAddress) := by
  refine (modifyAttempt_keeps ?_).then (.bind (readClock_keeps hlocal) fun reading _ => ?_)
  · rintro a _ ⟨⟩
  · dsimp only
    split
    · exact markTerminal_keeps _ _
    · split
      · exact .pure trivial
      · refine .get_bind (fun s s' hs => ?_) fun s _ => ?_
        · simp only [cooldown, slaveFailureState, hs.failure]
        · split
          · exact .pure trivial
          · refine .bind (makePlan_keeps hlocal w).trying fun answer hanswer => ?_
            split
            · exact planFailed_keeps hlocal w _
            · next plan => exact writeAndVerify_keeps hlocal w (hanswer plan rfl)

theorem resumeVerification_keeps :
    Keeps view intent.roomKey slaveAddress (resumeVerification w env intent slaveAddress) := by
  have hagain : Keeps view intent.roomKey slaveAddress (do
      modifyAttempt intent.roomKey ({ · with phase := .retryable })
      executeIntent w env intent slaveAddress) :=
    (modifyAttempt_keeps (by exact fun a plan hplan => .inl hplan)).then (executeIntent_keeps hlocal w)
  refine .bind (readClock_keeps hlocal) fun reading _ => ?_
  refine .get_bind (fun s s' hs => ?_) fun s _ => ?_
  · simp only [cooldown, slaveFailureState, hs.failure]
  · split
    · exact .pure trivial
    · refine .bind currentAttempt_keeps fun attempt _ => ?_
      split
      · exact hagain
      · refine .bind (verifyAttempt_keeps hlocal w false) fun verified _ => ?_
        split
        · dsimp only
          split
          · exact recordSlaveSuccess_keeps.then (.pure trivial)
          · split
            · exact (recordSlaveFailure_keeps hlocal w).then (.pure trivial)
            · exact .pure trivial
        · exact hagain

theorem executeCurrent_keeps :
    Keeps view intent.roomKey slaveAddress (executeCurrent w env intent slaveAddress) := by
  refine .bind currentAttempt_keeps fun attempt _ => ?_
  split
  · exact .throw _
  · exact executeIntent_keeps hlocal w

variable [DecidableEq F]

theorem applySeenIntent_keeps (state : RoomIntentState F) :
    Keeps view intent.roomKey slaveAddress (applySeenIntent w env intent slaveAddress state) := by
  unfold applySeenIntent
  split
  · exact .throw _
  · split
    · exact .throw _
    · split
      · exact .pure trivial
      · split
        · split
          · exact .throw _
          · exact .pure trivial
        · exact resumeVerification_keeps hlocal w
        · exact resumeVerification_keeps hlocal w
        · exact executeCurrent_keeps hlocal w

theorem applyIntent_keeps (hslave : w.roomSlaveAddresses.lookup intent.roomKey = some slaveAddress) :
    Keeps view intent.roomKey slaveAddress (applyIntent w env intent) := by
  have hregister : Keeps view intent.roomKey slaveAddress (do
      modifyRoom intent.roomKey (·.register intent.intentVersion (intentFingerprint w intent))
      executeCurrent w env intent slaveAddress) := by
    refine (modifyRoom_keeps ?_).then (executeCurrent_keeps hlocal w)
    rintro st - _ a plan ⟨⟩ ⟨⟩ ⟨⟩
  unfold applyIntent
  rw [hslave]
  dsimp only
  refine Lockstep.then (.modify fun s s' hs => ⟨⟨?_, hs.failure, hs.view, hs.readings, ?_⟩, ?_⟩)
    (.get_bind (fun s s' hs => ?_) fun s _ => ?_)
  · simp only [Function.update_self, hs.room]
  · simp only [Function.update_self]
    rintro _ a plan ⟨⟩ ha hplan
    cases hst : s.intentStates intent.roomKey with
    | none =>
        rw [hst] at ha
        cases ha
    | some st =>
        rw [hst] at ha
        exact hs.addressed st a plan hst ha hplan
  · exact ⟨fun other hne => Function.update_of_ne hne _ _, fun _ _ => rfl, fun _ _ => rfl, [],
      .refl s, by simp⟩
  · simp only [hs.room]
  · split
    · split
      · exact .pure trivial
      · split
        · exact hregister
        · exact applySeenIntent_keeps hlocal w _
    · exact hregister

end Calls

end ClockOrchestrator
