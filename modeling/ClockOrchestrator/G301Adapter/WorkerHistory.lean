import ClockOrchestrator.G301Adapter.AttemptEvidence
import ClockOrchestrator.G301Adapter.WorkerCalls

namespace ClockOrchestrator

open Python Procedure Emission

theorem WorkerSettings.default_error : ({} : WorkerSettings).error = none := by decide +kernel

structure CallRecord (E F : Type) where
  intent : DesiredRoomIntent
  before : WorkerState E F
  result : Except AdapterError IntentExecutionResult
  after : WorkerState E F

structure WorkerHistory (E F : Type) where
  state : WorkerState E F
  calls : List (CallRecord E F)

variable {E F : Type}

def WorkerState.initial (F : Type) (e : E) : WorkerState E F := ⟨e, fun _ => none, fun _ => none, []⟩

def WorkerState.atRest (s : WorkerState E F) : WorkerState E F := { s with moments := [] }

@[simp] theorem atRest_room (s : WorkerState E F) (roomKey : String) :
    s.atRest.room roomKey = s.room roomKey := rfl

namespace CallRecord

def interactions (c : CallRecord E F) : List Interaction := c.after.moments.map (·.interaction)

def roomBefore (c : CallRecord E F) : RoomIntentState F := c.before.room c.intent.roomKey

def roomAfter (c : CallRecord E F) : RoomIntentState F := c.after.room c.intent.roomKey

def SameVersion (c d : CallRecord E F) : Prop :=
  c.intent.roomKey = d.intent.roomKey ∧ c.intent.intentVersion = d.intent.intentVersion

def Applied (c : CallRecord E F) : Prop :=
  ∃ result, c.result = .ok result ∧ result.status = .applied

end CallRecord

variable (w : G301EntranceWorker F) (env : G301Environment E) [DecidableEq F]

def callRecord (s : WorkerState E F) (intent : DesiredRoomIntent) : CallRecord E F where
  intent := intent
  before := s.atRest
  result := (outcome (applyIntent w env intent) s.atRest).1
  after := (outcome (applyIntent w env intent) s.atRest).2

def WorkerHistory.call (h : WorkerHistory E F) (intent : DesiredRoomIntent) : WorkerHistory E F :=
  ⟨(callRecord w env h.state intent).after, h.calls ++ [callRecord w env h.state intent]⟩

def history (e : E) (intents : List DesiredRoomIntent) : WorkerHistory E F :=
  intents.foldl (WorkerHistory.call w env) ⟨.initial F e, []⟩

variable {w env} {e : E} {intents : List DesiredRoomIntent} {intent : DesiredRoomIntent}
  {h : WorkerHistory E F}

theorem history_concat :
    history w env e (intents ++ [intent]) = (history w env e intents).call w env intent := by
  unfold history
  rw [List.foldl_append]
  rfl

theorem history_induction {I : WorkerHistory E F → Prop} (hstart : I ⟨.initial F e, []⟩)
    (hcall : ∀ intents intent, I (history w env e intents) →
      I ((history w env e intents).call w env intent)) : I (history w env e intents) := by
  induction intents using List.reverseRecOn with
  | nil => exact hstart
  | append_singleton intents intent ih =>
      rw [history_concat]
      exact hcall intents intent ih

theorem append_singleton_split {α : Type*} {l before after : List α} {x last : α}
    (h : l ++ [last] = before ++ x :: after) :
    (after = [] ∧ l = before ∧ last = x) ∨
      ∃ between, after = between ++ [last] ∧ l = before ++ x :: between := by
  rcases List.eq_nil_or_concat after with rfl | ⟨between, other, rfl⟩
  · obtain ⟨hbefore, hlast⟩ := List.append_inj' h rfl
    exact .inl ⟨rfl, hbefore, (List.cons.inj hlast).1⟩
  · rw [List.concat_eq_append, ← List.cons_append, ← List.append_assoc] at h
    obtain ⟨hbetween, hlast⟩ := List.append_inj' h rfl
    rw [List.concat_eq_append, (List.cons.inj hlast).1]
    exact .inr ⟨between, rfl, hbetween⟩

theorem history_split {before after : List (CallRecord E F)} {c : CallRecord E F}
    (hcalls : (history w env e intents).calls = before ++ c :: after) :
    ∃ earlier, (history w env e earlier).calls = before ∧
      c = callRecord w env (history w env e earlier).state c.intent := by
  induction intents using List.reverseRecOn generalizing after with
  | nil => simp [history] at hcalls
  | append_singleton intents intent ih =>
      rw [history_concat] at hcalls
      rcases append_singleton_split hcalls with ⟨-, hbefore, rfl⟩ | ⟨between, -, hearlier⟩
      · exact ⟨intents, hbefore, rfl⟩
      · exact ih hearlier

def WorkerHistory.received (h : WorkerHistory E F) (roomKey : String)
    (source : DesiredRoomIntent) : Prop :=
  source.roomKey = roomKey ∧ ∃ c ∈ h.calls, c.intent = source

variable (w) in
structure Consistent (h : WorkerHistory E F) : Prop where
  unknown : ∀ roomKey, w.roomSlaveAddresses.lookup roomKey = none →
    h.state.intentStates roomKey = none
  sound : ∀ roomKey slaveAddress, w.roomSlaveAddresses.lookup roomKey = some slaveAddress →
    (h.state.room roomKey).Sound w slaveAddress (h.received roomKey)

variable (env) in
theorem Consistent.effect (hc : Consistent w h) (intent : DesiredRoomIntent) :
    CallEffect w intent h.state.atRest (callRecord w env h.state intent).after
      (callRecord w env h.state intent).result :=
  applyIntent_effect w env (fun _ hslave => hc.sound _ _ hslave) (ends_outcome _ _)

theorem received_call {roomKey : String} {source : DesiredRoomIntent}
    (hsource : h.received roomKey source) : (h.call w env intent).received roomKey source := by
  obtain ⟨hroom, c, hc, hintent⟩ := hsource
  exact ⟨hroom, c, List.mem_append_left _ hc, hintent⟩

variable (env) in
theorem received_own : (h.call w env intent).received intent.roomKey intent :=
  ⟨rfl, _, List.mem_append_right _ (List.mem_singleton_self _), rfl⟩

variable (env) in
theorem Consistent.soundCall (hc : Consistent w h) (intent : DesiredRoomIntent) {slaveAddress : ℕ}
    (hslave : w.roomSlaveAddresses.lookup intent.roomKey = some slaveAddress) :
    (h.state.room intent.roomKey).Sound w slaveAddress
      ((h.call w env intent).received intent.roomKey) :=
  (hc.sound _ _ hslave).mono fun _ => received_call

variable (env) in
theorem Consistent.fits (hc : Consistent w h) {slaveAddress : ℕ} {p : Progress F}
    (hslave : w.roomSlaveAddresses.lookup intent.roomKey = some slaveAddress)
    (hopens : Opens w intent (h.state.room intent.roomKey) p) :
    Fits w slaveAddress ((h.call w env intent).received intent.roomKey) intent p :=
  hopens.fits (hc.soundCall env intent hslave)

theorem Consistent.call (hc : Consistent w h) : Consistent w (h.call w env intent) := by
  have heffect := hc.effect env intent
  refine ⟨fun roomKey hnone => ?_, fun roomKey slaveAddress hslave => ?_⟩
  · by_cases hroom : roomKey = intent.roomKey
    · subst hroom
      exact (congrArg (·.intentStates intent.roomKey) (heffect.unconfigured hnone)).trans
        (hc.unknown _ hnone)
    · exact (heffect.elsewhere hroom).trans (hc.unknown _ hnone)
  · by_cases hroom : roomKey = intent.roomKey
    · subst hroom
      rcases heffect.cases with ⟨hsame, -⟩ | ⟨_, p, q, hslave', hopens, htakes, -⟩
      · exact hsame.symm ▸ (hc.sound _ _ hslave).mono fun _ => received_call
      · cases hslave.symm.trans hslave'
        obtain ⟨labels, hpath, -⟩ := htakes.path
        have hq := path_fits (received_own env) hpath (hc.fits env hslave hopens)
        exact htakes.holds.eq_room.symm ▸ hq.sound
    · have hsame : (h.call w env intent).state.room roomKey = h.state.room roomKey :=
        heffect.room_elsewhere hroom
      exact hsame.symm ▸ (hc.sound _ _ hslave).mono fun _ => received_call

theorem history_consistent : Consistent w (history w env e intents) := by
  refine history_induction ⟨fun _ _ => rfl, fun _ _ _ => ?_⟩ fun _ _ ih => ih.call
  exact RoomIntentState.Sound.empty

theorem history_rule {I : WorkerHistory E F → Prop} (hstart : I ⟨.initial F e, []⟩)
    (hcall : ∀ intents intent, Consistent w (history w env e intents) →
      I (history w env e intents) → I ((history w env e intents).call w env intent)) :
    I (history w env e intents) :=
  history_induction hstart fun intents intent => hcall intents intent history_consistent

theorem history_effect {before after : List (CallRecord E F)} {c : CallRecord E F}
    (hcalls : (history w env e intents).calls = before ++ c :: after) :
    ∃ earlier, (history w env e earlier).calls = before ∧
      ((history w env e earlier).call w env c.intent).calls = before ++ [c] ∧
      c.before = (history w env e earlier).state.atRest ∧
      CallEffect w c.intent c.before c.after c.result := by
  obtain ⟨earlier, hbefore, hc⟩ := history_split hcalls
  have hconsistent : Consistent w (history w env e earlier) := history_consistent
  have heffect := hconsistent.effect env c.intent
  rw [← hc] at heffect
  have hstart : c.before = (history w env e earlier).state.atRest := by rw [hc]; rfl
  have hnext : ((history w env e earlier).call w env c.intent).calls = before ++ [c] := by
    change (history w env e earlier).calls ++ [_] = _
    rw [← hc, hbefore]
  exact ⟨earlier, hbefore, hnext, hstart, hstart ▸ heffect⟩

variable (env) in
theorem Consistent.grows (hc : Consistent w h) (intent : DesiredRoomIntent) (roomKey : String) :
    (h.state.room roomKey).Grows ((h.call w env intent).state.room roomKey) :=
  (hc.effect env intent).grows (fun _ hslave => hc.soundCall env intent hslave) (received_own env)
    roomKey

theorem history_seen : ∀ c ∈ (history w env e intents).calls,
    (w.roomSlaveAddresses.lookup c.intent.roomKey).isSome →
      some c.intent.intentVersion ≤
        ((history w env e intents).state.room c.intent.roomKey).lastSeenVersion := by
  refine history_rule (I := fun h => ∀ c ∈ h.calls,
    (w.roomSlaveAddresses.lookup c.intent.roomKey).isSome →
      some c.intent.intentVersion ≤ (h.state.room c.intent.roomKey).lastSeenVersion)
    (by simp) fun intents intent hconsistent ih => ?_
  refine List.forall_mem_append.mpr ⟨fun c hc hslave => ?_, ?_⟩
  · exact version_le_trans (ih c hc hslave) (hconsistent.grows env intent c.intent.roomKey).seen
  · intro c hc hslave
    rw [List.mem_singleton.mp hc] at hslave ⊢
    obtain ⟨slaveAddress, hslave⟩ := Option.isSome_iff_exists.mp hslave
    exact (hconsistent.effect env intent).seen hslave (hconsistent.soundCall env intent hslave)
      (received_own env)

theorem history_grows : ∀ c ∈ (history w env e intents).calls,
    c.roomAfter.Grows ((history w env e intents).state.room c.intent.roomKey) := by
  refine history_rule (I := fun h => ∀ c ∈ h.calls,
    c.roomAfter.Grows (h.state.room c.intent.roomKey)) (by simp)
    fun intents intent hconsistent ih => ?_
  refine List.forall_mem_append.mpr ⟨fun c hc => ?_, fun c hc => ?_⟩
  · exact (ih c hc).trans (hconsistent.grows env intent c.intent.roomKey)
  · rw [List.mem_singleton.mp hc]
    exact .refl _

end ClockOrchestrator
