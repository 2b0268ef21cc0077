import ClockOrchestrator.G301Adapter.CallEndings
import ClockOrchestrator.Guarantees.NoBlindRewrite

namespace ClockOrchestrator

open Python Procedure Emission

variable {E F : Type}

def Interaction.asksProfile : Interaction → Bool
  | .read _ address _ _ => address = G301Register.capabilities.address ||
      address = G301Register.modeLimitation.address
  | _ => false

namespace CallRecord

def Commands (c : CallRecord E F) : Prop := ∃ m ∈ c.after.moments, m.interaction.isWrite = true

inductive Reexecutes (slaveAddress : ℕ) (c : CallRecord E F) :
    Instant → List Interaction → Prop
  | retried {a : IntentAttempt F} {reading : Instant} {rest : List Interaction} :
      c.roomBefore.currentAttempt = some a → a.phase = .retryable →
      c.interactions = .clock reading :: rest → Reexecutes slaveAddress c reading rest
  | resumed {a : IntentAttempt F} {plan : G301Plan} {first reading : Instant}
      {looking readback rest : List Interaction} {values : List ℤ} :
      c.roomBefore.currentAttempt = some a →
      a.phase = .writing ∨ a.phase = .verificationPending → a.plan = some plan →
      c.interactions = .clock first :: (looking ++ readback) ++ .clock reading :: rest →
      Readback slaveAddress plan.readbackExpectations readback values →
      values ≠ ReadbackExpectation.values plan.readbackExpectations →
      Reexecutes slaveAddress c reading rest

def MayRecommand (w : G301EntranceWorker F) (c : CallRecord E F) : Prop :=
  ∀ slaveAddress reading rest, w.roomSlaveAddresses.lookup c.intent.roomKey = some slaveAddress →
    c.Reexecutes slaveAddress reading rest →
    ¬ ExpiredAt w c.intent reading ∧ DevicePermits c.intent slaveAddress rest

end CallRecord

def RefusedUncommanded (calls : List (CallRecord E F)) : Prop :=
  ∀ before c after, calls = before ++ c :: after → ∀ a result,
    c.roomAfter.currentAttempt = some a → a.phase = .terminal → a.cachedResult = some result →
    result.status.Refusal → ∀ d ∈ before ++ [c],
      d.intent.roomKey = c.intent.roomKey → d.intent.intentVersion = a.version → ¬ d.Commands

variable {w : G301EntranceWorker F}

theorem CallRecord.interactions_of_emits {c : CallRecord E F} {notes : List Interaction}
    (hmoments : c.before.moments = []) (h : Emits c.before c.after notes) :
    c.interactions = notes := by
  unfold Emits WorkerState.interactions at h
  rw [hmoments] at h
  exact h

theorem CallEnding.refused {c : CallRecord E F} {result : IntentExecutionResult}
    {slaveAddress : ℕ} (h : CallEnding w c.intent c.before c.after c.result)
    (hmoments : c.before.moments = []) (hnotes : c.interactions ≠ [])
    (hslave : w.roomSlaveAddresses.lookup c.intent.roomKey = some slaveAddress)
    (hresult : c.result = .ok result) (hrefusal : result.status.Refusal) :
    Unwritten c.interactions ∧
      ((∀ seen, c.roomBefore.lastSeenVersion = some seen → seen < c.intent.intentVersion) ∨
        ∃ reading rest, c.Reexecutes slaveAddress reading rest ∧ (ExpiredAt w c.intent reading ∨
          (1 ≤ slaveAddress ∧ slaveAddress ≤ 255 →
            ¬ DevicePermits c.intent slaveAddress rest))) := by
  rw [hresult] at h
  cases h with
  | idle hsame _ _ =>
      rw [hmoments] at hsame
      simp [CallRecord.interactions, hsame] at hnotes
  | executed hslave' hopens hstage hexecution =>
      cases hslave.symm.trans hslave'
      obtain ⟨hquiet, hwhy⟩ := hexecution.refused hrefusal
      have hall := CallRecord.interactions_of_emits hmoments hexecution.emits
      refine ⟨?_, ?_⟩
      · rw [hall]
        exact List.forall_mem_cons.mpr ⟨rfl, hquiet⟩
      · cases hopens with
        | fresh hnew => exact .inl hnew
        | retry ha _ hphase => exact .inr ⟨_, _, .retried ha hphase hall, hwhy⟩
        | resume _ _ _ => cases hstage
  | resumed hslave' ha _ hphase hplan hresumption =>
      cases hslave.symm.trans hslave'
      cases hresumption with
      | waiting _ _ _ =>
          simp [ExecutionStatus.Refusal, cooldownResult, bareResult, executionResult] at hrefusal
      | verified _ _ _ _ hnot => exact absurd hrefusal (hnot _ rfl)
      | @reexecuted _ _ n first reading looking readback notes _ hclock _ _ hops hlooking hread hne
          hexecution =>
          obtain ⟨hquiet, hwhy⟩ := hexecution.refused hrefusal
          have hall : c.interactions =
              .clock first :: (looking ++ readback) ++ .clock reading :: notes :=
            CallRecord.interactions_of_emits hmoments
              ((hclock.trans hops.emits).trans hexecution.emits)
          refine ⟨?_, .inr ⟨reading, notes, .resumed ha hphase hplan hall hread hne, hwhy⟩⟩
          rw [hall]
          have hverified : Unwritten (looking ++ readback) := hlooking.append hread.not_write
          exact .append (List.forall_mem_cons.mpr ⟨rfl, hverified⟩)
            (List.forall_mem_cons.mpr ⟨rfl, hquiet⟩)

theorem CallEnding.idle_or {c : CallRecord E F}
    (h : CallEnding w c.intent c.before c.after c.result) (hmoments : c.before.moments = []) :
    c.interactions = [] ∧ c.roomAfter = c.roomBefore ∨ c.interactions ≠ [] := by
  generalize c.result = r at h
  cases h with
  | idle hsame _ hroom =>
      rw [hmoments] at hsame
      exact .inl ⟨by simp [CallRecord.interactions, hsame], hroom⟩
  | executed _ _ _ hexecution =>
      refine .inr ?_
      rw [CallRecord.interactions_of_emits hmoments hexecution.emits]
      simp
  | resumed _ _ _ _ _ hresumption =>
      refine .inr ?_
      obtain ⟨reading, notes, hemits⟩ := hresumption.emits
      rw [CallRecord.interactions_of_emits hmoments hemits]
      simp

theorem Unwritten.not_commands {c : CallRecord E F} (h : Unwritten c.interactions) :
    ¬ c.Commands := by
  rintro ⟨m, hm, hwrite⟩
  have hquiet := h _ (List.mem_map_of_mem hm)
  rw [hwrite] at hquiet
  cases hquiet

theorem DevicePermits.of_unasked {intent : DesiredRoomIntent} {slaveAddress : ℕ}
    {notes : List Interaction} (h : ∀ n ∈ notes, n.asksProfile = false) :
    DevicePermits intent slaveAddress notes where
  readable := by
    rintro address count message (rfl | rfl) hmem
    · cases h _ hmem
    · cases h _ hmem
  admits := fun _ _ _ _ hmem => nomatch h _ hmem

theorem CallRecord.Reexecutes.rest_subset {c : CallRecord E F} {slaveAddress : ℕ}
    {reading : Instant} {rest : List Interaction} (h : c.Reexecutes slaveAddress reading rest) :
    ∀ n ∈ rest, n ∈ c.interactions := by
  intro n hn
  cases h with
  | retried _ _ hall => simp [hall, hn]
  | resumed _ _ _ hall _ _ => simp [hall, hn]

variable {env : G301Environment E} {e : E}
  {intents : List DesiredRoomIntent} [DecidableEq F]

variable (env) in
theorem Consistent.ending {h : WorkerHistory E F} (hc : Consistent w h)
    (intent : DesiredRoomIntent) :
    CallEnding w intent h.state.atRest (callRecord w env h.state intent).after
      (callRecord w env h.state intent).result :=
  applyIntent_ending w env (hc.sound _) (ends_outcome _ _)

theorem history_ending {before after : List (CallRecord E F)} {c : CallRecord E F}
    (hcalls : (history w env e intents).calls = before ++ c :: after) :
    CallEnding w c.intent c.before c.after c.result := by
  obtain ⟨earlier, -, hc⟩ := history_split hcalls
  have hconsistent : Consistent w (history w env e earlier) := history_consistent
  have hending := hconsistent.ending env c.intent
  rw [← hc] at hending
  have hstart : c.before = (history w env e earlier).state.atRest := by rw [hc]; rfl
  exact hstart ▸ hending

theorem call_refused {before : List (CallRecord E F)} {c : CallRecord E F}
    (hcalls : (history w env e intents).calls = before ++ [c])
    (hmay : (∃ d ∈ before, d.SameVersion c ∧ d.Commands) → c.MayRecommand w)
    {a : IntentAttempt F} {result : IntentExecutionResult}
    (ha : c.roomAfter.currentAttempt = some a) (hterminal : a.phase = .terminal)
    (hcached : a.cachedResult = some result) (hrefusal : result.status.Refusal) :
    ¬ c.Commands ∧ (c.roomAfter = c.roomBefore ∨
      a.version = c.intent.intentVersion ∧ ∀ d ∈ before, d.SameVersion c → ¬ d.Commands) := by
  obtain ⟨earlier, hbefore, hnext, hstart, heffect⟩ := history_effect hcalls
  have hending := history_ending hcalls
  have hmoments : c.before.moments = [] := by rw [hstart]; rfl
  rcases hending.idle_or hmoments with ⟨hnone, hkept⟩ | hnotes
  · exact ⟨Unwritten.not_commands (by simp [Unwritten, hnone]), .inl hkept⟩
  rcases heffect.cases with ⟨-, hsame, -⟩ | ⟨slaveAddress, p, q, hslave, hopens, htakes, hreports⟩
  · rw [hmoments] at hsame
    simp [CallRecord.interactions, hsame] at hnotes
  have hconsistent : Consistent w (history w env e earlier) := history_consistent
  obtain ⟨labels, hpath, -⟩ := htakes.path
  rw [hstart] at hopens
  obtain ⟨-, a', ha', hmade, hshows⟩ :=
    path_fits (received_own env) hpath (hconsistent.fits env hslave hopens)
  have hafter : c.roomAfter = q.state := htakes.holds.eq_room
  rw [hafter] at ha
  cases ha.symm.trans ha'
  have hsettled : q.stage.Settled := by
    by_contra hnot
    exact hshows.open hnot hterminal
  obtain ⟨_, hresult, hcached'⟩ := hreports.settled hsettled
  rw [ha] at hcached'
  cases hcached.symm.trans hcached'
  obtain ⟨hquiet, hwhy⟩ := hending.refused hmoments hnotes hslave hresult hrefusal
  refine ⟨hquiet.not_commands, .inr ⟨hmade.version, fun d hd hsame hcommands => ?_⟩⟩
  obtain ⟨between, others, hsplit⟩ := List.append_of_mem (hbefore ▸ hd)
  obtain ⟨_, plan, hslave', hplan, -⟩ := history_answered hsplit hcommands
  rw [hsame.1] at hslave'
  cases hslave.symm.trans hslave'
  rcases hwhy with hnew | ⟨reading, rest, hreexecutes, hwhy⟩
  · have hseen := history_seen d (hbefore ▸ hd) (by rw [hsame.1, hslave]; rfl)
    rw [hsame.1] at hseen
    obtain ⟨seen, hlast, hle⟩ := some_le_iff.mp hseen
    have hlt := hnew seen (by rw [CallRecord.roomBefore, hstart]; exact hlast)
    have hversion := hsame.2
    omega
  · obtain ⟨hvalid, hpermits⟩ := hmay ⟨d, hd, hsame, hcommands⟩ _ _ _ hslave hreexecutes
    rcases hwhy with hexpired | hdenied
    · exact hvalid hexpired
    · exact hdenied hplan.range hpermits

variable (intents) in
theorem room_refused (roomKey : String) (hmay : ∀ before c after,
      (history w env e intents).calls = before ++ c :: after →
      (∃ d ∈ before, d.SameVersion c ∧ d.Commands) → c.MayRecommand w)
    {a : IntentAttempt F} {result : IntentExecutionResult}
    (ha : ((history w env e intents).state.room roomKey).currentAttempt = some a)
    (hterminal : a.phase = .terminal) (hcached : a.cachedResult = some result)
    (hrefusal : result.status.Refusal) {d : CallRecord E F}
    (hd : d ∈ (history w env e intents).calls) (hroom : d.intent.roomKey = roomKey)
    (hversion : d.intent.intentVersion = a.version) : ¬ d.Commands := by
  induction intents using List.reverseRecOn with
  | nil => cases hd
  | append_singleton intents intent ih =>
      have hconsistent : Consistent w (history w env e intents) := history_consistent
      have heffect := hconsistent.effect env intent
      have hcalls : (history w env e (intents ++ [intent])).calls =
          (history w env e intents).calls ++
            [callRecord w env (history w env e intents).state intent] := by
        rw [history_concat]
        rfl
      have hearlier : ((history w env e intents).state.room roomKey).currentAttempt = some a →
          d ∈ (history w env e intents).calls → ¬ d.Commands := by
        refine fun ha hd => ih (fun before c after hsplit => ?_) ha hd
        refine hmay before c (after ++ [callRecord w env (history w env e intents).state intent]) ?_
        rw [hcalls, hsplit, List.append_assoc, List.cons_append]
      rw [history_concat] at ha
      rw [hcalls] at hd
      by_cases hown : roomKey = intent.roomKey
      · subst hown
        obtain ⟨hquiet, hkept | ⟨hmade, hall⟩⟩ :=
          call_refused hcalls (hmay _ _ [] hcalls) ha hterminal hcached hrefusal
        · rcases List.mem_append.mp hd with hd | hd
          · refine hearlier ?_ hd
            exact (congrArg (·.currentAttempt) hkept).symm.trans ha
          · exact List.mem_singleton.mp hd ▸ hquiet
        · rcases List.mem_append.mp hd with hd | hd
          · exact hall d hd ⟨hroom, hversion.trans hmade⟩
          · exact List.mem_singleton.mp hd ▸ hquiet
      · rcases List.mem_append.mp hd with hd | hd
        · refine hearlier ?_ hd
          exact (congrArg (·.currentAttempt) (heffect.room_elsewhere hown)).symm.trans ha
        · rw [List.mem_singleton.mp hd] at hroom
          exact absurd hroom.symm hown

theorem refusals_uncommanded (w : G301EntranceWorker F) (env : G301Environment E) (e : E)
    (intents : List DesiredRoomIntent)
    (hmay : ∀ before c after, (history w env e intents).calls = before ++ c :: after →
      (∃ d ∈ before, d.SameVersion c ∧ d.Commands) → c.MayRecommand w) :
    RefusedUncommanded (history w env e intents).calls := by
  intro before c after hcalls a result ha hterminal hcached hrefusal d hd hroom hversion
  obtain ⟨earlier, hbefore, hc⟩ := history_split hcalls
  have hnow : (history w env e (earlier ++ [c.intent])).calls = before ++ [c] := by
    rw [history_concat, ← hbefore]
    exact congrArg (_ ++ [·]) hc.symm
  have hstate : (history w env e (earlier ++ [c.intent])).state = c.after := by
    rw [history_concat]
    exact (congrArg (·.after) hc).symm
  refine room_refused (earlier ++ [c.intent]) c.intent.roomKey
    (fun b k after' hsplit => hmay b k (after' ++ after) ?_) ?_ hterminal hcached hrefusal
    (hnow ▸ hd) hroom hversion
  · rw [hcalls, ← List.singleton_append, ← List.append_assoc, ← hnow, hsplit]
    simp
  · rw [hstate]
    exact ha

def demoLapsed : DesiredRoomIntent :=
  { demoSwitchOff with intentVersion := 13, expiresAt := some (.utc 1000000) }

def demoLapsedCall : CallRecord DemoUnit IntentPayload :=
  callRecord demoWorker demoBus demoRedelivery.after demoLapsed

theorem lapsed_version_is_not_commanded :
    demoLapsedCall.roomAfter.currentAttempt.any
        (·.cachedResult.any (decide <| ·.status = .expired)) = true ∧
      ¬ demoLapsedCall.Commands := by
  have hlapsed : demoLapsedCall.roomAfter.currentAttempt.any (fun a =>
      decide (a.phase = .terminal) && decide (a.version = 13) &&
        a.cachedResult.any (decide <| ·.status = .expired)) = true := by
    decide +kernel
  have hunasked : (demoFirstCall.interactions ++ demoRedelivery.interactions).all
      (!·.asksProfile) = true := by decide +kernel
  have hmay : ∀ c : CallRecord DemoUnit IntentPayload, c.intent = demoSwitchOff →
      (∀ n ∈ c.interactions, n.asksProfile = false) → c.MayRecommand demoWorker := by
    intro c hc hall slaveAddress reading rest _ hreexecutes
    refine ⟨?_, .of_unasked fun n hn => hall n (hreexecutes.rest_subset n hn)⟩
    rintro ⟨_, hexpires, -⟩
    rw [hc] at hexpires
    cases hexpires
  obtain ⟨a, ha, hfacts⟩ := (Option.any_eq_true _ _).mp hlapsed
  simp only [Bool.and_eq_true, decide_eq_true_eq] at hfacts
  obtain ⟨⟨hterminal, hversion⟩, hexpired⟩ := hfacts
  obtain ⟨result, hcached, hstatus⟩ := (Option.any_eq_true _ _).mp hexpired
  refine ⟨(Option.any_eq_true _ _).mpr ⟨a, ha, hexpired⟩, ?_⟩
  refine refusals_uncommanded demoWorker demoBus ⟨1, 1, 0⟩ [demoSwitchOff, demoSwitchOff, demoLapsed]
    ?_ [demoFirstCall, demoRedelivery] demoLapsedCall [] rfl a result ha hterminal hcached
    (.inl (of_decide_eq_true hstatus)) _ (by simp) rfl (hversion ▸ rfl)
  intro before c after hcalls hcommanded
  have hcalls : [demoFirstCall, demoRedelivery, demoLapsedCall] = before ++ c :: after := hcalls
  simp only [List.all_append, Bool.and_eq_true, List.all_eq_true, Bool.not_eq_true'] at hunasked
  rcases before with _ | ⟨_, _ | ⟨_, _ | ⟨_, before⟩⟩⟩
  · obtain ⟨d, hd, -⟩ := hcommanded
    cases hd
  · cases hcalls
    exact hmay _ rfl hunasked.2
  · cases hcalls
    obtain ⟨d, hd, ⟨-, hsame⟩, -⟩ := hcommanded
    rcases List.mem_pair.mp hd with rfl | rfl
    · cases hsame
    · cases hsame
  · simp at hcalls

def demoLapsing : DesiredRoomIntent := { demoSwitchOff with expiresAt := some (.utc 25000000) }

def demoLostWrite : CallRecord DemoUnit IntentPayload :=
  callRecord demoWorker demoBus (.initial _ ⟨1, 1, 0⟩) demoLapsing

def demoLateRedelivery : CallRecord DemoUnit IntentPayload :=
  callRecord demoWorker demoBus demoLostWrite.after demoLapsing

theorem written_version_expires :
    ¬ RefusedUncommanded (history demoWorker demoBus ⟨1, 1, 0⟩ [demoLapsing, demoLapsing]).calls := by
  have hexpired : demoLateRedelivery.roomAfter.currentAttempt.any (fun a =>
      decide (a.phase = .terminal) && decide (a.version = 12) &&
        a.cachedResult.any (decide <| ·.status = .expired)) = true := by
    decide +kernel
  have hwrite : demoLostWrite.after.moments.any (·.interaction.isWrite) = true := by
    decide +kernel
  obtain ⟨a, ha, hfacts⟩ := (Option.any_eq_true _ _).mp hexpired
  simp only [Bool.and_eq_true, decide_eq_true_eq] at hfacts
  obtain ⟨⟨hterminal, hversion⟩, hcached⟩ := hfacts
  obtain ⟨result, hcached, hstatus⟩ := (Option.any_eq_true _ _).mp hcached
  intro h
  refine h [demoLostWrite] demoLateRedelivery [] rfl a result ha hterminal hcached
    (.inl (of_decide_eq_true hstatus)) demoLostWrite (by simp) rfl (hversion ▸ rfl) ?_
  obtain ⟨m, hm, hm'⟩ := List.any_eq_true.mp hwrite
  exact ⟨m, hm, hm'⟩

end ClockOrchestrator
