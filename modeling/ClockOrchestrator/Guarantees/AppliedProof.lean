import ClockOrchestrator.Guarantees.NoBlindRewrite

namespace ClockOrchestrator

open Python Procedure Emission

variable {E F : Type} {w : G301EntranceWorker F} {env : G301Environment E} [DecidableEq F] {e : E}
  {intents : List DesiredRoomIntent} {before after : List (CallRecord E F)} {c : CallRecord E F}

def CallRecord.SetsApplied (c : CallRecord E F) : Prop :=
  c.roomBefore.lastAppliedVersion ≠ some c.intent.intentVersion ∧
    c.roomAfter.lastAppliedVersion = some c.intent.intentVersion

theorem history_applied : ∀ c ∈ (history w env e intents).calls, c.Applied →
    some c.intent.intentVersion ≤
      ((history w env e intents).state.room c.intent.roomKey).lastAppliedVersion := by
  refine history_rule (I := fun h => ∀ c ∈ h.calls, c.Applied → some c.intent.intentVersion ≤
    (h.state.room c.intent.roomKey).lastAppliedVersion) (by simp)
    fun intents intent hconsistent ih => ?_
  refine List.forall_mem_append.mpr ⟨fun c hc happlied => ?_, fun c hc happlied => ?_⟩
  · exact version_le_trans (ih c hc happlied) (hconsistent.grows env intent c.intent.roomKey).applied
  · rw [List.mem_singleton.mp hc] at happlied ⊢
    obtain ⟨result, hr, happlied⟩ := happlied
    have heq := (hconsistent.effect env intent).applied_eq
      (fun _ hslave => hconsistent.soundCall env intent hslave) (received_own env) hr happlied
    exact some_le_iff.mpr ⟨_, heq, le_rfl⟩

theorem history_cached : ∀ roomKey a cached,
    ((history w env e intents).state.room roomKey).currentAttempt = some a →
    a.phase = .terminal → a.cachedResult = some cached →
    ∃ c ∈ (history w env e intents).calls, c.intent.roomKey = roomKey ∧
      c.intent.intentVersion = a.version ∧ c.result = .ok cached := by
  refine history_rule (I := fun h => ∀ roomKey a cached,
    (h.state.room roomKey).currentAttempt = some a → a.phase = .terminal →
    a.cachedResult = some cached → ∃ c ∈ h.calls, c.intent.roomKey = roomKey ∧
      c.intent.intentVersion = a.version ∧ c.result = .ok cached) ?_ fun intents intent hconsistent ih => ?_
  · intro roomKey a cached ha
    cases ha
  · intro roomKey a cached ha hphase hcached
    have heffect := hconsistent.effect env intent
    have hold : ((history w env e intents).state.room roomKey).currentAttempt = some a →
        ∃ c ∈ ((history w env e intents).call w env intent).calls, c.intent.roomKey = roomKey ∧
          c.intent.intentVersion = a.version ∧ c.result = .ok cached := by
      intro ha
      obtain ⟨c, hc, hcall⟩ := ih roomKey a cached ha hphase hcached
      exact ⟨c, List.mem_append_left _ hc, hcall⟩
    by_cases hroom : roomKey = intent.roomKey
    · subst hroom
      rcases heffect.cases with ⟨hsame, -⟩ | ⟨_, p, q, hslave, hopens, htakes, hreports⟩
      · exact hold (hsame ▸ ha)
      · obtain ⟨labels, hpath, -⟩ := htakes.path
        obtain ⟨-, b, hb, hmade, hshows⟩ :=
          path_fits (received_own env) hpath (hconsistent.fits env hslave hopens)
        have hq : q.state.currentAttempt = some a := htakes.holds.eq_room ▸ ha
        cases hb.symm.trans hq
        have hsettled : q.stage.Settled := by
          by_contra hopen
          exact hshows.open hopen hphase
        obtain ⟨result, hr, hresult⟩ := hreports.settled hsettled
        rw [hb] at hresult
        cases hresult.symm.trans hcached
        exact ⟨_, List.mem_append_right _ (List.mem_singleton_self _), rfl, hmade.version.symm, hr⟩
    · have hsame : ((history w env e intents).call w env intent).state.room roomKey =
          (history w env e intents).state.room roomKey :=
        heffect.room_elsewhere hroom
      exact hold (hsame ▸ ha)

omit [DecidableEq F] in
theorem Opens.not_settled {intent : DesiredRoomIntent} {st : RoomIntentState F} {p : Progress F}
    (h : Opens w intent st p) : ¬ p.stage.Settled := by
  rcases h.stage with hstage | hstage
  · simp [hstage, Stage.Settled]
  · simp [hstage, Stage.Settled]

omit [DecidableEq F] in
theorem Opens.applied_lt {intent : DesiredRoomIntent} {st : RoomIntentState F} {p : Progress F}
    {slaveAddress : ℕ} {received : DesiredRoomIntent → Prop} (h : Opens w intent st p)
    (hp : Fits w slaveAddress received intent p) {v : ℕ} (hv : st.lastAppliedVersion = some v) :
    v < intent.intentVersion := by
  obtain ⟨hsound, a, ha, hmade, hshows⟩ := hp
  have hle := h.grows.applied
  rw [hv] at hle
  obtain ⟨u, hu, hvu⟩ := some_le_iff.mp hle
  exact hmade.version ▸ hvu.trans_lt (hsound.applied_lt ha (hshows.open h.not_settled) hu)

omit [DecidableEq F] in
theorem Reports.applied_call {q : Progress F} (h : Reports c.result q) :
    c.Applied ↔ q.stage = .applied := by
  constructor
  · rintro ⟨result, hr, happlied⟩
    exact (h.applied_iff result hr).mp happlied
  · intro hq
    obtain ⟨result, hr, -⟩ := h.settled (.inl hq)
    exact ⟨result, hr, (h.applied_iff result hr).mpr hq⟩

theorem applied_is_proven (w : G301EntranceWorker F) (env : G301Environment E) (e : E)
    (intents : List DesiredRoomIntent) {before after : List (CallRecord E F)} {c : CallRecord E F}
    (hcalls : (history w env e intents).calls = before ++ c :: after) :
    (c.SetsApplied ↔ c.Applied ∧ ¬ ∃ d ∈ before, d.SameVersion c ∧ d.Applied) ∧
    (c.SetsApplied → ∃ slaveAddress plan,
      w.roomSlaveAddresses.lookup c.intent.roomKey = some slaveAddress ∧
      (∃ d ∈ before ++ [c], d.SameVersion c ∧
        intentFingerprint w d.intent = intentFingerprint w c.intent ∧
        PlanOf d.intent slaveAddress plan) ∧
      ShowsMatch slaveAddress plan c.interactions) ∧
    (c.Applied → (∃ d ∈ before, d.SameVersion c ∧ d.Applied) →
      c.after.moments = [] ∧ c.roomAfter = c.roomBefore) := by
  obtain ⟨sofar, rfl, hnext, hstart, heffect⟩ := history_effect hcalls
  have hconsistent : Consistent w (history w env e sofar) := history_consistent
  have hbefore : c.roomBefore = (history w env e sofar).state.room c.intent.roomKey := by
    unfold CallRecord.roomBefore
    rw [hstart, atRest_room]
  rcases heffect.cases with
    ⟨hsame, hnone, result, hr, hreplay⟩ | ⟨slaveAddress, p, q, hslave, hopens, htakes, hreports⟩
  · have hkept : c.roomAfter = c.roomBefore := hsame
    have hmoments : c.after.moments = [] := by
      rw [hnone, hstart]
      rfl
    have hnot : ¬ c.SetsApplied := fun h => h.1 (hkept ▸ h.2)
    have hearlier : c.Applied → ∃ d ∈ (history w env e sofar).calls, d.SameVersion c ∧ d.Applied := by
      rintro ⟨result', hr', happlied⟩
      cases hr.symm.trans hr'
      obtain ⟨a, cached, ha, hmade, hphase, hcached, rfl⟩ := hreplay happlied
      rw [hstart, atRest_room] at ha
      obtain ⟨d, hd, hroom, hversion, hdr⟩ := history_cached _ a cached ha hphase hcached
      exact ⟨d, hd, ⟨hroom, hversion.trans hmade.version⟩, cached, hdr, happlied⟩
    exact ⟨iff_of_false hnot fun h => h.2 (hearlier h.1), fun h => absurd h hnot,
      fun _ _ => ⟨hmoments, hkept⟩⟩
  · rw [hstart, atRest_room] at hopens
    obtain ⟨labels, hpath, -, hlabels⟩ := htakes.interactions (by rw [hstart]; rfl)
    have hp := hconsistent.fits env hslave hopens
    have hafter : c.roomAfter = q.state := htakes.holds.eq_room
    have hversion := hreports.applied_version (path_fits (received_own env) hpath hp)
    have hfirst : ¬ ∃ d ∈ (history w env e sofar).calls, d.SameVersion c ∧ d.Applied := by
      rintro ⟨d, hd, hsame, happlied⟩
      have hold := history_applied d hd happlied
      rw [hsame.1, hsame.2] at hold
      obtain ⟨u, hu, hvu⟩ := some_le_iff.mp hold
      exact absurd (hopens.applied_lt hp hu) (not_lt.mpr hvu)
    have hsets : c.SetsApplied ↔ q.stage = .applied := by
      refine ⟨fun h => hversion.mp (hafter ▸ h.2), fun h => ⟨fun hv => ?_, ?_⟩⟩
      · exact lt_irrefl _ (hopens.applied_lt hp (hbefore ▸ hv))
      · rw [hafter]
        exact hversion.mpr h
    refine ⟨?_, fun h => ?_, fun _ h => absurd h hfirst⟩
    · rw [hsets, hreports.applied_call]
      exact (and_iff_left hfirst).symm
    · obtain ⟨plan, a, hmade, ⟨-, source, ⟨hroom, d, hd, hintent⟩, hfrom, hof⟩, hshows⟩ :=
        path_applied (received_own env) hpath hp hopens.not_settled (hsets.mp h)
      subst hintent
      refine ⟨slaveAddress, plan, hslave, ⟨d, ?_, ⟨hroom, ?_⟩, ?_, hof⟩, ?_⟩
      · rwa [hnext] at hd
      · exact hfrom.version.symm.trans hmade.version
      · exact hfrom.fingerprint.symm.trans hmade.fingerprint
      · unfold CallRecord.interactions
        rw [hlabels]
        exact hshows

theorem redelivery_applies_with_proof : ∃ plan,
    PlanOf demoSwitchOff 7 plan ∧ ShowsMatch 7 plan demoRedelivery.interactions := by
  obtain ⟨hsets, hproof, -⟩ := applied_is_proven demoWorker demoBus ⟨1, 1, 0⟩
    [demoSwitchOff, demoSwitchOff] demoHistory_calls
  have hset : demoRedelivery.SetsApplied := by
    unfold CallRecord.SetsApplied
    decide +kernel
  obtain ⟨slaveAddress, plan, hslave, ⟨d, hd, -, -, hplan⟩, hshows⟩ := hproof hset
  have haddress : slaveAddress = 7 := (Option.some.inj hslave).symm
  subst haddress
  refine ⟨plan, ?_, hshows⟩
  have hintent : d.intent = demoSwitchOff := by
    simp only [List.cons_append, List.nil_append, List.mem_cons, List.not_mem_nil, or_false] at hd
    rcases hd with rfl | rfl
    · rfl
    · rfl
  rwa [hintent] at hplan

end ClockOrchestrator
