import ClockOrchestrator.G301Adapter.WorkerHistory

namespace ClockOrchestrator

open Python Procedure Emission

variable {E F : Type} {w : G301EntranceWorker F} {env : G301Environment E}
  {roomKey : String} {base : IntentStates F} {x y : RoomIntentState F} {s t : WorkerState E F}

def AllWatermarked (states : IntentStates F) : Prop :=
  ∀ roomKey st, states roomKey = some st → st.Watermarked

def StatesGrow (states later : IntentStates F) : Prop :=
  ∀ roomKey st, states roomKey = some st → ∃ st', later roomKey = some st' ∧ st.Grows st'

def CallRecord.timeline (c : CallRecord E F) : List (IntentStates F) :=
  c.before.intentStates :: (c.after.moments.map (·.states) ++ [c.after.intentStates])

def WorkerHistory.timeline (h : WorkerHistory E F) : List (IntentStates F) :=
  h.calls.flatMap CallRecord.timeline

theorem StatesGrow.refl (states : IntentStates F) : StatesGrow states states :=
  fun _ st hst => ⟨st, hst, .refl st⟩

theorem StatesGrow.trans {a b c : IntentStates F} (h : StatesGrow a b) (h' : StatesGrow b c) :
    StatesGrow a c := by
  intro roomKey st hst
  obtain ⟨st', hst', hgrows⟩ := h roomKey st hst
  obtain ⟨st'', hst'', hgrows'⟩ := h' roomKey st' hst'
  exact ⟨st'', hst'', hgrows.trans hgrows'⟩

theorem statesGrow_update (h : ∀ st, base roomKey = some st → st.Grows y) :
    StatesGrow base (Function.update base roomKey (some y)) := by
  intro other st hst
  by_cases hother : other = roomKey
  · subst hother
    exact ⟨y, Function.update_self .., h st hst⟩
  · exact ⟨st, (Function.update_of_ne hother ..).trans hst, .refl st⟩

theorem statesGrow_updates (h : x.Grows y) :
    StatesGrow (Function.update base roomKey (some x)) (Function.update base roomKey (some y)) := by
  have hgrow : StatesGrow (Function.update base roomKey (some x))
      (Function.update (Function.update base roomKey (some x)) roomKey (some y)) := by
    refine statesGrow_update fun st hst => ?_
    rw [Function.update_self] at hst
    cases hst
    exact h
  rwa [Function.update_idem] at hgrow

theorem AllWatermarked.update (h : AllWatermarked base) (hx : x.Watermarked) :
    AllWatermarked (Function.update base roomKey (some x)) := by
  intro other st hst
  by_cases hother : other = roomKey
  · subst hother
    rw [Function.update_self] at hst
    cases hst
    exact hx
  · rw [Function.update_of_ne hother] at hst
    exact h other st hst

theorem room_of_some {st : RoomIntentState F} (h : s.intentStates roomKey = some st) :
    s.room roomKey = st := by
  unfold WorkerState.room
  rw [h]
  rfl

theorem Consistent.allWatermarked {h : WorkerHistory E F} (hc : Consistent w h) :
    AllWatermarked h.state.intentStates := by
  intro roomKey st hst
  cases hslave : w.roomSlaveAddresses.lookup roomKey with
  | none => cases (hc.unknown roomKey hslave).symm.trans hst
  | some slaveAddress =>
      have hsound := hc.sound roomKey slaveAddress hslave
      rw [room_of_some hst] at hsound
      exact hsound.toWatermarked

section Call

variable {intent : DesiredRoomIntent} {r : Except AdapterError IntentExecutionResult}
  {received : DesiredRoomIntent → Prop}

theorem kept_timeline (hbase : AllWatermarked s.intentStates)
    (hroom : (s.room intent.roomKey).Watermarked)
    (ht : Holds intent.roomKey s.intentStates t (s.room intent.roomKey)) :
    [s.intentStates, t.intentStates].Pairwise StatesGrow ∧
      ∀ states ∈ [s.intentStates, t.intentStates], AllWatermarked states := by
  have hgrow : StatesGrow s.intentStates t.intentStates := by
    rw [ht]
    refine statesGrow_update fun st hst => ?_
    rw [room_of_some hst]
    exact .refl st
  have hwater : AllWatermarked t.intentStates := by
    rw [ht]
    exact hbase.update hroom
  exact ⟨List.pairwise_pair.mpr hgrow, by simp [hbase, hwater]⟩

theorem attempt_timeline {slaveAddress : ℕ} {p q : Progress F} (hreceived : received intent)
    (hbase : AllWatermarked s.intentStates) (hopens : Opens w intent (s.room intent.roomKey) p)
    (hfits : Fits w slaveAddress received intent p) (hmoments : s.moments = [])
    (h : Takes intent slaveAddress s.intentStates s t p q) :
    (s.intentStates :: (t.moments.map (·.states) ++ [t.intentStates])).Pairwise StatesGrow ∧
      ∀ states ∈ s.intentStates :: (t.moments.map (·.states) ++ [t.intentStates]),
        AllWatermarked states := by
  obtain ⟨labels, hpath, hlabels⟩ := h.path
  obtain ⟨hgrows, hall, hpairs⟩ := path_grows hreceived hpath hfits
  rw [hmoments, List.nil_append] at hlabels
  rw [hlabels, h.holds, List.map_map]
  have hfrom : ∀ {st : RoomIntentState F}, p.state.Grows st →
      StatesGrow s.intentStates (Function.update s.intentStates intent.roomKey (some st)) := by
    intro st hst
    refine statesGrow_update fun old hold => ?_
    rw [← room_of_some hold]
    exact hopens.grows.trans hst
  refine ⟨List.pairwise_cons.mpr ⟨?_, List.pairwise_append.mpr ⟨?_, ?_, ?_⟩⟩, ?_⟩
  · refine List.forall_mem_append.mpr ⟨?_, by simpa using hfrom hgrows⟩
    rintro _ hl
    obtain ⟨l, hmem, rfl⟩ := List.mem_map.mp hl
    exact hfrom (hall l hmem).2.1
  · exact List.pairwise_map.mpr (hpairs.imp statesGrow_updates)
  · exact List.pairwise_singleton _ _
  · rintro _ hl
    obtain ⟨l, hmem, rfl⟩ := List.mem_map.mp hl
    intro later hlater
    rw [List.mem_singleton.mp hlater]
    exact statesGrow_updates (hall l hmem).2.2
  · refine List.forall_mem_cons.mpr ⟨hbase, List.forall_mem_append.mpr ⟨?_, ?_⟩⟩
    · rintro _ hl
      obtain ⟨l, hmem, rfl⟩ := List.mem_map.mp hl
      exact hbase.update (hall l hmem).1.toWatermarked
    · simpa using hbase.update (path_fits hreceived hpath hfits).sound.toWatermarked

end Call

variable [DecidableEq F] {e : E} {intents : List DesiredRoomIntent} {intent : DesiredRoomIntent}
  {h : WorkerHistory E F}

variable (env) in
theorem Consistent.timeline (hc : Consistent w h) (intent : DesiredRoomIntent) :
    (callRecord w env h.state intent).timeline.Pairwise StatesGrow ∧
      ∀ states ∈ (callRecord w env h.state intent).timeline, AllWatermarked states := by
  have heffect := hc.effect env intent
  unfold CallRecord.timeline
  generalize (callRecord w env h.state intent).after = t at heffect
  generalize (callRecord w env h.state intent).result = r at heffect
  have hbase : AllWatermarked h.state.atRest.intentStates := hc.allWatermarked
  cases heffect with
  | skipped _ _ ht =>
      subst ht
      change [h.state.atRest.intentStates, h.state.atRest.intentStates].Pairwise StatesGrow ∧
        ∀ states ∈ [h.state.atRest.intentStates, h.state.atRest.intentStates], AllWatermarked states
      exact ⟨List.pairwise_pair.mpr (.refl _), by simp [hbase]⟩
  | refused hslave _ _ ht hmoments =>
      rw [hmoments]
      exact kept_timeline hbase (hc.sound _ _ hslave).toWatermarked ht
  | replayed hslave _ _ _ _ ht hmoments =>
      rw [hmoments]
      exact kept_timeline hbase (hc.sound _ _ hslave).toWatermarked ht
  | attempted hslave hopens htakes _ =>
      exact attempt_timeline (received_own env) hbase hopens (hc.fits env hslave hopens) rfl htakes

omit [DecidableEq F] in
theorem CallRecord.timeline_ends (c : CallRecord E F) (hgrow : c.timeline.Pairwise StatesGrow) :
    (∀ states ∈ c.timeline, StatesGrow c.before.intentStates states) ∧
      ∀ states ∈ c.timeline, StatesGrow states c.after.intentStates := by
  unfold CallRecord.timeline at hgrow ⊢
  obtain ⟨hfirst, hrest⟩ := List.pairwise_cons.mp hgrow
  obtain ⟨-, -, hlast⟩ := List.pairwise_append.mp hrest
  refine ⟨List.forall_mem_cons.mpr ⟨.refl _, hfirst⟩, List.forall_mem_cons.mpr ⟨?_, ?_⟩⟩
  · exact hfirst _ (List.mem_append_right _ (List.mem_singleton_self _))
  · refine List.forall_mem_append.mpr ⟨fun states hs => hlast _ hs _ (List.mem_singleton_self _), ?_⟩
    simpa using StatesGrow.refl _

variable (w env e intents) in
theorem history_timeline :
    (history w env e intents).timeline.Pairwise StatesGrow ∧
      ∀ states ∈ (history w env e intents).timeline, AllWatermarked states ∧
        StatesGrow states (history w env e intents).state.intentStates := by
  refine history_rule (I := fun h => h.timeline.Pairwise StatesGrow ∧
    ∀ states ∈ h.timeline, AllWatermarked states ∧ StatesGrow states h.state.intentStates)
    ⟨.nil, by simp [WorkerHistory.timeline]⟩ fun intents intent hconsistent ih => ?_
  obtain ⟨hpairs, hall⟩ := ih
  obtain ⟨hline, hwater⟩ := hconsistent.timeline env intent
  obtain ⟨hbefore, hafter⟩ := CallRecord.timeline_ends _ hline
  have hsplit : ((history w env e intents).call w env intent).timeline =
      (history w env e intents).timeline ++
        (callRecord w env (history w env e intents).state intent).timeline := by
    unfold WorkerHistory.timeline WorkerHistory.call
    rw [List.flatMap_append, List.flatMap_singleton]
  rw [hsplit]
  refine ⟨List.pairwise_append.mpr ⟨hpairs, hline, ?_⟩, List.forall_mem_append.mpr ⟨?_, ?_⟩⟩
  · intro states hs later hl
    exact (hall states hs).2.trans (hbefore later hl)
  · intro states hs
    refine ⟨(hall states hs).1, (hall states hs).2.trans (hafter _ ?_)⟩
    exact List.mem_cons_self ..
  · intro states hs
    exact ⟨hwater states hs, hafter states hs⟩

theorem watermarks_hold (w : G301EntranceWorker F) (env : G301Environment E) (e : E)
    (intents : List DesiredRoomIntent) :
    (∀ states ∈ (history w env e intents).timeline, AllWatermarked states) ∧
    (history w env e intents).timeline.Pairwise StatesGrow ∧
    ∀ c ∈ (history w env e intents).calls, ∀ error, c.result = .error error → ¬ error.Internal := by
  obtain ⟨hpairs, hall⟩ := history_timeline w env e intents
  refine ⟨fun states hs => (hall states hs).1, hpairs, fun c hc error herror => ?_⟩
  obtain ⟨before, after, hsplit⟩ := List.append_of_mem hc
  obtain ⟨earlier, -, -, -, heffect⟩ := history_effect hsplit
  rcases heffect.cases with ⟨-, -, result, hr, -⟩ | ⟨_, p, q, -, -, -, hreports⟩
  · cases hr.symm.trans herror
  · exact hreports.internal error herror

end ClockOrchestrator
