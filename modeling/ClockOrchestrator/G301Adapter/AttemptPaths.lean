import ClockOrchestrator.G301Adapter.AttemptMachine

namespace ClockOrchestrator

open Python Emission

variable {F : Type} {w : G301EntranceWorker F} {slaveAddress : ℕ}
  {received received' : DesiredRoomIntent → Prop} {intent : DesiredRoomIntent}
  {st : RoomIntentState F} {a b : IntentAttempt F}

theorem some_le_iff {v : ℕ} {x : Option ℕ} : some v ≤ x ↔ ∃ u, x = some u ∧ v ≤ u := by
  cases x with
  | none => simp
  | some u => simp

theorem le_some_iff {v : ℕ} {x : Option ℕ} : x ≤ some v ↔ ∀ u, x = some u → u ≤ v := by
  cases x with
  | none => simp
  | some u => simp

theorem version_le_trans {x y z : Option ℕ} (h : x ≤ y) (h' : y ≤ z) : x ≤ z := by
  cases x with
  | none => exact Option.none_le
  | some v =>
      obtain ⟨u, rfl, hu⟩ := some_le_iff.mp h
      obtain ⟨t, rfl, ht⟩ := some_le_iff.mp h'
      exact some_le_iff.mpr ⟨t, rfl, hu.trans ht⟩

theorem version_le_refl (x : Option ℕ) : x ≤ x := by
  cases x with
  | none => exact Option.none_le
  | some v => exact some_le_iff.mpr ⟨v, rfl, le_rfl⟩

namespace RoomIntentState.Sound

theorem empty : (RoomIntentState.empty F).Sound w slaveAddress received where
  applied_le := Option.none_le
  terminal_le := Option.none_le
  current := rfl
  terminal_iff := by simp [RoomIntentState.empty]
  unsettled := by simp [RoomIntentState.empty]
  planned := by simp [RoomIntentState.empty]
  applied_iff := by simp [RoomIntentState.empty]

theorem mono (h : st.Sound w slaveAddress received)
    (hsub : ∀ source, received source → received' source) :
    st.Sound w slaveAddress received' where
  toWatermarked := h.toWatermarked
  unsettled := h.unsettled
  planned := by
    intro a ha hp
    obtain ⟨plan, hplan, source, hreceived, hmade⟩ := h.planned a ha hp
    exact ⟨plan, hplan, source, hsub source hreceived, hmade⟩
  applied_iff := h.applied_iff

theorem seen_eq (h : st.Sound w slaveAddress received) (ha : st.currentAttempt = some a) :
    st.lastSeenVersion = some a.version := by
  rw [h.current, ha]
  rfl

theorem terminal_lt (h : st.Sound w slaveAddress received) (ha : st.currentAttempt = some a)
    (hp : a.phase ≠ .terminal) {v : ℕ} (hv : st.lastTerminalVersion = some v) : v < a.version := by
  have hle : v ≤ a.version := by
    have hseen := h.terminal_le
    rw [h.seen_eq ha] at hseen
    exact le_some_iff.mp hseen v hv
  have hne : v ≠ a.version := by
    rintro rfl
    exact h.unsettled a ha hp hv
  exact lt_of_le_of_ne hle hne

theorem applied_lt (h : st.Sound w slaveAddress received) (ha : st.currentAttempt = some a)
    (hp : a.phase ≠ .terminal) {v : ℕ} (hv : st.lastAppliedVersion = some v) : v < a.version := by
  have hle := h.applied_le
  rw [hv] at hle
  obtain ⟨u, hu, hvu⟩ := some_le_iff.mp hle
  exact hvu.trans_lt (h.terminal_lt ha hp hu)

theorem register (h : st.Sound w slaveAddress received) {version : ℕ} {fingerprint : F}
    (hnew : ∀ seen, st.lastSeenVersion = some seen → seen < version) :
    (st.register version fingerprint).Sound w slaveAddress received := by
  have hbelow : ∀ v, st.lastTerminalVersion = some v → v < version := by
    intro v hv
    have hle := h.terminal_le
    rw [hv] at hle
    obtain ⟨u, hu, hvu⟩ := some_le_iff.mp hle
    exact hvu.trans_lt (hnew u hu)
  refine ⟨⟨h.applied_le, le_some_iff.mpr fun v hv => (hbelow v hv).le, rfl, ?_⟩, ?_, ?_, ?_⟩
  · rintro a ⟨⟩
    simp
  · rintro a ⟨⟩ - hv
    exact absurd (hbelow version hv) (lt_irrefl version)
  · rintro a ⟨⟩ hp
    simp at hp
  · rintro a result ⟨⟩ hp
    cases hp

theorem revise (h : (st.holding a).Sound w slaveAddress received) (hp : a.phase ≠ .terminal)
    (hversion : b.version = a.version) (hphase : b.phase ≠ .terminal)
    (hplanned : b.phase = .writing ∨ b.phase = .verificationPending →
      ∃ plan, b.Planned w slaveAddress received plan) :
    (st.holding b).Sound w slaveAddress received := by
  have hopen : st.lastTerminalVersion ≠ some b.version := by
    rw [hversion]
    exact h.unsettled a rfl hp
  refine ⟨⟨h.applied_le, h.terminal_le, ?_, ?_⟩, ?_, ?_, ?_⟩
  · exact (h.seen_eq rfl).trans (congrArg some hversion.symm)
  · rintro c ⟨⟩
    exact iff_of_false hphase fun hc => hopen hc.2
  · rintro c ⟨⟩ -
    exact hopen
  · rintro c ⟨⟩
    exact hplanned
  · rintro c result ⟨⟩ hterminal
    exact absurd hterminal hphase

theorem markTerminal (h : (st.holding a).Sound w slaveAddress received) (hp : a.phase ≠ .terminal)
    {result : IntentExecutionResult} {applied : Bool}
    (hresult : result.status = .applied ↔ applied = true) :
    ((st.holding a).markTerminal result applied).Sound w slaveAddress received := by
  rw [holding_markTerminal]
  have hseen : st.lastSeenVersion = some a.version := h.seen_eq rfl
  have hbelow : st.lastAppliedVersion ≤ some a.version :=
    le_some_iff.mpr fun v hv => (h.applied_lt rfl hp hv).le
  refine ⟨⟨?_, ?_, hseen, ?_⟩, ?_, ?_, ?_⟩
  · cases applied with
    | false => exact hbelow
    | true => exact version_le_refl _
  · change some a.version ≤ st.lastSeenVersion
    rw [hseen]
    exact version_le_refl _
  · rintro c ⟨⟩
    simp
  · rintro c ⟨⟩ hc
    exact absurd rfl hc
  · rintro c ⟨⟩ hc
    simp at hc
  · rintro c cached ⟨⟩ - ⟨⟩
    rw [hresult]
    cases applied with
    | true => simp
    | false =>
        refine iff_of_false (by simp) fun hv => ?_
        exact lt_irrefl _ (h.applied_lt rfl hp hv)

end RoomIntentState.Sound

theorem Stage.Shows.open {stage : Stage} {phase : IntentAttemptPhase} (h : stage.Shows phase)
    (hs : ¬ stage.Settled) : phase ≠ .terminal := by
  rintro rfl
  cases stage with
  | verifying => rcases h with h | h <;> cases h
  | planning => cases h
  | writing => cases h
  | checking => cases h
  | applied => exact hs (.inl rfl)
  | closed => exact hs (.inr rfl)

theorem Stage.Shows.terminal {stage : Stage} {phase : IntentAttemptPhase}
    (h : stage.Shows phase) (hs : stage.Settled) : phase = .terminal := by
  rcases hs with rfl | rfl
  · exact h
  · exact h

theorem IntentAttempt.Planned.transfer {plan : G301Plan}
    (h : a.Planned w slaveAddress received plan) (hplan : b.plan = a.plan)
    (hversion : b.version = a.version) (hprint : b.payloadFingerprint = a.payloadFingerprint) :
    b.Planned w slaveAddress received plan := by
  obtain ⟨hp, source, hreceived, hmade, hof⟩ := h
  exact ⟨hplan.trans hp, source, hreceived,
    ⟨hversion.trans hmade.version, hprint.trans hmade.fingerprint⟩, hof⟩

theorem AttemptStep.fits {p q : Progress F} {labels : List (Interaction × RoomIntentState F)}
    (hreceived : received intent) (h : AttemptStep intent slaveAddress p labels q)
    (hp : Fits w slaveAddress received intent p) : Fits w slaveAddress received intent q := by
  obtain ⟨hsound, attempt, hcurrent, hmade, hshows⟩ := hp
  cases h with
  | look _ => exact ⟨hsound, attempt, hcurrent, hmade, hshows⟩
  | write _ _ => exact ⟨hsound, attempt, hcurrent, hmade, hshows⟩
  | restart =>
      cases hcurrent
      have hopen := Stage.Shows.open hshows (by simp [Stage.Settled])
      exact ⟨hsound.revise hopen rfl (by simp) (by simp), _, rfl, ⟨hmade.1, hmade.2⟩, rfl⟩
  | plan hplan =>
      cases hcurrent
      have hopen := Stage.Shows.open hshows (by simp [Stage.Settled])
      exact ⟨hsound.revise hopen rfl (by simp)
          fun _ => ⟨_, rfl, intent, hreceived, ⟨hmade.1, hmade.2⟩, hplan⟩,
        _, rfl, ⟨hmade.1, hmade.2⟩, rfl⟩
  | acknowledge =>
      cases hcurrent
      have hopen := Stage.Shows.open hshows (by simp [Stage.Settled])
      obtain ⟨plan, hplan⟩ := hsound.planned _ rfl (.inl hshows)
      exact ⟨hsound.revise hopen rfl hopen fun _ => ⟨plan, hplan.transfer rfl rfl rfl⟩,
        _, rfl, ⟨hmade.1, hmade.2⟩, hshows⟩
  | await =>
      cases hcurrent
      have hopen := Stage.Shows.open hshows (by simp [Stage.Settled])
      obtain ⟨plan, hplan⟩ := hsound.planned _ rfl (.inl hshows)
      exact ⟨hsound.revise hopen rfl (by simp) fun _ => ⟨plan, hplan.transfer rfl rfl rfl⟩,
        _, rfl, ⟨hmade.1, hmade.2⟩, rfl⟩
  | diverge hplan _ _ =>
      cases hcurrent
      have hopen := Stage.Shows.open hshows (by simp [Stage.Settled])
      exact ⟨hsound.revise hopen rfl (by simp) (by simp), _, rfl, ⟨hmade.1, hmade.2⟩, rfl⟩
  | confirm hstage _ _ happlied =>
      cases hcurrent
      have hopen := Stage.Shows.open hshows (by rcases hstage with rfl | rfl <;> simp [Stage.Settled])
      exact ⟨hsound.markTerminal hopen (by simp [happlied]), _, rfl, ⟨hmade.1, hmade.2⟩, rfl⟩
  | close hstage happlied _ =>
      cases hcurrent
      exact ⟨hsound.markTerminal (hshows.open hstage) (by simp [happlied]), _, rfl,
        ⟨hmade.1, hmade.2⟩, rfl⟩

structure RoomIntentState.Grows (x y : RoomIntentState F) : Prop where
  seen : x.lastSeenVersion ≤ y.lastSeenVersion
  terminal : x.lastTerminalVersion ≤ y.lastTerminalVersion
  applied : x.lastAppliedVersion ≤ y.lastAppliedVersion

theorem RoomIntentState.Grows.refl (x : RoomIntentState F) : x.Grows x :=
  ⟨version_le_refl _, version_le_refl _, version_le_refl _⟩

theorem RoomIntentState.Grows.trans {x y z : RoomIntentState F} (h : x.Grows y) (h' : y.Grows z) :
    x.Grows z :=
  ⟨version_le_trans h.1 h'.1, version_le_trans h.2 h'.2, version_le_trans h.3 h'.3⟩

theorem grows_holding : (st.holding a).Grows (st.holding b) :=
  ⟨version_le_refl _, version_le_refl _, version_le_refl _⟩

theorem RoomIntentState.Sound.grows_markTerminal
    (h : (st.holding a).Sound w slaveAddress received) (hp : a.phase ≠ .terminal)
    {result : IntentExecutionResult} {applied : Bool} :
    (st.holding a).Grows ((st.holding a).markTerminal result applied) := by
  rw [holding_markTerminal]
  refine ⟨version_le_refl _, le_some_iff.mpr fun v hv => (h.terminal_lt rfl hp hv).le, ?_⟩
  cases applied with
  | false => exact version_le_refl _
  | true => exact le_some_iff.mpr fun v hv => (h.applied_lt rfl hp hv).le

section Steps

variable {p q : Progress F} {labels : List (Interaction × RoomIntentState F)}

theorem AttemptStep.grows (h : AttemptStep intent slaveAddress p labels q)
    (hp : Fits w slaveAddress received intent p) : p.state.Grows q.state := by
  obtain ⟨hsound, attempt, hcurrent, -, hshows⟩ := hp
  cases h with
  | look _ => exact .refl _
  | write _ _ => exact .refl _
  | restart => exact grows_holding
  | plan _ => exact grows_holding
  | acknowledge => exact grows_holding
  | await => exact grows_holding
  | diverge _ _ _ => exact grows_holding
  | confirm hstage _ _ _ =>
      cases hcurrent
      exact hsound.grows_markTerminal
        (hshows.open (by rcases hstage with rfl | rfl <;> simp [Stage.Settled]))
  | close hstage _ _ =>
      cases hcurrent
      exact hsound.grows_markTerminal (hshows.open hstage)

theorem AttemptStep.snapshot (h : AttemptStep intent slaveAddress p labels q) :
    ∀ l ∈ labels, l.2 = p.state := by
  cases h with
  | look _ => simp
  | write _ _ => simp
  | restart => simp
  | plan _ => simp
  | acknowledge => simp
  | await => simp
  | diverge _ _ _ => simp
  | confirm _ _ _ _ => simp
  | close _ _ _ => simp

theorem path_fits (hreceived : received intent)
    (h : Path (AttemptStep intent slaveAddress) p labels q)
    (hp : Fits w slaveAddress received intent p) : Fits w slaveAddress received intent q :=
  h.invariant (fun _ _ _ hs ht => hs.fits hreceived ht) hp

theorem path_grows (hreceived : received intent)
    (h : Path (AttemptStep intent slaveAddress) p labels q)
    (hp : Fits w slaveAddress received intent p) :
    p.state.Grows q.state ∧
      (∀ l ∈ labels, l.2.Sound w slaveAddress received ∧ p.state.Grows l.2 ∧ l.2.Grows q.state) ∧
      labels.Pairwise fun x y => x.2.Grows y.2 := by
  induction h with
  | refl => exact ⟨.refl _, by simp, .nil⟩
  | @tail t u xs ys ht hs ih =>
      obtain ⟨hgrows, hall, hpairs⟩ := ih
      have hfits := path_fits hreceived ht hp
      have hstep := hs.grows hfits
      refine ⟨hgrows.trans hstep, ?_, List.pairwise_append.mpr ⟨hpairs, ?_, ?_⟩⟩
      · intro l hl
        rcases List.mem_append.mp hl with hl | hl
        · obtain ⟨hsound, hfrom, hto⟩ := hall l hl
          exact ⟨hsound, hfrom, hto.trans hstep⟩
        · rw [hs.snapshot l hl]
          exact ⟨hfits.sound, hgrows, hstep⟩
      · refine List.pairwise_of_forall_mem_list fun x hx y hy => ?_
        rw [hs.snapshot x hx, hs.snapshot y hy]
        exact .refl _
      · intro x hx y hy
        rw [hs.snapshot y hy]
        exact (hall x hx).2.2

end Steps

end ClockOrchestrator
