import ClockOrchestrator.G301Adapter.AttemptPaths

namespace ClockOrchestrator

open Python Emission

variable {F : Type} {w : G301EntranceWorker F} {slaveAddress : ℕ}
  {received : DesiredRoomIntent → Prop} {intent : DesiredRoomIntent} {plan : G301Plan}

def ShowsMismatch (slaveAddress : ℕ) (plan : G301Plan) (notes : List Interaction) : Prop :=
  ∃ pre readback post values, notes = pre ++ readback ++ post ∧
    Readback slaveAddress plan.readbackExpectations readback values ∧
    values ≠ ReadbackExpectation.values plan.readbackExpectations

theorem ShowsMismatch.append {notes : List Interaction}
    (h : ShowsMismatch slaveAddress plan notes) (rest : List Interaction) :
    ShowsMismatch slaveAddress plan (notes ++ rest) := by
  obtain ⟨pre, readback, post, values, rfl, hr⟩ := h
  exact ⟨pre, readback, post ++ rest, values, (List.append_assoc ..).symm ▸ rfl, hr⟩

def ShowsMatch (slaveAddress : ℕ) (plan : G301Plan) (notes : List Interaction) : Prop :=
  ∃ pre readback post, notes = pre ++ readback ++ post ∧
    Readback slaveAddress plan.readbackExpectations readback
      (ReadbackExpectation.values plan.readbackExpectations) ∧
    ∀ n ∈ readback ++ post, n.isWrite = false

theorem ShowsMatch.append {notes rest : List Interaction}
    (h : ShowsMatch slaveAddress plan notes) (hrest : ∀ n ∈ rest, n.isWrite = false) :
    ShowsMatch slaveAddress plan (notes ++ rest) := by
  obtain ⟨pre, readback, post, rfl, hr, hpost⟩ := h
  refine ⟨pre, readback, post ++ rest, (List.append_assoc ..).symm ▸ rfl, hr, ?_⟩
  intro n hn
  rw [← List.append_assoc] at hn
  rcases List.mem_append.mp hn with hn | hn
  · exact hpost n hn
  · exact hrest n hn

def RoomIntentState.currentPlan (st : RoomIntentState F) : Option G301Plan :=
  st.currentAttempt.bind (·.plan)

def WrittenUnder (slaveAddress : ℕ) (plan : G301Plan) (l : Interaction × RoomIntentState F) : Prop :=
  l.2.currentPlan = some plan ∧ ∃ write answer, write ∈ plan.writes ∧
    l.1 = .write slaveAddress write.address write.value answer

variable {p q : Progress F} {labels : List (Interaction × RoomIntentState F)}

theorem AttemptStep.write_cases (h : AttemptStep intent slaveAddress p labels q)
    {l : Interaction × RoomIntentState F} (hl : l ∈ labels) (hw : l.1.isWrite = true) :
    p.stage = .writing ∧ q = p ∧ l.2 = p.state ∧ ∃ plan, WrittenUnder slaveAddress plan l := by
  cases h with
  | look hquiet =>
      rw [List.mem_singleton] at hl
      subst hl
      rw [hquiet.not_write] at hw
      cases hw
  | write hplan hmem =>
      rw [List.mem_singleton] at hl
      subst hl
      exact ⟨rfl, rfl, rfl, _, hplan, _, _, hmem, rfl⟩
  | diverge _ hread _ =>
      obtain ⟨n, hn, rfl⟩ := List.mem_map.mp hl
      rw [hread.not_write n hn] at hw
      cases hw
  | confirm _ _ hread _ =>
      obtain ⟨n, hn, rfl⟩ := List.mem_map.mp hl
      rw [hread.not_write n hn] at hw
      cases hw
  | _ => cases hl

theorem AttemptStep.silent (h : AttemptStep intent slaveAddress p labels q)
    (hp : p.stage ≠ .writing) : ∀ l ∈ labels, l.1.isWrite = false := by
  intro l hl
  cases hw : l.1.isWrite with
  | false => rfl
  | true => exact absurd (h.write_cases hl hw).1 hp

theorem AttemptStep.from_unplanned (h : AttemptStep intent slaveAddress p labels q)
    (hp : p.stage = .verifying ∨ p.stage = .planning ∨ p.stage.Settled) :
    (q.stage = .verifying ∨ q.stage = .planning ∨ q.stage.Settled) ∨
      ∃ plan, PlanOf intent slaveAddress plan ∧ q.stage = .writing ∧ q.state.currentPlan = some plan := by
  cases h with
  | look _ => exact .inl hp
  | restart => exact .inl hp
  | plan hplan => exact .inr ⟨_, hplan, rfl, rfl⟩
  | diverge _ _ _ => exact .inl (.inr (.inl rfl))
  | confirm _ _ _ _ => exact .inl (.inr (.inr (.inl rfl)))
  | close _ _ _ => exact .inl (.inr (.inr (.inr rfl)))
  | write _ _ => simp [Stage.Settled] at hp
  | acknowledge => simp [Stage.Settled] at hp
  | await => simp [Stage.Settled] at hp

theorem AttemptStep.from_planned (h : AttemptStep intent slaveAddress p labels q)
    (hp : p.stage.Settled ∨ (p.stage = .writing ∨ p.stage = .checking) ∧ p.state.currentPlan = some plan) :
    q.stage.Settled ∨ (q.stage = .writing ∨ q.stage = .checking) ∧ q.state.currentPlan = some plan := by
  cases h with
  | look _ => exact hp
  | write _ _ => exact hp
  | acknowledge => exact hp
  | await => exact hp.imp (by simp [Stage.Settled]) fun h => ⟨.inr rfl, h.2⟩
  | confirm _ _ _ _ => exact .inl (.inl rfl)
  | close _ _ _ => exact .inl (.inr rfl)
  | restart => simp [Stage.Settled] at hp
  | plan _ => simp [Stage.Settled] at hp
  | diverge _ _ _ => simp [Stage.Settled] at hp

theorem path_writes (h : Path (AttemptStep intent slaveAddress) p labels q)
    (hp : p.stage = .verifying ∨ p.stage = .planning) :
    ((q.stage = .verifying ∨ q.stage = .planning ∨ q.stage.Settled) ∧
      ∀ l ∈ labels, l.1.isWrite = false) ∨
    ∃ plan, PlanOf intent slaveAddress plan ∧
      (q.stage.Settled ∨ (q.stage = .writing ∨ q.stage = .checking) ∧ q.state.currentPlan = some plan) ∧
      ∀ l ∈ labels, l.1.isWrite = true → WrittenUnder slaveAddress plan l := by
  induction h with
  | refl => exact .inl ⟨hp.imp_right .inl, by simp⟩
  | @tail t u xs ys _ hs ih =>
      rcases ih with ⟨hstage, hquiet⟩ | ⟨plan, hplan, hstage, hwritten⟩
      · have hsilent : ∀ l ∈ xs ++ ys, l.1.isWrite = false := by
          refine List.forall_mem_append.mpr ⟨hquiet, hs.silent ?_⟩
          rintro heq
          simp [heq, Stage.Settled] at hstage
        rcases hs.from_unplanned hstage with hu | ⟨plan, hplan, hu, hholds⟩
        · exact .inl ⟨hu, hsilent⟩
        · refine .inr ⟨plan, hplan, .inr ⟨.inl hu, hholds⟩, ?_⟩
          intro l hl hw
          rw [hsilent l hl] at hw
          cases hw
      · refine .inr ⟨plan, hplan, hs.from_planned hstage, List.forall_mem_append.mpr ⟨hwritten, ?_⟩⟩
        intro l hl hw
        obtain ⟨hwriting, -, hsnapshot, plan', hl'⟩ := hs.write_cases hl hw
        have hsame : t.state.currentPlan = some plan :=
          (hstage.resolve_left (by simp [hwriting, Stage.Settled])).2
        have hown : t.state.currentPlan = some plan' := hsnapshot ▸ hl'.1
        have heq : plan' = plan := Option.some.inj (hown.symm.trans hsame)
        exact heq ▸ hl'

theorem path_write_fits (hreceived : received intent)
    (h : Path (AttemptStep intent slaveAddress) p labels q)
    (hp : Fits w slaveAddress received intent p) {l : Interaction × RoomIntentState F}
    (hl : l ∈ labels) (hw : l.1.isWrite = true) :
    Fits w slaveAddress received intent ⟨.writing, l.2⟩ := by
  obtain ⟨before, after, rfl⟩ := List.append_of_mem hl
  obtain ⟨pre, pre', post, t, t', hpath, hs, -⟩ := h.locate
  obtain ⟨hwriting, -, hsnapshot, -⟩ := hs.write_cases (by simp) hw
  have ht := path_fits hreceived hpath hp
  rw [hsnapshot, ← hwriting]
  exact ht

theorem path_resumed (h : Path (AttemptStep intent slaveAddress) p labels q)
    (hp : p.stage = .verifying) (hplan : p.state.currentPlan = some plan) :
    q = p ∨ q.stage.Settled ∨ ShowsMismatch slaveAddress plan (labels.map (·.1)) := by
  induction h with
  | refl => exact .inl rfl
  | @tail t u xs ys _ hs ih =>
      rw [List.map_append]
      rcases ih with rfl | hsettled | hshows
      · cases hs with
        | look _ => exact .inl rfl
        | confirm _ _ _ _ => exact .inr (.inl (.inl rfl))
        | close _ _ _ => exact .inr (.inl (.inr rfl))
        | @diverge st a plan' notes values hplan' hread hne =>
            have heq : plan' = plan := Option.some.inj (hplan'.symm.trans hplan)
            subst heq
            refine .inr (.inr ⟨xs.map (·.1), notes, [], values, ?_, hread, hne⟩)
            simp [Function.comp_def]
        | _ => cases hp
      · refine .inr (.inl ?_)
        cases hs with
        | look _ => exact hsettled
        | confirm _ _ _ _ => exact .inl rfl
        | close _ _ _ => exact .inr rfl
        | _ => simp [Stage.Settled] at hsettled
      · exact .inr (.inr (hshows.append _))

theorem path_rewrites {before after : List (Interaction × RoomIntentState F)}
    {l : Interaction × RoomIntentState F}
    (h : Path (AttemptStep intent slaveAddress) p (before ++ l :: after) q)
    (hp : p.stage = .verifying) (hplan : p.state.currentPlan = some plan) (hw : l.1.isWrite = true) :
    ShowsMismatch slaveAddress plan (before.map (·.1)) := by
  obtain ⟨pre, pre', post, t, t', hpath, hs, rfl⟩ := h.locate
  have hwriting := (hs.write_cases (by simp) hw).1
  rw [List.map_append]
  rcases path_resumed hpath hp hplan with rfl | hsettled | hshows
  · rw [hwriting] at hp
    cases hp
  · simp [hwriting, Stage.Settled] at hsettled
  · exact hshows.append _

theorem path_applied (hreceived : received intent)
    (h : Path (AttemptStep intent slaveAddress) p labels q)
    (hp : Fits w slaveAddress received intent p) (hstart : ¬ p.stage.Settled)
    (hq : q.stage = .applied) :
    ∃ plan, ∃ a : IntentAttempt F, a.MadeFrom w intent ∧ a.Planned w slaveAddress received plan ∧
      ShowsMatch slaveAddress plan (labels.map (·.1)) := by
  induction h with
  | refl => exact absurd (.inl hq) hstart
  | @tail t u xs ys ht hs ih =>
      rw [List.map_append]
      have hfits := path_fits hreceived ht hp
      cases hs with
      | look hquiet =>
          obtain ⟨plan, a, hmade, hplanned, hshows⟩ := ih hq
          exact ⟨plan, a, hmade, hplanned, hshows.append (by simp [hquiet.not_write])⟩
      | @confirm stage st a plan notes result hstage hplan hread _ =>
          obtain ⟨hsound, attempt, hcurrent, hmade, hshown⟩ := hfits
          cases hcurrent
          have hphase : a.phase = .writing ∨ a.phase = .verificationPending := by
            rcases hstage with rfl | rfl
            · exact hshown
            · exact .inr hshown
          obtain ⟨plan', hplanned⟩ := hsound.planned a rfl hphase
          have heq : plan' = plan := Option.some.inj (hplanned.1.symm.trans hplan)
          refine ⟨plan, a, hmade, heq ▸ hplanned, xs.map (·.1), notes, [], by simp [Function.comp_def], hread, ?_⟩
          rw [List.append_nil]
          exact hread.not_write
      | _ => cases hq

end ClockOrchestrator
