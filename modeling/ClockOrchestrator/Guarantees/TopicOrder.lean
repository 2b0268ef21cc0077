import ClockOrchestrator.Outbox.Workers
import ClockOrchestrator.Support.OrderedDelivery
import ClockOrchestrator.Runtime

namespace ClockOrchestrator

open Python Trace OrderedDelivery

def EnqueuedBefore (columns : List (UUID × String)) (e e' : UUID) : Prop :=
  ∃ c ∈ columns, ∃ c' ∈ columns, [c, c'].Sublist columns ∧ c.1 = e ∧ c'.1 = e' ∧ c.2 = c'.2

instance (columns : List (UUID × String)) (e e' : UUID) : Decidable (EnqueuedBefore columns e e') :=
  inferInstanceAs (Decidable (∃ _ ∈ _, _))

theorem enqueuedBefore_of_append {columns new : List (UUID × String)}
    (hunique : ((columns ++ new).map Prod.fst).Nodup) {e e' : UUID}
    (he : e ∈ columns.map Prod.fst) (he' : e' ∈ columns.map Prod.fst)
    (h : EnqueuedBefore (columns ++ new) e e') : EnqueuedBefore columns e e' := by
  obtain ⟨c, -, c', -, hsub, rfl, rfl, htopic⟩ := h
  rw [List.map_append, List.nodup_append] at hunique
  have hold : ∀ x : UUID × String, x.1 ∈ columns.map Prod.fst → x ∉ new := by
    intro x hx hnew
    exact hunique.2.2 x.1 hx x.1 (List.mem_map_of_mem hnew) rfl
  obtain ⟨front, back, hsplit, hfront, hback⟩ := List.sublist_append_iff.mp hsub
  have hnil : back = [] := by
    refine List.eq_nil_iff_forall_not_mem.mpr fun x hx => ?_
    have hmem : x ∈ [c, c'] := hsplit ▸ List.mem_append_right _ hx
    rcases List.mem_pair.mp hmem with rfl | rfl
    · exact hold _ he (hback.subset hx)
    · exact hold _ he' (hback.subset hx)
  rw [hnil, List.append_nil] at hsplit
  rw [← hsplit] at hfront
  exact ⟨c, hfront.subset (by simp), c', hfront.subset (by simp), hfront, rfl, rfl, htopic⟩

namespace OutboxState

def KeepsTopicOrder (s : OutboxState) (a : OutboxAction) : Prop :=
  (∀ m ∈ s.taken a, ∀ b ∈ s.broker, ¬ EnqueuedBefore s.columns m.id b.id) ∧
    ∀ m ∈ s.arrival a, ∀ w ∈ s.waiting, ¬ EnqueuedBefore s.columns w.id m.id

instance (s : OutboxState) (a : OutboxAction) : Decidable (s.KeepsTopicOrder a) :=
  inferInstanceAs (Decidable (_ ∧ _))

structure Delivering (s : OutboxState) : Prop where
  unique : s.Unique
  waiting : ∀ e ∈ s.waiting.map (·.id), e ∈ s.rows.map (·.id)
  broker : ∀ e ∈ s.broker.map (·.id), e ∈ s.rows.map (·.id)
  inOrder : InOrder (EnqueuedBefore s.columns) (s.waiting.map (·.id)) (s.broker.map (·.id))

theorem delivering_start {rows : List OutboxEvent} (h : (rows.map (·.id)).Nodup) :
    (start rows).Delivering :=
  ⟨h, by simp [start, OutboxState.waiting], by simp [start], .start _ _⟩

theorem taken_of_arrival {s : OutboxState} {a : OutboxAction} {m : PendingOutboxMessage}
    (h : s.arrival a = some m) : s.taken a = [] := by
  cases a with
  | claim workerId now limit => cases h
  | _ => rfl

theorem delivering_next {s t : OutboxState} {a : OutboxAction} (hg : s.KeepsTopicOrder a)
    (h : s.next a = some t) (hs : s.Delivering) : t.Delivering := by
  have hmoves := next_moves h
  obtain ⟨new, hnew⟩ := hmoves.columns
  have hunique := hmoves.unique hs.unique
  have hids : ∀ e ∈ s.rows.map (·.id), e ∈ t.rows.map (·.id) := by
    intro e he
    rw [ids_eq, ← hnew, List.map_append]
    exact List.mem_append_left _ (ids_eq s ▸ he)
  have hwaiting : ∀ e ∈ (s.waiting ++ s.taken a).map (·.id), e ∈ s.rows.map (·.id) := by
    intro e he
    rw [List.map_append, List.mem_append] at he
    rcases he with he | he
    · exact hs.waiting e he
    · obtain ⟨m, hm, rfl⟩ := List.mem_map.mp he
      exact hmoves.taken m hm
  have htaken : InOrder (EnqueuedBefore s.columns) ((s.waiting ++ s.taken a).map (·.id))
      (s.broker.map (·.id)) := by
    rw [List.map_append]
    refine hs.inOrder.take ?_
    intro e he b hb
    obtain ⟨m, hm, rfl⟩ := List.mem_map.mp he
    obtain ⟨m', hm', rfl⟩ := List.mem_map.mp hb
    exact hg.1 m hm m' hm'
  have harrived : InOrder (EnqueuedBefore s.columns) ((s.waiting ++ s.taken a).map (·.id))
      (t.broker.map (·.id)) := by
    rw [hmoves.broker]
    cases harrival : s.arrival a with
    | none => simpa using htaken
    | some m =>
        rw [taken_of_arrival harrival, List.append_nil] at htaken ⊢
        rw [Option.toList_some, List.map_append, List.map_singleton]
        refine htaken.arrive (List.mem_map_of_mem (hmoves.arrival m harrival)) ?_
        intro e he
        obtain ⟨w, hw, rfl⟩ := List.mem_map.mp he
        exact hg.2 m harrival w hw
  have hbroker : ∀ e ∈ t.broker.map (·.id), e ∈ s.rows.map (·.id) := by
    intro e he
    rw [hmoves.broker, List.map_append, List.mem_append] at he
    rcases he with he | he
    · exact hs.broker e he
    · obtain ⟨m, hm, rfl⟩ := List.mem_map.mp he
      exact hs.waiting _ (List.mem_map_of_mem (hmoves.arrival m (Option.mem_toList.mp hm)))
  have hsub : t.waiting.map (·.id) ⊆ (s.waiting ++ s.taken a).map (·.id) :=
    List.map_subset _ hmoves.waiting
  refine ⟨hunique, fun e he => hids e (hwaiting e (hsub he)), fun e he => hids e (hbroker e he), ?_⟩
  refine (harrived.mono hsub).congr (fun e he => hwaiting e (hsub he)) hbroker ?_
  intro e e' he he' hbefore
  rw [← hnew] at hbefore
  refine enqueuedBefore_of_append ?_ (ids_eq s ▸ he) (ids_eq s ▸ he') hbefore
  rw [hnew, ← ids_eq]
  exact hunique

theorem topic_never_goes_back {rows : List OutboxEvent} (hrows : (rows.map (·.id)).Nodup)
    {as : List OutboxAction} {t : OutboxState}
    (h : Run OutboxState.next KeepsTopicOrder (.start rows) as t) {e1 e2 : UUID}
    (hbefore : EnqueuedBefore t.columns e1 e2) : ¬ [e2, e1].Sublist (t.broker.map (·.id)) := by
  have hs : t.Delivering :=
    h.invariant (fun _ _ _ hg hn hi => delivering_next hg hn hi) (delivering_start hrows)
  intro hsub
  exact List.pairwise_iff_forall_sublist.mp hs.inOrder.arrived hsub hbefore

end OutboxState

def demoControlEvent (id : UUID) (minute : ℕ) : OutboxEvent :=
  outboxEvent (demoRuntime false) { Db.empty _ with drawn := id }
    ((demoRuntime false).topics.roomControlState "214")
    (.control (defaultControlStatePayload "214" (demoInstant 10 minute)))
    (demoInstant 10 minute) 3001

def demoOutbox : OutboxState := .start [demoControlEvent 1 0, demoControlEvent 2 1]

def demoClaim (minute : ℕ) : OutboxAction := .claim "worker-1" (demoInstant 10 minute) 25

def demoRecord (minute : ℕ) : OutboxAction :=
  .record {} 0 (fun _ => 0) (demoInstant 10 minute)

def demoAcknowledged (minute : ℕ) : OutboxAction :=
  .publish 0 (.acknowledged (demoInstant 10 minute))

theorem single_batch_keeps_order :
    ∃ t, Run OutboxState.next OutboxState.KeepsTopicOrder demoOutbox
        [demoClaim 2, demoAcknowledged 2, demoAcknowledged 2, demoRecord 2] t ∧
      t.broker.map (·.id) = [1, 2] ∧ EnqueuedBefore t.columns 1 2 ∧
      ¬ [2, 1].Sublist (t.broker.map (·.id)) := by
  obtain ⟨t, hrun, hchecked⟩ := exists_run OutboxState.next
    OutboxState.KeepsTopicOrder demoOutbox
    [demoClaim 2, demoAcknowledged 2, demoAcknowledged 2, demoRecord 2]
    (p := fun t => decide (t.broker.map (·.id) = [1, 2] ∧ EnqueuedBefore t.columns 1 2))
    (by decide +kernel)
  obtain ⟨hbroker, hbefore⟩ := of_decide_eq_true hchecked
  exact ⟨t, hrun, hbroker, hbefore, OutboxState.topic_never_goes_back (by decide) hrun hbefore⟩

theorem backoff_publishes_older_document :
    ∃ t, Run OutboxState.next (fun _ _ => True) demoOutbox
        [demoClaim 2, .publish 0 (.rejected "ConnectionError"), demoAcknowledged 2, demoRecord 2,
          demoClaim 3, demoAcknowledged 3, demoRecord 3] t ∧
      EnqueuedBefore t.columns 1 2 ∧ [2, 1].Sublist (t.broker.map (·.id)) := by
  obtain ⟨t, hrun, hchecked⟩ := exists_run OutboxState.next (fun _ _ => True)
    demoOutbox [demoClaim 2, .publish 0 (.rejected "ConnectionError"), demoAcknowledged 2,
      demoRecord 2, demoClaim 3, demoAcknowledged 3, demoRecord 3]
    (p := fun t => decide (EnqueuedBefore t.columns 1 2 ∧
      [2, 1].Sublist (t.broker.map PendingOutboxMessage.id))) (by decide +kernel)
  exact ⟨t, hrun, of_decide_eq_true hchecked⟩

end ClockOrchestrator
