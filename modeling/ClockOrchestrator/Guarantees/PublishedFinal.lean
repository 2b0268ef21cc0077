import ClockOrchestrator.Guarantees.TopicOrder

namespace ClockOrchestrator

open Python Trace

def StaysPublished (rows rows' : List OutboxEvent) : Prop :=
  ∀ row ∈ rows, row.status = .published → ∃ row' ∈ rows', row'.id = row.id ∧
    row'.status = .published

namespace StaysPublished

variable {rows rows' rows'' : List OutboxEvent}

theorem refl (rows : List OutboxEvent) : StaysPublished rows rows :=
  fun row hrow hp => ⟨row, hrow, rfl, hp⟩

theorem trans (h : StaysPublished rows rows') (h' : StaysPublished rows' rows'') :
    StaysPublished rows rows'' := by
  intro row hrow hp
  obtain ⟨row', hrow', hid, hp'⟩ := h row hrow hp
  obtain ⟨row'', hrow'', hid', hp''⟩ := h' row' hrow' hp'
  exact ⟨row'', hrow'', hid'.trans hid, hp''⟩

theorem of_map {f : OutboxEvent → OutboxEvent}
    (hf : ∀ row ∈ rows, row.status = .published →
      (f row).id = row.id ∧ (f row).status = .published) : StaysPublished rows (rows.map f) :=
  fun row hrow hp => ⟨f row, List.mem_map_of_mem hrow, hf row hrow hp⟩

theorem of_append (new : List OutboxEvent) : StaysPublished rows (rows ++ new) :=
  fun row hrow hp => ⟨row, List.mem_append_left _ hrow, rfl, hp⟩

end StaysPublished

section Rows

variable {rows : List OutboxEvent} {now : Instant}

theorem claim_staysPublished (hunique : (rows.map (·.id)).Nodup) (workerId : String) (limit : ℕ) :
    StaysPublished rows (claimPending workerId now limit rows).2 := by
  refine .of_map fun row hrow hp => ?_
  split
  · next hclaimed =>
      obtain ⟨c, hc, hid⟩ := List.mem_map.mp hclaimed
      obtain ⟨hmem, hclaimable⟩ := mem_claimable hc
      rw [KeyedTable.eq_of_key hunique hmem hrow hid] at hclaimable
      simp [isClaimable, hp] at hclaimable
  · exact ⟨rfl, hp⟩

theorem release_staysPublished (olderThan : ℤ) :
    StaysPublished rows (releaseStalePublishing now olderThan rows) := by
  refine .of_map fun row _ hp => ?_
  split
  · next hstale => simp [isStale, hp] at hstale
  · exact ⟨rfl, hp⟩

theorem retry_staysPublished : StaysPublished rows (retryDeadLetters now rows) := by
  refine .of_map fun row _ hp => ?_
  split
  · next hdead =>
      rw [hp] at hdead
      cases hdead
  · exact ⟨rfl, hp⟩

def KeepsRow (rows : List OutboxEvent) (result : OutboxPublishResult) : Prop :=
  result.published = false → ∀ row ∈ rows, row.id = result.messageId → row.status ≠ .published

instance (rows : List OutboxEvent) (result : OutboxPublishResult) :
    Decidable (KeepsRow rows result) :=
  inferInstanceAs (Decidable (_ → _))

theorem result_staysPublished {result : OutboxPublishResult} (hkeeps : KeepsRow rows result)
    (policy : OutboxRetryPolicy) (jitter : ℤ) :
    StaysPublished rows
      (updateWhere [result.messageId] (resultRow policy result jitter now) rows) := by
  refine .of_map fun row hrow hp => ?_
  split
  · next hid =>
      cases hpublished : result.published with
      | true =>
          unfold resultRow
          rw [if_pos hpublished]
          exact ⟨rfl, rfl⟩
      | false => exact absurd hp (hkeeps hpublished row hrow (List.mem_singleton.mp hid))
  · exact ⟨rfl, hp⟩

theorem keepsRow_of_other {x : UUID} {f : OutboxEvent → OutboxEvent}
    (hf : ∀ row, (f row).id = row.id) {result : OutboxPublishResult}
    (hne : result.messageId ≠ x) (h : KeepsRow rows result) :
    KeepsRow (updateWhere [x] f rows) result := by
  intro hpublished row' hrow' hid
  obtain ⟨row, hrow, rfl⟩ := List.mem_map.mp hrow'
  split at hid
  · next hx =>
      rw [hf, List.mem_singleton.mp hx] at hid
      exact absurd hid.symm hne
  · next hx =>
      rw [if_neg hx]
      exact h hpublished row hrow hid

theorem record_staysPublished (policy : OutboxRetryPolicy)
    {results : List (OutboxPublishResult × ℤ)}
    (hunique : (results.map (·.1.messageId)).Nodup) (hkeeps : ∀ r ∈ results, KeepsRow rows r.1) :
    StaysPublished rows (recordResults policy now results rows) := by
  induction results generalizing rows with
  | nil => exact .refl rows
  | cons r rest ih =>
      obtain ⟨result, jitter⟩ := r
      rw [List.map_cons, List.nodup_cons] at hunique
      refine (result_staysPublished (hkeeps _ (List.mem_cons_self ..)) policy jitter).trans
        (ih hunique.2 fun r hr => ?_)
      refine keepsRow_of_other (fun row => ?_) ?_ (hkeeps r (List.mem_cons_of_mem _ hr))
      · exact congrArg Prod.fst (RowStep.reported policy result jitter now row).content_eq
      · intro hid
        exact hunique.1 (hid ▸ List.mem_map_of_mem hr)

end Rows

namespace OutboxState

def KeepsPublished (s : OutboxState) : OutboxAction → Prop
  | .record _ i _ _ => ∀ batch ∈ s.batches[i]?, ∀ result ∈ batch.results, KeepsRow s.rows result
  | _ => True

instance (s : OutboxState) (a : OutboxAction) : Decidable (s.KeepsPublished a) := by
  cases a with
  | record policy i jitter now => exact inferInstanceAs (Decidable (∀ batch ∈ _, _))
  | _ => exact inferInstanceAs (Decidable True)

structure Accounted (s : OutboxState) : Prop where
  unique : s.Unique
  batches : ∀ batch ∈ s.batches,
    (batch.todo.map (·.id) ++ batch.results.map (·.messageId)).Nodup

theorem publishResult_messageId (m : PendingOutboxMessage) (outcome : PublishOutcome) :
    (publishResult m outcome).messageId = m.id := by
  cases outcome <;> rfl

theorem accounted_next {s t : OutboxState} {a : OutboxAction} (h : s.next a = some t)
    (hs : s.Accounted) : t.Accounted := by
  refine ⟨(next_moves h).unique hs.unique, ?_⟩
  cases next_steps h with
  | enqueued => exact hs.batches
  | released => exact hs.batches
  | claimed =>
      intro batch hbatch
      rcases List.mem_append.mp hbatch with hbatch | hbatch
      · exact hs.batches batch hbatch
      · rw [List.mem_singleton.mp hbatch, List.map_nil, List.append_nil, List.map_map]
        exact claimable_ids_nodup hs.unique _
  | published hbatch =>
      intro batch hmem
      rcases List.mem_or_eq_of_mem_set hmem with hmem | rfl
      · exact hs.batches batch hmem
      · have hold := hs.batches _ (List.mem_of_getElem? hbatch)
        rw [List.map_append, List.map_singleton, publishResult_messageId, ← List.append_assoc]
        rw [List.map_cons, List.cons_append] at hold
        exact List.perm_append_singleton _ _ |>.nodup_iff.mpr hold
  | delivered => exact hs.batches
  | discarded => exact hs.batches
  | recorded => exact fun batch hbatch => hs.batches batch (List.mem_of_mem_eraseIdx hbatch)
  | abandoned => exact fun batch hbatch => hs.batches batch (List.mem_of_mem_eraseIdx hbatch)
  | retried => exact hs.batches

theorem staysPublished_next {s t : OutboxState} {a : OutboxAction} (hg : s.KeepsPublished a)
    (h : s.next a = some t) (hs : s.Accounted) : StaysPublished s.rows t.rows := by
  cases next_steps h with
  | enqueued => exact .of_append _
  | released => exact release_staysPublished _
  | claimed => exact claim_staysPublished hs.unique _ _
  | published => exact .refl _
  | delivered => exact .refl _
  | discarded => exact .refl _
  | recorded hbatch =>
      have hnodup := hs.batches _ (List.mem_of_getElem? hbatch)
      refine record_staysPublished _ ?_ ?_
      · rw [List.map_map]
        exact hnodup
      · intro r hr
        obtain ⟨result, hresult, rfl⟩ := List.mem_map.mp hr
        exact hg _ hbatch result hresult
  | abandoned => exact .refl _
  | retried => exact retry_staysPublished

theorem published_is_final {rows : List OutboxEvent} (hrows : (rows.map (·.id)).Nodup)
    {as bs : List OutboxAction} {s t : OutboxState}
    (h : Run OutboxState.next (fun _ _ => True) (.start rows) as s)
    (h' : Run OutboxState.next KeepsPublished s bs t) {row : OutboxEvent} (hrow : row ∈ s.rows)
    (hp : row.status = .published) : ∀ row' ∈ t.rows, row'.id = row.id → row'.status = .published := by
  have hstart : (start rows).Accounted := ⟨hrows, by simp [start]⟩
  have hs : s.Accounted := h.invariant (fun _ _ _ _ hn hi => accounted_next hn hi) hstart
  have ht : t.Accounted ∧ StaysPublished s.rows t.rows :=
    h'.invariant (I := fun u => u.Accounted ∧ StaysPublished s.rows u.rows)
      (fun _ _ _ hg hn hi => ⟨accounted_next hn hi.1, hi.2.trans (staysPublished_next hg hn hi.1)⟩)
      ⟨hs, .refl _⟩
  intro row' hrow' hid
  obtain ⟨found, hfound, hfid, hfp⟩ := ht.2 row hrow hp
  rw [KeyedTable.eq_of_key ht.1.unique hrow' hfound (hid.trans hfid.symm)]
  exact hfp

end OutboxState

def demoTakeover : List OutboxAction :=
  [.claim "worker-1" (demoInstant 10 2) 25, .releaseStale (demoInstant 10 5) 30000000,
    .claim "worker-2" (demoInstant 10 5) 25, .publish 1 (.acknowledged (demoInstant 10 6)),
    .publish 1 (.acknowledged (demoInstant 10 6)),
    .record {} 1 (fun _ => 0) (demoInstant 10 6)]

def demoLateReport (outcome : PublishOutcome) : List OutboxAction :=
  [.publish 0 outcome, .publish 0 outcome, .record {} 0 (fun _ => 0) (demoInstant 10 7)]

def demoTakenOver : OutboxState :=
  (Trace.run OutboxState.next demoOutbox demoTakeover).getD demoOutbox

theorem demoTakenOver_run :
    Run OutboxState.next (fun _ _ => True) demoOutbox demoTakeover demoTakenOver := by
  obtain ⟨t, hrun, ht⟩ := exists_run OutboxState.next (fun _ _ => True) demoOutbox demoTakeover
    (p := fun t => decide (t = demoTakenOver)) (by decide +kernel)
  rw [← of_decide_eq_true ht]
  exact hrun

theorem late_success_stays_published :
    ∃ t, Run OutboxState.next OutboxState.KeepsPublished demoTakenOver
        (demoLateReport (.acknowledged (demoInstant 10 7))) t ∧
      ∀ row ∈ t.rows, row.id = 1 → row.status = .published := by
  obtain ⟨t, hrun, hchecked⟩ := exists_run OutboxState.next OutboxState.KeepsPublished
    demoTakenOver (demoLateReport (.acknowledged (demoInstant 10 7))) (p := fun _ => true)
    (by decide +kernel)
  obtain ⟨row, hrow, hid, hp⟩ : ∃ row ∈ demoTakenOver.rows, row.id = 1 ∧
      row.status = .published := by decide +kernel
  refine ⟨t, hrun, fun row' hrow' hid' => ?_⟩
  exact OutboxState.published_is_final (by decide) demoTakenOver_run hrun hrow hp row' hrow'
    (hid'.trans hid.symm)

theorem late_failure_unpublishes :
    (∃ row ∈ demoTakenOver.rows, row.id = 1 ∧ row.status = .published) ∧
      Run OutboxState.next (fun _ _ => True) demoOutbox demoTakeover demoTakenOver ∧
      ∃ t, Run OutboxState.next (fun _ _ => True) demoTakenOver
          (demoLateReport (.unacknowledged "RuntimeError")) t ∧
        ∃ row ∈ t.rows, row.id = 1 ∧ row.status = .retrying := by
  refine ⟨by decide +kernel, demoTakenOver_run, ?_⟩
  obtain ⟨t, hrun, hchecked⟩ := exists_run OutboxState.next (fun _ _ => True)
    demoTakenOver (demoLateReport (.unacknowledged "RuntimeError"))
    (p := fun t => decide (∃ row ∈ t.rows, row.id = 1 ∧ row.status = .retrying))
    (by decide +kernel)
  exact ⟨t, hrun, of_decide_eq_true hchecked⟩

end ClockOrchestrator
