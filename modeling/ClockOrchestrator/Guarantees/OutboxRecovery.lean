import ClockOrchestrator.Guarantees.TopicOrder

namespace ClockOrchestrator

open Python Trace

structure OutboxEvent.Fresh (row : OutboxEvent) : Prop where
  status : row.status = .pending
  attempts : row.attempts = 0
  nextAttemptAt : row.nextAttemptAt = some row.createdAt
  claimedAt : row.claimedAt = none
  claimedBy : row.claimedBy = none

theorem outboxEvent_fresh {H : Type} (rt : AppRuntime H) (db : Db H) (topic : String)
    (payload : OutboxPayload) (observedAt : Instant) (correlationId : UUID) :
    (outboxEvent rt db topic payload observedAt correlationId).Fresh :=
  ⟨rfl, rfl, rfl, rfl, rfl⟩

def OutboxEvent.Claimed (row : OutboxEvent) : Prop :=
  row.status = .publishing → row.claimedAt.isSome = true

theorem OutboxEvent.Fresh.claimed {row : OutboxEvent} (h : row.Fresh) : row.Claimed := by
  intro hstatus
  rw [h.status] at hstatus
  cases hstatus

theorem RowStep.claimed_after {row row' : OutboxEvent} (h : RowStep row row') : row'.Claimed := by
  intro hstatus
  cases h with
  | claimed workerId now => rfl
  | reported policy result jitter now =>
      simp only [resultRow, failedRow] at hstatus
      split at hstatus
      · cases hstatus
      · split at hstatus
        · cases hstatus
        · cases hstatus
  | released now => cases hstatus
  | retried now => cases hstatus

section Claims

variable {rows : List OutboxEvent} {row : OutboxEvent} {now : Instant} {limit : ℕ}

theorem claimable_of_limit (hlimit : (rows.filter (isClaimable now)).length ≤ limit)
    (hrow : row ∈ rows) (hdue : isClaimable now row = true) : row ∈ claimable now limit rows := by
  have hsorted : ((rows.filter (isClaimable now)).insertionSort fun a b : OutboxEvent =>
      a.rank ≤ b.rank).length ≤ limit := by
    rw [List.length_insertionSort]
    exact hlimit
  rw [claimable, List.take_of_length_le hsorted, List.mem_insertionSort]
  exact List.mem_filter.mpr ⟨hrow, hdue⟩

def releasedOr (now : Instant) (olderThan : ℤ) (row : OutboxEvent) : OutboxEvent :=
  if isStale now olderThan row then releasedRow now row else row

theorem releasedOr_message (olderThan : ℤ) (row : OutboxEvent) :
    (releasedOr now olderThan row).message = row.message := by
  rw [releasedOr]
  split
  · rfl
  · rfl

def dueFrom (olderThan : ℤ) (row : OutboxEvent) : Instant :=
  if row.status = .publishing then row.claimedAt.getD 0 + olderThan + 1
  else row.nextAttemptAt.getD 0

theorem releasedOr_due (hclaimed : row.Claimed) (hpublished : row.status ≠ .published)
    (hdead : row.status ≠ .deadLetter) (olderThan : ℤ) (hnow : dueFrom olderThan row ≤ now) :
    isClaimable now (releasedOr now olderThan row) = true := by
  cases hstatus : row.status with
  | publishing =>
      obtain ⟨claimedAt, hclaimedAt⟩ := Option.isSome_iff_exists.mp (hclaimed hstatus)
      rw [dueFrom, if_pos hstatus, hclaimedAt, Option.getD_some] at hnow
      have hstale : isStale now olderThan row = true := by
        rw [isStale, hstatus, hclaimedAt]
        simp only [decide_true, Bool.true_and, Option.any_some, decide_eq_true_eq]
        exact Int.lt_sub_right_of_add_lt (Int.add_one_le_iff.mp hnow)
      rw [releasedOr, if_pos hstale]
      simp [isClaimable, releasedRow]
  | pending | retrying =>
      have hfresh : isStale now olderThan row = false := by simp [isStale, hstatus]
      rw [releasedOr, hfresh]
      simp only [dueFrom, hstatus, reduceCtorEq, if_false] at hnow
      cases hnext : row.nextAttemptAt with
      | none => simp [isClaimable, hstatus, hnext]
      | some nextAttemptAt =>
          rw [hnext, Option.getD_some] at hnow
          simp [isClaimable, hstatus, hnext, hnow]
  | published => exact absurd hstatus hpublished
  | deadLetter => exact absurd hstatus hdead

theorem claimPending_takes (hclaimed : row.Claimed) (hrow : row ∈ rows)
    (hpublished : row.status ≠ .published) (hdead : row.status ≠ .deadLetter) (olderThan : ℤ)
    (hnow : dueFrom olderThan row ≤ now) (workerId : String)
    (hlimit : ((releaseStalePublishing now olderThan rows).filter (isClaimable now)).length ≤
      limit) :
    row.message ∈
      (claimPending workerId now limit (releaseStalePublishing now olderThan rows)).1 := by
  have hreleased : releasedOr now olderThan row ∈ releaseStalePublishing now olderThan rows :=
    List.mem_map_of_mem (f := releasedOr now olderThan) hrow
  have hdue := releasedOr_due hclaimed hpublished hdead olderThan hnow
  rw [← releasedOr_message olderThan row]
  exact List.mem_map_of_mem (claimable_of_limit hlimit hreleased hdue)

end Claims

namespace OutboxState

def EnqueuesFresh (_ : OutboxState) (a : OutboxAction) : Prop := ∀ row ∈ a.created, row.Fresh

variable {s t : OutboxState} {a : OutboxAction}

theorem next_claimed (hg : s.EnqueuesFresh a) (h : s.next a = some t)
    (hs : ∀ row ∈ s.rows, row.Claimed) : ∀ row ∈ t.rows, row.Claimed := by
  obtain ⟨rows, hrows, heq⟩ := next_rows h
  have hkept := hrows.all (fun _ _ hstep _ => hstep.claimed_after) hs
  intro row hrow
  rw [heq, List.mem_append] at hrow
  rcases hrow with hrow | hrow
  · exact hkept row hrow
  · exact (hg row hrow).claimed

theorem run_claimed {as : List OutboxAction} (h : Run OutboxState.next EnqueuesFresh s as t)
    (hs : ∀ row ∈ s.rows, row.Claimed) : ∀ row ∈ t.rows, row.Claimed :=
  h.invariant (I := fun s => ∀ row ∈ s.rows, row.Claimed)
    (fun _ _ _ hg hn hi => next_claimed hg hn hi) hs

theorem run_content {guard : OutboxState → OutboxAction → Prop} {as : List OutboxAction}
    (h : Run OutboxState.next guard s as t) :
    s.rows.map (·.content) <+: t.rows.map (·.content) := by
  refine h.invariant (I := fun u => s.rows.map (·.content) <+: u.rows.map (·.content)) ?_
    List.prefix_rfl
  intro u a u' _ hn hi
  rw [next_content hn]
  exact hi.trans (List.prefix_append _ _)

theorem no_event_is_stranded {as bs : List OutboxAction}
    (h : Run OutboxState.next EnqueuesFresh (.start []) as s)
    (h' : Run OutboxState.next EnqueuesFresh s bs t) :
    s.rows.map (·.content) <+: t.rows.map (·.content) ∧
    (∀ row ∈ t.rows, row.status = .publishing → row.claimedAt.isSome = true) ∧
    ∀ row ∈ t.rows, row.status ≠ .published → row.status ≠ .deadLetter → ∀ olderThan,
      ∃ due, ∀ now, due ≤ now → ∀ workerId limit,
        ((releaseStalePublishing now olderThan t.rows).filter (isClaimable now)).length ≤ limit →
        row.message ∈
          (claimPending workerId now limit (releaseStalePublishing now olderThan t.rows)).1 := by
  have hclaimed : ∀ row ∈ t.rows, row.Claimed :=
    run_claimed (h.append h') (by simp [start])
  refine ⟨run_content h', hclaimed, ?_⟩
  intro row hrow hpublished hdead olderThan
  refine ⟨dueFrom olderThan row, fun now hnow workerId limit hlimit => ?_⟩
  exact claimPending_takes (hclaimed row hrow) hrow hpublished hdead olderThan hnow workerId hlimit

end OutboxState

def demoDeadWorker : List OutboxAction :=
  [.enqueue [demoControlEvent 1 0, demoControlEvent 2 1], demoClaim 2, .abandon 0]

theorem dead_worker_rows_are_claimed_again :
    ∃ t, Run OutboxState.next OutboxState.EnqueuesFresh (.start []) demoDeadWorker t ∧
      ∀ row ∈ t.rows, ∃ due, ∀ now, due ≤ now → ∀ workerId limit,
        ((releaseStalePublishing now 30000000 t.rows).filter (isClaimable now)).length ≤ limit →
        row.message ∈
          (claimPending workerId now limit (releaseStalePublishing now 30000000 t.rows)).1 := by
  obtain ⟨t, hrun, hchecked⟩ := exists_run OutboxState.next (fun _ _ => True) (.start [])
    demoDeadWorker (p := fun t => decide (∀ row ∈ t.rows, row.status = .publishing))
    (by decide +kernel)
  have hpublishing := of_decide_eq_true hchecked
  have hfresh : ∀ a ∈ demoDeadWorker, ∀ row ∈ a.created, row.Fresh := by
    intro a ha row hrow
    simp only [demoDeadWorker, List.mem_cons, List.not_mem_nil, or_false] at ha
    rcases ha with rfl | rfl | rfl
    · simp only [OutboxAction.created, List.mem_cons, List.not_mem_nil, or_false] at hrow
      rcases hrow with rfl | rfl
      · exact outboxEvent_fresh ..
      · exact outboxEvent_fresh ..
    · cases hrow
    · cases hrow
  have hrun' : Run OutboxState.next OutboxState.EnqueuesFresh (.start []) demoDeadWorker t :=
    (hrun.with_actions hfresh).mono fun _ _ hg => hg.2
  refine ⟨t, hrun', fun row hrow => ?_⟩
  have hstatus := hpublishing row hrow
  exact (OutboxState.no_event_is_stranded hrun' (.nil t)).2.2 row hrow (by rw [hstatus]; nofun)
    (by rw [hstatus]; nofun) 30000000

end ClockOrchestrator
