import ClockOrchestrator.Guarantees.OutboxRecovery
import ClockOrchestrator.Outbox.RowMoves
import ClockOrchestrator.Support.RankedQueue

namespace ClockOrchestrator

open Python Trace RankedQueue

section Rows

variable {rows events xs ys zs : List OutboxEvent} {now : Instant} {f : OutboxEvent → OutboxEvent}

instance : Std.Total fun a b : OutboxEvent => a.rank ≤ b.rank :=
  ⟨fun a b => le_total a.rank b.rank⟩

instance : IsTrans OutboxEvent fun a b => a.rank ≤ b.rank :=
  ⟨fun _ _ _ hab hbc => hab.trans hbc⟩

def inOrder (rows : List OutboxEvent) : List OutboxEvent :=
  rows.insertionSort fun a b => a.rank ≤ b.rank

theorem mem_inOrder {row : OutboxEvent} : row ∈ inOrder rows ↔ row ∈ rows :=
  List.mem_insertionSort _

theorem inOrder_pairwise (rows : List OutboxEvent) :
    (inOrder rows).Pairwise fun a b => a.rank ≤ b.rank :=
  List.pairwise_insertionSort _ rows

theorem inOrder_ids (rows : List OutboxEvent) :
    ((inOrder rows).map (·.id)).Perm (rows.map (·.id)) :=
  (List.perm_insertionSort _ rows).map _

theorem claimable_eq (now : Instant) (limit : ℕ) (rows : List OutboxEvent) :
    claimable now limit rows = ((inOrder rows).filter (isClaimable now)).take limit := by
  rw [claimable, insertionSort_filter]
  rfl

theorem inOrder_map (hf : ∀ row, (f row).rank = row.rank) :
    inOrder (rows.map f) = (inOrder rows).map f := by
  refine (List.map_insertionSort _ _ f rows ?_).symm
  intro a _ b _
  rw [hf, hf]

theorem inOrder_append (h : ∀ row ∈ rows, ∀ event ∈ events, row.rank < event.rank) :
    inOrder (rows ++ events) = inOrder rows ++ inOrder events :=
  insertionSort_append fun row hrow event hevent => (h row hrow event hevent).le

theorem map_middle (hids : ((xs ++ ys ++ zs).map (·.id)).Nodup)
    (hf : ∀ row : OutboxEvent, row.id ∉ ys.map (·.id) → f row = row) :
    (xs ++ ys ++ zs).map f = xs ++ ys.map f ++ zs := by
  simp only [List.map_append, List.nodup_append, List.mem_append] at hids
  obtain ⟨⟨-, -, hxs⟩, -, hzs⟩ := hids
  have hkept : ∀ ws : List OutboxEvent, (∀ w ∈ ws, w.id ∉ ys.map (·.id)) → ws.map f = ws := by
    intro ws hws
    exact (List.map_congr_left fun w hw => hf w (hws w hw)).trans (List.map_id' ws)
  rw [List.map_append, List.map_append, hkept xs, hkept zs]
  · intro z hz hmem
    exact hzs z.id (.inr hmem) z.id (List.mem_map_of_mem hz) rfl
  · intro x hx hmem
    exact hxs x.id (List.mem_map_of_mem hx) x.id hmem rfl

theorem updateWhere_middle (hids : ((xs ++ ys ++ zs).map (·.id)).Nodup) :
    updateWhere (ys.map (·.id)) f (xs ++ ys ++ zs) = xs ++ ys.map f ++ zs := by
  have hchanged : ys.map (fun row => if row.id ∈ ys.map (·.id) then f row else row) = ys.map f :=
    List.map_congr_left fun row hrow => if_pos (List.mem_map_of_mem hrow)
  rw [updateWhere, map_middle hids fun row hrow => if_neg hrow, hchanged]

def recordedRow (policy : OutboxRetryPolicy) (results : List OutboxPublishResult)
    (jitter : UUID → ℤ) (now : Instant) (row : OutboxEvent) : OutboxEvent :=
  (resultFor row.id results).elim row fun r => resultRow policy r (jitter row.id) now row

theorem recordedRow_rank (policy : OutboxRetryPolicy) (results : List OutboxPublishResult)
    (jitter : UUID → ℤ) (row : OutboxEvent) :
    (recordedRow policy results jitter now row).rank = row.rank := by
  unfold recordedRow
  cases resultFor row.id results with
  | none => rfl
  | some r =>
      simp only [Option.elim_some, resultRow, failedRow]
      split
      · rfl
      · split <;> rfl

theorem recordedRow_of_notMem {policy : OutboxRetryPolicy} {results : List OutboxPublishResult}
    {jitter : UUID → ℤ} {row : OutboxEvent} (h : row.id ∉ results.map (·.messageId)) :
    recordedRow policy results jitter now row = row := by
  rw [recordedRow, resultFor_eq_none.mpr h]
  rfl

theorem recordedRow_of_published {policy : OutboxRetryPolicy} {results : List OutboxPublishResult}
    {jitter : UUID → ℤ} {row : OutboxEvent} (hid : row.id ∈ results.map (·.messageId))
    (hpublished : ∀ r ∈ results, r.published = true) :
    (recordedRow policy results jitter now row).status = .published ∧
      (recordedRow policy results jitter now row).message = row.message := by
  unfold recordedRow
  cases hresult : resultFor row.id results with
  | none => exact absurd hid (resultFor_eq_none.mp hresult)
  | some r => simp [resultRow, hpublished r (resultFor_eq_some hresult).1, publishedRow,
      OutboxEvent.message]

theorem OutboxEvent.Fresh.claimable_iff {row : OutboxEvent} (h : row.Fresh) :
    isClaimable now row = true ↔ row.createdAt ≤ now := by
  simp [isClaimable, h.status, h.nextAttemptAt]

theorem createdAt_le_of_rank {a b : OutboxEvent} (h : a.rank ≤ b.rank) :
    a.createdAt ≤ b.createdAt := by
  rcases Prod.Lex.toLex_le_toLex.mp h with hlt | ⟨heq, -⟩
  · exact hlt.le
  · exact heq.le

theorem claimable_fresh {done waiting : List OutboxEvent}
    (hqueue : inOrder rows = done ++ waiting) (hdone : ∀ row ∈ done, isClaimable now row = false)
    (hwaiting : ∀ row ∈ waiting, row.Fresh) (limit : ℕ) : claimable now limit rows <+: waiting := by
  have hsorted := inOrder_pairwise rows
  rw [hqueue, List.pairwise_append] at hsorted
  have hnone : done.filter (isClaimable now) = [] :=
    List.filter_eq_nil_iff.mpr fun row hrow => by simp [hdone row hrow]
  rw [claimable_eq, hqueue, List.filter_append, hnone, List.nil_append]
  refine (List.take_prefix _ _).trans (filter_initial hsorted.2.1 ?_)
  intro a ha b hb hab hb'
  rw [(hwaiting a ha).claimable_iff]
  exact (createdAt_le_of_rank hab).trans ((hwaiting b hb).claimable_iff.mp hb')

end Rows

inductive Working : List OutboxBatch → List OutboxEvent → List OutboxEvent → Prop
  | idle : Working [] [] []
  | busy {sent unsent : List OutboxEvent} {results : List OutboxPublishResult}
      (hresults : results.map (fun r => (r.messageId, r.published)) =
        sent.map fun row => (row.id, true)) :
      Working [⟨unsent.map (·.message), results⟩] sent unsent

structure Backlog (s : OutboxState) (done sent unsent waiting : List OutboxEvent) : Prop where
  unique : s.Unique
  queue : inOrder s.rows = done ++ (sent ++ unsent) ++ waiting
  published : ∀ row ∈ done, row.status = .published
  claimed : ∀ row ∈ sent ++ unsent, row.status = .publishing
  fresh : ∀ row ∈ waiting, row.Fresh
  working : Working s.batches sent unsent
  broker : s.broker = (done ++ sent).map (·.message)
  unacknowledged : s.unacknowledged = []

namespace Backlog

variable {s t : OutboxState} {done sent unsent waiting : List OutboxEvent} {a : OutboxAction}

theorem start : Backlog (.start []) [] [] [] [] where
  unique := by simp [OutboxState.Unique, OutboxState.start]
  queue := rfl
  published := by simp
  claimed := by simp
  fresh := by simp
  working := .idle
  broker := rfl
  unacknowledged := rfl

theorem mem_rows (h : Backlog s done sent unsent waiting) {row : OutboxEvent} :
    row ∈ s.rows ↔ (row ∈ done ∨ row ∈ sent ++ unsent) ∨ row ∈ waiting := by
  rw [← mem_inOrder, h.queue, List.mem_append, List.mem_append]

theorem ids (h : Backlog s done sent unsent waiting) :
    ((done ++ (sent ++ unsent) ++ waiting).map (·.id)).Nodup := by
  rw [← h.queue]
  exact (inOrder_ids s.rows).nodup_iff.mpr h.unique

theorem enqueue (h : Backlog s done sent unsent waiting) {events : List OutboxEvent}
    (hfresh : ∀ event ∈ events, event.Fresh)
    (hlater : ∀ row ∈ s.rows, ∀ event ∈ events, row.rank < event.rank)
    (hunique : ((s.rows ++ events).map (·.id)).Nodup) :
    Backlog { s with rows := s.rows ++ events } done sent unsent (waiting ++ inOrder events) where
  unique := hunique
  queue := by
    change inOrder (s.rows ++ events) = _
    rw [inOrder_append hlater, h.queue, List.append_assoc]
  published := h.published
  claimed := h.claimed
  fresh := List.forall_mem_append.mpr ⟨h.fresh, fun row hrow => hfresh row (mem_inOrder.mp hrow)⟩
  working := h.working
  broker := h.broker
  unacknowledged := h.unacknowledged

theorem release (h : Backlog s done [] [] waiting) (now : Instant) (olderThan : ℤ) :
    releaseStalePublishing now olderThan s.rows = s.rows := by
  refine (List.map_congr_left fun row hrow => if_neg ?_).trans (List.map_id' s.rows)
  rcases h.mem_rows.mp hrow with (hdone | hclaimed) | hwaiting
  · simp [isStale, h.published row hdone]
  · cases hclaimed
  · simp [isStale, (h.fresh row hwaiting).status]

theorem retry (h : Backlog s done sent unsent waiting) (now : Instant) :
    retryDeadLetters now s.rows = s.rows := by
  refine (List.map_congr_left fun row hrow => if_neg ?_).trans (List.map_id' s.rows)
  rcases h.mem_rows.mp hrow with (hdone | hclaimed) | hwaiting
  · simp [h.published row hdone]
  · simp [h.claimed row hclaimed]
  · simp [(h.fresh row hwaiting).status]

theorem claim (h : Backlog s done [] [] waiting) (hidle : s.batches = []) (workerId : String)
    (now : Instant) (limit : ℕ) :
    claimable now limit s.rows <+: waiting ∧
      Backlog (s.claim workerId now limit) done []
        ((claimable now limit s.rows).map (claimedRow workerId now))
        (waiting.drop (claimable now limit s.rows).length) := by
  have hqueue := h.queue
  rw [List.append_nil, List.append_nil] at hqueue
  have htaken : claimable now limit s.rows <+: waiting := by
    refine claimable_fresh hqueue ?_ h.fresh limit
    intro row hrow
    simp [isClaimable, h.published row hrow]
  obtain ⟨rest, hrest⟩ := id htaken
  have hids := h.ids
  rw [List.append_nil, List.append_nil, ← hrest, ← List.append_assoc] at hids
  have hmap : inOrder (updateWhere ((claimable now limit s.rows).map (·.id))
      (claimedRow workerId now) s.rows) =
        done ++ (claimable now limit s.rows).map (claimedRow workerId now) ++ rest := by
    refine (inOrder_map fun row => ?_).trans ?_
    · split <;> rfl
    · rw [hqueue, ← hrest, ← List.append_assoc]
      exact updateWhere_middle hids
  refine ⟨htaken, ?_, ?_, h.published, ?_, ?_, ?_, ?_, h.unacknowledged⟩
  · exact OutboxState.next_unique (a := .claim workerId now limit) rfl h.unique
  · rw [List.nil_append, ← hrest, List.drop_left]
    exact hmap
  · intro row hrow
    obtain ⟨old, -, rfl⟩ := List.mem_map.mp hrow
    rfl
  · intro row hrow
    exact h.fresh row (List.mem_of_mem_drop hrow)
  · change Working (s.batches ++ [⟨(claimable now limit s.rows).map (·.message), []⟩]) _ _
    rw [hidle, List.nil_append]
    have hmessages : (claimable now limit s.rows).map (·.message) =
        ((claimable now limit s.rows).map (claimedRow workerId now)).map (·.message) := by
      rw [List.map_map]
      rfl
    rw [hmessages]
    exact .busy rfl
  · exact h.broker

theorem publish (h : Backlog s done sent unsent waiting) {i : ℕ} {m : PendingOutboxMessage}
    {todo : List PendingOutboxMessage} {results : List OutboxPublishResult}
    (hbatch : s.batches[i]? = some ⟨m :: todo, results⟩) (confirmedAt : Instant) :
    ∃ row rest, unsent = row :: rest ∧
      Backlog
        { s with
          batches := s.batches.set i ⟨todo, results ++ [publishResult m (.acknowledged confirmedAt)]⟩
          unacknowledged :=
            s.unacknowledged ++ PublishOutcome.held m (.acknowledged confirmedAt)
          broker := s.broker ++ PublishOutcome.delivered m (.acknowledged confirmedAt) }
        done (sent ++ [row]) rest waiting := by
  have hworking := h.working
  generalize hbatches : s.batches = batches at hbatch hworking
  cases hworking with
  | idle => cases hbatch
  | @busy _ _ results' hresults =>
      obtain ⟨hi, hfirst⟩ := List.getElem?_eq_some_iff.mp hbatch
      obtain rfl : i = 0 := by simpa using hi
      simp only [List.getElem_cons_zero, OutboxBatch.mk.injEq] at hfirst
      obtain ⟨htodo, rfl⟩ := hfirst
      obtain ⟨row, rest, rfl, rfl, rfl⟩ := List.map_eq_cons_iff.mp htodo
      refine ⟨row, rest, rfl, h.unique, ?_, h.published, ?_, h.fresh, ?_, ?_, ?_⟩
      · rw [h.queue, List.append_assoc sent]
        rfl
      · rw [List.append_assoc]
        exact h.claimed
      · refine .busy ?_
        simp [hresults, publishResult, OutboxEvent.message]
      · simp [h.broker, PublishOutcome.delivered]
      · simp [h.unacknowledged, PublishOutcome.held]

theorem record (h : Backlog s done sent unsent waiting) {i : ℕ}
    {results : List OutboxPublishResult} (hbatch : s.batches[i]? = some ⟨[], results⟩)
    (policy : OutboxRetryPolicy) (jitter : UUID → ℤ) (now : Instant) :
    unsent = [] ∧ ∃ recorded, recorded.map (·.message) = sent.map (·.message) ∧
      Backlog
        { s with
          rows := recordResults policy now (results.map fun r => (r, jitter r.messageId)) s.rows
          batches := s.batches.eraseIdx i }
        (done ++ recorded) [] [] waiting := by
  have hworking := h.working
  generalize hbatches : s.batches = batches at hbatch hworking
  cases hworking with
  | idle => cases hbatch
  | @busy _ _ results' hresults =>
      obtain ⟨hi, hfirst⟩ := List.getElem?_eq_some_iff.mp hbatch
      obtain rfl : i = 0 := by simpa using hi
      simp only [List.getElem_cons_zero, OutboxBatch.mk.injEq, List.map_eq_nil_iff] at hfirst
      obtain ⟨rfl, rfl⟩ := hfirst
      have hids := h.ids
      rw [List.append_nil] at hids
      have hresultIds : results'.map (·.messageId) = sent.map (·.id) := by
        simpa [Function.comp_def] using congrArg (List.map Prod.fst) hresults
      have hpublished : ∀ r ∈ results', r.published = true := by
        intro r hr
        have hpair : (r.messageId, r.published) ∈ sent.map fun row => (row.id, true) :=
          hresults ▸ List.mem_map_of_mem hr
        obtain ⟨row, -, hrow⟩ := List.mem_map.mp hpair
        exact (congrArg Prod.snd hrow).symm
      have hsent : (sent.map (·.id)).Nodup := by
        simp only [List.map_append, List.nodup_append] at hids
        exact hids.1.2.1
      have hrecorded : ∀ row ∈ sent,
          (recordedRow policy results' jitter now row).status = .published ∧
            (recordedRow policy results' jitter now row).message = row.message := fun row hrow =>
        recordedRow_of_published (hresultIds ▸ List.mem_map_of_mem hrow) hpublished
      have hrows : recordResults policy now (results'.map fun r => (r, jitter r.messageId)) s.rows =
          s.rows.map (recordedRow policy results' jitter now) :=
        recordResults_eq (hresultIds ▸ hsent) jitter
      have hmessages : (sent.map (recordedRow policy results' jitter now)).map (·.message) =
          sent.map (·.message) := by
        rw [List.map_map]
        exact List.map_congr_left fun row hrow => (hrecorded row hrow).2
      refine ⟨rfl, sent.map (recordedRow policy results' jitter now), hmessages, ?_, ?_, ?_, ?_,
        h.fresh, ?_, ?_, h.unacknowledged⟩
      · refine OutboxState.next_unique (a := .record policy 0 jitter now) ?_ h.unique
        simp [OutboxState.next, OutboxState.record, hbatches]
      · change inOrder (recordResults policy now _ s.rows) = _
        rw [hrows, inOrder_map (recordedRow_rank policy results' jitter), h.queue, List.append_nil,
          map_middle hids, List.append_nil, List.append_nil]
        intro row hrow
        exact recordedRow_of_notMem (hresultIds ▸ hrow)
      · refine List.forall_mem_append.mpr ⟨h.published, fun row hrow => ?_⟩
        obtain ⟨old, hold, rfl⟩ := List.mem_map.mp hrow
        exact (hrecorded old hold).1
      · simp
      · simpa [hbatches] using Working.idle
      · rw [h.broker, List.append_nil, List.map_append, List.map_append, hmessages]

end Backlog

namespace OutboxState

variable {s t : OutboxState} {a : OutboxAction}

def HasBacklog (s : OutboxState) : Prop :=
  ∃ done sent unsent waiting, Backlog s done sent unsent waiting

def queue (s : OutboxState) : List PendingOutboxMessage := (inOrder s.rows).map (·.message)

theorem HasBacklog.arrived (h : s.HasBacklog) : s.broker <+: s.queue := by
  obtain ⟨done, sent, unsent, waiting, h⟩ := h
  rw [h.broker, queue, h.queue]
  refine List.IsPrefix.map _ ?_
  rw [List.append_assoc, List.append_assoc, List.prefix_append_right_inj]
  exact List.prefix_append _ _

theorem HasBacklog.idle (h : s.HasBacklog) (hidle : s.batches = []) :
    ∃ done waiting, Backlog s done [] [] waiting := by
  obtain ⟨done, sent, unsent, waiting, h⟩ := h
  have hworking := h.working
  rw [hidle] at hworking
  cases hworking
  exact ⟨done, waiting, h⟩

theorem HasBacklog.published (h : s.HasBacklog) (hidle : s.batches = [])
    (harrived : s.broker = s.queue) : ∀ row ∈ s.rows, row.status = .published := by
  obtain ⟨done, waiting, h⟩ := h.idle hidle
  have hrest : done.map (·.message) = done.map (·.message) ++ waiting.map (·.message) := by
    rw [h.broker, queue, h.queue] at harrived
    simpa using harrived
  rw [List.self_eq_append_right, List.map_eq_nil_iff] at hrest
  intro row hrow
  rcases h.mem_rows.mp hrow with (hdone | hclaimed) | hwaiting
  · exact h.published row hdone
  · cases hclaimed
  · rw [hrest] at hwaiting
    cases hwaiting

-- One worker goes through its batch before it claims again, and the broker acknowledges what it is
-- sent. Whoever enqueues reads the clock after all that is stored.
def Attended (s : OutboxState) : OutboxAction → Prop
  | .enqueue events => (∀ event ∈ events, event.Fresh) ∧
      ∀ row ∈ s.rows, ∀ event ∈ events, row.rank < event.rank
  | .releaseStale _ _ | .claim _ _ _ => s.batches = []
  | .publish _ (.acknowledged _) => True
  | .publish _ _ | .abandon _ => False
  | .record _ _ _ _ | .deliver _ _ | .discard _ | .retryDeadLetters _ => True

theorem HasBacklog.next (hg : s.Attended a) (h : s.next a = some t) (hs : s.HasBacklog) :
    t.HasBacklog ∧ t.queue = s.queue ++ (inOrder a.created).map (·.message) := by
  have hkept : s.queue = s.queue ++ (inOrder []).map (·.message) := (List.append_nil _).symm
  cases next_steps h with
  | enqueued hnodup =>
      obtain ⟨done, sent, unsent, waiting, hs⟩ := hs
      refine ⟨⟨_, _, _, _, hs.enqueue hg.1 hg.2 hnodup⟩, ?_⟩
      rw [queue, inOrder_append hg.2, List.map_append]
      rfl
  | released =>
      obtain ⟨done, waiting, hidle⟩ := hs.idle hg
      rw [hidle.release]
      exact ⟨hs, hkept⟩
  | @claimed workerId now limit =>
      obtain ⟨done, waiting, hs⟩ := hs.idle hg
      obtain ⟨⟨rest, hrest⟩, hclaimed⟩ := hs.claim hg workerId now limit
      refine ⟨⟨_, _, _, _, hclaimed⟩, Eq.trans ?_ hkept⟩
      rw [queue, queue, hclaimed.queue, hs.queue, ← hrest, List.drop_left]
      simp [Function.comp_def, claimedRow, OutboxEvent.message]
  | @published i outcome m todo results hbatch =>
      obtain ⟨done, sent, unsent, waiting, hs⟩ := hs
      cases outcome with
      | acknowledged confirmedAt =>
          obtain ⟨row, rest, rfl, hrest⟩ := hs.publish hbatch confirmedAt
          exact ⟨⟨_, _, _, _, hrest⟩, hkept⟩
      | unacknowledged | rejected => cases hg
  | delivered hm =>
      obtain ⟨done, sent, unsent, waiting, hs⟩ := hs
      rw [hs.unacknowledged] at hm
      cases hm
  | discarded =>
      obtain ⟨done, sent, unsent, waiting, hs⟩ := hs
      rw [hs.unacknowledged, List.eraseIdx_nil, ← hs.unacknowledged]
      exact ⟨⟨_, _, _, _, hs⟩, hkept⟩
  | recorded hbatch =>
      obtain ⟨done, sent, unsent, waiting, hs⟩ := hs
      obtain ⟨rfl, recorded, hmessages, hrecorded⟩ := hs.record hbatch _ _ _
      refine ⟨⟨_, _, _, _, hrecorded⟩, Eq.trans ?_ hkept⟩
      rw [queue, queue, hrecorded.queue, hs.queue]
      simp [hmessages]
  | abandoned => cases hg
  | retried =>
      obtain ⟨done, sent, unsent, waiting, hs⟩ := hs
      rw [hs.retry]
      exact ⟨⟨_, _, _, _, hs⟩, hkept⟩

theorem HasBacklog.run_quiet {as : List OutboxAction} (h : Run OutboxState.next Attended s as t)
    (hquiet : ∀ a ∈ as, a.created = []) (hs : s.HasBacklog) :
    t.HasBacklog ∧ t.queue = s.queue := by
  refine (h.with_actions hquiet).invariant (I := fun u => u.HasBacklog ∧ u.queue = s.queue) ?_
    ⟨hs, rfl⟩
  intro u a u' hg hn hu
  obtain ⟨hbacklog, hqueue⟩ := hu.1.next hg.1 hn
  rw [hg.2] at hqueue
  exact ⟨hbacklog, hqueue.trans ((List.append_nil _).trans hu.2)⟩

theorem HasBacklog.run {as : List OutboxAction} (h : Run OutboxState.next Attended s as t)
    (hs : s.HasBacklog) : t.HasBacklog ∧ s.queue <+: t.queue := by
  refine h.invariant (I := fun u => u.HasBacklog ∧ s.queue <+: u.queue) ?_ ⟨hs, List.prefix_rfl⟩
  intro u a u' hg hn hu
  obtain ⟨hbacklog, hqueue⟩ := hu.1.next hg hn
  refine ⟨hbacklog, hu.2.trans ?_⟩
  rw [hqueue]
  exact List.prefix_append _ _

end OutboxState

end ClockOrchestrator
