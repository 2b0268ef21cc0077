import ClockOrchestrator.Outbox.Service
import ClockOrchestrator.Support.Trace
import Mathlib.Logic.Relation

namespace ClockOrchestrator

open Python Trace

structure OutboxBatch where
  todo : List PendingOutboxMessage
  results : List OutboxPublishResult
  deriving DecidableEq

-- The table, the workers, the messages that MQTT clients hold without a receipt, and what
-- has reached the broker, the newest last.
structure OutboxState where
  rows : List OutboxEvent
  batches : List OutboxBatch
  unacknowledged : List PendingOutboxMessage
  broker : List PendingOutboxMessage
  deriving DecidableEq

inductive OutboxAction where
  | enqueue (events : List OutboxEvent)
  | releaseStale (now : Instant) (olderThan : ℤ)
  | claim (workerId : String) (now : Instant) (limit : ℕ)
  | publish (batch : ℕ) (outcome : PublishOutcome)
  | deliver (message : ℕ) (again : Bool)
  | discard (message : ℕ)
  | record (policy : OutboxRetryPolicy) (batch : ℕ) (jitter : UUID → ℤ) (now : Instant)
  | abandon (batch : ℕ)
  | retryDeadLetters (now : Instant)

def OutboxEvent.content (row : OutboxEvent) : UUID × String × OutboxPayload × ℕ × Bool :=
  (row.id, row.topic, row.payload, row.qos, row.retain)

def OutboxEvent.columns (row : OutboxEvent) : UUID × String := (row.id, row.topic)

def OutboxAction.created : OutboxAction → List OutboxEvent
  | .enqueue events => events
  | _ => []

namespace PublishOutcome

def delivered (m : PendingOutboxMessage) : PublishOutcome → List PendingOutboxMessage
  | .acknowledged _ => [m]
  | _ => []

def held (m : PendingOutboxMessage) : PublishOutcome → List PendingOutboxMessage
  | .unacknowledged _ => [m]
  | _ => []

end PublishOutcome

namespace OutboxState

def start (rows : List OutboxEvent) : OutboxState := ⟨rows, [], [], []⟩

def claim (s : OutboxState) (workerId : String) (now : Instant) (limit : ℕ) : OutboxState :=
  let (messages, rows) := claimPending workerId now limit s.rows
  { s with rows := rows, batches := s.batches ++ [⟨messages, []⟩] }

def publish (s : OutboxState) (i : ℕ) (outcome : PublishOutcome) : Option OutboxState :=
  match s.batches[i]? with
  | some ⟨m :: todo, results⟩ =>
      some { s with
        batches := s.batches.set i ⟨todo, results ++ [publishResult m outcome]⟩
        unacknowledged := s.unacknowledged ++ outcome.held m
        broker := s.broker ++ outcome.delivered m }
  | _ => none

-- A message that a client holds reaches the broker late, and again if its receipt is lost.
def deliver (s : OutboxState) (i : ℕ) (again : Bool) : Option OutboxState :=
  match s.unacknowledged[i]? with
  | some m =>
      some { s with
        unacknowledged := if again then s.unacknowledged else s.unacknowledged.eraseIdx i
        broker := s.broker ++ [m] }
  | none => none

def record (s : OutboxState) (policy : OutboxRetryPolicy) (i : ℕ) (jitter : UUID → ℤ)
    (now : Instant) : Option OutboxState :=
  match s.batches[i]? with
  | some ⟨[], results⟩ =>
      some { s with
        rows := recordResults policy now (results.map fun r => (r, jitter r.messageId)) s.rows
        batches := s.batches.eraseIdx i }
  | _ => none

-- The primary key refuses a transaction that would enqueue a known id.
def next (s : OutboxState) : OutboxAction → Option OutboxState
  | .enqueue events =>
      if ((s.rows ++ events).map (·.id)).Nodup then some { s with rows := s.rows ++ events }
      else none
  | .releaseStale now olderThan =>
      some { s with rows := releaseStalePublishing now olderThan s.rows }
  | .claim workerId now limit => some (s.claim workerId now limit)
  | .publish i outcome => s.publish i outcome
  | .deliver i again => s.deliver i again
  | .discard i => some { s with unacknowledged := s.unacknowledged.eraseIdx i }
  | .record policy i jitter now => s.record policy i jitter now
  | .abandon i => some { s with batches := s.batches.eraseIdx i }
  | .retryDeadLetters now => some { s with rows := retryDeadLetters now s.rows }

def columns (s : OutboxState) : List (UUID × String) := s.rows.map (·.columns)

def waiting (s : OutboxState) : List PendingOutboxMessage :=
  s.batches.flatMap (·.todo) ++ s.unacknowledged

def taken (s : OutboxState) : OutboxAction → List PendingOutboxMessage
  | .claim _ now limit => (claimable now limit s.rows).map (·.message)
  | _ => []

def arrival (s : OutboxState) : OutboxAction → Option PendingOutboxMessage
  | .publish i (.acknowledged _) => s.batches[i]?.bind (·.todo.head?)
  | .deliver i _ => s.unacknowledged[i]?
  | _ => none

end OutboxState

section Rows

variable {rows rows' rows'' : List OutboxEvent} {now : Instant}

inductive RowStep : OutboxEvent → OutboxEvent → Prop
  | claimed (workerId : String) (now : Instant) (row : OutboxEvent) :
      RowStep row (claimedRow workerId now row)
  | reported (policy : OutboxRetryPolicy) (result : OutboxPublishResult) (jitter : ℤ)
      (now : Instant) (row : OutboxEvent) : RowStep row (resultRow policy result jitter now row)
  | released (now : Instant) (row : OutboxEvent) : RowStep row (releasedRow now row)
  | retried (now : Instant) (row : OutboxEvent) : RowStep row (retriedRow now row)

def RowsStep (rows rows' : List OutboxEvent) : Prop :=
  List.Forall₂ (Relation.ReflTransGen RowStep) rows rows'

theorem RowStep.content_eq {row row' : OutboxEvent} (h : RowStep row row') :
    row'.content = row.content := by
  cases h with
  | claimed workerId now => rfl
  | reported policy result jitter now =>
      simp only [resultRow, failedRow]
      split
      · rfl
      · split
        · rfl
        · rfl
  | released now => rfl
  | retried now => rfl

theorem content_of_path {row row' : OutboxEvent} (h : Relation.ReflTransGen RowStep row row') :
    row'.content = row.content := by
  induction h with
  | refl => rfl
  | tail _ hstep ih => exact hstep.content_eq.trans ih

namespace RowsStep

theorem refl (rows : List OutboxEvent) : RowsStep rows rows :=
  List.forall₂_same.mpr fun _ _ => .refl

theorem trans (h : RowsStep rows rows') (h' : RowsStep rows' rows'') : RowsStep rows rows'' := by
  induction h generalizing rows'' with
  | nil => exact h'
  | cons hrow _ ih =>
      cases h' with
      | cons hrow' hrest => exact .cons (hrow.trans hrow') (ih hrest)

theorem of_map {f : OutboxEvent → OutboxEvent} (hf : ∀ row, f row = row ∨ RowStep row (f row)) :
    RowsStep rows (rows.map f) := by
  refine List.forall₂_map_right_iff.mpr (List.forall₂_same.mpr fun row _ => ?_)
  rcases hf row with hsame | hstep
  · rw [hsame]
  · exact .single hstep

theorem of_updateWhere {f : OutboxEvent → OutboxEvent} (ids : List UUID)
    (hf : ∀ row, RowStep row (f row)) : RowsStep rows (updateWhere ids f rows) := by
  apply of_map
  intro row
  split
  · exact .inr (hf row)
  · exact .inl rfl

theorem of_record (policy : OutboxRetryPolicy) (results : List (OutboxPublishResult × ℤ)) :
    RowsStep rows (recordResults policy now results rows) := by
  induction results generalizing rows with
  | nil => exact .refl rows
  | cons r rest ih =>
      obtain ⟨result, jitter⟩ := r
      exact (of_updateWhere [result.messageId] (.reported policy result jitter now)).trans ih

theorem of_release (olderThan : ℤ) : RowsStep rows (releaseStalePublishing now olderThan rows) := by
  apply of_map
  intro row
  split
  · exact .inr (.released now row)
  · exact .inl rfl

theorem of_retry : RowsStep rows (retryDeadLetters now rows) := by
  apply of_map
  intro row
  split
  · exact .inr (.retried now row)
  · exact .inl rfl

theorem content_eq (h : RowsStep rows rows') :
    rows'.map (·.content) = rows.map (·.content) := by
  induction h with
  | nil => rfl
  | cons hrow _ ih => rw [List.map_cons, List.map_cons, content_of_path hrow, ih]

theorem all {P : OutboxEvent → Prop} (hP : ∀ row row', RowStep row row' → P row → P row')
    (h : RowsStep rows rows') (hrows : ∀ row ∈ rows, P row) : ∀ row ∈ rows', P row := by
  induction h with
  | nil => simp
  | @cons row row' rest rest' hrow _ ih =>
      rw [List.forall_mem_cons] at hrows ⊢
      refine ⟨?_, ih hrows.2⟩
      induction hrow with
      | refl => exact hrows.1
      | tail _ hstep ihrow => exact hP _ _ hstep ihrow

end RowsStep

theorem mem_claimable {limit : ℕ} {row : OutboxEvent} (h : row ∈ claimable now limit rows) :
    row ∈ rows ∧ isClaimable now row = true := by
  have hsorted := List.mem_of_mem_take h
  rw [List.mem_insertionSort, List.mem_filter] at hsorted
  exact hsorted

theorem claimable_ids_nodup (hrows : (rows.map (·.id)).Nodup) (limit : ℕ) :
    ((claimable now limit rows).map (·.id)).Nodup := by
  have hfilter : ((rows.filter (isClaimable now)).map (·.id)).Nodup :=
    hrows.sublist (List.filter_sublist.map _)
  have hsorted := ((List.perm_insertionSort (fun a b : OutboxEvent => a.rank ≤ b.rank)
    (rows.filter (isClaimable now))).map (·.id)).nodup_iff.mpr hfilter
  exact hsorted.sublist ((List.take_sublist _ _).map _)

end Rows

namespace OutboxState

variable {s t : OutboxState} {a : OutboxAction}

inductive Steps (s : OutboxState) : OutboxAction → OutboxState → Prop
  | enqueued {events : List OutboxEvent} (hnodup : ((s.rows ++ events).map (·.id)).Nodup) :
      Steps s (.enqueue events) { s with rows := s.rows ++ events }
  | released {now : Instant} {olderThan : ℤ} : Steps s (.releaseStale now olderThan)
      { s with rows := releaseStalePublishing now olderThan s.rows }
  | claimed {workerId : String} {now : Instant} {limit : ℕ} :
      Steps s (.claim workerId now limit) (s.claim workerId now limit)
  | published {i : ℕ} {outcome : PublishOutcome} {m : PendingOutboxMessage}
      {todo : List PendingOutboxMessage} {results : List OutboxPublishResult}
      (hbatch : s.batches[i]? = some ⟨m :: todo, results⟩) : Steps s (.publish i outcome)
      { s with
        batches := s.batches.set i ⟨todo, results ++ [publishResult m outcome]⟩
        unacknowledged := s.unacknowledged ++ outcome.held m
        broker := s.broker ++ outcome.delivered m }
  | delivered {i : ℕ} {again : Bool} {m : PendingOutboxMessage}
      (hm : s.unacknowledged[i]? = some m) : Steps s (.deliver i again)
      { s with
        unacknowledged := if again then s.unacknowledged else s.unacknowledged.eraseIdx i
        broker := s.broker ++ [m] }
  | discarded {i : ℕ} : Steps s (.discard i)
      { s with unacknowledged := s.unacknowledged.eraseIdx i }
  | recorded {policy : OutboxRetryPolicy} {i : ℕ} {jitter : UUID → ℤ} {now : Instant}
      {results : List OutboxPublishResult} (hbatch : s.batches[i]? = some ⟨[], results⟩) :
      Steps s (.record policy i jitter now)
        { s with
          rows := recordResults policy now (results.map fun r => (r, jitter r.messageId)) s.rows
          batches := s.batches.eraseIdx i }
  | abandoned {i : ℕ} : Steps s (.abandon i) { s with batches := s.batches.eraseIdx i }
  | retried {now : Instant} : Steps s (.retryDeadLetters now)
      { s with rows := retryDeadLetters now s.rows }

theorem next_steps (h : s.next a = some t) : Steps s a t := by
  cases a with
  | enqueue events =>
      obtain ⟨hnodup, h⟩ := Option.ite_none_right_eq_some.mp h
      cases h
      exact .enqueued hnodup
  | releaseStale now olderThan =>
      cases h
      exact .released
  | claim workerId now limit =>
      cases h
      exact .claimed
  | publish i outcome =>
      simp only [next, publish] at h
      split at h
      · next hbatch =>
          cases h
          exact .published hbatch
      · cases h
  | deliver i again =>
      simp only [next, deliver] at h
      split at h
      · next hm =>
          cases h
          exact .delivered hm
      · cases h
  | discard i =>
      cases h
      exact .discarded
  | record policy i jitter now =>
      simp only [next, record] at h
      split at h
      · next hbatch =>
          cases h
          exact .recorded hbatch
      · cases h
  | abandon i =>
      cases h
      exact .abandoned
  | retryDeadLetters now =>
      cases h
      exact .retried

theorem next_rows (h : s.next a = some t) :
    ∃ rows, RowsStep s.rows rows ∧ t.rows = rows ++ a.created := by
  have hsame : ∃ rows, RowsStep s.rows rows ∧ s.rows = rows ++ [] :=
    ⟨s.rows, .refl _, (List.append_nil _).symm⟩
  cases next_steps h with
  | enqueued => exact ⟨s.rows, .refl _, rfl⟩
  | released => exact ⟨_, .of_release _, (List.append_nil _).symm⟩
  | claimed => exact ⟨_, .of_updateWhere _ (.claimed _ _), (List.append_nil _).symm⟩
  | published => exact hsame
  | delivered => exact hsame
  | discarded => exact hsame
  | recorded => exact ⟨_, .of_record _ _, (List.append_nil _).symm⟩
  | abandoned => exact hsame
  | retried => exact ⟨_, .of_retry, (List.append_nil _).symm⟩

theorem next_content (h : s.next a = some t) :
    t.rows.map (·.content) = s.rows.map (·.content) ++ a.created.map (·.content) := by
  obtain ⟨rows, hrows, heq⟩ := next_rows h
  rw [heq, List.map_append, hrows.content_eq]

theorem columns_eq (s : OutboxState) :
    s.columns = (s.rows.map (·.content)).map fun content => (content.1, content.2.1) := by
  rw [columns, List.map_map]
  rfl

theorem next_columns (h : s.next a = some t) : s.columns <+: t.columns := by
  rw [columns_eq, columns_eq, next_content h, List.map_append]
  exact List.prefix_append _ _

theorem ids_eq (s : OutboxState) : s.rows.map (·.id) = s.columns.map Prod.fst := by
  rw [columns, List.map_map]
  rfl

theorem mem_waiting {m : PendingOutboxMessage} :
    m ∈ s.waiting ↔ (∃ batch ∈ s.batches, m ∈ batch.todo) ∨ m ∈ s.unacknowledged := by
  simp [waiting, List.mem_flatMap]

def Unique (s : OutboxState) : Prop := (s.rows.map (·.id)).Nodup

structure Moves (s : OutboxState) (a : OutboxAction) (t : OutboxState) : Prop where
  columns : s.columns <+: t.columns
  unique : s.Unique → t.Unique
  waiting : t.waiting ⊆ s.waiting ++ s.taken a
  broker : t.broker = s.broker ++ (s.arrival a).toList
  arrival : ∀ m, s.arrival a = some m → m ∈ s.waiting
  taken : ∀ m ∈ s.taken a, m.id ∈ s.rows.map (·.id)

theorem next_unique (h : s.next a = some t) (hs : s.Unique) : t.Unique := by
  have hkept : a.created = [] → t.Unique := by
    intro hnone
    have hids : t.rows.map (·.id) = s.rows.map (·.id) := by
      rw [ids_eq, ids_eq, columns_eq, columns_eq, next_content h, hnone, List.map_nil,
        List.append_nil]
    rw [Unique, hids]
    exact hs
  cases next_steps h with
  | enqueued hnodup => exact hnodup
  | _ => exact hkept rfl

theorem Moves.of_dropped {t : OutboxState} (h : s.next a = some t) (hbroker : t.broker = s.broker)
    (hbatches : t.batches ⊆ s.batches) (hunacknowledged : t.unacknowledged ⊆ s.unacknowledged)
    (htaken : s.taken a = []) (harrival : s.arrival a = none) : Moves s a t := by
  refine ⟨next_columns h, next_unique h, ?_, ?_, ?_, ?_⟩
  · intro m hm
    rw [htaken, List.append_nil, mem_waiting]
    rcases mem_waiting.mp hm with ⟨batch, hbatch, hm⟩ | hm
    · exact .inl ⟨batch, hbatches hbatch, hm⟩
    · exact .inr (hunacknowledged hm)
  · rw [hbroker, harrival]
    simp
  · rw [harrival]
    simp
  · rw [htaken]
    simp

theorem claim_moves (workerId : String) (now : Instant) (limit : ℕ) :
    Moves s (.claim workerId now limit) (s.claim workerId now limit) := by
  have hnext : s.next (.claim workerId now limit) = some (s.claim workerId now limit) := rfl
  refine ⟨next_columns hnext, next_unique hnext, ?_, by simp [claim, arrival], by simp [arrival],
    ?_⟩
  · intro m hm
    rw [mem_waiting] at hm
    rw [List.mem_append, mem_waiting]
    rcases hm with ⟨batch, hbatch, hm⟩ | hm
    · rcases List.mem_append.mp hbatch with hbatch | hbatch
      · exact .inl (.inl ⟨batch, hbatch, hm⟩)
      · rw [List.mem_singleton.mp hbatch] at hm
        exact .inr hm
    · exact .inl (.inr hm)
  · intro m hm
    obtain ⟨row, hrow, rfl⟩ := List.mem_map.mp hm
    exact List.mem_map_of_mem (mem_claimable hrow).1

theorem publish_moves {i : ℕ} {m : PendingOutboxMessage} {todo : List PendingOutboxMessage}
    {results : List OutboxPublishResult} (hbatch : s.batches[i]? = some ⟨m :: todo, results⟩)
    (outcome : PublishOutcome) : Moves s (.publish i outcome)
      { s with
        batches := s.batches.set i ⟨todo, results ++ [publishResult m outcome]⟩
        unacknowledged := s.unacknowledged ++ outcome.held m
        broker := s.broker ++ outcome.delivered m } := by
  have hmem := List.mem_of_getElem? hbatch
  have hhead : s.batches[i]?.bind (·.todo.head?) = some m := by rw [hbatch]; rfl
  have hm : m ∈ s.waiting := mem_waiting.mpr (.inl ⟨_, hmem, List.mem_cons_self ..⟩)
  refine ⟨List.prefix_refl _, id, ?_, ?_, ?_, by simp [taken]⟩
  · intro w hw
    rw [show s.taken (.publish i outcome) = [] from rfl, List.append_nil, mem_waiting]
    rcases mem_waiting.mp hw with ⟨batch, hbatch', hw⟩ | hw
    · rcases List.mem_or_eq_of_mem_set hbatch' with hbatch' | rfl
      · exact .inl ⟨batch, hbatch', hw⟩
      · exact .inl ⟨_, hmem, List.mem_cons_of_mem _ hw⟩
    · rcases List.mem_append.mp hw with hw | hw
      · exact .inr hw
      · cases outcome with
        | unacknowledged error =>
            rw [List.mem_singleton.mp hw]
            exact .inl ⟨_, hmem, List.mem_cons_self ..⟩
        | acknowledged confirmedAt => cases hw
        | rejected error => cases hw
  · cases outcome with
    | acknowledged confirmedAt =>
        rw [arrival, hhead]
        rfl
    | unacknowledged error => rfl
    | rejected error => rfl
  · intro x hx
    cases outcome with
    | acknowledged confirmedAt =>
        rw [arrival, hhead] at hx
        cases hx
        exact hm
    | unacknowledged error => cases hx
    | rejected error => cases hx

theorem deliver_moves {i : ℕ} {m : PendingOutboxMessage} (hm : s.unacknowledged[i]? = some m)
    (again : Bool) : Moves s (.deliver i again)
      { s with
        unacknowledged := if again then s.unacknowledged else s.unacknowledged.eraseIdx i
        broker := s.broker ++ [m] } := by
  refine ⟨List.prefix_refl _, id, ?_, ?_, ?_, by simp [taken]⟩
  · intro w hw
    rw [show s.taken (.deliver i again) = [] from rfl, List.append_nil, mem_waiting]
    rcases mem_waiting.mp hw with hw | hw
    · exact .inl hw
    · refine .inr ?_
      dsimp only at hw
      split at hw
      · exact hw
      · exact List.mem_of_mem_eraseIdx hw
  · rw [arrival, hm]
    rfl
  · intro x hx
    exact mem_waiting.mpr (.inr (List.mem_of_getElem? hx))

theorem next_moves (h : s.next a = some t) : Moves s a t := by
  have hdropped := Moves.of_dropped h
  cases next_steps h with
  | enqueued =>
      exact ⟨next_columns h, next_unique h, List.subset_append_left _ _, by simp [arrival],
        by simp [arrival], by simp [taken]⟩
  | released => exact hdropped rfl (List.Subset.refl _) (List.Subset.refl _) rfl rfl
  | claimed => exact claim_moves _ _ _
  | published hbatch => exact publish_moves hbatch _
  | delivered hm => exact deliver_moves hm _
  | discarded => exact hdropped rfl (List.Subset.refl _) (List.eraseIdx_subset ..) rfl rfl
  | recorded => exact hdropped rfl (List.eraseIdx_subset ..) (List.Subset.refl _) rfl rfl
  | abandoned => exact hdropped rfl (List.eraseIdx_subset ..) (List.Subset.refl _) rfl rfl
  | retried => exact hdropped rfl (List.Subset.refl _) (List.Subset.refl _) rfl rfl

end OutboxState

end ClockOrchestrator
