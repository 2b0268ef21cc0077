import ClockOrchestrator.Outbox.Workers

namespace ClockOrchestrator

open Python Trace

structure OutboxSettings where
  mqttClientId : String := "clock-ha-orchestrator"
  outboxBatchSize : ℕ := 25
  outboxMaxAttempts : ℤ := 8
  outboxStalePublishSeconds : ℤ := 30
  batchSizePositive : 1 ≤ outboxBatchSize := by decide
  maxAttemptsPositive : 1 ≤ outboxMaxAttempts := by decide
  stalePublishBounded : 10 ≤ outboxStalePublishSeconds := by decide

namespace OutboxSettings

variable (settings : OutboxSettings)

def retryPolicy : OutboxRetryPolicy := { maxAttempts := settings.outboxMaxAttempts }

def olderThan : ℤ := settings.outboxStalePublishSeconds * 1000000

end OutboxSettings

-- What one call of run_outbox_once meets: the MQTT client, if there is one, and whether it is
-- connected, the clock at its readings, the fate of each message and the draws of the retry delays.
structure OutboxTurn where
  client : Option Bool
  releasedAt : Instant
  claimedAt : Instant
  recordedAt : Instant
  outcome : PendingOutboxMessage → PublishOutcome
  jitter : UUID → ℤ

def publishPending (outcome : PendingOutboxMessage → PublishOutcome)
    (messages : List PendingOutboxMessage) : List OutboxPublishResult :=
  messages.map fun m => publishResult m (outcome m)

def runOutboxOnce (settings : OutboxSettings) (turn : OutboxTurn) (s : OutboxState) :
    OutboxState × ℕ :=
  match turn.client with
  | none => (s, 0)
  | some connected =>
      let released := releaseStalePublishing turn.releasedAt settings.olderThan s.rows
      if !connected then ({ s with rows := released }, 0)
      else
        let (messages, rows) :=
          claimPending settings.mqttClientId turn.claimedAt settings.outboxBatchSize released
        let results := publishPending turn.outcome messages
        ({ s with
            rows := recordResults settings.retryPolicy turn.recordedAt
              (results.map fun r => (r, turn.jitter r.messageId)) rows
            unacknowledged :=
              s.unacknowledged ++ messages.flatMap fun m => (turn.outcome m).held m
            broker := s.broker ++ messages.flatMap fun m => (turn.outcome m).delivered m },
          messages.length)

namespace OutboxTurn

def actions (settings : OutboxSettings) (turn : OutboxTurn) (s : OutboxState) :
    List OutboxAction :=
  let release := OutboxAction.releaseStale turn.releasedAt settings.olderThan
  match turn.client with
  | none => []
  | some false => [release]
  | some true =>
      let messages := (claimPending settings.mqttClientId turn.claimedAt settings.outboxBatchSize
        (releaseStalePublishing turn.releasedAt settings.olderThan s.rows)).1
      release :: .claim settings.mqttClientId turn.claimedAt settings.outboxBatchSize ::
        messages.map (fun m => .publish s.batches.length (turn.outcome m)) ++
          [.record settings.retryPolicy s.batches.length turn.jitter turn.recordedAt]

end OutboxTurn

namespace OutboxState

theorem run_publish (outcome : PendingOutboxMessage → PublishOutcome)
    (messages : List PendingOutboxMessage) (s : OutboxState) (others : List OutboxBatch)
    (results : List OutboxPublishResult) (hbatches : s.batches = others ++ [⟨messages, results⟩]) :
    Trace.run OutboxState.next s
        (messages.map fun m => .publish others.length (outcome m)) =
      some
        { s with
          batches := others ++ [⟨[], results ++ publishPending outcome messages⟩]
          unacknowledged := s.unacknowledged ++ messages.flatMap fun m => (outcome m).held m
          broker := s.broker ++ messages.flatMap fun m => (outcome m).delivered m } := by
  induction messages generalizing s results with
  | nil => simp [Trace.run, publishPending, ← hbatches]
  | cons m rest ih =>
      have hnext : s.next (.publish others.length (outcome m)) = some
          { s with
            batches := others ++ [⟨rest, results ++ [publishResult m (outcome m)]⟩]
            unacknowledged := s.unacknowledged ++ (outcome m).held m
            broker := s.broker ++ (outcome m).delivered m } := by
        simp [OutboxState.next, OutboxState.publish, hbatches]
      rw [List.map_cons, Trace.run, hnext, Option.bind_some, ih _ _ rfl]
      simp [publishPending, List.append_assoc]

theorem run_actions (settings : OutboxSettings) (turn : OutboxTurn) (s : OutboxState) :
    Trace.run OutboxState.next s (turn.actions settings s) =
      some (runOutboxOnce settings turn s).1 := by
  unfold runOutboxOnce OutboxTurn.actions
  rcases turn.client with _ | _ | _
  · rfl
  · rfl
  · let released := releaseStalePublishing turn.releasedAt settings.olderThan s.rows
    let claim := claimPending settings.mqttClientId turn.claimedAt settings.outboxBatchSize released
    have hpublished := run_publish turn.outcome claim.1
      { s with rows := claim.2, batches := s.batches ++ [⟨claim.1, []⟩] } s.batches [] rfl
    change (Trace.run OutboxState.next
      { s with rows := claim.2, batches := s.batches ++ [⟨claim.1, []⟩] }
      (claim.1.map (fun m => .publish s.batches.length (turn.outcome m)) ++
        [.record settings.retryPolicy s.batches.length turn.jitter turn.recordedAt])) = _
    rw [run_append, hpublished]
    simp [Trace.run, OutboxState.next, OutboxState.record, List.eraseIdx_append_of_length_le, claim,
      released]

end OutboxState

end ClockOrchestrator
