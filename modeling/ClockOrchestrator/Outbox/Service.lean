import ClockOrchestrator.Persistence.Models
import ClockOrchestrator.Support.KeyedTable
import Mathlib.Data.List.Sort

namespace ClockOrchestrator

open Python

structure PendingOutboxMessage where
  id : UUID
  topic : String
  payload : OutboxPayload
  qos : ℕ
  retain : Bool
  attempts : ℕ
  deriving DecidableEq

structure OutboxPublishResult where
  messageId : UUID
  published : Bool
  publishedAt : Option Instant
  error : Option String
  deriving DecidableEq

structure OutboxRetryPolicy where
  maxAttempts : ℤ := 8
  baseDelaySeconds : ℤ := 5
  maxDelaySeconds : ℤ := 300
  jitterSeconds : ℤ := 5
  deriving DecidableEq

-- What becomes of one call of the MQTT client: the receipt is confirmed at a time, or the
-- client takes the message and the wait for its receipt fails, or the call itself fails.
inductive PublishOutcome where
  | acknowledged (confirmedAt : Instant)
  | unacknowledged (error : String)
  | rejected (error : String)
  deriving DecidableEq

def publishResult (message : PendingOutboxMessage) : PublishOutcome → OutboxPublishResult
  | .acknowledged confirmedAt => ⟨message.id, true, some confirmedAt, none⟩
  | .unacknowledged error => ⟨message.id, false, none, some error⟩
  | .rejected error => ⟨message.id, false, none, some error⟩

def OutboxEvent.rank (row : OutboxEvent) : ℤ ×ₗ ℕ := toLex (row.createdAt, row.id)

def OutboxEvent.message (row : OutboxEvent) : PendingOutboxMessage :=
  ⟨row.id, row.topic, row.payload, row.qos, row.retain, row.attempts⟩

def isClaimable (now : Instant) (row : OutboxEvent) : Bool :=
  decide (row.status = .pending ∨ row.status = .retrying) &&
    row.nextAttemptAt.all fun nextAttemptAt => nextAttemptAt ≤ now

def claimable (now : Instant) (limit : ℕ) (rows : List OutboxEvent) : List OutboxEvent :=
  ((rows.filter (isClaimable now)).insertionSort fun a b => a.rank ≤ b.rank).take limit

def updateWhere (ids : List UUID) (f : OutboxEvent → OutboxEvent) (rows : List OutboxEvent) :
    List OutboxEvent :=
  rows.map fun row => if row.id ∈ ids then f row else row

def claimedRow (workerId : String) (now : Instant) (row : OutboxEvent) : OutboxEvent :=
  { row with status := .publishing, claimedAt := some now, claimedBy := some workerId }

def claimPending (workerId : String) (now : Instant) (limit : ℕ) (rows : List OutboxEvent) :
    List PendingOutboxMessage × List OutboxEvent :=
  let claimed := claimable now limit rows
  (claimed.map (·.message), updateWhere (claimed.map (·.id)) (claimedRow workerId now) rows)

-- The jitter is what random.uniform drew, in microseconds.
def retryDelay (policy : OutboxRetryPolicy) (attempts : ℕ) (jitter : ℤ) : ℤ :=
  let exponential := policy.baseDelaySeconds * 2 ^ (attempts - 1)
  let capped := min exponential policy.maxDelaySeconds
  capped * 1000000 + if 0 < policy.jitterSeconds then jitter else 0

def publishedRow (result : OutboxPublishResult) (now : Instant) (row : OutboxEvent) :
    OutboxEvent :=
  { row with
    claimedAt := none
    claimedBy := none
    status := .published
    publishedAt := some (result.publishedAt.getD now)
    lastError := none
    nextAttemptAt := none }

def failedRow (policy : OutboxRetryPolicy) (result : OutboxPublishResult) (jitter : ℤ)
    (now : Instant) (row : OutboxEvent) : OutboxEvent :=
  let row := { row with
    claimedAt := none
    claimedBy := none
    attempts := row.attempts + 1
    lastError := result.error }
  if policy.maxAttempts ≤ row.attempts then
    { row with status := .deadLetter, nextAttemptAt := none }
  else
    { row with
      status := .retrying
      nextAttemptAt := some (now + retryDelay policy row.attempts jitter) }

def resultRow (policy : OutboxRetryPolicy) (result : OutboxPublishResult) (jitter : ℤ)
    (now : Instant) (row : OutboxEvent) : OutboxEvent :=
  if result.published then publishedRow result now row
  else failedRow policy result jitter now row

-- A result for a row that is gone is skipped. Each result comes with its draw.
def recordResults (policy : OutboxRetryPolicy) (now : Instant) :
    List (OutboxPublishResult × ℤ) → List OutboxEvent → List OutboxEvent
  | [], rows => rows
  | (result, jitter) :: rest, rows =>
      recordResults policy now rest
        (updateWhere [result.messageId] (resultRow policy result jitter now) rows)

def isStale (now : Instant) (olderThan : ℤ) (row : OutboxEvent) : Bool :=
  decide (row.status = .publishing) &&
    row.claimedAt.any fun claimedAt => claimedAt < now - olderThan

def releasedRow (now : Instant) (row : OutboxEvent) : OutboxEvent :=
  { row with
    status := .retrying
    claimedAt := none
    claimedBy := none
    nextAttemptAt := some now }

def releaseStalePublishing (now : Instant) (olderThan : ℤ) (rows : List OutboxEvent) :
    List OutboxEvent :=
  rows.map fun row => if isStale now olderThan row then releasedRow now row else row

def retriedRow (now : Instant) (row : OutboxEvent) : OutboxEvent :=
  { row with
    status := .retrying
    nextAttemptAt := some now
    lastError := none
    claimedAt := none
    claimedBy := none }

def retryDeadLetters (now : Instant) (rows : List OutboxEvent) : List OutboxEvent :=
  rows.map fun row => if row.status = .deadLetter then retriedRow now row else row

end ClockOrchestrator
