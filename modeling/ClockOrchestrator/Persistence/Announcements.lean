import ClockOrchestrator.Persistence.Frames
import ClockOrchestrator.Policy.Control

namespace ClockOrchestrator

open Python UnitOfWork

structure Announcement where
  payload : OutboxPayload
  createdAt : Instant
  correlationId : UUID
  deriving DecidableEq

def OutboxEvent.announcement (event : OutboxEvent) : Announcement :=
  ⟨event.payload, event.createdAt, event.correlationId⟩

variable {H : Type} {rt : AppRuntime H} {db db' : Db H}

def Db.announced (db : Db H) (topic : String) : List Announcement :=
  (db.outbox.filter (·.topic = topic)).map (·.announcement)

theorem announced_of_outbox (h : db'.outbox = db.outbox) (topic : String) :
    db'.announced topic = db.announced topic := by
  unfold Db.announced
  rw [h]

theorem announced_addOutboxEvent (db : Db H) (t topic : String) (payload : OutboxPayload)
    (at' : Instant) (correlationId : UUID) :
    (addOutboxEvent rt t payload at' correlationId db).announced topic =
      db.announced topic ++ if t = topic then [⟨payload, at', correlationId⟩] else [] := by
  unfold Db.announced addOutboxEvent Db.addOutbox
  rw [List.filter_append, List.map_append]
  congr 1
  by_cases h : t = topic <;> simp [outboxEvent, OutboxEvent.announcement, h]

end ClockOrchestrator
