import ClockOrchestrator.RoomHistory
import ClockOrchestrator.Guarantees.StoreSchema
import ClockOrchestrator.Outbox.Arrivals

namespace ClockOrchestrator

open Python Trace OutboxState

variable {H : Type} {base : AppRuntime H} {db db' : Db H}

-- The service with its workers and its broker; the outbox of the database is the workers' table.
structure Site (H : Type) where
  db : Db H
  batches : List OutboxBatch
  unacknowledged : List PendingOutboxMessage
  broker : List PendingOutboxMessage

inductive SiteAction (H : Type) where
  | transact (request : Request H)
  | work (action : OutboxAction)

namespace Site

def start (H : Type) : Site H := ⟨Db.empty H, [], [], []⟩

def outbox (s : Site H) : OutboxState := ⟨s.db.outbox, s.batches, s.unacknowledged, s.broker⟩

def withOutbox (s : Site H) (o : OutboxState) : Site H :=
  ⟨{ s.db with outbox := o.rows }, o.batches, o.unacknowledged, o.broker⟩

-- A transaction and a call of a worker are steps of their own.
def next [DecidableEq H] (s : Site H) : SiteAction H → Option (Site H)
  | .transact request => (ClockOrchestrator.next s.db request).map fun db => { s with db := db }
  | .work action => (s.outbox.next action).map s.withOutbox

-- Transactions read a later clock than is stored; workers create no rows and keep the order of
-- each topic.
def Timely [DecidableEq H] (s : Site H) : SiteAction H → Prop
  | .transact request => LaterThanStored s.db request
  | .work action => action.created = [] ∧ s.outbox.KeepsTopicOrder action

instance [DecidableEq H] (s : Site H) : (a : SiteAction H) → Decidable (s.Timely a)
  | .transact request => inferInstanceAs (Decidable (LaterThanStored s.db request))
  | .work _ => inferInstanceAs (Decidable (_ ∧ _))

end Site

def SiteAction.Served (base : AppRuntime H) : SiteAction H → Prop
  | .transact request => base.Restart request.runtime
  | .work _ => True

def Site.Guarded [DecidableEq H] (base : AppRuntime H) (s : Site H) (a : SiteAction H) : Prop :=
  s.Timely a ∧ a.Served base

section Worker

variable {rows : List OutboxEvent}

theorem RowStep.announcement_eq {row row' : OutboxEvent} (h : RowStep row row') :
    row'.announcement = row.announcement := by
  cases h with
  | reported policy result jitter now =>
      simp only [resultRow, failedRow]
      split
      · rfl
      · split <;> rfl
  | _ => rfl

theorem announced_of_path {row row' : OutboxEvent} (h : Relation.ReflTransGen RowStep row row') :
    row'.announcement = row.announcement := by
  induction h with
  | refl => rfl
  | tail _ hstep ih => exact hstep.announcement_eq.trans ih

theorem RowsStep.announced_eq (h : RowsStep db.outbox rows) (topic : String) :
    ({ db with outbox := rows } : Db H).announced topic = db.announced topic := by
  unfold Db.announced
  dsimp only
  generalize db.outbox = before at h
  induction h with
  | nil => rfl
  | @cons row row' before after hrow _ ih =>
      have htopic : row'.topic = row.topic :=
        congrArg (fun content => content.2.1) (content_of_path hrow)
      simp only [List.filter_cons, htopic, apply_ite (List.map _), List.map_cons, ih,
        announced_of_path hrow]

variable (rows) in
theorem StoreInvariant.with_outbox (h : StoreInvariant base db) :
    StoreInvariant base { db with outbox := rows } :=
  ⟨⟨h.registry.property, h.registry.roomProperty, h.registry.roomIds, h.registry.roomKeys⟩,
    ⟨h.stays.bookingIds, h.stays.bookingKeys, h.stays.bookingProperty, h.stays.assignmentIds,
      h.stays.oneCurrent, h.stays.placed, h.stays.assignmentBooking⟩,
    h.overrides, h.overrideRooms, h.stateRooms, h.roomsApart⟩

theorem RoomLogs.with_outbox (h : RoomLogs base db) (hrows : RowsStep db.outbox rows) :
    RoomLogs base { db with outbox := rows } := by
  constructor
  · intro roomId propertyId roomKey hc
    exact (h.rooms roomId propertyId roomKey hc).kept ⟨rfl, rfl⟩ fun topic _ => hrows.announced_eq topic
  · intro roomKey hfree topic htopic
    exact (hrows.announced_eq topic).trans (h.silent roomKey hfree topic htopic)

theorem Referenced.with_outbox (h : Referenced base db) (hrows : RowsStep db.outbox rows) :
    Referenced base { db with outbox := rows } := by
  obtain ⟨⟨hrooms, hbookings, hassignments, hstates, hoverrides, hcursors, hruns, haudit⟩, hids⟩ := h
  refine ⟨⟨hrooms, hbookings, hassignments, hstates, hoverrides, hcursors, hruns, haudit⟩, ?_⟩
  have hsame : rows.map (·.id) = db.outbox.map (·.id) := by
    have hcontent := congrArg (List.map Prod.fst) hrows.content_eq
    rwa [List.map_map, List.map_map] at hcontent
  unfold Db.ids Db.propertyIds Db.roomIds Db.bookingIds at hids ⊢
  dsimp only
  rw [hsame]
  exact hids

end Worker

variable [DecidableEq H]

theorem next_enqueues (hinj : base.uuid4.Injective) {guard : Db H → Request H → Prop}
    {request : Request H} (hserved : ServedBy base guard db request)
    (h : next db request = some db') (hdb : Referenced base db) :
    ∃ events, db'.outbox = db.outbox ++ events ∧ (db'.outbox.map (·.id)).Nodup ∧
      ∀ event ∈ events, event.Fresh ∧ event.retain = true := by
  obtain ⟨hreferenced, hextends⟩ := hdb.step hinj hserved h
  obtain ⟨events, hevents⟩ := hextends.outbox
  have hnodup : (db'.outbox.map (·.id)).Nodup :=
    hreferenced.ids.nodup.sublist (by
      unfold Db.ids
      exact (List.sublist_append_right _ _).trans (List.sublist_append_left _ _))
  refine ⟨events, hevents.symm, hnodup, fun event hevent => ?_⟩
  obtain ⟨out, hout, rfl⟩ := next_ok h
  have hmem : event ∈ out.db.outbox := hevents ▸ List.mem_append_right _ hevent
  rcases (execute_writes hout hdb.references).logs.1 event hmem with hold | ⟨store, topic, payload, rfl⟩
  · rw [← hevents, List.map_append, List.nodup_append] at hnodup
    exact absurd rfl (hnodup.2.2 _ (List.mem_map_of_mem hold) _ (List.mem_map_of_mem hevent))
  · exact ⟨outboxEvent_fresh .., rfl⟩

structure SiteInvariant (base : AppRuntime H) (s : Site H) : Prop where
  store : StoreInvariant base s.db
  logs : RoomLogs base s.db
  referenced : Referenced base s.db
  delivering : s.outbox.Delivering
  carried : s.outbox.Carried
  confirmed : s.outbox.Confirmed
  retain : ∀ row ∈ s.db.outbox, row.retain = true

namespace SiteInvariant

variable {s t : Site H}

omit [DecidableEq H] in
theorem start : SiteInvariant base (.start H) where
  store := .empty
  logs := .empty
  referenced := .empty
  delivering := @delivering_start [] .nil
  carried := ⟨by simp [Site.outbox, Site.start, OutboxState.waiting],
    by simp [Site.outbox, Site.start]⟩
  confirmed := ⟨by simp [Site.outbox, Site.start], by simp [Site.outbox, Site.start, Db.empty]⟩
  retain := by simp [Site.start, Db.empty]

theorem transact (hinj : base.uuid4.Injective) {request : Request H}
    (hserved : ServedBy base LaterThanStored s.db request)
    (h : ClockOrchestrator.next s.db request = some db') (hs : SiteInvariant base s) :
    SiteInvariant base { s with db := db' } := by
  obtain ⟨events, hevents, hnodup, hnew⟩ := next_enqueues hinj hserved h hs.referenced
  have henqueued : s.outbox.next (.enqueue events) = some (Site.outbox { s with db := db' }) := by
    rw [hevents] at hnodup
    simp only [OutboxState.next, Site.outbox, hevents]
    exact if_pos hnodup
  refine ⟨next_invariant hinj hserved h hs.store, next_roomLogs hinj hserved h hs.store hs.logs,
    (hs.referenced.step hinj hserved h).1, ?_, carried_next henqueued hs.carried, ?_, ?_⟩
  · exact delivering_next ⟨by simp [OutboxState.taken], by simp [OutboxState.arrival]⟩ henqueued
      hs.delivering
  · refine confirmed_next (fun row hrow hpublished => ?_) henqueued hs.confirmed
    rw [(hnew row hrow).1.status] at hpublished
    cases hpublished
  · rw [hevents]
    exact List.forall_mem_append.mpr ⟨hs.retain, fun event hevent => (hnew event hevent).2⟩

omit [DecidableEq H] in
theorem work {action : OutboxAction} {o : OutboxState} (hcreated : action.created = [])
    (horder : s.outbox.KeepsTopicOrder action) (h : s.outbox.next action = some o)
    (hs : SiteInvariant base s) : SiteInvariant base (s.withOutbox o) := by
  obtain ⟨rows, hrows, heq⟩ := next_rows h
  rw [hcreated, List.append_nil] at heq
  subst heq
  refine ⟨hs.store.with_outbox _, hs.logs.with_outbox hrows, hs.referenced.with_outbox hrows,
    delivering_next horder h hs.delivering, carried_next h hs.carried,
    confirmed_next (by simp [hcreated]) h hs.confirmed, ?_⟩
  refine hrows.all (fun row row' hstep hrow => ?_) hs.retain
  exact (congrArg (fun content => content.2.2.2.2) hstep.content_eq).trans hrow

theorem step (hinj : base.uuid4.Injective) {a : SiteAction H} (hg : s.Guarded base a)
    (h : s.next a = some t) (hs : SiteInvariant base s) : SiteInvariant base t := by
  cases a with
  | transact request =>
      obtain ⟨db', hdb, rfl⟩ := Option.map_eq_some_iff.mp h
      exact hs.transact hinj ⟨hg.2, hg.1⟩ hdb
  | work action =>
      obtain ⟨o, ho, rfl⟩ := Option.map_eq_some_iff.mp h
      exact hs.work hg.1.1 hg.1.2 ho

theorem run (hinj : base.uuid4.Injective) {as : List (SiteAction H)}
    (h : Run Site.next (Site.Guarded base) (.start H) as s) : SiteInvariant base s :=
  h.invariant (fun _ _ _ hg hn hi => hi.step hinj hg hn) .start

end SiteInvariant

end ClockOrchestrator
