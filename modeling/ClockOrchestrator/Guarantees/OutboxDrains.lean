import ClockOrchestrator.Outbox.Backlog
import ClockOrchestrator.Outbox.Round
import Mathlib.Algebra.GroupWithZero.Nat

namespace ClockOrchestrator

open Python Trace OutboxState

variable {settings : OutboxSettings} {turn : OutboxTurn} {s t : OutboxState}

theorem RowStep.rank_eq {row row' : OutboxEvent} (h : RowStep row row') : row'.rank = row.rank := by
  cases h with
  | reported policy result jitter now =>
      simp only [resultRow, failedRow]
      split
      · rfl
      · split <;> rfl
  | _ => rfl

theorem rank_of_path {row row' : OutboxEvent} (h : Relation.ReflTransGen RowStep row row') :
    row'.rank = row.rank := by
  induction h with
  | refl => rfl
  | tail _ hstep ih => exact hstep.rank_eq.trans ih

theorem RowsStep.ranks {rows rows' : List OutboxEvent} (h : RowsStep rows rows') :
    rows'.map (·.rank) = rows.map (·.rank) := by
  induction h with
  | nil => rfl
  | cons hrow _ ih => rw [List.map_cons, List.map_cons, rank_of_path hrow, ih]

def OutboxTurn.Acknowledged (turn : OutboxTurn) : Prop :=
  ∀ m, ∃ confirmedAt, turn.outcome m = .acknowledged confirmedAt

theorem actions_created : ∀ a ∈ turn.actions settings s, a.created = [] := by
  unfold OutboxTurn.actions
  rcases turn.client with _ | _ | _
  · simp
  · simp [OutboxAction.created]
  · simp only [List.cons_append, List.mem_cons, List.mem_append, List.mem_map]
    rintro a (rfl | rfl | ⟨m, -, rfl⟩ | rfl | ha)
    · rfl
    · rfl
    · rfl
    · rfl
    · cases ha

variable (settings) in
theorem round_run (hidle : s.batches = []) (hack : turn.Acknowledged) :
    Run OutboxState.next Attended s (turn.actions settings s) (runOutboxOnce settings turn s).1 := by
  have hrun := run_actions settings turn s
  unfold OutboxTurn.actions at hrun ⊢
  rcases hclient : turn.client with _ | _ | _ <;> rw [hclient] at hrun
  · exact run_of_eq_some (by simp) hrun
  · exact .cons hidle rfl (run_of_eq_some (by simp) hrun)
  · refine .cons hidle rfl (.cons hidle rfl (run_of_eq_some ?_ hrun))
    intro a ha u
    rcases List.mem_append.mp ha with ha | ha
    · obtain ⟨m, -, rfl⟩ := List.mem_map.mp ha
      obtain ⟨confirmedAt, houtcome⟩ := hack m
      simp [Attended, houtcome]
    · rw [List.mem_singleton] at ha
      simp [Attended, ha]

def OutboxTurn.connected (turn : OutboxTurn) : Bool := turn.client = some true

def OutboxTurn.capacity (settings : OutboxSettings) (turn : OutboxTurn) : ℕ :=
  if turn.connected then settings.outboxBatchSize else 0

theorem claimable_due {done waiting : List OutboxEvent} (h : Backlog s done [] [] waiting)
    {now : Instant} (hdue : ∀ row ∈ s.rows, row.createdAt ≤ now) (limit : ℕ) :
    claimable now limit s.rows = waiting.take limit := by
  have hnone : done.filter (isClaimable now) = [] :=
    List.filter_eq_nil_iff.mpr fun row hrow => by simp [isClaimable, h.published row hrow]
  have hall : waiting.filter (isClaimable now) = waiting := by
    refine List.filter_eq_self.mpr fun row hrow => ?_
    exact (h.fresh row hrow).claimable_iff.mpr (hdue row (h.mem_rows.mpr (.inr hrow)))
  rw [claimable_eq, h.queue, List.append_nil, List.append_nil, List.filter_append, hnone, hall,
    List.nil_append]

theorem delivered_all (hack : turn.Acknowledged) (messages : List PendingOutboxMessage) :
    messages.flatMap (fun m => (turn.outcome m).delivered m) = messages := by
  have hone : (fun m => (turn.outcome m).delivered m) = fun m => [m] := by
    funext m
    obtain ⟨confirmedAt, houtcome⟩ := hack m
    rw [houtcome]
    rfl
  rw [hone, List.flatMap_singleton']

variable (settings) in
theorem round_broker (hs : s.HasBacklog) (hidle : s.batches = []) (hack : turn.Acknowledged)
    (hdue : ∀ row ∈ s.rows, row.createdAt ≤ turn.claimedAt) :
    (runOutboxOnce settings turn s).1.broker =
      s.queue.take (s.broker.length + turn.capacity settings) ∧
    (runOutboxOnce settings turn s).1.batches = [] := by
  obtain ⟨done, waiting, hs⟩ := hs.idle hidle
  have hqueue : s.queue = s.broker ++ waiting.map (·.message) := by
    rw [queue, hs.queue, hs.broker]
    simp
  rw [hqueue, List.take_length_add_append, OutboxTurn.capacity, OutboxTurn.connected]
  unfold runOutboxOnce
  rcases hclient : turn.client with _ | _ | _
  · simp [hidle]
  · simp [hidle]
  · simp [hs.release, claimPending, claimable_due hs hdue, delivered_all hack, hidle, List.map_take]

theorem run_ranks {as : List OutboxAction} (h : Run OutboxState.next Attended s as t)
    (hquiet : ∀ a ∈ as, a.created = []) : t.rows.map (·.rank) = s.rows.map (·.rank) := by
  refine (h.with_actions hquiet).invariant
    (I := fun u => u.rows.map (·.rank) = s.rows.map (·.rank)) ?_ rfl
  intro u a u' hg hn hu
  obtain ⟨rows, hrows, hnext⟩ := next_rows hn
  rw [hnext, hg.2, List.append_nil, hrows.ranks, hu]

theorem createdAt_of_ranks (h : t.rows.map (·.rank) = s.rows.map (·.rank)) {now : Instant}
    (hs : ∀ row ∈ s.rows, row.createdAt ≤ now) : ∀ row ∈ t.rows, row.createdAt ≤ now := by
  intro row hrow
  have hmem : row.rank ∈ s.rows.map (·.rank) := h ▸ List.mem_map_of_mem hrow
  obtain ⟨old, hold, hrank⟩ := List.mem_map.mp hmem
  exact (createdAt_le_of_rank hrank.ge).trans (hs old hold)

def runOutboxRounds (settings : OutboxSettings) : List OutboxTurn → OutboxState → OutboxState
  | [], s => s
  | turn :: rest, s => runOutboxRounds settings rest (runOutboxOnce settings turn s).1

variable (settings) in
theorem runOutboxRounds_broker {turns : List OutboxTurn} (hs : s.HasBacklog)
    (hidle : s.batches = []) (hack : ∀ turn ∈ turns, turn.Acknowledged)
    (hdue : ∀ turn ∈ turns, ∀ row ∈ s.rows, row.createdAt ≤ turn.claimedAt) :
    (runOutboxRounds settings turns s).HasBacklog ∧
      (runOutboxRounds settings turns s).batches = [] ∧
      (runOutboxRounds settings turns s).queue = s.queue ∧
      (runOutboxRounds settings turns s).broker =
        s.queue.take (s.broker.length + (turns.map (·.capacity settings)).sum) := by
  induction turns generalizing s with
  | nil =>
      refine ⟨hs, hidle, rfl, ?_⟩
      change s.broker = _
      simpa using List.prefix_iff_eq_take.mp hs.arrived
  | cons turn rest ih =>
      rw [List.forall_mem_cons] at hack hdue
      have hrun := round_run settings hidle hack.1
      obtain ⟨hnext, hqueue⟩ := hs.run_quiet hrun actions_created
      obtain ⟨hbroker, hidle'⟩ := round_broker settings hs hidle hack.1 hdue.1
      have hdue' : ∀ turn' ∈ rest, ∀ row ∈ (runOutboxOnce settings turn s).1.rows,
          row.createdAt ≤ turn'.claimedAt := fun turn' hturn' =>
        createdAt_of_ranks (run_ranks hrun actions_created) (hdue.2 turn' hturn')
      obtain ⟨hend, hidle'', hqueue', hbroker'⟩ := ih hnext hidle' hack.2 hdue'
      refine ⟨hend, hidle'', hqueue'.trans hqueue, hbroker'.trans ?_⟩
      rw [hqueue, hbroker, List.length_take, List.map_cons, List.sum_cons]
      have hlength := hs.arrived.length_le
      rcases Nat.le_total (s.broker.length + turn.capacity settings) s.queue.length with hle | hle
      · rw [Nat.min_eq_left hle, Nat.add_assoc]
      · rw [Nat.min_eq_right hle, List.take_of_length_le (Nat.le_add_right _ _),
          List.take_of_length_le (by omega)]

theorem rounds_drain_the_outbox {as : List OutboxAction} {turns : List OutboxTurn}
    (h : Run OutboxState.next Attended (.start []) as s) (hidle : s.batches = [])
    (hack : ∀ turn ∈ turns, turn.Acknowledged)
    (hdue : ∀ turn ∈ turns, ∀ row ∈ s.rows, row.createdAt ≤ turn.claimedAt) :
    (runOutboxRounds settings turns s).broker =
        s.queue.take (s.broker.length + (turns.map (·.capacity settings)).sum) ∧
      (s.queue.length ≤ s.broker.length + (turns.map (·.capacity settings)).sum →
        ∀ row ∈ (runOutboxRounds settings turns s).rows, row.status = .published) := by
  have hs := (HasBacklog.run h ⟨_, _, _, _, Backlog.start⟩).1
  obtain ⟨hend, hidle', hqueue, hbroker⟩ :=
    runOutboxRounds_broker settings hs hidle hack hdue
  refine ⟨hbroker, fun henough => hend.published hidle' ?_⟩
  rw [hbroker, hqueue, List.take_of_length_le henough]

def demoTurn (client : Option Bool) (minute : ℕ) : OutboxTurn where
  client := client
  releasedAt := demoInstant 10 minute
  claimedAt := demoInstant 10 minute
  recordedAt := demoInstant 10 minute
  outcome := fun _ => .acknowledged (demoInstant 10 minute)
  jitter := fun _ => 0

def demoQueued : OutboxState :=
  { OutboxState.start [] with rows := [demoControlEvent 1 0, demoControlEvent 2 1] }

theorem demoQueued_run : Run OutboxState.next Attended (.start [])
    [.enqueue [demoControlEvent 1 0, demoControlEvent 2 1]] demoQueued := by
  refine .cons ⟨?_, ?_⟩ (by decide +kernel) (.nil _)
  · simp [demoControlEvent, outboxEvent_fresh]
  · simp [OutboxState.start]

theorem queued_events_are_drained :
    ((runOutboxRounds { outboxBatchSize := 1 }
      [demoTurn (some true) 5, demoTurn (some false) 6, demoTurn (some true) 7]
      demoQueued).broker.map (·.id)) = [1, 2] := by
  have hdrained := @rounds_drain_the_outbox { outboxBatchSize := 1 } demoQueued _
    [demoTurn (some true) 5, demoTurn (some false) 6, demoTurn (some true) 7] demoQueued_run rfl
    (by simp [OutboxTurn.Acknowledged, demoTurn]) (by decide +kernel)
  rw [hdrained.1]
  decide +kernel

end ClockOrchestrator
