import ClockOrchestrator.Clock.CursorStore
import ClockOrchestrator.Clock.Poll
import ClockOrchestrator.Support.WindowChain

namespace ClockOrchestrator

open Python Trace WindowChain

variable {H P : Type} {base : AppRuntime H}

structure SyncPoll (H : Type) where
  runtime : AppRuntime H
  settings : SyncSettings
  poll : ClockPoll

namespace SyncPoll

def since (p : SyncPoll H) : Instant := p.poll.updatedSince.toUtc p.runtime.zone

def startedAt (p : SyncPoll H) : Instant := p.poll.result.startedAt.toUtc p.runtime.zone

def overlap (p : SyncPoll H) : ℤ := p.settings.clockSyncOverlapSeconds * 1000000

end SyncPoll

-- The lock lets one run_sync_once poll at a time. committed has the successful polls whose
-- result was stored, the newest last.
structure SyncState (H : Type) where
  db : Db H
  pending : Option (SyncPoll H)
  committed : List (SyncPoll H)

inductive SyncAction (H P : Type) where
  | poll (runtime : AppRuntime H) (client : ClockClient P) (settings : SyncSettings)
      (normalize : Normalizer P) (fuel : ℕ) (now : Timestamp)
  | apply (correlationId : UUID)
  | abandon
  | serve (request : Request H)

def Transaction.isSync : Transaction → Bool
  | .applySyncResult _ _ => true
  | _ => false

namespace SyncState

def start (db : Db H) : SyncState H := ⟨db, none, []⟩

variable [DecidableEq H]

-- A transaction that raises is rolled back, and the process goes on without the poll. Every other
-- transaction may come between a poll and its commit.
def next (s : SyncState H) : SyncAction H P → Option (SyncState H)
  | .poll runtime client settings normalize fuel now =>
      match s.pending with
      | some _ => none
      | none =>
          match pollOnce client settings normalize fuel
              (loadCursorState runtime (runtime.session s.db)) now with
          | none => none
          | some (.error _) => some s
          | some (.ok poll) => some { s with pending := some ⟨runtime, settings, poll⟩ }
  | .apply correlationId =>
      match s.pending with
      | none => none
      | some p =>
          match execute p.runtime s.db (.applySyncResult p.poll.result correlationId) with
          | .error _ => some { s with pending := none }
          | .ok out =>
              some ⟨out.db, none, if p.poll.result.success then s.committed ++ [p] else s.committed⟩
  | .abandon => some { s with pending := none }
  | .serve request =>
      if request.transaction.isSync then none
      else
        match execute request.runtime s.db request.transaction with
        | .error _ => some s
        | .ok out => some { s with db := out.db }

end SyncState

def SyncAction.ServedBy (base : AppRuntime H) (_ : SyncState H) : SyncAction H P → Prop
  | .poll runtime .. => base.Restart runtime
  | .serve request => base.Restart request.runtime
  | _ => True

structure SyncPoll.Polled (base : AppRuntime H) (cursor : SyncCursorState) (p : SyncPoll H) :
    Prop where
  restart : base.Restart p.runtime
  window : incrementalWindowStart cursor p.settings p.poll.result.startedAt =
    .ok p.poll.updatedSince
  calls : ∀ call ∈ p.poll.calls, call.updatedSince = p.poll.updatedSince
  next : p.poll.result.success = true →
    p.poll.result.nextCursor = ⟨some p.poll.result.startedAt, none⟩

def SyncPoll.Follows (before after : SyncPoll H) : Prop :=
  after.since ≤ before.startedAt - after.overlap

def SyncPoll.cursor (p : SyncPoll H) : SyncCursorState := ⟨some (.aware (.utc p.startedAt)), none⟩

theorem SyncPoll.Polled.follows {before after : SyncPoll H}
    (h : after.Polled base before.cursor) : before.Follows after := by
  have hwindow := h.window
  rw [incrementalWindowStart, SyncPoll.cursor] at hwindow
  rw [SyncPoll.Follows, SyncPoll.since, Timestamp.sub_utc hwindow, Timestamp.toUtc_utc]
  exact Int.le_refl _

theorem SyncPoll.Follows.chained {before after : SyncPoll H} (h : before.Follows after) :
    after.since ≤ before.startedAt :=
  h.trans (Int.sub_le_self _ (Int.mul_nonneg (Int.natCast_nonneg _) (by decide)))

structure SyncHistory (base : AppRuntime H) (s : SyncState H) : Prop where
  store : StoreInvariant base s.db
  cursors : CursorStore s.db
  latest : ∀ last, s.committed.getLast? = some last → s.db.storedCursor = last.cursor
  pending : ∀ p, s.pending = some p → p.Polled base s.db.storedCursor
  windows : s.committed.IsChain SyncPoll.Follows
  calls : ∀ p ∈ s.committed, ∀ call ∈ p.poll.calls, call.updatedSince = p.poll.updatedSince

theorem SyncHistory.start {db : Db H} (hstore : StoreInvariant base db) (hc : CursorStore db) :
    SyncHistory base (.start db) := by
  refine ⟨hstore, hc, ?_, ?_, .nil, ?_⟩
  · intro last hlast
    cases hlast
  · intro p hp
    cases hp
  · intro p hp
    cases hp

theorem SyncHistory.without_pending {s : SyncState H} (h : SyncHistory base s) :
    SyncHistory base { s with pending := none } := by
  refine ⟨h.store, h.cursors, h.latest, ?_, h.windows, h.calls⟩
  intro p hp
  cases hp

theorem SyncHistory.with_db {s : SyncState H} (h : SyncHistory base s) {db : Db H}
    (hstore : StoreInvariant base db) (hc : CursorStore db)
    (hsame : db.syncCursors = s.db.syncCursors) : SyncHistory base { s with db := db } := by
  have hcursor : db.storedCursor = s.db.storedCursor := by rw [Db.storedCursor, hsame]; rfl
  refine ⟨hstore, hc, fun last hlast => ?_, fun p hp => ?_, h.windows, h.calls⟩
  · exact hcursor.trans (h.latest last hlast)
  · change p.Polled base db.storedCursor
    rw [hcursor]
    exact h.pending p hp

variable [DecidableEq H]

theorem execute_store (hinj : base.uuid4.Injective) {rt : AppRuntime H} (hrt : base.Restart rt)
    {db : Db H} {tx : Transaction} {out : Outcome H} (hdb : StoreInvariant base db)
    (h : execute rt db tx = .ok out) : StoreInvariant base out.db := by
  have hserved : ServedBy base (fun _ _ => True) db ⟨rt, tx⟩ := ⟨hrt, trivial⟩
  refine next_invariant hinj hserved ?_ hdb
  simp only [ClockOrchestrator.next, h]

omit [DecidableEq H] in
theorem SyncHistory.polled {s : SyncState H}
    (h : SyncHistory base s) {runtime : AppRuntime H} (hrt : base.Restart runtime)
    {client : ClockClient P} {settings : SyncSettings} {normalize : Normalizer P} {fuel : ℕ}
    {now : Timestamp} {poll : ClockPoll}
    (hpoll : pollOnce client settings normalize fuel
      (loadCursorState runtime (runtime.session s.db)) now = some (.ok poll)) :
    SyncPoll.Polled base s.db.storedCursor ⟨runtime, settings, poll⟩ := by
  rw [loadCursorState_eq h.store.registry h.cursors hrt.propertyKey] at hpoll
  obtain ⟨hwindow, hcalls, hstarted, hnext⟩ := pollOnce_spec hpoll
  refine ⟨hrt, ?_, hcalls, ?_⟩
  · rw [hstarted]
    exact hwindow
  · rw [hstarted]
    exact hnext

theorem SyncHistory.applied (hinj : base.uuid4.Injective) {s : SyncState H}
    (h : SyncHistory base s) {p : SyncPoll H} (hp : s.pending = some p) {correlationId : UUID}
    {out : Outcome H}
    (hout : execute p.runtime s.db (.applySyncResult p.poll.result correlationId) = .ok out)
    (hsuccess : p.poll.result.success = true) :
    SyncHistory base ⟨out.db, none, s.committed ++ [p]⟩ := by
  have hpolled := h.pending p hp
  obtain ⟨sync, hsync, rfl⟩ := map_ok hout
  obtain ⟨hcursors, -, hadvanced⟩ :=
    applySyncResult_cursors hinj hpolled.restart h.store h.cursors hsync
  refine ⟨execute_store hinj hpolled.restart h.store hout, hcursors, ?_, ?_, ?_, ?_⟩
  · intro last hlast
    rw [List.getLast?_concat, Option.some.injEq] at hlast
    subst hlast
    rw [hadvanced hsuccess, hpolled.next hsuccess]
    rfl
  · intro q hq
    cases hq
  · refine List.isChain_append.mpr ⟨h.windows, .singleton p, fun last hlast first hfirst => ?_⟩
    cases hfirst
    have hread := h.latest last hlast
    rw [hread] at hpolled
    exact hpolled.follows
  · intro q hq
    rcases List.mem_append.mp hq with hq | hq
    · exact h.calls q hq
    · rw [List.mem_singleton.mp hq]
      exact hpolled.calls

theorem SyncHistory.step (hinj : base.uuid4.Injective) {s t : SyncState H}
    {action : SyncAction H P} (hserved : action.ServedBy base s) (hnext : s.next action = some t)
    (h : SyncHistory base s) :
    SyncHistory base t ∧
      (t.committed = s.committed → t.db.syncCursors = s.db.syncCursors) := by
  cases action with
  | poll runtime client settings normalize fuel now =>
      simp only [SyncState.next] at hnext
      split at hnext
      · cases hnext
      · split at hnext
        · cases hnext
        · cases hnext
          exact ⟨h, fun _ => rfl⟩
        · next poll hpoll =>
            cases hnext
            refine ⟨⟨h.store, h.cursors, h.latest, fun p hp => ?_, h.windows, h.calls⟩, fun _ => rfl⟩
            cases hp
            exact h.polled hserved hpoll
  | apply correlationId =>
      simp only [SyncState.next] at hnext
      split at hnext
      · cases hnext
      · next p hp =>
          split at hnext
          · cases hnext
            exact ⟨h.without_pending, fun _ => rfl⟩
          · next out hout =>
              cases hnext
              have hrt := (h.pending p hp).restart
              split
              · next hsuccess =>
                  refine ⟨h.applied hinj hp hout hsuccess, fun hsame => ?_⟩
                  simp at hsame
              · next hfailed =>
                  obtain ⟨hc, hkept⟩ := execute_cursors hinj hrt h.store h.cursors hout
                  have hsame : out.db.syncCursors = s.db.syncCursors := by
                    refine hkept fun result correlationId' htx => ?_
                    cases htx
                    exact eq_false_of_ne_true hfailed
                  exact ⟨(h.with_db (execute_store hinj hrt h.store hout) hc hsame).without_pending,
                    fun _ => hsame⟩
  | abandon =>
      cases hnext
      exact ⟨h.without_pending, fun _ => rfl⟩
  | serve request =>
      simp only [SyncState.next] at hnext
      split at hnext
      · cases hnext
      · next hother =>
          split at hnext
          · cases hnext
            exact ⟨h, fun _ => rfl⟩
          · next out hout =>
              cases hnext
              obtain ⟨hc, hkept⟩ := execute_cursors hinj hserved h.store h.cursors hout
              have hsame : out.db.syncCursors = s.db.syncCursors := by
                refine hkept fun result correlationId htx => absurd ?_ hother
                rw [htx]
                rfl
              exact ⟨h.with_db (execute_store hinj hserved h.store hout) hc hsame, fun _ => hsame⟩

theorem SyncHistory.run (hinj : base.uuid4.Injective) {s t : SyncState H}
    {actions : List (SyncAction H P)}
    (hrun : Run SyncState.next (SyncAction.ServedBy base) s actions t) (h : SyncHistory base s) :
    SyncHistory base t :=
  hrun.invariant (I := SyncHistory base) (fun _ _ _ hg hn hi => (SyncHistory.step hinj hg hn hi).1) h

omit [DecidableEq H] in
theorem SyncHistory.chained {s : SyncState H} (h : SyncHistory base s) :
    Chained SyncPoll.since SyncPoll.startedAt s.committed :=
  h.windows.imp fun _ _ => SyncPoll.Follows.chained

theorem SyncState.no_update_is_missed (hinj : base.uuid4.Injective) {db : Db H}
    (hdb : Reachable base db) {s : SyncState H} {actions : List (SyncAction H P)}
    (h : Run SyncState.next (SyncAction.ServedBy base) (.start db) actions s) :
    (∀ before after, [before, after] <:+: s.committed →
        after.since ≤ before.startedAt - after.overlap) ∧
      (∀ last p, s.committed.getLast? = some last → s.pending = some p →
        p.since ≤ last.startedAt - p.overlap) ∧
      (∀ p ∈ s.committed, ∀ call ∈ p.poll.calls, call.updatedSince = p.poll.updatedSince) ∧
      (∀ first last, s.committed.head? = some first → s.committed.getLast? = some last →
        ∀ u, first.since ≤ u → u ≤ last.startedAt →
          ∃ p ∈ s.committed, p.since ≤ u ∧ u ≤ p.startedAt) ∧
      ∀ (action : SyncAction H P) t, action.ServedBy base s → s.next action = some t →
        t.committed = s.committed → t.db.syncCursors = s.db.syncCursors := by
  have hs := SyncHistory.run hinj h (.start (hdb.invariant hinj) (hdb.cursors hinj))
  refine ⟨?_, ?_, hs.calls, ?_, ?_⟩
  · intro before after hinfix
    have hchain : [before, after].IsChain SyncPoll.Follows := List.IsChain.infix hs.windows hinfix
    have hfollows : before.Follows after := List.isChain_pair.mp hchain
    exact hfollows
  · intro last p hlast hp
    have hpolled := hs.pending p hp
    rw [hs.latest last hlast] at hpolled
    exact hpolled.follows
  · intro first last hfirst hlast u hopen hclose
    exact hs.chained.covers hfirst hlast hopen hclose
  · intro action t hserved hnext
    exact (hs.step hinj hserved hnext).2

def demoClient (answer : Except String (ClockPage Unit)) : ClockClient Unit := fun _ _ => answer

def demoPoll (answer : Except String (ClockPage Unit)) (now : Timestamp) :
    SyncAction RoomStateDocument Unit :=
  .poll (demoRuntime false) (demoClient answer) {} (fun _ _ => .error "KeyError") 5 now

def demoSyncs : List (SyncAction RoomStateDocument Unit) :=
  [demoPoll (.ok ⟨[], none⟩) (demoNow 9 40), .apply 1,
    demoPoll (.error "ConnectError") (demoNow 9 45), .apply 2,
    demoPoll (.ok ⟨[], none⟩) (demoNow 9 50), .abandon,
    demoPoll (.ok ⟨[], none⟩) (demoNow 10 0), .apply 3]

theorem lost_polls_leave_no_gap :
    ∃ s, Run SyncState.next (SyncAction.ServedBy (demoRuntime false)) (.start (Db.empty _))
        demoSyncs s ∧
      s.committed.length = 2 ∧
      ∀ u, demoInstant 9 40 ≤ u → u ≤ demoInstant 10 0 →
        ∃ p ∈ s.committed, p.since ≤ u ∧ u ≤ p.startedAt := by
  obtain ⟨s, hrun, hchecked⟩ := exists_run SyncState.next (fun _ _ => True)
    (.start (Db.empty RoomStateDocument)) demoSyncs
    (p := fun s => decide (s.committed.length = 2) &&
      s.committed.head?.any (fun p => decide (p.since ≤ demoInstant 9 40)) &&
      s.committed.getLast?.any (fun p => decide (p.startedAt = demoInstant 10 0)))
    (by decide +kernel)
  simp only [Bool.and_eq_true, decide_eq_true_eq, Option.any_eq_true] at hchecked
  obtain ⟨⟨hlength, first, hfirst, hopen⟩, last, hlast, hclose⟩ := hchecked
  have hserved : ∀ a ∈ demoSyncs, ∀ s, SyncAction.ServedBy (demoRuntime false) s a := by
    intro a ha s
    simp only [demoSyncs, List.mem_cons, List.not_mem_nil, or_false] at ha
    rcases ha with rfl | rfl | rfl | rfl | rfl | rfl | rfl | rfl
    · exact .refl _
    · trivial
    · exact .refl _
    · trivial
    · exact .refl _
    · trivial
    · exact .refl _
    · trivial
  have hrun' : Run SyncState.next (SyncAction.ServedBy (demoRuntime false)) (.start (Db.empty _))
      demoSyncs s :=
    (hrun.with_actions hserved).mono fun s _ hg => hg.2 s
  refine ⟨s, hrun', hlength, fun u hfrom hto => ?_⟩
  exact (SyncState.no_update_is_missed (demoRuntime_uuid4_injective false)
    (Reachable.empty _) hrun').2.2.2.1 first last hfirst hlast u (hopen.trans hfrom)
    (hclose ▸ hto)

end ClockOrchestrator
