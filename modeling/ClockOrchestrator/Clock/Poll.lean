import ClockOrchestrator.Clock.DbSync

namespace ClockOrchestrator

open Python

structure SyncSettings where
  clockSyncOverlapSeconds : ℕ := 120
  clockReconciliationDaysPast : ℕ := 2
  deriving DecidableEq

def incrementalWindowStart (cursor : SyncCursorState) (settings : SyncSettings)
    (now : Timestamp) : Except PyError Timestamp :=
  match cursor.lastSuccessAt with
  | none => now.sub (settings.clockReconciliationDaysPast * dayMicros)
  | some lastSuccessAt => lastSuccessAt.sub (settings.clockSyncOverlapSeconds * 1000000)

structure ClockPage (P : Type) where
  items : List P
  nextCursor : Option String

structure ListCall where
  updatedSince : Timestamp
  cursor : Option String
  deriving DecidableEq

-- What a client answers may depend on the calls before; an exception is its class name.
abbrev ClockClient (P : Type) := List ListCall → ListCall → Except String (ClockPage P)

variable {P : Type}

-- The loop over the pages, with the calls it made. It ends within some number of turns or not
-- at all.
def fetchPages (client : ClockClient P) (updatedSince : Timestamp) :
    ℕ → List ListCall → Option String → Option (Except String (List P) × List ListCall)
  | 0, _, _ => none
  | fuel + 1, calls, cursor =>
      let call := ⟨updatedSince, cursor⟩
      match client calls call with
      | .error e => some (.error e, calls ++ [call])
      | .ok page =>
          match page.nextCursor with
          | none => some (.ok page.items, calls ++ [call])
          | some next =>
              (fetchPages client updatedSince fuel (calls ++ [call]) (some next)).map
                fun answer => (answer.1.map (page.items ++ ·), answer.2)

-- normalize_booking_payload with the property and the mapping fixed; its timestamp is
-- first_seen_at and last_seen_at.
abbrev Normalizer (P : Type) := Timestamp → P → Except String NormalizedBooking

def pollResult (cursor : SyncCursorState) (now : Timestamp) :
    Except String (List NormalizedBooking) → SyncRunResult
  | .ok bookings => ⟨true, bookings, now, now, ⟨some now, none⟩, none⟩
  | .error e => ⟨false, [], now, now, cursor, some e⟩

structure ClockPoll where
  updatedSince : Timestamp
  calls : List ListCall
  result : SyncRunResult
  deriving DecidableEq

-- An overflow of the window start is raised before the try block.
def pollOnce (client : ClockClient P) (settings : SyncSettings) (normalize : Normalizer P)
    (fuel : ℕ) (cursor : SyncCursorState) (now : Timestamp) : Option (Except PyError ClockPoll) :=
  match incrementalWindowStart cursor settings now with
  | .error e => some (.error e)
  | .ok updatedSince =>
      (fetchPages client updatedSince fuel [] cursor.cursorValue).map fun answer =>
        .ok ⟨updatedSince, answer.2,
          pollResult cursor now (answer.1.bind fun items => items.mapM (normalize now))⟩

theorem fetchPages_calls {client : ClockClient P} {updatedSince : Timestamp} {fuel : ℕ}
    {calls : List ListCall} {cursor : Option String}
    {answer : Except String (List P) × List ListCall}
    (h : fetchPages client updatedSince fuel calls cursor = some answer)
    (hcalls : ∀ call ∈ calls, call.updatedSince = updatedSince) :
    ∀ call ∈ answer.2, call.updatedSince = updatedSince := by
  induction fuel generalizing calls cursor answer with
  | zero => cases h
  | succ fuel ih =>
      have hmore : ∀ call ∈ calls ++ [⟨updatedSince, cursor⟩], call.updatedSince = updatedSince := by
        intro call hcall
        rw [List.mem_append, List.mem_singleton] at hcall
        rcases hcall with hcall | rfl
        · exact hcalls call hcall
        · rfl
      simp only [fetchPages] at h
      split at h
      · cases h
        exact hmore
      · split at h
        · cases h
          exact hmore
        · obtain ⟨rest, hrest, rfl⟩ := Option.map_eq_some_iff.mp h
          have hkept := ih hrest hmore
          exact hkept

theorem pollOnce_spec {client : ClockClient P} {settings : SyncSettings} {normalize : Normalizer P}
    {fuel : ℕ} {cursor : SyncCursorState} {now : Timestamp} {poll : ClockPoll}
    (h : pollOnce client settings normalize fuel cursor now = some (.ok poll)) :
    incrementalWindowStart cursor settings now = .ok poll.updatedSince ∧
      (∀ call ∈ poll.calls, call.updatedSince = poll.updatedSince) ∧
      poll.result.startedAt = now ∧
      (poll.result.success = true → poll.result.nextCursor = ⟨some now, none⟩) := by
  unfold pollOnce at h
  split at h
  · cases h
  · next updatedSince hstart =>
      obtain ⟨answer, hanswer, hpoll⟩ := Option.map_eq_some_iff.mp h
      cases hpoll
      refine ⟨hstart, fetchPages_calls hanswer (by simp), ?_⟩
      cases answer.1.bind fun items => items.mapM (normalize now) with
      | ok bookings => exact ⟨rfl, fun _ => rfl⟩
      | error e => exact ⟨rfl, nofun⟩

end ClockOrchestrator
