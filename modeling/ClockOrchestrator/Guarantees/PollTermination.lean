import ClockOrchestrator.Clock.Rest
import ClockOrchestrator.Support.Exhaustion
import ClockOrchestrator.Runtime

namespace ClockOrchestrator

open Python Exhaustion

variable {P : Type}

def handedOut (client : ClockClient P) (updatedSince : Timestamp) :
    List ListCall → Option String → ℕ → Option String
  | calls, cursor, 0 =>
      (client calls ⟨updatedSince, cursor⟩).toOption.bind (·.nextCursor)
  | calls, cursor, n + 1 =>
      ((client calls ⟨updatedSince, cursor⟩).toOption.bind (·.nextCursor)).bind fun next =>
        handedOut client updatedSince (calls ++ [⟨updatedSince, cursor⟩]) (some next) n

def HandsOut (client : ClockClient P) (cursors : Set String) : Prop :=
  ∀ calls call page next, client calls call = .ok page → page.nextCursor = some next →
    next ∈ cursors

section Dialogue

variable {client : ClockClient P} {updatedSince : Timestamp} {calls : List ListCall}
  {cursor : Option String} {n : ℕ}

theorem handedOut_stops (client : ClockClient P) (updatedSince : Timestamp)
    (calls : List ListCall) (cursor : Option String) :
    Stops (handedOut client updatedSince calls cursor) := by
  intro n
  induction n generalizing calls cursor with
  | zero =>
      intro h
      rw [handedOut] at h
      rw [handedOut, h]
      rfl
  | succ n ih =>
      intro h
      rw [handedOut] at h ⊢
      cases hnext : (client calls ⟨updatedSince, cursor⟩).toOption.bind (·.nextCursor) with
      | none => rfl
      | some next =>
          rw [hnext] at h
          exact ih _ _ h

theorem handedOut_mem {cursors : Set String} (hclient : HandsOut client cursors) {next : String}
    (h : handedOut client updatedSince calls cursor n = some next) : next ∈ cursors := by
  have hfirst : ∀ calls cursor next,
      (client calls ⟨updatedSince, cursor⟩).toOption.bind (·.nextCursor) = some next →
        next ∈ cursors := by
    intro calls cursor next hnext
    obtain ⟨page, hpage, hcursor⟩ := Option.bind_eq_some_iff.mp hnext
    exact hclient _ _ page next (toOption_eq_some.mp hpage) hcursor
  induction n generalizing calls cursor with
  | zero => exact hfirst _ _ _ h
  | succ n ih =>
      obtain ⟨_, -, hrest⟩ := Option.bind_eq_some_iff.mp h
      exact ih hrest

theorem fetchPages_turn {fuel : ℕ} :
    (fetchPages client updatedSince (fuel + 1) calls cursor).isSome =
      ((client calls ⟨updatedSince, cursor⟩).toOption.bind (·.nextCursor)).elim true fun next =>
        (fetchPages client updatedSince fuel (calls ++ [⟨updatedSince, cursor⟩])
          (some next)).isSome := by
  rw [fetchPages]
  cases client calls ⟨updatedSince, cursor⟩ with
  | error e => rfl
  | ok page =>
      cases hnext : page.nextCursor with
      | none => simp [Except.toOption, hnext]
      | some next => simp [Except.toOption, hnext]

theorem fetchPages_isSome_iff :
    (fetchPages client updatedSince (n + 1) calls cursor).isSome = true ↔
      handedOut client updatedSince calls cursor n = none := by
  induction n generalizing calls cursor with
  | zero =>
      rw [fetchPages_turn, handedOut]
      cases (client calls ⟨updatedSince, cursor⟩).toOption.bind (·.nextCursor) with
      | none => simp
      | some next => simp [fetchPages]
  | succ n ih =>
      rw [fetchPages_turn, handedOut]
      cases (client calls ⟨updatedSince, cursor⟩).toOption.bind (·.nextCursor) with
      | none => simp
      | some next => exact ih

theorem fetchPages_ends_iff :
    (∃ fuel answer, fetchPages client updatedSince fuel calls cursor = some answer) ↔
      ∃ n, handedOut client updatedSince calls cursor n = none := by
  constructor
  · rintro ⟨fuel, answer, h⟩
    cases fuel with
    | zero => cases h
    | succ n => exact ⟨n, fetchPages_isSome_iff.mp (Option.isSome_iff_exists.mpr ⟨answer, h⟩)⟩
  · rintro ⟨n, hn⟩
    exact ⟨n + 1, Option.isSome_iff_exists.mp (fetchPages_isSome_iff.mpr hn)⟩

end Dialogue

theorem pollOnce_returns_iff {client : ClockClient P} {settings : SyncSettings}
    {normalize : Normalizer P} {cursor : SyncCursorState} {now : Timestamp} :
    (∃ fuel poll, pollOnce client settings normalize fuel cursor now = some (.ok poll)) ↔
      ∃ updatedSince, incrementalWindowStart cursor settings now = .ok updatedSince ∧
        ∃ n, handedOut client updatedSince [] cursor.cursorValue n = none := by
  unfold pollOnce
  cases incrementalWindowStart cursor settings now with
  | error e => simp
  | ok updatedSince =>
      simp only [Except.ok.injEq, exists_eq_left']
      rw [← fetchPages_ends_iff]
      constructor
      · rintro ⟨fuel, poll, h⟩
        obtain ⟨answer, hanswer, -⟩ := Option.map_eq_some_iff.mp h
        exact ⟨fuel, answer, hanswer⟩
      · rintro ⟨fuel, answer, h⟩
        refine ⟨fuel, ⟨updatedSince, answer.2, pollResult cursor now
          (answer.1.bind fun items => items.mapM (normalize now))⟩, ?_⟩
        rw [h]
        rfl

theorem polling_ends_iff (client : ClockClient P) (settings : SyncSettings)
    (normalize : Normalizer P) (cursor : SyncCursorState) (now : Timestamp)
    {cursors : Set String} (hfinite : cursors.Finite) (hclient : HandsOut client cursors) :
    (∃ fuel poll, pollOnce client settings normalize fuel cursor now = some (.ok poll)) ↔
      ∃ updatedSince, incrementalWindowStart cursor settings now = .ok updatedSince ∧
        ∀ next, {n | handedOut client updatedSince [] cursor.cursorValue n = some next}.Finite := by
  rw [pollOnce_returns_iff]
  refine exists_congr fun updatedSince => and_congr_right fun _ => ?_
  exact (handedOut_stops _ _ _ _).exists_none_iff hfinite fun n next => handedOut_mem hclient

def demoContract : ClockApiContract where
  bookings := {
    endpointPath := "bookings"
    documentationReference := "sandbox"
    responseItemsKey := some "bookings"
    nextCursorKey := some "next"
    cursorQueryParam := some "cursor"
    updatedSinceFilter := some "updated_since" }
  rooms := { endpointPath := "rooms", documentationReference := "sandbox" }
  physicalRoomFieldsConfirmed := true

def pagedServer (repeats : Bool) : ClockServer := fun _ request =>
  .ok (.object (("bookings", .array []) ::
    if repeats || !request.params.any (·.1 = "cursor") then [("next", .str "page-2")] else []))

def pagedClient (repeats : Bool) : ClockClient JsonValue :=
  restClient (fun _ => true) (some demoContract) (pagedServer repeats)

theorem pagedClient_page (repeats : Bool) (calls : List ListCall) (call : ListCall) :
    pagedClient repeats calls call =
      .ok ⟨[], if repeats || call.cursor.isNone then some "page-2" else none⟩ := by
  obtain ⟨updatedSince, cursor⟩ := call
  cases cursor with
  | none => cases repeats <;> rfl
  | some value => cases repeats <;> rfl

theorem pagedClient_handsOut (repeats : Bool) : HandsOut (pagedClient repeats) {"page-2"} := by
  intro calls call page next hpage hnext
  rw [pagedClient_page, Except.ok.injEq] at hpage
  rw [← hpage] at hnext
  dsimp only at hnext
  split at hnext
  · cases hnext
    rfl
  · cases hnext

theorem two_pages_hand_out_once (updatedSince : Timestamp) {n : ℕ} (hn : n ≠ 0) :
    handedOut (pagedClient false) updatedSince [] none n = none := by
  have hsecond : handedOut (pagedClient false) updatedSince [] none 1 = none := by
    rw [handedOut, pagedClient_page]
    rfl
  exact (handedOut_stops _ _ _ _).none_of_le hsecond (Nat.one_le_iff_ne_zero.mpr hn)

theorem two_page_poll_ends : ∃ fuel poll,
    pollOnce (pagedClient false) {} (fun _ _ => .error "ValueError") fuel ⟨none, none⟩
      (demoNow 10 0) = some (.ok poll) := by
  refine (polling_ends_iff (pagedClient false) {} _ ⟨none, none⟩ (demoNow 10 0)
    (Set.finite_singleton "page-2") (pagedClient_handsOut false)).mpr
    ⟨.aware (.utc (demoInstant 10 0 - 2 * dayMicros)), by decide, fun next => ?_⟩
  apply (Set.finite_singleton 0).subset
  intro n hn
  by_contra hlater
  rw [Set.mem_ofPred_eq, two_pages_hand_out_once _ hlater] at hn
  cases hn

theorem repeated_cursor_never_ends (updatedSince : Timestamp) (calls : List ListCall)
    (cursor : Option String) (n : ℕ) :
    handedOut (pagedClient true) updatedSince calls cursor n = some "page-2" := by
  induction n generalizing calls cursor with
  | zero =>
      rw [handedOut, pagedClient_page]
      rfl
  | succ n ih =>
      rw [handedOut, pagedClient_page]
      exact ih _ _

theorem poll_of_repeated_cursor_never_ends :
    ¬ ∀ (client : ClockClient JsonValue) (settings : SyncSettings)
        (normalize : Normalizer JsonValue) (cursor : SyncCursorState) (now : Timestamp)
        (cursors : Set String), cursors.Finite → HandsOut client cursors →
      ∃ fuel poll, pollOnce client settings normalize fuel cursor now = some (.ok poll) := by
  intro h
  have hends := h (pagedClient true) {} (fun _ _ => .error "ValueError") ⟨none, none⟩ (demoNow 10 0)
    {"page-2"} (Set.finite_singleton _) (pagedClient_handsOut true)
  obtain ⟨updatedSince, -, n, hn⟩ := pollOnce_returns_iff.mp hends
  rw [repeated_cursor_never_ends] at hn
  cases hn

end ClockOrchestrator
