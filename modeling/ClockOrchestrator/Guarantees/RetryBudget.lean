import ClockOrchestrator.Guarantees.OutboxRecovery
import ClockOrchestrator.Outbox.RowMoves

namespace ClockOrchestrator

open Python Trace

def failuresIn (reports : List RecordedResult) : List Instant :=
  (reports.filter fun r => !r.published).map (·.recordedAt)

def Succeeded (reports : List RecordedResult) : Prop := ∃ r ∈ reports, r.published = true

def backoff (policy : OutboxRetryPolicy) (attempts : ℕ) : ℤ :=
  min (policy.baseDelaySeconds * 2 ^ (attempts - 1)) policy.maxDelaySeconds * 1000000

def OutboxStatus.Open (status : OutboxStatus) : Prop :=
  status = .pending ∨ status = .publishing ∨ status = .retrying

def OutboxEvent.since (row : OutboxEvent) : Option Instant :=
  if row.status = .publishing then row.claimedAt else row.nextAttemptAt

section Row

variable {policy : OutboxRetryPolicy} {a : OutboxAction} {row row' : OutboxEvent}
  {reports new : List RecordedResult} {clocks : List Instant} {k : ℕ} {recordedAt : Instant}

structure Budgeted (policy : OutboxRetryPolicy) (reports : List RecordedResult)
    (row : OutboxEvent) : Prop where
  attempts : row.attempts = (failuresIn reports).length
  ongoing : row.status.Open →
    (failuresIn reports).length < policy.maxAttempts ∧ ¬ Succeeded reports
  published : row.status = .published → Succeeded reports
  dead : row.status = .deadLetter →
    policy.maxAttempts ≤ (failuresIn reports).length ∧ ¬ Succeeded reports

theorem failuresIn_append (reports new : List RecordedResult) :
    failuresIn (reports ++ new) = failuresIn reports ++ failuresIn new := by
  simp [failuresIn]

theorem succeeded_concat {r : RecordedResult} :
    Succeeded (reports ++ [r]) ↔ Succeeded reports ∨ r.published = true := by
  simp [Succeeded, or_and_right, exists_or]

theorem isClaimable_open {now : Instant} (h : isClaimable now row = true) :
    (row.status = .pending ∨ row.status = .retrying) ∧
      ∀ since ∈ row.nextAttemptAt, since ≤ now := by
  rw [isClaimable, Bool.and_eq_true] at h
  refine ⟨of_decide_eq_true h.1, fun since hsince => ?_⟩
  rw [Option.mem_def.mp hsince] at h
  exact of_decide_eq_true h.2

theorem isClaimable_status {now : Instant} (h : isClaimable now row = true) : row.status.Open :=
  (isClaimable_open h).1.elim .inl fun hretrying => .inr (.inr hretrying)

theorem isClaimable_since {now : Instant} (h : isClaimable now row = true) :
    ∀ since ∈ row.since, since ≤ now := by
  obtain ⟨hstatus, hnext⟩ := isClaimable_open h
  rw [OutboxEvent.since, if_neg (by rcases hstatus with h | h <;> simp [h])]
  exact hnext

theorem isStale_status {now : Instant} {olderThan : ℤ} (h : isStale now olderThan row = true) :
    row.status = .publishing ∧ ∃ claimedAt, row.claimedAt = some claimedAt ∧
      claimedAt < now - olderThan := by
  rw [isStale, Bool.and_eq_true] at h
  obtain ⟨claimedAt, hclaimedAt, hbefore⟩ := (Option.any_eq_true _ _).mp h.2
  exact ⟨of_decide_eq_true h.1, claimedAt, hclaimedAt, of_decide_eq_true hbefore⟩

theorem RowMove.dead (h : RowMove policy a row new row') (hdead : row.status = .deadLetter) :
    row'.status = .deadLetter := by
  cases h with
  | kept => exact hdead
  | claimed hdue => exact absurd (isClaimable_status hdue) (by simp [hdead, OutboxStatus.Open])
  | released hstale => exact absurd (isStale_status hstale).1 (by simp [hdead])
  | reported hpublishing => exact absurd hpublishing (by simp [hdead])

namespace Budgeted

theorem fresh (hmax : 1 ≤ policy.maxAttempts) (hrow : row.Fresh) : Budgeted policy [] row := by
  refine ⟨hrow.attempts, fun _ => ⟨?_, by simp [Succeeded]⟩, ?_, ?_⟩
  · exact Int.lt_of_add_one_le hmax
  · rw [hrow.status]
    nofun
  · rw [hrow.status]
    nofun

theorem reopened (h : Budgeted policy reports row) (hopen : row.status.Open)
    (hattempts : row'.attempts = row.attempts) (hopen' : row'.status.Open) :
    Budgeted policy reports row' := by
  refine ⟨hattempts.trans h.attempts, fun _ => h.ongoing hopen, fun hp => ?_, fun hd => ?_⟩
  · rw [hp] at hopen'
    simp [OutboxStatus.Open] at hopen'
  · rw [hd] at hopen'
    simp [OutboxStatus.Open] at hopen'

theorem reported (h : Budgeted policy reports row) (hopen : row.status.Open)
    (result : OutboxPublishResult) (jitter : ℤ) (now : Instant) :
    Budgeted policy (reports ++ [⟨row.id, result.published, now⟩])
      (resultRow policy result jitter now row) := by
  obtain ⟨hbudget, hsucceeded⟩ := h.ongoing hopen
  rw [resultRow]
  cases hpublished : result.published with
  | true =>
      have hfailures : failuresIn [⟨row.id, true, now⟩] = [] := rfl
      refine ⟨?_, ?_, fun _ => succeeded_concat.mpr (.inr rfl), ?_⟩
      · rw [failuresIn_append, hfailures, List.append_nil]
        exact h.attempts
      · simp [publishedRow, OutboxStatus.Open]
      · simp [publishedRow]
  | false =>
      have hfailures : failuresIn [⟨row.id, false, now⟩] = [now] := rfl
      have hlength : (failuresIn (reports ++ [⟨row.id, false, now⟩])).length =
          row.attempts + 1 := by
        rw [failuresIn_append, hfailures, List.length_append, ← h.attempts, List.length_singleton]
      have hnone : ¬ Succeeded (reports ++ [⟨row.id, false, now⟩]) := by
        rw [succeeded_concat]
        simpa using hsucceeded
      rw [if_neg Bool.false_ne_true, failedRow]
      dsimp only
      split
      · next hspent =>
          refine ⟨hlength.symm, ?_, ?_, fun _ => ⟨hlength ▸ hspent, hnone⟩⟩
          · simp [OutboxStatus.Open]
          · simp
      · next hleft =>
          refine ⟨hlength.symm, fun _ => ⟨?_, hnone⟩, ?_, ?_⟩
          · rw [hlength]
            exact lt_of_not_ge hleft
          · simp
          · simp

theorem move (h : Budgeted policy reports row) (hmove : RowMove policy a row new row') :
    Budgeted policy (reports ++ new) row' := by
  cases hmove with
  | kept =>
      rw [List.append_nil]
      exact h
  | claimed hdue =>
      rw [List.append_nil]
      exact h.reopened (isClaimable_status hdue) rfl (.inr (.inl rfl))
  | released hstale =>
      rw [List.append_nil]
      exact h.reopened (.inr (.inl (isStale_status hstale).1)) rfl (.inr (.inr rfl))
  | reported hpublishing => exact h.reported (.inr (.inl hpublishing)) _ _ _

theorem deadLetter_iff (h : Budgeted policy reports row) :
    row.status = .deadLetter ↔
      policy.maxAttempts ≤ (failuresIn reports).length ∧ ¬ Succeeded reports := by
  refine ⟨h.dead, fun ⟨hspent, hsucceeded⟩ => ?_⟩
  cases hstatus : row.status with
  | published => exact absurd (h.published hstatus) hsucceeded
  | deadLetter => rfl
  | pending => exact absurd (h.ongoing (.inl hstatus)).1 (not_lt.mpr hspent)
  | publishing => exact absurd (h.ongoing (.inr (.inl hstatus))).1 (not_lt.mpr hspent)
  | retrying => exact absurd (h.ongoing (.inr (.inr hstatus))).1 (not_lt.mpr hspent)

end Budgeted

structure BackedOff (policy : OutboxRetryPolicy) (clocks : List Instant)
    (reports : List RecordedResult) (row : OutboxEvent) : Prop where
  last : row.status.Open → ∀ recordedAt ∈ (failuresIn reports).getLast?,
    ∃ since ∈ row.since, recordedAt + backoff policy (failuresIn reports).length ≤ since
  earlier : ∀ k recordedAt, (failuresIn reports)[k]? = some recordedAt →
    k + 1 < (failuresIn reports).length →
      ∃ clock ∈ clocks, recordedAt + backoff policy (k + 1) ≤ clock
  claimedAt : row.status = .publishing → ∃ clock ∈ clocks, row.claimedAt = some clock

theorem backoff_le_retryDelay {attempts : ℕ} {jitter : ℤ} (h : 0 ≤ jitter) :
    backoff policy attempts ≤ retryDelay policy attempts jitter := by
  rw [backoff, retryDelay]
  split
  · exact le_add_of_nonneg_right h
  · exact le_add_of_nonneg_right le_rfl

namespace BackedOff

theorem fresh (hrow : row.Fresh) : BackedOff policy clocks [] row := by
  refine ⟨by simp [failuresIn], by simp [failuresIn], ?_⟩
  rw [hrow.status]
  nofun

theorem mono {clocks' : List Instant} (h : BackedOff policy clocks reports row)
    (hsub : clocks ⊆ clocks') : BackedOff policy clocks' reports row := by
  refine ⟨h.last, fun k recordedAt hk hlater => ?_, fun hpublishing => ?_⟩
  · obtain ⟨clock, hclock, hle⟩ := h.earlier k recordedAt hk hlater
    exact ⟨clock, hsub hclock, hle⟩
  · obtain ⟨clock, hclock, heq⟩ := h.claimedAt hpublishing
    exact ⟨clock, hsub hclock, heq⟩

theorem advance (h : BackedOff policy clocks reports row) (hopen : row.status.Open)
    {now : Instant} (hsince : ∀ since ∈ row.since, since ≤ now) (hnow : row'.since = some now)
    (hclaimed : row'.status = .publishing → ∃ clock ∈ clocks, row'.claimedAt = some clock) :
    BackedOff policy clocks reports row' := by
  refine ⟨fun _ recordedAt hlast => ⟨now, hnow, ?_⟩, h.earlier, hclaimed⟩
  obtain ⟨since, hmem, hle⟩ := h.last hopen recordedAt hlast
  exact hle.trans (hsince since hmem)

theorem over_or_held (h : BackedOff policy clocks reports row) (hopen : row.status.Open)
    (hk : (failuresIn reports)[k]? = some recordedAt) :
    (k + 1 ≠ (failuresIn reports).length ∧
        ∃ clock ∈ clocks, recordedAt + backoff policy (k + 1) ≤ clock) ∨
      ∃ since ∈ row.since, recordedAt + backoff policy (k + 1) ≤ since := by
  have hlt : k < (failuresIn reports).length := (List.getElem?_eq_some_iff.mp hk).1
  rcases Nat.lt_or_ge (k + 1) (failuresIn reports).length with hlater | hend
  · exact .inl ⟨hlater.ne, h.earlier k recordedAt hk hlater⟩
  · have hlength : (failuresIn reports).length = k + 1 := Nat.le_antisymm hend hlt
    have hlast : recordedAt ∈ (failuresIn reports).getLast? := by
      rw [List.getLast?_eq_getElem?, hlength]
      exact hk
    obtain ⟨since, hsince, hle⟩ := h.last hopen recordedAt hlast
    exact .inr ⟨since, hsince, hlength ▸ hle⟩

theorem wait_over (h : BackedOff policy clocks reports row) (hpublishing : row.status = .publishing)
    (hk : (failuresIn reports)[k]? = some recordedAt) :
    ∃ clock ∈ clocks, recordedAt + backoff policy (k + 1) ≤ clock := by
  rcases h.over_or_held (.inr (.inl hpublishing)) hk with ⟨-, hover⟩ | ⟨since, hsince, hle⟩
  · exact hover
  · obtain ⟨clock, hclock, hclaimed⟩ := h.claimedAt hpublishing
    rw [OutboxEvent.since, if_pos hpublishing, hclaimed, Option.mem_some_iff] at hsince
    exact ⟨clock, hclock, hsince ▸ hle⟩

theorem reported (h : BackedOff policy clocks reports row) (hbudget : Budgeted policy reports row)
    (hpublishing : row.status = .publishing) (result : OutboxPublishResult) {jitter : ℤ}
    (hjitter : 0 ≤ jitter) (now : Instant) :
    BackedOff policy clocks (reports ++ [⟨row.id, result.published, now⟩])
      (resultRow policy result jitter now row) := by
  rw [resultRow]
  cases hpublished : result.published with
  | true =>
      have hfailures : failuresIn (reports ++ [⟨row.id, true, now⟩]) = failuresIn reports := by
        rw [failuresIn_append]
        exact List.append_nil _
      refine ⟨?_, ?_, ?_⟩
      · simp [publishedRow, OutboxStatus.Open]
      · rw [hfailures]
        exact h.earlier
      · simp [publishedRow]
  | false =>
      have hfailures : failuresIn (reports ++ [⟨row.id, false, now⟩]) =
          failuresIn reports ++ [now] := failuresIn_append ..
      rw [if_neg Bool.false_ne_true]
      refine ⟨fun hopen recordedAt hlast => ?_, fun k recordedAt hk hlater => ?_, fun h => ?_⟩
      · rw [hfailures, List.getLast?_concat, Option.mem_some_iff] at hlast
        rw [failedRow] at hopen ⊢
        dsimp only at hopen ⊢
        split at hopen
        · simp [OutboxStatus.Open] at hopen
        · next hleft =>
            rw [if_neg hleft]
            refine ⟨_, rfl, ?_⟩
            rw [← hlast, hfailures, List.length_append, ← hbudget.attempts]
            exact Int.add_le_add_left (backoff_le_retryDelay hjitter) now
      · rw [hfailures, List.length_append, List.length_singleton,
          Nat.add_lt_add_iff_right] at hlater
        rw [hfailures, List.getElem?_append_left hlater] at hk
        exact h.wait_over hpublishing hk
      · rw [failedRow] at h
        dsimp only at h
        split at h
        · cases h
        · cases h

theorem move (h : BackedOff policy clocks reports row) (hbudget : Budgeted policy reports row)
    (hunder : a.Under policy) (hmove : RowMove policy a row new row') :
    BackedOff policy (clocks ++ a.clock.toList) (reports ++ new) row' := by
  have hgrown := h.mono (List.subset_append_left clocks a.clock.toList)
  cases hmove with
  | kept =>
      rw [List.append_nil]
      exact hgrown
  | claimed hdue =>
      rw [List.append_nil]
      exact hgrown.advance (isClaimable_status hdue) (isClaimable_since hdue) rfl fun _ =>
        ⟨_, List.mem_append_right _ (List.mem_singleton_self _), rfl⟩
  | released hstale =>
      obtain ⟨hpublishing, claimedAt, hclaimedAt, hbefore⟩ := isStale_status hstale
      rw [List.append_nil]
      refine hgrown.advance (.inr (.inl hpublishing)) (fun since hsince => ?_) rfl nofun
      rw [OutboxEvent.since, if_pos hpublishing, hclaimedAt] at hsince
      cases hsince
      exact (hbefore.trans_le (Int.sub_le_self _ hunder)).le
  | reported hpublishing => exact hgrown.reported hbudget hpublishing _ (hunder.2 _) _

theorem not_claimed_before (h : BackedOff policy clocks reports row) {now : Instant}
    (hdue : isClaimable now row = true) (hk : (failuresIn reports)[k]? = some recordedAt)
    (hlatest : k + 1 = (failuresIn reports).length ∨ ∀ clock ∈ clocks, clock ≤ now) :
    recordedAt + backoff policy (k + 1) ≤ now := by
  have hsince : ∀ since ∈ row.since, since ≤ now := isClaimable_since hdue
  rcases h.over_or_held (isClaimable_status hdue) hk with
    ⟨hne, clock, hclock, hle⟩ | ⟨since, hmem, hle⟩
  · exact hle.trans (hlatest.resolve_left hne clock hclock)
  · exact hle.trans (hsince since hmem)

end BackedOff

end Row

def recordedFor (id : UUID) (as : List OutboxAction) : List RecordedResult :=
  reportsOf id (outputs OutboxState.next OutboxState.recorded (.start []) as)

namespace OutboxState

variable {policy : OutboxRetryPolicy} {s t : OutboxState} {as bs : List OutboxAction}
  {a : OutboxAction} {row : OutboxEvent}

structure Retries (policy : OutboxRetryPolicy) (s : OutboxState) (a : OutboxAction) : Prop where
  fresh : s.EnqueuesFresh a
  under : a.Under policy
  claimed : s.RecordsClaimed a

structure Retried (policy : OutboxRetryPolicy) (as : List OutboxAction) (s : OutboxState) :
    Prop where
  accounted : s.Accounted
  known : ∀ r ∈ outputs OutboxState.next recorded (.start []) as,
    r.messageId ∈ s.rows.map (·.id)
  budgeted : ∀ row ∈ s.rows, Budgeted policy (recordedFor row.id as) row
  backedOff : ∀ row ∈ s.rows,
    BackedOff policy (as.filterMap (·.clock)) (recordedFor row.id as) row

theorem created_unknown (hs : s.Accounted) (h : s.next a = some t) (hrow : row ∈ a.created) :
    row.id ∉ s.rows.map (·.id) ∧ s.recorded a = [] := by
  have hids : t.rows.map (·.id) = s.rows.map (·.id) ++ a.created.map (·.id) := by
    rw [ids_eq, ids_eq, columns_eq, columns_eq, next_content h]
    simp [OutboxEvent.content]
  have hunique : (t.rows.map (·.id)).Nodup := (accounted_next h hs).unique
  rw [hids, List.nodup_append] at hunique
  refine ⟨fun hknown => hunique.2.2 _ hknown _ (List.mem_map_of_mem hrow) rfl, ?_⟩
  cases a with
  | record policy i jitter now => cases hrow
  | _ => rfl

theorem Retried.next (hmax : 1 ≤ policy.maxAttempts)
    (hrun : Run OutboxState.next (Retries policy) (.start []) as s) (hg : Retries policy s a)
    (h : s.next a = some t) (hs : Retried policy as s) : Retried policy (as ++ [a]) t := by
  have haccounted := accounted_next h hs.accounted
  have hgrown : s.rows.map (·.id) <+: t.rows.map (·.id) := by
    rw [ids_eq, ids_eq]
    exact (next_columns h).map _
  have hlog : ∀ id, recordedFor id (as ++ [a]) =
      recordedFor id as ++ reportsOf id (s.recorded a) := by
    intro id
    rw [recordedFor, hrun.outputs_concat, reportsOf_append]
    rfl
  have hnew : ∀ row ∈ a.created, recordedFor row.id (as ++ [a]) = [] := by
    intro row hrow
    obtain ⟨hunknown, hnone⟩ := created_unknown hs.accounted h hrow
    rw [hlog, hnone]
    refine List.append_eq_nil_iff.mpr ⟨List.filter_eq_nil_iff.mpr fun r hr hid => ?_, rfl⟩
    exact hunknown (of_decide_eq_true hid ▸ hs.known r hr)
  have hclocks : (as ++ [a]).filterMap (·.clock) = as.filterMap (·.clock) ++ a.clock.toList := by
    rw [List.filterMap_append]
    cases hclock : a.clock <;> simp [hclock]
  refine ⟨haccounted, ?_, fun row hrow => ?_, fun row hrow => ?_⟩
  · rw [hrun.outputs_concat]
    intro r hr
    rcases List.mem_append.mp hr with hr | hr
    · exact hgrown.subset (hs.known r hr)
    · exact hgrown.subset (recorded_known hg.claimed hr)
  · rcases next_rowMove hs.accounted hg.under hg.claimed h hrow with
      hcreated | ⟨old, hold, hid, hmove⟩
    · rw [hnew row hcreated]
      exact .fresh hmax (hg.fresh row hcreated)
    · rw [hlog, hid]
      exact (hs.budgeted old hold).move hmove
  · rcases next_rowMove hs.accounted hg.under hg.claimed h hrow with
      hcreated | ⟨old, hold, hid, hmove⟩
    · rw [hnew row hcreated]
      exact .fresh (hg.fresh row hcreated)
    · rw [hlog, hid, hclocks]
      exact (hs.backedOff old hold).move (hs.budgeted old hold) hg.under hmove

theorem run_retried (hmax : 1 ≤ policy.maxAttempts)
    (h : Run OutboxState.next (Retries policy) (.start []) as s) : Retried policy as s := by
  refine h.invariant_past (I := Retried policy) ?_ ?_
  · intro as a s t hrun hg hn hs
    exact hs.next hmax hrun hg hn
  · exact ⟨⟨by simp [Unique, start], by simp [start]⟩, by simp [outputs], by simp [start],
      by simp [start]⟩

theorem dead_next (hs : s.Accounted) (hg : Retries policy s a) (h : s.next a = some t) {id : UUID}
    (hdead : ∃ row ∈ s.rows, row.id = id ∧ row.status = .deadLetter) :
    ∃ row ∈ t.rows, row.id = id ∧ row.status = .deadLetter := by
  obtain ⟨row, hrow, rfl, hstatus⟩ := hdead
  have hid : row.id ∈ t.rows.map (·.id) := by
    have hgrown : s.rows.map (·.id) <+: t.rows.map (·.id) := by
      rw [ids_eq, ids_eq]
      exact (next_columns h).map _
    exact hgrown.subset (List.mem_map_of_mem hrow)
  obtain ⟨row', hrow', hsame⟩ := List.mem_map.mp hid
  refine ⟨row', hrow', hsame, ?_⟩
  rcases next_rowMove hs hg.under hg.claimed h hrow' with
    hcreated | ⟨old, hold, hid', hmove⟩
  · exact absurd (hsame ▸ List.mem_map_of_mem hrow) (created_unknown hs h hcreated).1
  · obtain rfl := KeyedTable.eq_of_key hs.unique hold hrow (hid'.symm.trans hsame)
    exact hmove.dead hstatus

theorem claimed_row (hs : s.Unique) (hrow : row ∈ s.rows) {workerId : String} {now : Instant}
    {limit : ℕ} (h : row.id ∈ (claimPending workerId now limit s.rows).1.map (·.id)) :
    isClaimable now row = true := by
  rw [claimPending, List.map_map] at h
  obtain ⟨taken, htaken, hid⟩ := List.mem_map.mp h
  obtain ⟨hmem, hdue⟩ := mem_claimable htaken
  exact KeyedTable.eq_of_key hs hmem hrow hid ▸ hdue

theorem retry_budget_and_backoff (hmax : 1 ≤ policy.maxAttempts)
    (h : Run OutboxState.next (Retries policy) (.start []) as s)
    (h' : Run OutboxState.next (Retries policy) s bs t) (hrow : row ∈ s.rows) :
    row.attempts = (failuresIn (recordedFor row.id as)).length ∧
    (row.status = .deadLetter ↔
      policy.maxAttempts ≤ (failuresIn (recordedFor row.id as)).length ∧
        ¬ Succeeded (recordedFor row.id as)) ∧
    (row.status = .deadLetter → ∀ workerId now limit,
      row.id ∉ (claimPending workerId now limit t.rows).1.map (·.id)) ∧
    ∀ k recordedAt, (failuresIn (recordedFor row.id as))[k]? = some recordedAt →
      ∀ workerId now limit, row.id ∈ (claimPending workerId now limit s.rows).1.map (·.id) →
        k + 1 = (failuresIn (recordedFor row.id as)).length ∨
            (∀ clock ∈ as.filterMap (·.clock), clock ≤ now) →
          recordedAt + backoff policy (k + 1) ≤ now := by
  have hs := run_retried hmax h
  refine ⟨(hs.budgeted row hrow).attempts, (hs.budgeted row hrow).deadLetter_iff, ?_, ?_⟩
  · intro hdead workerId now limit hclaim
    have ht : t.Accounted ∧ ∃ row' ∈ t.rows, row'.id = row.id ∧ row'.status = .deadLetter :=
      h'.invariant (I := fun u => u.Accounted ∧ ∃ row' ∈ u.rows, row'.id = row.id ∧
          row'.status = .deadLetter)
        (fun _ _ _ hg hn hi => ⟨accounted_next hn hi.1, dead_next hi.1 hg hn hi.2⟩)
        ⟨hs.accounted, row, hrow, rfl, hdead⟩
    obtain ⟨haccounted, row', hrow', hid, hdead'⟩ := ht
    have hopen := isClaimable_status (claimed_row haccounted.unique hrow' (hid ▸ hclaim))
    exact absurd hopen (by simp [hdead', OutboxStatus.Open])
  · intro k recordedAt hk workerId now limit hclaim hlatest
    exact (hs.backedOff row hrow).not_claimed_before
      (claimed_row hs.accounted.unique hrow hclaim) hk hlatest

end OutboxState

def demoFailedBatch : List OutboxAction :=
  [.enqueue [demoControlEvent 1 0, demoControlEvent 2 1], demoClaim 2,
    .publish 0 (.rejected "ConnectionError"), .publish 0 (.rejected "ConnectionError"),
    demoRecord 2]

theorem failed_rows_wait :
    ∃ s, Run OutboxState.next (OutboxState.Retries {}) (.start []) demoFailedBatch s ∧
      ∀ row ∈ s.rows, row.attempts = 1 ∧ ∀ workerId now limit,
        row.id ∈ (claimPending workerId now limit s.rows).1.map (·.id) →
          demoInstant 10 2 + 5000000 ≤ now := by
  obtain ⟨s, hrun, hchecked⟩ := exists_run OutboxState.next OutboxState.RecordsClaimed
    (.start []) demoFailedBatch (p := fun s => decide (∀ row ∈ s.rows, row.id = 1 ∨ row.id = 2))
    (by decide +kernel)
  have hactions : ∀ a ∈ demoFailedBatch, (∀ row ∈ a.created, row.Fresh) ∧ a.Under {} := by
    intro a ha
    simp only [demoFailedBatch, List.mem_cons, List.not_mem_nil, or_false] at ha
    rcases ha with rfl | rfl | rfl | rfl | rfl
    · refine ⟨fun row hrow => ?_, trivial⟩
      simp only [OutboxAction.created, List.mem_cons, List.not_mem_nil, or_false] at hrow
      rcases hrow with rfl | rfl
      · exact outboxEvent_fresh ..
      · exact outboxEvent_fresh ..
    · exact ⟨by simp [demoClaim, OutboxAction.created], trivial⟩
    · exact ⟨by simp [OutboxAction.created], trivial⟩
    · exact ⟨by simp [OutboxAction.created], trivial⟩
    · exact ⟨by simp [demoRecord, OutboxAction.created], rfl, fun _ => le_rfl⟩
  have hrun' : Run OutboxState.next (OutboxState.Retries {}) (.start []) demoFailedBatch s :=
    (hrun.with_actions hactions).mono fun _ _ hg => ⟨hg.2.1, hg.2.2, hg.1⟩
  refine ⟨s, hrun', fun row hrow => ?_⟩
  have hfailures : failuresIn (recordedFor row.id demoFailedBatch) = [demoInstant 10 2] := by
    rcases of_decide_eq_true hchecked row hrow with hid | hid
    · rw [hid]
      decide +kernel
    · rw [hid]
      decide +kernel
  obtain ⟨hattempts, -, -, hwait⟩ :=
    OutboxState.retry_budget_and_backoff (by decide) hrun' (.nil s) hrow
  rw [hfailures] at hattempts hwait
  refine ⟨hattempts, fun workerId now limit hclaim => ?_⟩
  exact hwait 0 _ rfl workerId now limit hclaim (.inl rfl)

end ClockOrchestrator
