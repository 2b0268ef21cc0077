import ClockOrchestrator.Guarantees.PublishedFinal

namespace ClockOrchestrator

open Python Trace

structure RecordedResult where
  messageId : UUID
  published : Bool
  recordedAt : Instant
  deriving DecidableEq

def OutboxAction.clock : OutboxAction → Option Instant
  | .releaseStale now _ | .claim _ now _ | .record _ _ _ now | .retryDeadLetters now => some now
  | _ => none

def OutboxState.recorded (s : OutboxState) : OutboxAction → List RecordedResult
  | .record _ i _ now =>
      (s.batches[i]?.elim [] (·.results)).map fun r => ⟨r.messageId, r.published, now⟩
  | _ => []

def reportsOf (id : UUID) (log : List RecordedResult) : List RecordedResult :=
  log.filter (·.messageId = id)

theorem reportsOf_append (id : UUID) (log log' : List RecordedResult) :
    reportsOf id (log ++ log') = reportsOf id log ++ reportsOf id log' :=
  List.filter_append ..

inductive RowMove (policy : OutboxRetryPolicy) :
    OutboxAction → OutboxEvent → List RecordedResult → OutboxEvent → Prop
  | kept {a : OutboxAction} {row : OutboxEvent} : RowMove policy a row [] row
  | claimed {workerId : String} {now : Instant} {limit : ℕ} {row : OutboxEvent} :
      isClaimable now row = true →
        RowMove policy (.claim workerId now limit) row [] (claimedRow workerId now row)
  | released {now : Instant} {olderThan : ℤ} {row : OutboxEvent} :
      isStale now olderThan row = true →
        RowMove policy (.releaseStale now olderThan) row [] (releasedRow now row)
  | reported {i : ℕ} {jitter : UUID → ℤ} {now : Instant} {row : OutboxEvent}
      {result : OutboxPublishResult} :
      row.status = .publishing →
        RowMove policy (.record policy i jitter now) row [⟨row.id, result.published, now⟩]
          (resultRow policy result (jitter row.id) now row)

def OutboxAction.Under (policy : OutboxRetryPolicy) : OutboxAction → Prop
  | .record used _ jitter _ => used = policy ∧ ∀ id, 0 ≤ jitter id
  | .releaseStale _ olderThan => 0 ≤ olderThan
  | .retryDeadLetters _ => False
  | _ => True

def OutboxState.RecordsClaimed (s : OutboxState) : OutboxAction → Prop
  | .record _ i _ _ => ∀ batch ∈ s.batches[i]?, ∀ result ∈ batch.results,
      ∃ row ∈ s.rows, row.id = result.messageId ∧ row.status = .publishing
  | _ => True

instance (s : OutboxState) (a : OutboxAction) : Decidable (s.RecordsClaimed a) :=
  match a with
  | .record _ _ _ _ => inferInstanceAs (Decidable (∀ batch ∈ _, _))
  | .enqueue _ | .releaseStale _ _ | .claim _ _ _ | .publish _ _ | .deliver _ _ | .discard _
  | .abandon _ | .retryDeadLetters _ => inferInstanceAs (Decidable True)

def resultFor (id : UUID) (results : List OutboxPublishResult) : Option OutboxPublishResult :=
  results.find? (·.messageId = id)

section Rows

variable {rows : List OutboxEvent} {now : Instant} {policy : OutboxRetryPolicy}
  {results : List OutboxPublishResult} {result : OutboxPublishResult} {id : UUID}

theorem resultFor_eq_some (h : resultFor id results = some result) :
    result ∈ results ∧ result.messageId = id := by
  have hid := List.find?_some h
  exact ⟨List.mem_of_find?_eq_some h, of_decide_eq_true hid⟩

theorem resultFor_eq_none : resultFor id results = none ↔ id ∉ results.map (·.messageId) := by
  simp [resultFor]

theorem resultRow_id (result : OutboxPublishResult) (jitter : ℤ) (row : OutboxEvent) :
    (resultRow policy result jitter now row).id = row.id :=
  congrArg Prod.fst (RowStep.reported policy result jitter now row).content_eq

theorem recordResults_eq (hunique : (results.map (·.messageId)).Nodup) (jitter : UUID → ℤ) :
    recordResults policy now (results.map fun r => (r, jitter r.messageId)) rows =
      rows.map fun row => (resultFor row.id results).elim row
        fun r => resultRow policy r (jitter row.id) now row := by
  induction results generalizing rows with
  | nil => simp [recordResults, resultFor]
  | cons r rest ih =>
      rw [List.map_cons, List.nodup_cons] at hunique
      rw [List.map_cons, recordResults, ih hunique.2, updateWhere, List.map_map]
      refine List.map_congr_left fun row _ => ?_
      rw [Function.comp_apply]
      by_cases hid : row.id = r.messageId
      · have hrest : resultFor row.id rest = none := resultFor_eq_none.mpr (hid ▸ hunique.1)
        have hfirst : resultFor row.id (r :: rest) = some r :=
          List.find?_cons_of_pos (decide_eq_true hid.symm)
        rw [if_pos (List.mem_singleton.mpr hid), resultRow_id, hrest, hfirst, hid]
        rfl
      · have hlater : resultFor row.id (r :: rest) = resultFor row.id rest :=
          List.find?_cons_of_neg (by simpa using Ne.symm hid)
        rw [if_neg (mt List.mem_singleton.mp hid), hlater]

theorem reportsOf_results (hunique : (results.map (·.messageId)).Nodup) (id : UUID) :
    reportsOf id (results.map fun r => ⟨r.messageId, r.published, now⟩) =
      ((resultFor id results).map fun r => ⟨id, r.published, now⟩).toList := by
  induction results with
  | nil => rfl
  | cons r rest ih =>
      rw [List.map_cons, List.nodup_cons] at hunique
      rw [List.map_cons, reportsOf, List.filter_cons]
      by_cases hid : r.messageId = id
      · have hrest : resultFor id rest = none := resultFor_eq_none.mpr (hid ▸ hunique.1)
        have hfirst : resultFor id (r :: rest) = some r :=
          List.find?_cons_of_pos (decide_eq_true hid)
        rw [if_pos (decide_eq_true hid), ← reportsOf, ih hunique.2, hrest, hfirst, ← hid]
        rfl
      · have hlater : resultFor id (r :: rest) = resultFor id rest :=
          List.find?_cons_of_neg (by simpa using hid)
        rw [if_neg (by simpa using hid), ← reportsOf, ih hunique.2, hlater]

end Rows

namespace OutboxState

variable {s t : OutboxState} {a : OutboxAction} {policy : OutboxRetryPolicy} {row' : OutboxEvent}

theorem record_rowMove {i : ℕ} {jitter : UUID → ℤ} {now : Instant}
    {results : List OutboxPublishResult} (hbatch : s.batches[i]? = some ⟨[], results⟩)
    (hs : s.Accounted) (hclaimed : s.RecordsClaimed (.record policy i jitter now))
    (hrow' : row' ∈
      recordResults policy now (results.map fun r => (r, jitter r.messageId)) s.rows) :
    ∃ row ∈ s.rows, row'.id = row.id ∧ RowMove policy (.record policy i jitter now) row
      (reportsOf row.id (s.recorded (.record policy i jitter now))) row' := by
  have hunique : (results.map (·.messageId)).Nodup :=
    hs.batches _ (List.mem_of_getElem? hbatch)
  rw [recordResults_eq hunique, List.mem_map] at hrow'
  obtain ⟨row, hrow, rfl⟩ := hrow'
  refine ⟨row, hrow, ?_⟩
  rw [recorded, hbatch, Option.elim_some, reportsOf_results hunique]
  cases hfor : resultFor row.id results with
  | none => exact ⟨rfl, .kept⟩
  | some result =>
      obtain ⟨hmem, hid⟩ := resultFor_eq_some hfor
      obtain ⟨held, hheld, hsame, hpublishing⟩ := hclaimed _ hbatch result hmem
      rw [KeyedTable.eq_of_key hs.unique hheld hrow (hsame.trans hid)] at hpublishing
      exact ⟨resultRow_id .., .reported hpublishing⟩

theorem next_rowMove (hs : s.Accounted) (hunder : a.Under policy) (hclaimed : s.RecordsClaimed a)
    (h : s.next a = some t) (hrow' : row' ∈ t.rows) :
    row' ∈ a.created ∨ ∃ row ∈ s.rows, row'.id = row.id ∧
      RowMove policy a row (reportsOf row.id (s.recorded a)) row' := by
  have hsame : t.rows = s.rows → s.recorded a = [] → ∃ row ∈ s.rows, row'.id = row.id ∧
      RowMove policy a row (reportsOf row.id (s.recorded a)) row' := by
    intro hrows hnone
    rw [hnone]
    exact ⟨row', hrows ▸ hrow', rfl, .kept⟩
  cases next_steps h with
  | enqueued =>
      rcases List.mem_append.mp hrow' with hold | hnew
      · exact .inr ⟨row', hold, rfl, .kept⟩
      · exact .inl hnew
  | released =>
      obtain ⟨row, hrow, rfl⟩ := List.mem_map.mp hrow'
      refine .inr ⟨row, hrow, ?_⟩
      split
      · next hstale => exact ⟨rfl, .released hstale⟩
      · exact ⟨rfl, .kept⟩
  | claimed =>
      obtain ⟨row, hrow, rfl⟩ := List.mem_map.mp hrow'
      refine .inr ⟨row, hrow, ?_⟩
      split
      · next hid =>
          obtain ⟨taken, htaken, hsameId⟩ := List.mem_map.mp hid
          obtain ⟨hmem, hdue⟩ := mem_claimable htaken
          rw [KeyedTable.eq_of_key hs.unique hmem hrow hsameId] at hdue
          exact ⟨rfl, .claimed hdue⟩
      · exact ⟨rfl, .kept⟩
  | published => exact .inr (hsame rfl rfl)
  | delivered => exact .inr (hsame rfl rfl)
  | discarded => exact .inr (hsame rfl rfl)
  | recorded hbatch =>
      obtain ⟨rfl, -⟩ := hunder
      exact .inr (record_rowMove hbatch hs hclaimed hrow')
  | abandoned => exact .inr (hsame rfl rfl)
  | retried => cases hunder

theorem recorded_known (hclaimed : s.RecordsClaimed a) {r : RecordedResult}
    (hr : r ∈ s.recorded a) : r.messageId ∈ s.rows.map (·.id) := by
  cases a with
  | record policy i jitter now =>
      rw [recorded] at hr
      cases hbatch : s.batches[i]? with
      | none => simp [hbatch] at hr
      | some batch =>
          rw [hbatch, Option.elim_some] at hr
          obtain ⟨result, hresult, rfl⟩ := List.mem_map.mp hr
          obtain ⟨row, hrow, hid, -⟩ := hclaimed _ hbatch result hresult
          exact List.mem_map.mpr ⟨row, hrow, hid⟩
  | _ => cases hr

end OutboxState

end ClockOrchestrator
