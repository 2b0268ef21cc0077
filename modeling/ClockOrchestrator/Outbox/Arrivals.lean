import ClockOrchestrator.Guarantees.TopicOrder

namespace ClockOrchestrator

open Python Trace OrderedDelivery

def PendingOutboxMessage.content (m : PendingOutboxMessage) :
    UUID × String × OutboxPayload × ℕ × Bool :=
  (m.id, m.topic, m.payload, m.qos, m.retain)

def keptMessages (broker : List PendingOutboxMessage) (topic : String) :
    List PendingOutboxMessage :=
  broker.filter fun m => m.retain && decide (m.topic = topic)

theorem mem_keptMessages {broker : List PendingOutboxMessage} {topic : String}
    {m : PendingOutboxMessage} :
    m ∈ keptMessages broker topic ↔ m ∈ broker ∧ m.retain = true ∧ m.topic = topic := by
  simp [keptMessages]

def retained (broker : List PendingOutboxMessage) (topic : String) : Option OutboxPayload :=
  (keptMessages broker topic).getLast?.map (·.payload)

section Rows

variable {rows : List OutboxEvent} {now : Instant} {policy : OutboxRetryPolicy} {topic : String}

theorem resultRow_published {result : OutboxPublishResult} {jitter : ℤ} {row : OutboxEvent}
    (h : (resultRow policy result jitter now row).status = .published) :
    result.published = true := by
  cases hpublished : result.published with
  | true => rfl
  | false =>
      simp only [resultRow, hpublished, Bool.false_eq_true, if_false, failedRow] at h
      split at h
      · cases h
      · cases h

theorem recordResults_published {results : List (OutboxPublishResult × ℤ)} {row : OutboxEvent}
    (hrow : row ∈ recordResults policy now results rows) (hpublished : row.status = .published) :
    (∃ old ∈ rows, old.id = row.id ∧ old.status = .published) ∨
      ∃ r ∈ results, r.1.messageId = row.id ∧ r.1.published = true := by
  induction results generalizing rows with
  | nil => exact .inl ⟨row, hrow, rfl, hpublished⟩
  | cons r rest ih =>
      obtain ⟨result, jitter⟩ := r
      rcases ih hrow with ⟨old, hold, hid, hstatus⟩ | ⟨r, hr, hresult⟩
      · obtain ⟨before, hbefore, rfl⟩ := List.mem_map.mp hold
        by_cases hmatch : before.id ∈ [result.messageId]
        · rw [if_pos hmatch] at hid hstatus
          have hsame : (resultRow policy result jitter now before).id = before.id :=
            congrArg Prod.fst (RowStep.reported policy result jitter now before).content_eq
          refine .inr ⟨(result, jitter), List.mem_cons_self, ?_, resultRow_published hstatus⟩
          rw [← hid, hsame, List.mem_singleton.mp hmatch]
        · rw [if_neg hmatch] at hid hstatus
          exact .inl ⟨before, hbefore, hid, hstatus⟩
      · exact .inr ⟨r, List.mem_cons_of_mem _ hr, hresult⟩

def onTopic (rows : List OutboxEvent) (topic : String) : List OutboxEvent :=
  rows.filter (·.topic = topic)

theorem mem_onTopic {row : OutboxEvent} :
    row ∈ onTopic rows topic ↔ row ∈ rows ∧ row.topic = topic := by
  simp [onTopic]

theorem enqueuedBefore_of_pair {row row' : OutboxEvent}
    (h : [row, row'].Sublist (onTopic rows topic)) :
    EnqueuedBefore (rows.map (·.columns)) row.id row'.id := by
  obtain ⟨hrow, htopic⟩ := mem_onTopic.mp (h.subset (List.mem_cons_self))
  obtain ⟨hrow', htopic'⟩ := mem_onTopic.mp (h.subset (List.mem_cons_of_mem row List.mem_cons_self))
  refine ⟨row.columns, List.mem_map_of_mem hrow, row'.columns, List.mem_map_of_mem hrow',
    (h.trans List.filter_sublist).map _, rfl, rfl, htopic.trans htopic'.symm⟩

theorem enqueuedBefore_last {row newest : OutboxEvent} (hrow : row ∈ onTopic rows topic)
    (hnewest : (onTopic rows topic).getLast? = some newest) :
    row.id = newest.id ∨ EnqueuedBefore (rows.map (·.columns)) row.id newest.id := by
  obtain ⟨init, hinit⟩ := List.getLast?_eq_some_iff.mp hnewest
  rw [hinit] at hrow
  rcases List.mem_append.mp hrow with hrow | hrow
  · have hpair : [row, newest].Sublist (onTopic rows topic) := by
      rw [hinit]
      exact (List.singleton_sublist.mpr hrow).append (List.Sublist.refl [newest])
    exact .inr (enqueuedBefore_of_pair hpair)
  · rw [List.mem_singleton.mp hrow]
    exact .inl rfl

end Rows

namespace OutboxState

variable {s t : OutboxState} {a : OutboxAction}

structure Carried (s : OutboxState) : Prop where
  waiting : ∀ m ∈ s.waiting, m.content ∈ s.rows.map (·.content)
  broker : ∀ m ∈ s.broker, m.content ∈ s.rows.map (·.content)

theorem taken_content {m : PendingOutboxMessage} (h : m ∈ s.taken a) :
    m.content ∈ s.rows.map (·.content) := by
  cases a with
  | claim workerId now limit =>
      obtain ⟨row, hrow, rfl⟩ := List.mem_map.mp h
      exact List.mem_map_of_mem (mem_claimable hrow).1
  | _ => cases h

theorem carried_next (h : s.next a = some t) (hs : s.Carried) : t.Carried := by
  have hmoves := next_moves h
  have hkept : ∀ content ∈ s.rows.map (·.content), content ∈ t.rows.map (·.content) := by
    intro content hcontent
    rw [next_content h]
    exact List.mem_append_left _ hcontent
  constructor
  · intro m hm
    rcases List.mem_append.mp (hmoves.waiting hm) with hm | hm
    · exact hkept _ (hs.waiting m hm)
    · exact hkept _ (taken_content hm)
  · intro m hm
    rw [hmoves.broker, List.mem_append, Option.mem_toList] at hm
    rcases hm with hm | hm
    · exact hkept _ (hs.broker m hm)
    · exact hkept _ (hs.waiting m (hmoves.arrival m hm))

structure Confirmed (s : OutboxState) : Prop where
  results : ∀ batch ∈ s.batches, ∀ r ∈ batch.results, r.published = true →
    r.messageId ∈ s.broker.map (·.id)
  rows : ∀ row ∈ s.rows, row.status = .published → row.id ∈ s.broker.map (·.id)

theorem confirmed_map {f : OutboxEvent → OutboxEvent} (hs : s.Confirmed)
    (hf : ∀ row, (f row).status = .published → f row = row) :
    Confirmed { s with rows := s.rows.map f } := by
  refine ⟨hs.results, fun row hrow hpublished => ?_⟩
  obtain ⟨old, hold, rfl⟩ := List.mem_map.mp hrow
  have hsame := hf old hpublished
  rw [hsame] at hpublished ⊢
  exact hs.rows old hold hpublished

theorem confirmed_next (hfresh : ∀ row ∈ a.created, row.status ≠ .published)
    (h : s.next a = some t) (hs : s.Confirmed) : t.Confirmed := by
  have hdropped : ∀ {batches : List OutboxBatch}, batches ⊆ s.batches →
      ∀ batch ∈ batches, ∀ r ∈ batch.results, r.published = true →
        r.messageId ∈ s.broker.map (·.id) :=
    fun hsub batch hbatch => hs.results batch (hsub hbatch)
  have hgrown : ∀ new : List PendingOutboxMessage, ∀ id ∈ s.broker.map (·.id),
      id ∈ (s.broker ++ new).map (·.id) := by
    intro new id hid
    rw [List.map_append]
    exact List.mem_append_left _ hid
  cases next_steps h with
  | enqueued =>
      refine ⟨hs.results, List.forall_mem_append.mpr ⟨hs.rows, fun row hrow hpublished => ?_⟩⟩
      exact absurd hpublished (hfresh row hrow)
  | released =>
      refine confirmed_map hs fun row hpublished => ?_
      split at hpublished
      · cases hpublished
      · next hstale => exact if_neg hstale
  | retried =>
      refine confirmed_map hs fun row hpublished => ?_
      split at hpublished
      · cases hpublished
      · next hdead => exact if_neg hdead
  | @claimed workerId now limit =>
      have hclaimed : Confirmed { s with
          rows := updateWhere ((claimable now limit s.rows).map (·.id)) (claimedRow workerId now)
            s.rows } := by
        refine confirmed_map hs fun row hpublished => ?_
        split at hpublished
        · cases hpublished
        · next hother => exact if_neg hother
      refine ⟨List.forall_mem_append.mpr ⟨hs.results, ?_⟩, hclaimed.rows⟩
      simp
  | @published i outcome m todo results hbatch =>
      refine ⟨fun batch hmem r hr hpublished => ?_, fun row hrow hpublished =>
        hgrown _ _ (hs.rows row hrow hpublished)⟩
      rcases List.mem_or_eq_of_mem_set hmem with hmem | rfl
      · exact hgrown _ _ (hs.results batch hmem r hr hpublished)
      · rcases List.mem_append.mp hr with hr | hr
        · exact hgrown _ _ (hs.results _ (List.mem_of_getElem? hbatch) r hr hpublished)
        · rw [List.mem_singleton.mp hr] at hpublished ⊢
          cases outcome with
          | acknowledged confirmedAt => simp [publishResult, PublishOutcome.delivered]
          | unacknowledged error => cases hpublished
          | rejected error => cases hpublished
  | delivered =>
      exact ⟨fun batch hbatch r hr hpublished => hgrown _ _ (hs.results batch hbatch r hr hpublished),
        fun row hrow hpublished => hgrown _ _ (hs.rows row hrow hpublished)⟩
  | discarded => exact ⟨hs.results, hs.rows⟩
  | abandoned => exact ⟨hdropped fun _ => List.mem_of_mem_eraseIdx, hs.rows⟩
  | @recorded policy i jitter now results hbatch =>
      refine ⟨hdropped fun _ => List.mem_of_mem_eraseIdx, fun row hrow hpublished => ?_⟩
      rcases recordResults_published hrow hpublished with ⟨old, hold, hid, hstatus⟩ | ⟨r, hr, hid, hr'⟩
      · exact hid ▸ hs.rows old hold hstatus
      · obtain ⟨result, hresult, rfl⟩ := List.mem_map.mp hr
        exact hid ▸ hs.results _ (List.mem_of_getElem? hbatch) result hresult hr'

theorem Carried.row (hs : s.Carried) {m : PendingOutboxMessage} (hm : m ∈ s.broker) :
    ∃ row ∈ s.rows, row.id = m.id ∧ row.topic = m.topic ∧ row.payload = m.payload ∧
      row.retain = m.retain := by
  obtain ⟨row, hrow, hsame⟩ := List.mem_map.mp (hs.broker m hm)
  simp only [PendingOutboxMessage.content, OutboxEvent.content, Prod.mk.injEq] at hsame
  exact ⟨row, hrow, hsame.1, hsame.2.1, hsame.2.2.1, hsame.2.2.2.2⟩

theorem Delivering.kept (hd : s.Delivering) (topic : String) :
    ((keptMessages s.broker topic).map (·.id)).Pairwise fun earlier later =>
      ¬ EnqueuedBefore s.columns later earlier :=
  hd.inOrder.arrived.sublist (List.filter_sublist.map _)

theorem retained_newest (hd : s.Delivering) (hcarried : s.Carried) (hconfirmed : s.Confirmed)
    (hretain : ∀ row ∈ s.rows, row.retain = true) {topic : String} {newest : OutboxEvent}
    (hnewest : (onTopic s.rows topic).getLast? = some newest)
    (hpublished : newest.status = .published) :
    retained s.broker topic = some newest.payload := by
  obtain ⟨hmem, htopic⟩ := mem_onTopic.mp (List.mem_of_getLast? hnewest)
  have hown : ∀ row ∈ s.rows, row.id = newest.id → row = newest := fun row hrow hid =>
    KeyedTable.eq_of_key hd.unique hrow hmem hid
  have hsent : newest.id ∈ (keptMessages s.broker topic).map (·.id) := by
    obtain ⟨m, hm, hid⟩ := List.mem_map.mp (hconfirmed.rows newest hmem hpublished)
    obtain ⟨row, hrow, hrowid, hrowtopic, -, hrowretain⟩ := hcarried.row hm
    obtain rfl := hown row hrow (hrowid.trans hid)
    refine List.mem_map.mpr ⟨m, mem_keptMessages.mpr ⟨hm, ?_, ?_⟩, hid⟩
    · rw [← hrowretain, hretain row hrow]
    · rw [← hrowtopic, htopic]
  have hlast := last_arrived (hd.kept topic) hsent fun id hid => by
    obtain ⟨m, hm, rfl⟩ := List.mem_map.mp hid
    obtain ⟨hm, -, htopic'⟩ := mem_keptMessages.mp hm
    obtain ⟨row, hrow, hrowid, hrowtopic, -⟩ := hcarried.row hm
    rw [← hrowid]
    exact enqueuedBefore_last (mem_onTopic.mpr ⟨hrow, hrowtopic.trans htopic'⟩) hnewest
  rw [List.getLast?_map, Option.map_eq_some_iff] at hlast
  obtain ⟨m, hm, hid⟩ := hlast
  obtain ⟨row, hrow, hrowid, -, hpayload, -⟩ :=
    hcarried.row (mem_keptMessages.mp (List.mem_of_getLast? hm)).1
  obtain rfl := hown row hrow (hrowid.trans hid)
  rw [retained, hm, Option.map_some, hpayload]

theorem retained_enqueued (hcarried : s.Carried) {topic : String} {payload : OutboxPayload}
    (h : retained s.broker topic = some payload) :
    ∃ row ∈ onTopic s.rows topic, row.payload = payload := by
  obtain ⟨m, hm, rfl⟩ := Option.map_eq_some_iff.mp h
  obtain ⟨hm, -, htopic⟩ := mem_keptMessages.mp (List.mem_of_getLast? hm)
  obtain ⟨row, hrow, -, hrowtopic, hpayload, -⟩ := hcarried.row hm
  exact ⟨row, mem_onTopic.mpr ⟨hrow, hrowtopic.trans htopic⟩, hpayload⟩

theorem retained_moves_on (hd : s.Delivering) (hcarried : s.Carried)
    {earlier : List PendingOutboxMessage} (hbroker : earlier <+: s.broker) {topic : String}
    {old : OutboxPayload} (hold : retained earlier topic = some old) :
    retained s.broker topic = some old ∨
      ∃ row row', [row, row'].Sublist (onTopic s.rows topic) ∧ row.payload = old ∧
        retained s.broker topic = some row'.payload := by
  obtain ⟨m, hm, rfl⟩ := Option.map_eq_some_iff.mp hold
  obtain ⟨more, hmore⟩ := hbroker.filter fun m => m.retain && decide (m.topic = topic)
  rcases List.eq_nil_or_concat more with rfl | ⟨init, last, rfl⟩
  · left
    rw [retained, keptMessages, ← hmore, List.append_nil]
    exact congrArg (Option.map (·.payload)) hm
  rw [List.concat_eq_append, ← List.append_assoc] at hmore
  have hlast : retained s.broker topic = some last.payload := by
    rw [retained, keptMessages, ← hmore, List.getLast?_concat]
    rfl
  have hsent : ∀ m ∈ keptMessages s.broker topic, ∃ row ∈ onTopic s.rows topic, row.id = m.id ∧
      row.payload = m.payload := by
    intro m hm
    obtain ⟨hm, -, htopic⟩ := mem_keptMessages.mp hm
    obtain ⟨row, hrow, hid, hrowtopic, hpayload, -⟩ := hcarried.row hm
    exact ⟨row, mem_onTopic.mpr ⟨hrow, hrowtopic.trans htopic⟩, hid, hpayload⟩
  have hmember : m ∈ keptMessages earlier topic := List.mem_of_getLast? hm
  obtain ⟨row, hrow, hid, hpayload⟩ := hsent m (by
    rw [keptMessages, ← hmore]
    exact List.mem_append_left _ (List.mem_append_left _ hmember))
  obtain ⟨row', hrow', hid', hpayload'⟩ := hsent last (by
    rw [keptMessages, ← hmore]
    exact List.mem_append_right _ (List.mem_singleton_self last))
  rcases pair_sublist hrow hrow' with rfl | hbefore | hafter
  · exact .inl (hlast.trans (congrArg some (hpayload'.symm.trans hpayload)))
  · exact .inr ⟨row, row', hbefore, hpayload, hlast.trans (congrArg some hpayload'.symm)⟩
  · have hpairs := hd.kept topic
    rw [keptMessages, ← hmore, List.map_append, List.map_append, List.pairwise_append] at hpairs
    have hnot := hpairs.2.2 m.id (List.mem_append_left _ (List.mem_map_of_mem hmember)) last.id
      (by simp)
    rw [← hid, ← hid'] at hnot
    exact absurd (enqueuedBefore_of_pair hafter) hnot

end OutboxState

end ClockOrchestrator
