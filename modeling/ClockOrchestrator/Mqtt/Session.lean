import ClockOrchestrator.Mqtt.Client
import ClockOrchestrator.Python.DictIterator
import ClockOrchestrator.Support.Trace

namespace ClockOrchestrator

open Python Trace KeyedTable ManagedMqttClient

-- What the network thread is at. It runs one callback at a time.
inductive NetworkCallback where
  | idle
  | accepted
  | subscribing (iterator : DictIterator)
  | delivering (topic : String) (payload : ByteArray) (iterator : DictIterator)

def NetworkCallback.isIdle : NetworkCallback → Bool
  | .idle => true
  | _ => false

theorem NetworkCallback.eq_idle {callback : NetworkCallback} (h : callback.isIdle = true) :
    callback = .idle := by
  cases callback with
  | idle => rfl
  | _ => cases h

def NetworkCallback.isSubscribing : NetworkCallback → Bool
  | .subscribing _ => true
  | _ => false

def NetworkCallback.inOnConnect : NetworkCallback → Bool
  | .accepted => true
  | .subscribing _ => true
  | _ => false

-- The client with the thread that makes the calls of subscribe, the network thread, the session that
-- the broker keeps for it, and the callback workers. A loop of _on_connect that raised is kept in
-- brokenOff until the next connection: what paho does with the error is not part of the repository,
-- so more callbacks may come after it or none.
structure MqttSession (M : Type) where
  client : ManagedMqttClient M
  todo : List (String × M)
  stored : Option String
  network : NetworkCallback
  brokenOff : Option DictIterator
  filters : List String
  started : List (CallbackTask M)

inductive MqttEvent where
  | storeHandler
  | requestTopic
  | connack (reasonCode : ReasonCode) (kept : List String)
  | connectionLost
  | message (topic : String) (payload : ByteArray)
  | callbackTurn
  | startTask

namespace MqttSession

variable {M : Type}

def begin (calls : List (String × M)) : MqttSession M :=
  ⟨.create, calls, none, .idle, none, [], []⟩

def storeNext (s : MqttSession M) : Option (MqttSession M) :=
  match s.stored, s.todo with
  | none, (topic, handler) :: todo =>
      some { s with
        client := s.client.storeHandler topic handler
        todo := todo
        stored := some topic }
  | _, _ => none

def requestStored (s : MqttSession M) : Option (MqttSession M) :=
  s.stored.map fun topic =>
    { s with stored := none, filters := s.filters ++ s.client.requestTopic topic }

def startNext (s : MqttSession M) : Option (MqttSession M) :=
  match s.client.submitted with
  | [] => none
  | task :: rest =>
      some { s with client := { s.client with submitted := rest }, started := s.started ++ [task] }

-- A session that the broker still knows comes with filters of its own.
def acceptConnack (s : MqttSession M) (reasonCode : ReasonCode) (kept : List String) :
    MqttSession M :=
  let client := s.client.onConnect reasonCode
  if client.connected then
    { s with client := client, network := .accepted, brokenOff := none, filters := kept }
  else { s with client := client }

def callbackTurn (topicMatchesSub : String → String → Bool) (s : MqttSession M) :
    Option (MqttSession M) :=
  match s.network with
  | .idle => none
  | .accepted => some { s with network := .subscribing (.iter s.client.handlers) }
  | .subscribing iterator =>
      match iterator.next s.client.handlers with
      | .changed => some { s with network := .idle, brokenOff := some iterator }
      | .exhausted => some { s with network := .idle, client := s.client.submit [.onConnected] }
      | .entry entry iterator =>
          some { s with network := .subscribing iterator, filters := s.filters ++ [entry.1] }
  | .delivering topic payload iterator =>
      match iterator.next s.client.handlers with
      | .changed => some { s with network := .idle }
      | .exhausted => some { s with network := .idle }
      | .entry entry iterator =>
          some { s with
            network := .delivering topic payload iterator
            client := s.client.submit (tasksFor topicMatchesSub [entry] topic payload) }

def step (topicMatchesSub : String → String → Bool) (s : MqttSession M) :
    MqttEvent → Option (MqttSession M)
  | .storeHandler => s.storeNext
  | .requestTopic => s.requestStored
  | .connack reasonCode kept =>
      if s.network.isIdle then some (s.acceptConnack reasonCode kept) else none
  | .connectionLost =>
      if s.network.isIdle then some { s with client := s.client.onDisconnect } else none
  | .message topic payload =>
      if s.network.isIdle then
        some { s with network := .delivering topic payload (.iter s.client.handlers) }
      else none
  | .callbackTurn => s.callbackTurn topicMatchesSub
  | .startTask => s.startNext

-- The topics that the loop of the last successful _on_connect has not come to, in progress or broken
-- off.
def unreached (s : MqttSession M) : List String :=
  match s.network with
  | .accepted => s.client.topics
  | .subscribing iterator => iterator.rest s.client.topics
  | _ => s.brokenOff.elim [] fun iterator => iterator.rest s.client.topics

def tasks (s : MqttSession M) : List (CallbackTask M) := s.started ++ s.client.submitted

variable {topicMatchesSub : String → String → Bool} {calls : List (String × M)} {s t : MqttSession M}
  {events : List MqttEvent}

theorem storeNext_some (h : s.storeNext = some t) :
    ∃ topic handler todo, s.stored = none ∧ s.todo = (topic, handler) :: todo ∧
      t = { s with
        client := s.client.storeHandler topic handler
        todo := todo
        stored := some topic } := by
  unfold storeNext at h
  split at h
  · next hstored htodo =>
      cases h
      exact ⟨_, _, _, hstored, htodo, rfl⟩
  · cases h

theorem startNext_some (h : s.startNext = some t) :
    ∃ task rest, s.client.submitted = task :: rest ∧
      t = { s with
        client := { s.client with submitted := rest }
        started := s.started ++ [task] } := by
  unfold startNext at h
  split at h
  · cases h
  · next htasks =>
      cases h
      exact ⟨_, _, htasks, rfl⟩

theorem acceptConnack_cases (s : MqttSession M) (reasonCode : ReasonCode) (kept : List String) :
    (reasonCode.isFailure = true ∧ s.acceptConnack reasonCode kept =
      { s with client :=
        { s.client with connected := false, connectError := some reasonCode.text } }) ∨
    (reasonCode.isFailure = false ∧ s.acceptConnack reasonCode kept =
      { s with
        client := { s.client with connected := true, connectError := none }
        network := .accepted
        brokenOff := none
        filters := kept }) := by
  cases hfailure : reasonCode.isFailure <;> simp [acceptConnack, onConnect, hfailure]

inductive CallbackTurn (topicMatchesSub : String → String → Bool) (s : MqttSession M) :
    MqttSession M → Prop
  | enter : s.network = .accepted →
      CallbackTurn topicMatchesSub s
        { s with network := .subscribing (.iter s.client.handlers) }
  | breakOff {iterator : DictIterator} : s.network = .subscribing iterator →
      iterator.next s.client.handlers = .changed →
      CallbackTurn topicMatchesSub s { s with network := .idle, brokenOff := some iterator }
  | leave {iterator : DictIterator} : s.network = .subscribing iterator →
      iterator.rest s.client.handlers = [] →
      CallbackTurn topicMatchesSub s
        { s with network := .idle, client := s.client.submit [.onConnected] }
  | subscribe {iterator iterator' : DictIterator} {entry : String × M} :
      s.network = .subscribing iterator →
      iterator.rest s.client.handlers = entry :: iterator'.rest s.client.handlers →
      iterator'.size = iterator.size →
      CallbackTurn topicMatchesSub s
        { s with network := .subscribing iterator', filters := s.filters ++ [entry.1] }
  | drop {topic : String} {payload : ByteArray} {iterator : DictIterator} :
      s.network = .delivering topic payload iterator →
      iterator.next s.client.handlers = .changed →
      CallbackTurn topicMatchesSub s { s with network := .idle }
  | delivered {topic : String} {payload : ByteArray} {iterator : DictIterator} :
      s.network = .delivering topic payload iterator →
      iterator.rest s.client.handlers = [] →
      CallbackTurn topicMatchesSub s { s with network := .idle }
  | deliver {topic : String} {payload : ByteArray} {iterator iterator' : DictIterator}
      {entry : String × M} :
      s.network = .delivering topic payload iterator →
      iterator.rest s.client.handlers = entry :: iterator'.rest s.client.handlers →
      iterator'.size = iterator.size →
      CallbackTurn topicMatchesSub s
        { s with
          network := .delivering topic payload iterator'
          client := s.client.submit (tasksFor topicMatchesSub [entry] topic payload) }

theorem callbackTurn_some (h : s.callbackTurn topicMatchesSub = some t) :
    CallbackTurn topicMatchesSub s t := by
  unfold callbackTurn at h
  split at h
  · cases h
  · next hnetwork =>
      cases h
      exact .enter hnetwork
  · next iterator hnetwork =>
      split at h <;> cases h
      · next hchanged => exact .breakOff hnetwork hchanged
      · next hexhausted => exact .leave hnetwork (DictIterator.next_eq_exhausted hexhausted)
      · next hentry =>
          obtain ⟨hrest, hsize⟩ := DictIterator.next_eq_entry hentry
          exact .subscribe hnetwork hrest hsize
  · next topic payload iterator hnetwork =>
      split at h <;> cases h
      · next hchanged => exact .drop hnetwork hchanged
      · next hexhausted => exact .delivered hnetwork (DictIterator.next_eq_exhausted hexhausted)
      · next hentry =>
          obtain ⟨hrest, hsize⟩ := DictIterator.next_eq_entry hentry
          exact .deliver hnetwork hrest hsize

theorem CallbackTurn.kept (h : CallbackTurn topicMatchesSub s t) :
    t.todo = s.todo ∧ t.stored = s.stored ∧ t.client.connected = s.client.connected ∧
      t.client.handlers = s.client.handlers := by
  cases h <;> exact ⟨rfl, rfl, rfl, rfl⟩

theorem mem_unreached_of_append {topic : String} {more : List String}
    (hnetwork : t.network = s.network) (hbroken : t.brokenOff = s.brokenOff)
    (htopics : t.client.topics = s.client.topics ++ more) (h : topic ∈ s.unreached) :
    topic ∈ t.unreached := by
  unfold unreached at h ⊢
  rw [hnetwork, hbroken, htopics]
  split at h
  · exact List.mem_append_left _ h
  · exact DictIterator.mem_rest_append h more
  · revert h
    cases s.brokenOff with
    | none => exact id
    | some iterator => exact fun h => DictIterator.mem_rest_append h more

theorem CallbackTurn.mem_filters_or (h : CallbackTurn topicMatchesSub s t) {topic : String}
    (hmem : topic ∈ s.filters ∨ topic ∈ s.unreached) :
    topic ∈ t.filters ∨ topic ∈ t.unreached := by
  cases h with
  | enter hnetwork =>
      refine hmem.imp_right fun hmem => ?_
      rw [unreached, hnetwork] at hmem
      have hsame : DictIterator.iter s.client.handlers = .iter s.client.topics := by
        simp [DictIterator.iter, topics]
      simpa only [unreached, hsame, DictIterator.rest_iter] using hmem
  | breakOff hnetwork _ =>
      rw [unreached, hnetwork] at hmem
      exact hmem
  | leave hnetwork hrest =>
      rw [unreached, hnetwork] at hmem
      simp only [topics, DictIterator.rest_map, hrest, List.map_nil, List.not_mem_nil,
        or_false] at hmem
      exact .inl hmem
  | subscribe hnetwork hrest _ =>
      rw [unreached, hnetwork] at hmem
      simp only [topics, DictIterator.rest_map, hrest, List.map_cons, List.mem_cons] at hmem
      simp only [unreached, topics, DictIterator.rest_map, List.mem_append, List.mem_singleton]
      exact or_assoc.mpr hmem
  | drop hnetwork _ =>
      rw [unreached, hnetwork] at hmem
      exact hmem
  | delivered hnetwork _ =>
      rw [unreached, hnetwork] at hmem
      exact hmem
  | deliver hnetwork _ _ =>
      rw [unreached, hnetwork] at hmem
      exact hmem

structure Consistent (calls : List (String × M)) (s : MqttSession M) : Prop where
  made : calls = s.client.handlers ++ s.todo
  requested : s.client.connected = true → ∀ topic ∈ s.client.topics, s.stored ≠ some topic →
    topic ∈ s.filters ∨ topic ∈ s.unreached

theorem Consistent.storeHandler (hnodup : (calls.map (·.1)).Nodup) (h : Consistent calls s)
    {topic : String} {handler : M} {todo : List (String × M)}
    (htodo : s.todo = (topic, handler) :: todo) (hstored : s.stored = none) :
    Consistent calls
      { s with
        client := s.client.storeHandler topic handler
        todo := todo
        stored := some topic } := by
  have hmade := h.made
  rw [htodo] at hmade
  rw [hmade, List.map_append, List.map_cons, List.nodup_append] at hnodup
  have hnew : topic ∉ s.client.handlers.map (·.1) := by
    intro hmem
    exact hnodup.2.2 topic hmem topic List.mem_cons_self rfl
  have hhandlers : (s.client.storeHandler topic handler).handlers =
      s.client.handlers ++ [(topic, handler)] := upsert_of_notMem hnew
  have htopics : (s.client.storeHandler topic handler).topics = s.client.topics ++ [topic] := by
    simp [topics, hhandlers]
  refine ⟨?_, fun hconnected other hother hpending => ?_⟩
  · rw [hhandlers, hmade, List.append_assoc, List.singleton_append]
  · rw [htopics, List.mem_append, List.mem_singleton] at hother
    have hother := hother.resolve_right fun heq => hpending (by rw [heq])
    have hrequested := h.requested hconnected other hother (by rw [hstored]; simp)
    exact hrequested.imp_right fun hmem => mem_unreached_of_append (s := s) rfl rfl htopics hmem

theorem Consistent.requestTopic (h : Consistent calls s) {topic : String}
    (hstored : s.stored = some topic) :
    Consistent calls
      { s with stored := none, filters := s.filters ++ s.client.requestTopic topic } := by
  refine ⟨h.made, fun hconnected other hother _ => ?_⟩
  by_cases hsame : other = topic
  · left
    have hconnected : s.client.connected = true := hconnected
    simp [ManagedMqttClient.requestTopic, hconnected, hsame]
  · refine (h.requested hconnected other hother ?_).imp_left (List.mem_append_left _)
    rw [hstored]
    simpa using Ne.symm hsame

theorem Consistent.connack (h : Consistent calls s) (reasonCode : ReasonCode) (kept : List String) :
    Consistent calls (s.acceptConnack reasonCode kept) := by
  obtain ⟨-, heq⟩ | ⟨-, heq⟩ := s.acceptConnack_cases reasonCode kept <;> rw [heq]
  · exact ⟨h.made, by simp⟩
  · exact ⟨h.made, fun _ topic htopic _ => .inr htopic⟩

theorem Consistent.step (hnodup : (calls.map (·.1)).Nodup) (h : Consistent calls s)
    {event : MqttEvent} (hstep : step topicMatchesSub s event = some t) : Consistent calls t := by
  cases event with
  | storeHandler =>
      obtain ⟨topic, handler, todo, hstored, htodo, rfl⟩ := storeNext_some hstep
      exact h.storeHandler hnodup htodo hstored
  | requestTopic =>
      obtain ⟨topic, hstored, rfl⟩ := Option.map_eq_some_iff.mp hstep
      exact h.requestTopic hstored
  | connack reasonCode kept =>
      obtain ⟨-, hstep⟩ := Option.ite_none_right_eq_some.mp hstep
      cases hstep
      exact h.connack reasonCode kept
  | connectionLost =>
      obtain ⟨-, hstep⟩ := Option.ite_none_right_eq_some.mp hstep
      cases hstep
      exact ⟨h.made, by simp [onDisconnect]⟩
  | message topic payload =>
      obtain ⟨hidle, hstep⟩ := Option.ite_none_right_eq_some.mp hstep
      cases hstep
      refine ⟨h.made, fun hconnected other hother hpending => ?_⟩
      have hrequested := h.requested hconnected other hother hpending
      have hnetwork := NetworkCallback.eq_idle hidle
      rwa [unreached, hnetwork] at hrequested
  | callbackTurn =>
      have hturn := callbackTurn_some hstep
      obtain ⟨htodo, hstored, hconnected, hhandlers⟩ := hturn.kept
      refine ⟨by rw [hhandlers, htodo, h.made], fun hconnected' other hother hpending => ?_⟩
      rw [topics, hhandlers] at hother
      exact hturn.mem_filters_or (h.requested (hconnected ▸ hconnected') other hother
        (hstored ▸ hpending))
  | startTask =>
      obtain ⟨task, rest, -, rfl⟩ := startNext_some hstep
      exact ⟨h.made, h.requested⟩

theorem Consistent.run {guard : MqttSession M → MqttEvent → Prop}
    (hnodup : (calls.map (·.1)).Nodup) (h : Consistent calls s)
    (hrun : Run (MqttSession.step topicMatchesSub) guard s events t) : Consistent calls t :=
  hrun.invariant (fun _ _ _ _ hstep hconsistent => hconsistent.step hnodup hstep) h

theorem begin_consistent (calls : List (String × M)) : Consistent calls (begin calls) :=
  ⟨rfl, by simp [begin, create]⟩

structure Unbroken (s : MqttSession M) : Prop where
  whole : s.brokenOff = none
  current : ∀ iterator, s.network = .subscribing iterator → iterator.size = s.client.handlers.length

theorem Unbroken.callbackTurn (h : Unbroken s) (hturn : CallbackTurn topicMatchesSub s t) :
    Unbroken t := by
  cases hturn with
  | enter _ => exact ⟨h.whole, fun _ hiterator => by cases hiterator; rfl⟩
  | breakOff hnetwork hchanged =>
      exact absurd hchanged (DictIterator.next_ne_changed (h.current _ hnetwork).symm)
  | subscribe hnetwork _ hsize =>
      exact ⟨h.whole, fun _ hiterator => by cases hiterator; exact hsize.trans (h.current _ hnetwork)⟩
  | leave _ _ => exact ⟨h.whole, by simp⟩
  | drop _ _ => exact ⟨h.whole, by simp⟩
  | delivered _ _ => exact ⟨h.whole, by simp⟩
  | deliver _ _ _ => exact ⟨h.whole, by simp⟩

theorem Unbroken.step {event : MqttEvent} (h : Unbroken s)
    (hguard : event = .storeHandler → s.network.isSubscribing = false)
    (hstep : MqttSession.step topicMatchesSub s event = some t) : Unbroken t := by
  cases event with
  | storeHandler =>
      obtain ⟨topic, handler, todo, -, -, rfl⟩ := storeNext_some hstep
      refine ⟨h.whole, fun iterator hiterator => ?_⟩
      have hquiet := hguard rfl
      rw [show s.network = .subscribing iterator from hiterator] at hquiet
      cases hquiet
  | requestTopic =>
      obtain ⟨topic, -, rfl⟩ := Option.map_eq_some_iff.mp hstep
      exact ⟨h.whole, h.current⟩
  | connack reasonCode kept =>
      obtain ⟨-, hstep⟩ := Option.ite_none_right_eq_some.mp hstep
      cases hstep
      obtain ⟨-, heq⟩ | ⟨-, heq⟩ := s.acceptConnack_cases reasonCode kept <;> rw [heq]
      · exact ⟨h.whole, h.current⟩
      · exact ⟨rfl, by simp⟩
  | connectionLost =>
      obtain ⟨-, hstep⟩ := Option.ite_none_right_eq_some.mp hstep
      cases hstep
      exact ⟨h.whole, h.current⟩
  | message topic payload =>
      obtain ⟨-, hstep⟩ := Option.ite_none_right_eq_some.mp hstep
      cases hstep
      exact ⟨h.whole, by simp⟩
  | callbackTurn => exact h.callbackTurn (callbackTurn_some hstep)
  | startTask =>
      obtain ⟨task, rest, -, rfl⟩ := startNext_some hstep
      exact ⟨h.whole, h.current⟩

theorem Unbroken.run {guard : MqttSession M → MqttEvent → Prop}
    (hguard : ∀ s, guard s .storeHandler → s.network.isSubscribing = false) (h : Unbroken s)
    (hrun : Run (MqttSession.step topicMatchesSub) guard s events t) : Unbroken t := by
  refine hrun.invariant (fun s event _ hallowed hstep hunbroken => hunbroken.step ?_ hstep) h
  rintro rfl
  exact hguard s hallowed

theorem begin_unbroken (calls : List (String × M)) : Unbroken (begin calls) :=
  ⟨rfl, by simp [begin]⟩

theorem Unbroken.unreached_eq_nil (h : Unbroken s) (hleft : s.network.inOnConnect = false) :
    s.unreached = [] := by
  unfold unreached
  cases hnetwork : s.network with
  | accepted => rw [hnetwork] at hleft; cases hleft
  | subscribing iterator => rw [hnetwork] at hleft; cases hleft
  | _ => simp [h.whole]

def submits (topicMatchesSub : String → String → Bool) (handlers : List (String × M)) :
    MqttEvent → List (CallbackTask M)
  | .connack reasonCode _ => if reasonCode.isFailure then [] else [.onConnected]
  | .message topic payload => tasksFor topicMatchesSub handlers topic payload
  | _ => []

def due (topicMatchesSub : String → String → Bool) (s : MqttSession M) : List (CallbackTask M) :=
  match s.network with
  | .idle => []
  | .accepted => [.onConnected]
  | .subscribing _ => [.onConnected]
  | .delivering topic payload iterator =>
      tasksFor topicMatchesSub (iterator.rest s.client.handlers) topic payload

structure Settled (handlers : List (String × M)) (s : MqttSession M) : Prop where
  begun : s.todo = []
  same : s.client.handlers = handlers
  subscribing : ∀ iterator, s.network = .subscribing iterator → iterator.size = handlers.length
  delivering : ∀ topic payload iterator, s.network = .delivering topic payload iterator →
    iterator.size = handlers.length

variable {handlers : List (String × M)}

theorem settled_of_idle (hbegun : s.todo = []) (hidle : s.network.isIdle = true) :
    Settled s.client.handlers s := by
  have hnetwork := NetworkCallback.eq_idle hidle
  exact ⟨hbegun, rfl, by simp [hnetwork], by simp [hnetwork]⟩

theorem Settled.next_ne_changed (h : Settled handlers s) {iterator : DictIterator}
    (hsize : iterator.size = handlers.length) : iterator.next s.client.handlers ≠ .changed :=
  DictIterator.next_ne_changed (by rw [h.same, hsize])

theorem Settled.callbackTurn (h : Settled handlers s) (hturn : CallbackTurn topicMatchesSub s t) :
    Settled handlers t ∧ t.tasks ++ t.due topicMatchesSub = s.tasks ++ s.due topicMatchesSub := by
  cases hturn with
  | enter hnetwork =>
      refine ⟨⟨h.begun, h.same, fun _ hiterator => ?_, by simp⟩, ?_⟩
      · cases hiterator
        exact congrArg List.length h.same
      · simp only [tasks, due, hnetwork]
  | breakOff hnetwork hchanged =>
      exact absurd hchanged (h.next_ne_changed (h.subscribing _ hnetwork))
  | leave hnetwork _ =>
      refine ⟨⟨h.begun, h.same, by simp, by simp⟩, ?_⟩
      simp [tasks, due, hnetwork, submit]
  | subscribe hnetwork _ hsize =>
      refine ⟨⟨h.begun, h.same, fun _ hiterator => ?_, by simp⟩, ?_⟩
      · cases hiterator
        exact hsize.trans (h.subscribing _ hnetwork)
      · simp only [tasks, due, hnetwork]
  | drop hnetwork hchanged =>
      exact absurd hchanged (h.next_ne_changed (h.delivering _ _ _ hnetwork))
  | delivered hnetwork hrest =>
      refine ⟨⟨h.begun, h.same, by simp, by simp⟩, ?_⟩
      simp [tasks, due, hnetwork, hrest, tasksFor]
  | deliver hnetwork hrest hsize =>
      refine ⟨⟨h.begun, h.same, by simp, fun _ _ _ hiterator => ?_⟩, ?_⟩
      · cases hiterator
        exact hsize.trans (h.delivering _ _ _ hnetwork)
      · simp only [tasks, due, hnetwork, hrest, submit, List.append_assoc]
        rw [tasksFor, tasksFor, tasksFor, ← List.map_append, ← List.filter_append,
          List.singleton_append]

theorem Settled.step {event : MqttEvent} (h : Settled handlers s)
    (hstep : MqttSession.step topicMatchesSub s event = some t) :
    Settled handlers t ∧ t.tasks ++ t.due topicMatchesSub =
      s.tasks ++ s.due topicMatchesSub ++ submits topicMatchesSub handlers event := by
  cases event with
  | storeHandler =>
      obtain ⟨topic, handler, todo, -, hnext, -⟩ := storeNext_some hstep
      cases h.begun.symm.trans hnext
  | requestTopic =>
      obtain ⟨topic, -, rfl⟩ := Option.map_eq_some_iff.mp hstep
      exact ⟨⟨h.begun, h.same, h.subscribing, h.delivering⟩, by simp [tasks, due, submits]⟩
  | connack reasonCode kept =>
      obtain ⟨hidle, hstep⟩ := Option.ite_none_right_eq_some.mp hstep
      cases hstep
      have hnetwork := NetworkCallback.eq_idle hidle
      obtain ⟨hfailure, heq⟩ | ⟨hfailure, heq⟩ := s.acceptConnack_cases reasonCode kept <;> rw [heq]
      · exact ⟨⟨h.begun, h.same, h.subscribing, h.delivering⟩,
          by simp [tasks, due, submits, hfailure]⟩
      · exact ⟨⟨h.begun, h.same, by simp, by simp⟩, by simp [tasks, due, submits, hfailure, hnetwork]⟩
  | connectionLost =>
      obtain ⟨-, hstep⟩ := Option.ite_none_right_eq_some.mp hstep
      cases hstep
      exact ⟨⟨h.begun, h.same, h.subscribing, h.delivering⟩,
        by simp [tasks, due, submits, onDisconnect]⟩
  | message topic payload =>
      obtain ⟨hidle, hstep⟩ := Option.ite_none_right_eq_some.mp hstep
      cases hstep
      have hnetwork := NetworkCallback.eq_idle hidle
      refine ⟨⟨h.begun, h.same, by simp, fun _ _ _ hiterator => ?_⟩, ?_⟩
      · cases hiterator
        exact congrArg List.length h.same
      · simp [tasks, due, submits, hnetwork, DictIterator.rest_iter, h.same]
  | callbackTurn =>
      obtain ⟨hsettled, htasks⟩ := h.callbackTurn (callbackTurn_some hstep)
      exact ⟨hsettled, by simp [htasks, submits]⟩
  | startTask =>
      obtain ⟨task, rest, htasks, rfl⟩ := startNext_some hstep
      exact ⟨⟨h.begun, h.same, h.subscribing, h.delivering⟩,
        by simp [tasks, due, submits, htasks]⟩

theorem Settled.run {guard : MqttSession M → MqttEvent → Prop} (h : Settled handlers s)
    (hrun : Run (MqttSession.step topicMatchesSub) guard s events t) :
    t.tasks ++ t.due topicMatchesSub =
      s.tasks ++ s.due topicMatchesSub ++ events.flatMap (submits topicMatchesSub handlers) := by
  induction hrun with
  | nil => simp
  | cons _ hstep _ ih =>
      obtain ⟨hsettled, htasks⟩ := h.step hstep
      rw [ih hsettled, htasks, List.flatMap_cons, List.append_assoc]

theorem due_of_idle (hidle : s.network.isIdle = true) : s.due topicMatchesSub = [] := by
  have hnetwork := NetworkCallback.eq_idle hidle
  rw [due, hnetwork]

end MqttSession

end ClockOrchestrator
