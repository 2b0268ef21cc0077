import ClockOrchestrator.Mqtt.Session
import ClockOrchestrator.Runtime
import ClockOrchestrator.Support.SuffixCode

namespace ClockOrchestrator

open Trace SuffixCode KeyedTable ManagedMqttClient

def commandSuffixes : List (String × String) :=
  [("/control/mode/set", "mode"), ("/control/hvac-mode/set", "hvac-mode"),
    ("/control/temperature/set", "temperature"), ("/control/duration/set", "duration"),
    ("/control/water-heater/set", "water-heater"),
    ("/control/return-to-automatic/set", "return-to-automatic")]

theorem commandSubscriptions_eq (topics : MqttTopics) (roomKey : String) :
    commandSubscriptions topics roomKey = commandSuffixes.map fun code =>
      (topics.roomTopic roomKey code.1, ⟨roomKey, code.2⟩) := rfl

theorem commandSuffixes_suffixFree :
    SuffixFree (commandSuffixes.map fun code => code.1.toList) := by
  decide +kernel

theorem commandTopics_nodup (registry : RoomRegistry) (topics : MqttTopics) :
    ((subscribeHomeAssistantCommands registry topics).map (·.1)).Nodup := by
  have htexts : ((subscribeHomeAssistantCommands registry topics).map (·.1)).map String.toList =
      (registry.rooms.map fun room => (topics.topicPrefix ++ "/rooms/" ++ room.key).toList).flatMap
        fun key => (commandSuffixes.map fun code => code.1.toList).map (key ++ ·) := by
    rw [List.map_map, subscribeHomeAssistantCommands, List.map_flatMap, List.flatMap_map]
    refine congrArg (registry.rooms.flatMap ·) (funext fun room => ?_)
    simp [commandSubscriptions_eq, MqttTopics.roomTopic, String.toList_append]
  have hkeys : Function.Injective fun key => (topics.topicPrefix ++ "/rooms/" ++ key).toList := by
    intro key key' h
    simp only [String.toList_append] at h
    exact String.toList_injective (List.append_cancel_left h)
  have hinjective : Function.Injective String.toList := fun _ _ h => String.toList_injective h
  rw [← List.nodup_map_iff hinjective, htexts,
    commandSuffixes_suffixFree.nodup_flatMap_iff (by simp [commandSuffixes])]
  have hrooms := registry.uniqueRoomKeys.map hkeys
  rwa [List.map_map] at hrooms

def PlainFilter (topicFilter : String) : Prop :=
  '+' ∉ topicFilter.toList ∧ '#' ∉ topicFilter.toList

instance (topicFilter : String) : Decidable (PlainFilter topicFilter) :=
  inferInstanceAs (Decidable (_ ∧ _))

theorem commandTopic_plain {topics : MqttTopics} {roomKey : String}
    (htopics : PlainFilter topics.topicPrefix) (hkey : PlainFilter roomKey)
    {entry : String × CommandTarget} (hentry : entry ∈ commandSubscriptions topics roomKey) :
    PlainFilter entry.1 := by
  rw [commandSubscriptions_eq] at hentry
  obtain ⟨code, hcode, rfl⟩ := List.mem_map.mp hentry
  have hcodes : ∀ code ∈ commandSuffixes, PlainFilter code.1 := by decide +kernel
  have hrooms : PlainFilter "/rooms/" := by decide +kernel
  simp only [PlainFilter, MqttTopics.roomTopic, String.toList_append, List.mem_append, not_or]
  exact ⟨⟨⟨⟨htopics.1, hrooms.1⟩, hkey.1⟩, (hcodes code hcode).1⟩,
    ⟨⟨htopics.2, hrooms.2⟩, hkey.2⟩, (hcodes code hcode).2⟩

def commandTarget (registry : RoomRegistry) (topics : MqttTopics) (topic : String) :
    Option CommandTarget :=
  ((subscribeHomeAssistantCommands registry topics).find? (·.1 = topic)).map (·.2)

theorem commandTarget_eq_some {registry : RoomRegistry} {topics : MqttTopics} {topic : String}
    {target : CommandTarget} :
    commandTarget registry topics topic = some target ↔
      ∃ room ∈ registry.rooms, (topic, target) ∈ commandSubscriptions topics room.key := by
  have hunique : ∀ x ∈ subscribeHomeAssistantCommands registry topics,
      ∀ y ∈ subscribeHomeAssistantCommands registry topics,
      decide (x.1 = topic) = true → decide (y.1 = topic) = true → x = y := by
    intro x hx y hy hxt hyt
    exact eq_of_key (commandTopics_nodup registry topics) hx hy
      ((of_decide_eq_true hxt).trans (of_decide_eq_true hyt).symm)
  rw [commandTarget, Option.map_eq_some_iff]
  constructor
  · rintro ⟨⟨other, target⟩, hfind, rfl⟩
    obtain ⟨hmem, htopic⟩ := (find?_eq_some_of_unique hunique).mp hfind
    obtain rfl : other = topic := of_decide_eq_true htopic
    exact List.mem_flatMap.mp hmem
  · intro hroom
    exact ⟨(topic, target), (find?_eq_some_of_unique hunique).mpr
      ⟨List.mem_flatMap.mpr hroom, decide_eq_true rfl⟩, rfl⟩

theorem tasksFor_commands {topicMatchesSub : String → String → Bool} {registry : RoomRegistry}
    {topics : MqttTopics}
    (hmatches : ∀ topicFilter topic, PlainFilter topicFilter →
      (topicMatchesSub topicFilter topic = true ↔ topicFilter = topic))
    (htopics : PlainFilter topics.topicPrefix) (hrooms : ∀ room ∈ registry.rooms, PlainFilter room.key)
    (topic : String) (payload : ByteArray) :
    tasksFor topicMatchesSub (subscribeHomeAssistantCommands registry topics) topic payload =
      (commandTarget registry topics topic).toList.map fun target =>
        .handler target topic payload := by
  have hfilter : (subscribeHomeAssistantCommands registry topics).filter
      (fun entry => topicMatchesSub entry.1 topic) =
        ((subscribeHomeAssistantCommands registry topics).find? (·.1 = topic)).toList := by
    rw [← filter_eq_toList (commandTopics_nodup registry topics).of_map]
    · refine List.filter_congr fun entry hentry => ?_
      obtain ⟨room, hroom, hentry⟩ := List.mem_flatMap.mp hentry
      rw [Bool.eq_iff_iff, decide_eq_true_eq]
      exact hmatches _ _ (commandTopic_plain htopics (hrooms room hroom) hentry)
    · intro x hx y hy hxt hyt
      exact eq_of_key (commandTopics_nodup registry topics) hx hy
        ((of_decide_eq_true hxt).trans (of_decide_eq_true hyt).symm)
  rw [tasksFor, hfilter, commandTarget]
  cases (subscribeHomeAssistantCommands registry topics).find? (·.1 = topic) <;> rfl

variable {topicMatchesSub : String → String → Bool} {registry : RoomRegistry} {topics : MqttTopics}
  {s t : MqttSession CommandTarget} {before events : List MqttEvent}

def CallbackTask.command {M : Type} : CallbackTask M → Option (M × ByteArray)
  | .onConnected => none
  | .handler target _ payload => some (target, payload)

def MqttEvent.command (registry : RoomRegistry) (topics : MqttTopics) :
    MqttEvent → Option (CommandTarget × ByteArray)
  | .message topic payload => (commandTarget registry topics topic).map fun target => (target, payload)
  | _ => none

theorem submits_commands
    (hmatches : ∀ topicFilter topic, PlainFilter topicFilter →
      (topicMatchesSub topicFilter topic = true ↔ topicFilter = topic))
    (htopics : PlainFilter topics.topicPrefix) (hrooms : ∀ room ∈ registry.rooms, PlainFilter room.key)
    (event : MqttEvent) :
    (MqttSession.submits topicMatchesSub (subscribeHomeAssistantCommands registry topics)
      event).filterMap CallbackTask.command = (event.command registry topics).toList := by
  cases event with
  | connack reasonCode kept =>
      change List.filterMap _ (if reasonCode.isFailure then [] else [CallbackTask.onConnected]) = []
      split <;> rfl
  | message topic payload =>
      rw [MqttSession.submits, tasksFor_commands hmatches htopics hrooms, MqttEvent.command]
      cases commandTarget registry topics topic <;> rfl
  | _ => rfl

theorem each_command_is_handled_once
    (hmatches : ∀ topicFilter topic, PlainFilter topicFilter →
      (topicMatchesSub topicFilter topic = true ↔ topicFilter = topic))
    (htopics : PlainFilter topics.topicPrefix) (hrooms : ∀ room ∈ registry.rooms, PlainFilter room.key)
    (hbefore : Run (MqttSession.step topicMatchesSub) (fun _ _ => True)
      (.begin (subscribeHomeAssistantCommands registry topics)) before s)
    (hmade : s.todo = []) (hidle : s.network.isIdle = true)
    (h : Run (MqttSession.step topicMatchesSub) (fun _ _ => True) s events t)
    (hdone : t.network.isIdle = true) :
    t.tasks.filterMap CallbackTask.command = s.tasks.filterMap CallbackTask.command ++
      events.filterMap (MqttEvent.command registry topics) := by
  have hconsistent :=
    (MqttSession.begin_consistent _).run (commandTopics_nodup registry topics) hbefore
  have hhandlers : s.client.handlers = subscribeHomeAssistantCommands registry topics := by
    rw [hconsistent.made, hmade, List.append_nil]
  have htasks := (MqttSession.settled_of_idle hmade hidle).run h
  rw [MqttSession.due_of_idle hdone, MqttSession.due_of_idle hidle, List.append_nil,
    List.append_nil, hhandlers] at htasks
  rw [htasks, List.filterMap_append, List.filterMap_flatMap,
    funext (submits_commands hmatches htopics hrooms)]
  exact congrArg _ (List.filterMap_eq_flatMap_toList _ events).symm

def matchLevels : List (List Char) → List (List Char) → Bool
  | [['#']], _ => true
  | ['+'] :: topicFilter, _ :: topic => matchLevels topicFilter topic
  | level :: topicFilter, level' :: topic => level = level' && matchLevels topicFilter topic
  | [], [] => true
  | _, _ => false

def demoTopicMatches (topicFilter topic : String) : Bool :=
  matchLevels (topicFilter.toList.splitOn '/') (topic.toList.splitOn '/')

theorem matchLevels_plain {levels levels' : List (List Char)}
    (hplain : ∀ level ∈ levels, '+' ∉ level ∧ '#' ∉ level) :
    matchLevels levels levels' = true ↔ levels = levels' := by
  induction levels generalizing levels' with
  | nil => cases levels' <;> simp [matchLevels]
  | cons level rest ih =>
      have hlevel := hplain level List.mem_cons_self
      have hplus : level ≠ ['+'] := by
        rintro rfl
        simp at hlevel
      have hhash : level ≠ ['#'] := by
        rintro rfl
        simp at hlevel
      have hrest := fun levels' => @ih levels' fun other hother => hplain other (List.mem_cons_of_mem level hother)
      cases levels' with
      | nil => simp [matchLevels, hhash]
      | cons level' rest' =>
          rw [List.cons.injEq, ← hrest rest']
          simp [matchLevels, hhash]

theorem mem_of_mem_splitOn {level text : List Char} {c : Char} (hlevel : level ∈ text.splitOn '/')
    (hc : c ∈ level) : c ∈ text := by
  have hjoined : ∀ levels : List (List Char), level ∈ levels → c ∈ ['/'].intercalate levels := by
    intro levels
    induction levels with
    | nil => simp
    | cons first rest ih =>
        cases rest with
        | nil =>
            intro hmem
            rw [List.mem_singleton] at hmem
            simpa [← hmem] using hc
        | cons second rest =>
            intro hmem
            rw [List.intercalate_cons_cons]
            rcases List.mem_cons.mp hmem with rfl | hmem
            · simp [hc]
            · exact List.mem_append_right _ (ih hmem)
  have htext := hjoined _ hlevel
  rwa [List.intercalate_splitOn] at htext

theorem demoTopicMatches_plain (topicFilter topic : String) (hplain : PlainFilter topicFilter) :
    demoTopicMatches topicFilter topic = true ↔ topicFilter = topic := by
  rw [demoTopicMatches, matchLevels_plain fun level hlevel =>
    ⟨fun hc => hplain.1 (mem_of_mem_splitOn hlevel hc), fun hc =>
      hplain.2 (mem_of_mem_splitOn hlevel hc)⟩]
  constructor
  · intro h
    have htext := congrArg (List.intercalate ['/']) h
    rw [List.intercalate_splitOn, List.intercalate_splitOn] at htext
    exact String.toList_injective htext
  · rintro rfl
    rfl

def demoAccepted : MqttEvent := .connack ⟨false, "Success"⟩ []

def demoTurns (turns : Nat) : List MqttEvent := List.replicate turns .callbackTurn

def demoSubscribing : List MqttEvent :=
  demoAccepted :: demoTurns 2 ++ [.storeHandler, .connectionLost, .requestTopic, demoAccepted] ++
    demoTurns 3 ++ (List.replicate 11 [.storeHandler, .requestTopic]).flatten

def demoSession (events : List MqttEvent) : Option (MqttSession CommandTarget) :=
  Trace.run (MqttSession.step demoTopicMatches)
    (.begin (subscribeHomeAssistantCommands demoRegistry (demoRuntime false).topics)) events

theorem demoSession_run {s : MqttSession CommandTarget} {events : List MqttEvent}
    (h : demoSession events = some s) :
    Run (MqttSession.step demoTopicMatches) (fun _ _ => True)
      (.begin (subscribeHomeAssistantCommands demoRegistry (demoRuntime false).topics)) events s :=
  run_of_eq_some (fun _ _ _ => trivial) h

def MqttEvent.isStoreHandler : MqttEvent → Bool
  | .storeHandler => true
  | _ => false

def StoresOutsideLoop {M : Type} (s : MqttSession M) (event : MqttEvent) : Prop :=
  event.isStoreHandler = true → s.network.isSubscribing = false

instance {M : Type} (s : MqttSession M) (event : MqttEvent) :
    Decidable (StoresOutsideLoop s event) :=
  inferInstanceAs (Decidable (_ → _))

-- The second handler is stored after _on_connect began its loop over the first: the loop raises, and
-- the broker is not asked for the first topic in the connection.
example : (demoSession (demoAccepted :: demoTurns 2 ++
    [.storeHandler, .requestTopic, .connectionLost, demoAccepted, .callbackTurn, .storeHandler,
      .callbackTurn, .requestTopic])).any (fun s =>
        s.client.connected && s.network.isIdle && decide (s.filters =
          ["hotel/v1/rooms/214/control/hvac-mode/set"])) = true := by
  decide +kernel

def demoModeMessage : MqttEvent :=
  .message "hotel/v1/rooms/215/control/mode/set" "manual".toUTF8

def demoReconnecting : List MqttEvent :=
  [.connectionLost, demoAccepted] ++ demoTurns 14 ++ [demoModeMessage] ++ demoTurns 13 ++ [.startTask]

theorem command_after_reconnect_is_handled : ∃ s t, demoSession demoSubscribing = some s ∧
    Trace.run (MqttSession.step demoTopicMatches) s demoReconnecting = some t ∧
    t.tasks.filterMap CallbackTask.command =
      s.tasks.filterMap CallbackTask.command ++ [(⟨"215", "mode"⟩, "manual".toUTF8)] := by
  have hends : (demoSession demoSubscribing).any fun s =>
      decide (s.todo = []) && s.network.isIdle &&
        (Trace.run (MqttSession.step demoTopicMatches) s demoReconnecting).any (·.network.isIdle) := by
    decide +kernel
  obtain ⟨s, hs, hend⟩ := (Option.any_eq_true _ _).mp hends
  simp only [Bool.and_eq_true, decide_eq_true_eq, Option.any_eq_true] at hend
  obtain ⟨⟨hmade, hidle⟩, t, ht, hdone⟩ := hend
  refine ⟨s, t, hs, ht, ?_⟩
  rw [each_command_is_handled_once demoTopicMatches_plain (by decide +kernel) (by decide +kernel)
    (demoSession_run hs) hmade hidle (run_of_eq_some (fun _ _ _ => trivial) ht) hdone]
  have hcommands : demoReconnecting.filterMap
      (MqttEvent.command demoRegistry (demoRuntime false).topics) =
        [(⟨"215", "mode"⟩, "manual".toUTF8)] := by
    decide +kernel
  rw [hcommands]

end ClockOrchestrator
