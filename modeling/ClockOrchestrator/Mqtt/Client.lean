import ClockOrchestrator.Domain.Models
import ClockOrchestrator.Mqtt.Topics
import ClockOrchestrator.Support.KeyedTable

namespace ClockOrchestrator

open KeyedTable

structure ReasonCode where
  isFailure : Bool
  text : String
  deriving DecidableEq

inductive CallbackTask (M : Type) where
  | onConnected
  | handler (handler : M) (topic : String) (payload : ByteArray)

-- A message handler is known by what it was made from.
structure ManagedMqttClient (M : Type) where
  connected : Bool
  connectError : Option String
  handlers : List (String × M)
  submitted : List (CallbackTask M)

namespace ManagedMqttClient

variable {M : Type}

def create : ManagedMqttClient M := ⟨false, none, [], []⟩

def topics (client : ManagedMqttClient M) : List String := client.handlers.map (·.1)

-- The two statements of subscribe: a callback of the network thread may run between them. The
-- second gives the topics that the broker is asked for.
def storeHandler (client : ManagedMqttClient M) (topic : String) (handler : M) :
    ManagedMqttClient M :=
  { client with handlers := upsert (·.1) (topic, handler) client.handlers }

def requestTopic (client : ManagedMqttClient M) (topic : String) : List String :=
  if client.connected then [topic] else []

-- The statements of _on_connect before its loop. The loop asks the broker for one topic a turn.
def onConnect (client : ManagedMqttClient M) (reasonCode : ReasonCode) : ManagedMqttClient M :=
  if reasonCode.isFailure then
    { client with connected := false, connectError := some reasonCode.text }
  else { client with connected := true, connectError := none }

def submit (client : ManagedMqttClient M) (tasks : List (CallbackTask M)) : ManagedMqttClient M :=
  { client with submitted := client.submitted ++ tasks }

def onDisconnect (client : ManagedMqttClient M) : ManagedMqttClient M :=
  { client with connected := false }

-- What the turns of _on_message for some entries submit. paho's topic_matches_sub is not part of
-- the repository.
def tasksFor (topicMatchesSub : String → String → Bool) (entries : List (String × M))
    (topic : String) (payload : ByteArray) : List (CallbackTask M) :=
  (entries.filter fun entry => topicMatchesSub entry.1 topic).map fun entry =>
    .handler entry.2 topic payload

end ManagedMqttClient

structure CommandTarget where
  roomKey : String
  field : String
  deriving DecidableEq

def commandSubscriptions (topics : MqttTopics) (roomKey : String) : List (String × CommandTarget) :=
  [(topics.roomControlModeSet roomKey, ⟨roomKey, "mode"⟩),
    (topics.roomControlHvacModeSet roomKey, ⟨roomKey, "hvac-mode"⟩),
    (topics.roomControlTemperatureSet roomKey, ⟨roomKey, "temperature"⟩),
    (topics.roomControlDurationSet roomKey, ⟨roomKey, "duration"⟩),
    (topics.roomControlWaterHeaterSet roomKey, ⟨roomKey, "water-heater"⟩),
    (topics.roomControlReturnToAutomaticSet roomKey, ⟨roomKey, "return-to-automatic"⟩)]

def subscribeHomeAssistantCommands (registry : RoomRegistry) (topics : MqttTopics) :
    List (String × CommandTarget) :=
  registry.rooms.flatMap fun room => commandSubscriptions topics room.key

end ClockOrchestrator
