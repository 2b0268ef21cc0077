import Mathlib.Tactic.Common

namespace ClockOrchestrator

structure MqttTopics where
  topicPrefix : String
  deriving DecidableEq

namespace MqttTopics

def availability (topics : MqttTopics) : String :=
  topics.topicPrefix ++ "/system/clock-ha-orchestrator/availability"

def systemState (topics : MqttTopics) : String :=
  topics.topicPrefix ++ "/system/clock-ha-orchestrator/state"

def roomTopic (topics : MqttTopics) (roomKey suffix : String) : String :=
  topics.topicPrefix ++ "/rooms/" ++ roomKey ++ suffix

def roomPmsState (topics : MqttTopics) (roomKey : String) : String :=
  topics.roomTopic roomKey "/pms/state"

def roomIntentState (topics : MqttTopics) (roomKey : String) : String :=
  topics.roomTopic roomKey "/intent/state"

def roomControlState (topics : MqttTopics) (roomKey : String) : String :=
  topics.roomTopic roomKey "/control/state"

def roomIntentResult (topics : MqttTopics) (roomKey adapterKey : String) : String :=
  topics.roomTopic roomKey ("/adapters/" ++ adapterKey ++ "/intent/result")

def roomReportedState (topics : MqttTopics) (roomKey adapterKey : String) : String :=
  topics.roomTopic roomKey ("/adapters/" ++ adapterKey ++ "/reported/state")

def roomControlModeSet (topics : MqttTopics) (roomKey : String) : String :=
  topics.roomTopic roomKey "/control/mode/set"

def roomControlHvacModeSet (topics : MqttTopics) (roomKey : String) : String :=
  topics.roomTopic roomKey "/control/hvac-mode/set"

def roomControlTemperatureSet (topics : MqttTopics) (roomKey : String) : String :=
  topics.roomTopic roomKey "/control/temperature/set"

def roomControlDurationSet (topics : MqttTopics) (roomKey : String) : String :=
  topics.roomTopic roomKey "/control/duration/set"

def roomControlWaterHeaterSet (topics : MqttTopics) (roomKey : String) : String :=
  topics.roomTopic roomKey "/control/water-heater/set"

def roomControlReturnToAutomaticSet (topics : MqttTopics) (roomKey : String) : String :=
  topics.roomTopic roomKey "/control/return-to-automatic/set"

def entranceTopic (topics : MqttTopics) (entranceKey suffix : String) : String :=
  topics.topicPrefix ++ "/entrances/" ++ entranceKey ++ suffix

def entranceAdapterAvailability (topics : MqttTopics) (entranceKey : String) : String :=
  topics.entranceTopic entranceKey "/adapter/availability"

def entranceAdapterState (topics : MqttTopics) (entranceKey : String) : String :=
  topics.entranceTopic entranceKey "/adapter/state"

theorem roomTopic_injective (topics : MqttTopics) (suffix : String) :
    Function.Injective (topics.roomTopic · suffix) := by
  intro a b h
  have hl := congrArg String.toList h
  exact String.toList_injective (by simpa [roomTopic, String.toList_append] using hl)

theorem roomIntentState_injective (topics : MqttTopics) :
    Function.Injective topics.roomIntentState := topics.roomTopic_injective "/intent/state"

theorem roomIntentState_ne_roomPmsState (topics : MqttTopics) (a b : String) :
    topics.roomIntentState a ≠ topics.roomPmsState b := by
  intro h
  have hl := congrArg (fun t => (t.toList.reverse.drop 6).head?) h
  simp [roomIntentState, roomPmsState, roomTopic, String.toList_append] at hl

theorem roomIntentState_ne_roomControlState (topics : MqttTopics) (a b : String) :
    topics.roomIntentState a ≠ topics.roomControlState b := by
  intro h
  have hl := congrArg (fun t => (t.toList.reverse.drop 6).head?) h
  simp [roomIntentState, roomControlState, roomTopic, String.toList_append] at hl

def roomDocuments (topics : MqttTopics) (roomKey : String) : List String :=
  [topics.roomPmsState roomKey, topics.roomIntentState roomKey, topics.roomControlState roomKey]

theorem roomPmsState_injective (topics : MqttTopics) : Function.Injective topics.roomPmsState :=
  topics.roomTopic_injective "/pms/state"

theorem roomControlState_injective (topics : MqttTopics) : Function.Injective topics.roomControlState :=
  topics.roomTopic_injective "/control/state"

theorem roomPmsState_ne_roomControlState (topics : MqttTopics) (a b : String) :
    topics.roomPmsState a ≠ topics.roomControlState b := by
  intro h
  have hl := congrArg (fun t => (t.toList.reverse.drop 6).head?) h
  simp [roomPmsState, roomControlState, roomTopic, String.toList_append] at hl

end MqttTopics

end ClockOrchestrator
