import Mathlib.Algebra.Group.Nat.Defs
import Mathlib.Data.Nat.Log
import Mathlib.Logic.Function.Basic
import CyxCloud.Library.Broadcasts
import CyxCloud.Library.Channels
import CyxCloud.Library.Runs

/-!
# The event hub

The hub of `cyxcloud-gateway/src/websocket.rs` and its subscribers: those of all events hear a
broadcast channel, those of topics get channels of their own, to which the hub holds weak references
only.
-/

namespace CyxCloud.Gateway

open Library

/-- Event types for WebSocket; a percentage is the bits of a 32-bit float. -/
inductive Event where
  | fileCreated (bucket key : String) (size : UInt64)
  | fileDeleted (bucket key : String)
  | uploadProgress (uploadId : String) (bytesUploaded totalBytes : UInt64) (percent : UInt32)
  | uploadComplete (uploadId bucket key etag : String)
  | downloadProgress (downloadId : String) (bytesDownloaded totalBytes : UInt64)
      (percent : UInt32)
  | nodeJoined (nodeId address : String)
  | nodeLeft (nodeId reason : String)
  | nodeHealthChanged (nodeId status : String) (details : Option String)
  | replicationStarted (chunkId sourceNode targetNode : String)
  | replicationComplete (chunkId targetNode : String)
  | replicationFailed (chunkId error : String)
  | jobStatusChanged (jobId status : String) (progress : Option UInt32)
  | heartbeat (timestamp : UInt64)
  | error (code message : String)
  deriving DecidableEq, Repr

/-- Get event category for filtering. -/
def Event.category : Event → String
  | .fileCreated .. | .fileDeleted .. | .uploadProgress .. | .uploadComplete ..
  | .downloadProgress .. => "file"
  | .nodeJoined .. | .nodeLeft .. | .nodeHealthChanged .. => "cluster"
  | .replicationStarted .. | .replicationComplete .. | .replicationFailed .. => "replication"
  | .jobStatusChanged .. => "job"
  | .heartbeat .. | .error .. => "system"

/-- A receiver of all events, at its place in the broadcast channel, or one with a channel of its
own. -/
inductive EventReceiver where
  | broadcast (next : Nat)
  | topic (channel : Channel Event)

/-- A subscriber: its topics if it has any, the number of events published before, its receiver, and
whether it has dropped it. -/
structure Subscriber where
  topics : List String
  since : Nat
  receiver : EventReceiver
  dropped : Bool

/-- The hub with all its subscribers in order, to which topics refer by their numbers, and all events
that were published.  The hub is gone when its broadcast channel is closed. -/
structure EventHub where
  broadcastTx : Broadcast Event
  topicSubscribers : String → List Nat
  subscribers : List Subscriber
  published : List Event

namespace EventHub

/-- Create a new event hub; the capacity is rounded up to a power of two. -/
def new (capacity : Nat) : EventHub where
  broadcastTx := .fresh (2 ^ Nat.clog 2 capacity)
  topicSubscribers := fun _ => []
  subscribers := []
  published := []

variable (hub : EventHub)

/-- Subscribe to all events. -/
def subscribe : EventHub :=
  { hub with
    subscribers := hub.subscribers ++
      [{ topics := []
         since := hub.published.length
         receiver := .broadcast hub.broadcastTx.subscribe
         dropped := false }] }

/-- Subscribe to specific topics. -/
def subscribeTopics (topics : List String) : EventHub :=
  let channel : Channel Event := .fresh 32
  { hub with
    topicSubscribers := topics.foldl (fun subs topic =>
      Function.update subs topic (subs topic ++ [hub.subscribers.length])) hub.topicSubscribers
    subscribers := hub.subscribers ++
      [{ topics
         since := hub.published.length
         -- the only strong reference to the sender is dropped here
         receiver := .topic channel.close
         dropped := false }] }

/-- Send an event to one topic subscriber, if its sender is still there; nothing if there is no room
yet. -/
def sendTo (event : Event) (subscribers : List Subscriber) (subscriber : Nat) :
    Option (List Subscriber) :=
  match subscribers[subscriber]? with
  | some { topics, since, receiver := .topic channel, dropped } =>
      if channel.closed then
        some subscribers
      else
        match channel.send event with
        | (.accepted, channel) =>
            some (subscribers.set subscriber { topics, since, receiver := .topic channel, dropped })
        | (.refused, _) => some subscribers
        | (.waiting, _) => none
  | _ => some subscribers

/-- Receivers of the broadcast channel. -/
def receiverCount : Nat :=
  hub.subscribers.countP fun subscriber =>
    match subscriber.receiver with
    | .broadcast _ => !subscriber.dropped
    | .topic _ => false

/-- Publish an event to all subscribers, once there is room in the channels of its topic. -/
def publish (event : Event) : Option EventHub :=
  ((hub.topicSubscribers event.category).foldlM (sendTo event) hub.subscribers).map
    fun subscribers =>
      { hub with
        broadcastTx := hub.broadcastTx.send hub.receiverCount event
        subscribers
        published := hub.published ++ [event] }

/-- The sender of a topic subscriber is still there. -/
def upgrades (subscriber : Nat) : Bool :=
  match hub.subscribers[subscriber]? with
  | some { receiver := .topic channel, .. } => !channel.closed
  | _ => false

/-- Clean up dead topic subscribers. -/
def cleanupSubscribers : EventHub :=
  { hub with topicSubscribers := fun topic => (hub.topicSubscribers topic).filter hub.upgrades }

/-- The next event of a receiver; nothing yet, if it waits. -/
def recv : EventReceiver → Option (Option Event) × EventReceiver
  | .broadcast next =>
      match hub.broadcastTx.receive next with
      | (.item event, next) => (some (some event), .broadcast next)
      | (.lagged _, next) => (some none, .broadcast next)
      | (.ended, next) => (some none, .broadcast next)
      | (.waiting, next) => (none, .broadcast next)
  | .topic channel =>
      match channel.receive with
      | (.item event, channel) => (some (some event), .topic channel)
      | (.ended, channel) => (some none, .topic channel)
      | (.waiting, channel) => (none, .topic channel)

end EventHub

end CyxCloud.Gateway
