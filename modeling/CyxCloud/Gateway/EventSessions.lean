import CyxCloud.Gateway.EventDelivery
import CyxCloud.Library.Pools

/-!
# Sessions of event listeners

The connections of `cyxcloud-gateway/src/websocket.rs`.  Each of them subscribes, is counted, and
then forwards the events that its receiver gets, until its client leaves, a message cannot be sent
or the receiver ends.  The sessions share the state that owns the hub, so none of them outlives it;
they run in any interleaving, and their heartbeats come at any time.
-/

namespace CyxCloud.Gateway

open Library

/-- A message to a client: the text of an event from the hub or of a heartbeat, or the answer to a
ping. -/
inductive ServerMessage where
  | event (json : String)
  | heartbeat (json : String)
  | pong (data : List UInt8)
  deriving DecidableEq, Repr

/-- The text of an event from the hub. -/
def ServerMessage.event? : ServerMessage → Option String
  | .event json => some json
  | .heartbeat _ | .pong _ => none

/-- A message from a client, or what the connection gives in its place. -/
inductive ClientMessage where
  | text (text : String)
  | binary (data : List UInt8)
  | ping (data : List UInt8)
  | pong (data : List UInt8)
  | close
  | error
  deriving DecidableEq, Repr

/-- Where a subscribed session stands. -/
inductive SessionPhase where
  /-- Before it is counted. -/
  | counting
  | looping
  /-- Behind the loop, and still counted. -/
  | leaving
  /-- Before its receiver is dropped. -/
  | dropping
  | closed
  deriving DecidableEq, Repr

/-- A session is counted as a client. -/
def SessionPhase.counted : SessionPhase → Bool
  | .looping | .leaving => true
  | .counting | .dropping | .closed => false

/-- A session still has to receive. -/
def SessionPhase.receives : SessionPhase → Bool
  | .counting | .looping => true
  | .leaving | .dropping | .closed => false

/-- A call of `handle_socket`: before it subscribes, or with the number of its subscriber and the
messages it has sent. -/
inductive Session where
  | arriving (topics : List String)
  | listening (subscriber : Nat) (phase : SessionPhase) (sent : List ServerMessage)
  deriving DecidableEq, Repr

def Session.counted : Session → Bool
  | .arriving _ => false
  | .listening _ phase _ => phase.counted

/-- What lets a session go on; a message to the client gets there or not. -/
inductive SessionEvent where
  | proceed
  | client (message : ClientMessage) (delivered : Bool)
  | receive (delivered : Bool)
  | heartbeat (timestamp : UInt64) (delivered : Bool)
  deriving DecidableEq, Repr

/-- The part of the state that the sessions use. -/
structure Listeners where
  eventHub : EventHub
  clientCount : Nat

namespace Listeners

def addClient (state : Listeners) : Listeners :=
  { state with clientCount := state.clientCount + 1 }

def removeClient (state : Listeners) : Listeners :=
  { state with clientCount := state.clientCount - 1 }

/-- The hub makes a step. -/
def onHub (state : Listeners) (step : EventStep) : Listeners :=
  { state with eventHub := state.eventHub.apply step }

end Listeners

namespace Session

/-- A session sends a message, and leaves its loop if it does not get there. -/
def send (subscriber : Nat) (sent : List ServerMessage) (message : ServerMessage)
    (delivered : Bool) : Session :=
  if delivered then
    .listening subscriber .looping (sent ++ [message])
  else
    .listening subscriber .leaving sent

/-- A session receives from the hub.  An event that cannot be serialized is passed over. -/
def receive (toJson : Event → Option String) (state : Listeners) (subscriber : Nat)
    (sent : List ServerMessage) (delivered : Bool) : Option (Listeners × Session) :=
  (state.eventHub.subscribers[subscriber]?).bind fun reader =>
    match (state.eventHub.recv reader.receiver).1 with
    | some (some event) =>
        match toJson event with
        | some json =>
            some (state.onHub (.recv subscriber), send subscriber sent (.event json) delivered)
        | none => some (state.onHub (.recv subscriber), .listening subscriber .looping sent)
    | some none => some (state.onHub (.recv subscriber), .listening subscriber .leaving sent)
    | none => none

/-- A session deals with a message of its client.  What a text asks for is not implemented. -/
def handleMessage (subscriber : Nat) (sent : List ServerMessage) (message : ClientMessage)
    (delivered : Bool) : Session :=
  match message with
  | .text _ | .binary _ | .pong _ => .listening subscriber .looping sent
  | .ping data => send subscriber sent (.pong data) delivered
  | .close | .error => .listening subscriber .leaving sent

/-- A session goes on. -/
def step (toJson : Event → Option String) (state : Listeners) :
    Session → SessionEvent → Option (Listeners × Session)
  | .arriving topics, .proceed =>
      let call : EventStep := if topics.isEmpty then .subscribe else .subscribeTopics topics
      some (state.onHub call, .listening state.eventHub.subscribers.length .counting [])
  | .listening subscriber .counting sent, .proceed =>
      some (state.addClient, .listening subscriber .looping sent)
  | .listening subscriber .looping sent, .client message delivered =>
      some (state, handleMessage subscriber sent message delivered)
  | .listening subscriber .looping sent, .receive delivered =>
      receive toJson state subscriber sent delivered
  | .listening subscriber .looping sent, .heartbeat timestamp delivered =>
      some (state,
        send subscriber sent (.heartbeat ((toJson (.heartbeat timestamp)).getD "")) delivered)
  | .listening subscriber .leaving sent, .proceed =>
      some (state.removeClient, .listening subscriber .dropping sent)
  | .listening subscriber .dropping sent, .proceed =>
      some (state.onHub (.dropReceiver subscriber), .listening subscriber .closed sent)
  | _, _ => none

end Session

/-- The sessions and what they share. -/
abbrev EventSessions := Pool Listeners Session

/-- A connection is accepted with its query, a session goes on, or someone else uses the hub. -/
inductive SessionStep where
  | connect (topics : Option String)
  | goOn (index : Nat) (event : SessionEvent)
  | publish (event : Event)
  | cleanupSubscribers
  deriving DecidableEq, Repr

/-- The topics of a query. -/
def parseTopics (trim : String → String) (topics : Option String) : List String :=
  match topics with
  | some topics => (topics.splitOn ",").map trim
  | none => []

namespace EventSessions

/-- A hub without sessions. -/
def start (capacity : Nat) : EventSessions where
  shared :=
    { eventHub := .new capacity
      clientCount := 0 }
  processes := []

/-- One step. -/
def apply (trim : String → String) (toJson : Event → Option String) (sessions : EventSessions) :
    SessionStep → EventSessions
  | .connect topics => sessions.spawn (.arriving (parseTopics trim topics))
  | .goOn index event => sessions.move (Session.step toJson) index event
  | .publish event => { sessions with shared := sessions.shared.onHub (.publish event) }
  | .cleanupSubscribers => { sessions with shared := sessions.shared.onHub .cleanupSubscribers }

end EventSessions

end CyxCloud.Gateway
