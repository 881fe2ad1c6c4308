import CyxCloud.Gateway.EventSessions

/-!
# Forwarded events

A session forwards the events published since its subscription one after the other, without a gap,
until it has to leave: its client is gone, a message does not get there, or its receiver ends, which
it does at once with topics and, without, when it has fallen behind.
-/

namespace CyxCloud.Gateway

open Library

/-! ## What a session has forwarded -/

/-- The events that a session has been given are the first ones published since its subscription,
and it has forwarded their texts.  A subscriber of all events that still receives has its place in
the channel behind them; one of topics is given none. -/
structure Heard (toJson : Event → Option String) (hub : EventHub) (reader : Subscriber)
    (phase : SessionPhase) (sent : List ServerMessage) (heard : List Event) : Prop where
  past : reader.since ≤ hub.published.length
  order : heard <+: hub.published.drop reader.since
  texts : sent.filterMap ServerMessage.event? = heard.filterMap toJson
  present : phase.receives = true → reader.dropped = false
  topic : ∀ channel, reader.receiver = .topic channel → reader.topics ≠ [] ∧ heard = []
  all : ∀ next, reader.receiver = .broadcast next → reader.topics = [] ∧
    (phase.receives = true →
      ∃ front, hub.broadcastTx.sent = front ++ hub.published.drop reader.since ∧
        next = front.length + heard.length)

/-- A step of the hub leaves a subscriber and the events alone. -/
structure EventHub.Spares (hub hub' : EventHub) (subscriber : Nat) : Prop where
  broadcastTx_eq : hub'.broadcastTx = hub.broadcastTx
  published_eq : hub'.published = hub.published
  kept : ∀ reader, hub.subscribers[subscriber]? = some reader →
    hub'.subscribers[subscriber]? = some reader

/-- What a receiver of all events is given stands at its place in the channel. -/
theorem EventHub.recv_broadcast_item {hub : EventHub} {next : Nat} {event : Event}
    (received : (hub.recv (.broadcast next)).1 = some (some event)) :
    hub.broadcastTx.sent[next]? = some event ∧
      (hub.recv (.broadcast next)).2 = .broadcast (next + 1) := by
  rw [EventHub.recv] at received ⊢
  split at received
  · rename_i item after hearing
    obtain rfl := Option.some.inj (Option.some.inj received)
    obtain ⟨stored, rfl⟩ := Broadcast.receive_eq_item hearing
    exact ⟨stored, rfl⟩
  · cases received
  · cases received
  · cases received

/-- A receiver of all events that waits has been given all of them. -/
theorem EventHub.recv_broadcast_waits {hub : EventHub} {next : Nat}
    (waits : (hub.recv (.broadcast next)).1 = none) : hub.broadcastTx.sent.length ≤ next := by
  rw [EventHub.recv] at waits
  split at waits
  · cases waits
  · cases waits
  · cases waits
  · rename_i hearing
    exact Broadcast.receive_eq_waiting hearing

/-- A receive changes the place of a receiver, and not its kind. -/
theorem EventHub.recv_topic_iff {hub : EventHub} {receiver : EventReceiver} :
    (∃ channel, (hub.recv receiver).2 = .topic channel) ↔ ∃ channel, receiver = .topic channel := by
  cases receiver with
  | broadcast next =>
      refine iff_of_false ?_ (fun ⟨channel, topic⟩ => by cases topic)
      rintro ⟨channel, topic⟩
      rw [EventHub.recv] at topic
      split at topic <;> cases topic
  | topic channel =>
      refine iff_of_true ?_ ⟨channel, rfl⟩
      rw [EventHub.recv]
      split <;> exact ⟨_, rfl⟩

theorem EventHub.receiverCount_ne_zero {hub : EventHub} {reader : Subscriber} {next : Nat}
    (member : reader ∈ hub.subscribers) (broadcast : reader.receiver = .broadcast next)
    (present : reader.dropped = false) : hub.receiverCount ≠ 0 := by
  rw [EventHub.receiverCount, ← Nat.pos_iff_ne_zero, List.countP_pos_iff]
  refine ⟨reader, member, ?_⟩
  rw [broadcast, present]
  rfl

namespace Heard

variable {toJson : Event → Option String} {hub hub' : EventHub} {reader : Subscriber}
  {phase phase' : SessionPhase} {sent sent' : List ServerMessage} {heard : List Event}

/-- A session that does not receive any more keeps what it has heard. -/
theorem rephase (held : Heard toJson hub reader phase sent heard)
    (weaker : phase'.receives = true → phase.receives = true)
    (texts : sent'.filterMap ServerMessage.event? = sent.filterMap ServerMessage.event?) :
    Heard toJson hub reader phase' sent' heard where
  past := held.past
  order := held.order
  texts := texts.trans held.texts
  present receives := held.present (weaker receives)
  topic := held.topic
  all next broadcast :=
    ⟨(held.all next broadcast).1, fun receives => (held.all next broadcast).2 (weaker receives)⟩

theorem congr (held : Heard toJson hub reader phase sent heard)
    (broadcastTx_eq : hub'.broadcastTx = hub.broadcastTx)
    (published_eq : hub'.published = hub.published) :
    Heard toJson hub' reader phase sent heard := by
  obtain ⟨past, order, texts, present, topic, all⟩ := held
  rw [← published_eq] at past order all
  rw [← broadcastTx_eq] at all
  exact ⟨past, order, texts, present, topic, all⟩

/-- A receiver of the same kind will do for a session that does not receive any more. -/
theorem leave (held : Heard toJson hub reader phase sent heard) {reader' : Subscriber}
    (since_eq : reader'.since = reader.since) (topics_eq : reader'.topics = reader.topics)
    (kind : (∃ channel, reader'.receiver = .topic channel) ↔
      ∃ channel, reader.receiver = .topic channel)
    (left : phase'.receives = false) : Heard toJson hub reader' phase' sent heard where
  past := since_eq ▸ held.past
  order := since_eq ▸ held.order
  texts := held.texts
  present receives := by
    rw [left] at receives
    cases receives
  topic channel topic := by
    obtain ⟨other, before⟩ := kind.mp ⟨channel, topic⟩
    rw [topics_eq]
    exact held.topic other before
  all next broadcast := by
    refine ⟨?_, fun receives => ?_⟩
    · cases receiver : reader.receiver with
      | broadcast next => exact topics_eq.trans (held.all next receiver).1
      | topic channel =>
          obtain ⟨other, topic⟩ := kind.mpr ⟨channel, receiver⟩
          rw [topic] at broadcast
          cases broadcast
    · rw [left] at receives
      cases receives

/-- An event is published to everyone who still receives. -/
theorem publish (held : Heard toJson hub reader phase sent heard)
    (member : reader ∈ hub.subscribers) (event : Event) :
    Heard toJson
      { hub with
        broadcastTx := hub.broadcastTx.send hub.receiverCount event
        published := hub.published ++ [event] } reader phase sent heard where
  past := held.past.trans (by rw [List.length_append]; exact Nat.le_add_right _ _)
  order := by
    dsimp only
    rw [List.drop_append_of_le_length held.past]
    exact held.order.trans (List.prefix_append _ _)
  texts := held.texts
  present := held.present
  topic := held.topic
  all next broadcast := by
    refine ⟨(held.all next broadcast).1, fun receives => ?_⟩
    obtain ⟨front, channel, place⟩ := (held.all next broadcast).2 receives
    have heard_by := EventHub.receiverCount_ne_zero member broadcast (held.present receives)
    refine ⟨front, ?_, place⟩
    dsimp only
    rw [Broadcast.send, if_neg heard_by, List.drop_append_of_le_length held.past]
    dsimp only
    rw [channel, List.append_assoc]

/-- A session hears the next event. -/
theorem receive (held : Heard toJson hub reader phase sent heard) (receives : phase.receives = true)
    {next : Nat} (broadcast : reader.receiver = .broadcast next) {event : Event}
    (received : (hub.recv reader.receiver).1 = some (some event))
    (texts : sent'.filterMap ServerMessage.event? =
      sent.filterMap ServerMessage.event? ++ [event].filterMap toJson) :
    Heard toJson hub { reader with receiver := (hub.recv reader.receiver).2 } phase sent'
      (heard ++ [event]) := by
  obtain ⟨front, channel, place⟩ := (held.all next broadcast).2 receives
  rw [broadcast] at received ⊢
  obtain ⟨stored, moved⟩ := EventHub.recv_broadcast_item received
  rw [channel, place, List.getElem?_append_right (Nat.le_add_right _ _),
    Nat.add_sub_cancel_left] at stored
  have order : heard ++ [event] <+: hub.published.drop reader.since := by
    obtain ⟨rest, whole⟩ := held.order
    rw [← whole, List.getElem?_append_right le_rfl, Nat.sub_self] at stored
    obtain ⟨more, rfl⟩ : ∃ more, rest = event :: more := by
      cases rest with
      | nil => cases stored
      | cons first more => exact ⟨more, congrArg (· :: more) (Option.some.inj stored)⟩
    exact ⟨more, by rw [← whole, List.append_assoc]; rfl⟩
  refine ⟨held.past, order, ?_, held.present, fun channel topic => ?_, fun later broadcast' => ?_⟩
  · rw [texts, held.texts, List.filterMap_append]
  · rw [moved] at topic
    cases topic
  · refine ⟨(held.all next broadcast).1, fun _ => ⟨front, channel, ?_⟩⟩
    rw [moved] at broadcast'
    cases broadcast'
    rw [place, List.length_append, List.length_singleton, Nat.add_assoc]

end Heard

/-! ## Steps of the hub -/

namespace EventHub.Spares

variable {hub : EventHub} {subscriber : Nat}

theorem refl (hub : EventHub) (subscriber : Nat) : Spares hub hub subscriber :=
  ⟨rfl, rfl, fun _ known => known⟩

/-- A new subscriber is put behind the others. -/
theorem append (added : Subscriber) (topicSubscribers : String → List Nat) :
    Spares hub { hub with topicSubscribers, subscribers := hub.subscribers ++ [added] }
      subscriber where
  broadcastTx_eq := rfl
  published_eq := rfl
  kept reader known := by
    have inside := (List.getElem?_eq_some_iff.mp known).1
    exact (List.getElem?_append_left inside).trans known

/-- A subscriber changes in its own place. -/
theorem set {other : Nat} (ne : other ≠ subscriber) (reader : Subscriber) :
    Spares hub { hub with subscribers := hub.subscribers.set other reader } subscriber where
  broadcastTx_eq := rfl
  published_eq := rfl
  kept _ known := (List.getElem?_set_ne ne).trans known

theorem subscribe (hub : EventHub) (subscriber : Nat) :
    Spares hub (hub.apply .subscribe) subscriber := by
  rw [EventHub.apply]
  split
  · exact refl hub subscriber
  · exact append _ hub.topicSubscribers

theorem subscribeTopics (hub : EventHub) (topics : List String) (subscriber : Nat) :
    Spares hub (hub.apply (.subscribeTopics topics)) subscriber := by
  rw [EventHub.apply]
  split
  · exact refl hub subscriber
  · exact append _ _

theorem recv {other : Nat} (ne : other ≠ subscriber) :
    Spares hub (hub.apply (.recv other)) subscriber := by
  rw [EventHub.apply]
  split
  · exact set ne _
  · exact refl hub subscriber

theorem dropReceiver {other : Nat} (ne : other ≠ subscriber) :
    Spares hub (hub.apply (.dropReceiver other)) subscriber := by
  rw [EventHub.apply]
  split
  · exact set ne _
  · exact refl hub subscriber

end EventHub.Spares

namespace EventHub

variable {hub : EventHub} {subscriber : Nat} {reader : Subscriber}

theorem apply_recv (known : hub.subscribers[subscriber]? = some reader)
    (present : reader.dropped = false) :
    hub.apply (.recv subscriber) = { hub with
      subscribers := hub.subscribers.set subscriber
        { reader with receiver := (hub.recv reader.receiver).2 } } := by
  obtain ⟨topics, since, receiver, dropped⟩ := reader
  obtain rfl : dropped = false := present
  rw [apply, known]

theorem apply_dropReceiver (known : hub.subscribers[subscriber]? = some reader) :
    hub.apply (.dropReceiver subscriber) = { hub with
      subscribers := hub.subscribers.set subscriber reader.leave } := by
  rw [apply, known]

theorem leave_topic_iff :
    (∃ channel, reader.leave.receiver = .topic channel) ↔
      ∃ channel, reader.receiver = .topic channel := by
  rw [Subscriber.leave]
  cases reader.receiver with
  | broadcast next => exact Iff.rfl
  | topic channel => exact iff_of_true ⟨_, rfl⟩ ⟨channel, rfl⟩

end EventHub

/-! ## Steps of the sessions -/

/-- A session that has subscribed has forwarded what its subscriber has heard. -/
def Session.Listens (toJson : Event → Option String) (hub : EventHub) : Session → Prop
  | .arriving _ => True
  | .listening subscriber phase sent => ∃ reader heard,
      hub.subscribers[subscriber]? = some reader ∧ Heard toJson hub reader phase sent heard

/-- The subscriber of a session. -/
def Session.subscriber? : Session → Option Nat
  | .arriving _ => none
  | .listening subscriber _ _ => some subscriber

namespace Session

variable {toJson : Event → Option String} {state shared : Listeners} {hub hub' : EventHub}
  {session moved : Session} {event : SessionEvent} {subscriber : Nat} {phase phase' : SessionPhase}
  {sent sent' : List ServerMessage}

theorem Listens.of_spares (listens : session.Listens toJson hub)
    (spares : ∀ subscriber, session.subscriber? = some subscriber →
      EventHub.Spares hub hub' subscriber) :
    session.Listens toJson hub' := by
  cases session with
  | arriving topics => trivial
  | listening subscriber phase sent =>
      obtain ⟨reader, heard, known, held⟩ := listens
      have spared := spares subscriber rfl
      exact ⟨reader, heard, spared.kept reader known,
        held.congr spared.broadcastTx_eq spared.published_eq⟩

theorem Listens.rephase (listens : (listening subscriber phase sent).Listens toJson hub)
    (weaker : phase'.receives = true → phase.receives = true)
    (texts : sent'.filterMap ServerMessage.event? = sent.filterMap ServerMessage.event?) :
    (listening subscriber phase' sent').Listens toJson hub := by
  obtain ⟨reader, heard, known, held⟩ := listens
  exact ⟨reader, heard, known, held.rephase weaker texts⟩

/-- A session subscribes. -/
theorem listens_subscribe (present : ¬hub.Gone) :
    (listening hub.subscribers.length .counting []).Listens toJson (hub.apply .subscribe) := by
  rw [EventHub.apply, if_neg present]
  refine ⟨_, [], List.getElem?_concat_length, ?_⟩
  constructor
  · exact le_rfl
  · exact List.nil_prefix
  · rfl
  · exact fun _ => rfl
  · intro channel topic
    cases topic
  · intro next broadcast
    cases broadcast
    refine ⟨rfl, fun _ => ⟨hub.broadcastTx.sent, ?_, rfl⟩⟩
    exact (List.append_nil _).symm.trans (congrArg _ List.drop_length.symm)

theorem listens_subscribeTopics (present : ¬hub.Gone) {topics : List String}
    (nonempty : topics ≠ []) :
    (listening hub.subscribers.length .counting []).Listens toJson
      (hub.apply (.subscribeTopics topics)) := by
  rw [EventHub.apply, if_neg present]
  refine ⟨_, [], List.getElem?_concat_length, ?_⟩
  constructor
  · exact le_rfl
  · exact List.nil_prefix
  · rfl
  · exact fun _ => rfl
  · exact fun _ _ => ⟨nonempty, rfl⟩
  · intro next broadcast
    cases broadcast

/-- A session receives an event, or is told that there will be none. -/
theorem Listens.receive
    (listens : (listening subscriber .looping sent).Listens toJson state.eventHub)
    (tracked : state.eventHub.Tracked) {delivered : Bool}
    (stepped : receive toJson state subscriber sent delivered = some (shared, moved)) :
    moved.Listens toJson shared.eventHub := by
  obtain ⟨reader, heard, known, held⟩ := listens
  have inside := (List.getElem?_eq_some_iff.mp known).1
  have after : ∀ reader' : Subscriber,
      (state.eventHub.subscribers.set subscriber reader')[subscriber]? = some reader' :=
    fun reader' => List.getElem?_set_self inside
  have member := List.mem_of_getElem? known
  have hub_eq := EventHub.apply_recv known (held.present rfl)
  have left : Heard toJson state.eventHub
      { reader with receiver := (state.eventHub.recv reader.receiver).2 } .leaving sent heard :=
    held.leave rfl rfl EventHub.recv_topic_iff rfl
  rw [Session.receive, known, Option.bind_some] at stepped
  cases receiver : reader.receiver with
  | topic channel =>
      have severed := (tracked reader member).severed channel receiver
      rw [receiver, EventHub.recv_topic severed.1 severed.2] at stepped
      obtain ⟨rfl, rfl⟩ := Prod.mk.inj (Option.some.inj stepped)
      rw [Listeners.onHub, hub_eq]
      exact ⟨_, heard, after _, left.congr rfl rfl⟩
  | broadcast next =>
      split at stepped
      · rename_i event received
        cases text : toJson event with
        | some json =>
            rw [text] at stepped
            obtain ⟨rfl, rfl⟩ := Prod.mk.inj (Option.some.inj stepped)
            rw [Listeners.onHub, hub_eq, Session.send]
            split
            · refine ⟨_, heard ++ [event], after _, ?_⟩
              refine (held.receive rfl receiver received ?_).congr rfl rfl
              rw [List.filterMap_append, List.filterMap_cons_some text]
              rfl
            · exact ⟨_, heard, after _, left.congr rfl rfl⟩
        | none =>
            rw [text] at stepped
            obtain ⟨rfl, rfl⟩ := Prod.mk.inj (Option.some.inj stepped)
            rw [Listeners.onHub, hub_eq]
            refine ⟨_, heard ++ [event], after _, ?_⟩
            refine (held.receive rfl receiver received ?_).congr rfl rfl
            rw [List.filterMap_cons_none text, List.filterMap_nil, List.append_nil]
      · obtain ⟨rfl, rfl⟩ := Prod.mk.inj (Option.some.inj stepped)
        rw [Listeners.onHub, hub_eq]
        exact ⟨_, heard, after _, left.congr rfl rfl⟩
      · cases stepped

/-- What a session does when it goes on. -/
inductive Effect (toJson : Event → Option String) (state : Listeners) :
    Session → Listeners → Session → Prop where
  | subscribes (topics : List String) :
      Effect toJson state (.arriving topics)
        (state.onHub (if topics.isEmpty then .subscribe else .subscribeTopics topics))
        (.listening state.eventHub.subscribers.length .counting [])
  | counts (subscriber : Nat) (sent : List ServerMessage) :
      Effect toJson state (.listening subscriber .counting sent) state.addClient
        (.listening subscriber .looping sent)
  /-- It deals with its client, or sends a heartbeat. -/
  | talks (subscriber : Nat) (phase : SessionPhase) (sent sent' : List ServerMessage)
      (remains : phase = .looping ∨ phase = .leaving)
      (quiet : sent'.filterMap ServerMessage.event? = sent.filterMap ServerMessage.event?) :
      Effect toJson state (.listening subscriber .looping sent) state
        (.listening subscriber phase sent')
  | receives (subscriber : Nat) (sent : List ServerMessage) (delivered : Bool) (shared : Listeners)
      (moved : Session)
      (received : receive toJson state subscriber sent delivered = some (shared, moved)) :
      Effect toJson state (.listening subscriber .looping sent) shared moved
  | leaves (subscriber : Nat) (sent : List ServerMessage) :
      Effect toJson state (.listening subscriber .leaving sent) state.removeClient
        (.listening subscriber .dropping sent)
  | drops (subscriber : Nat) (sent : List ServerMessage) :
      Effect toJson state (.listening subscriber .dropping sent)
        (state.onHub (.dropReceiver subscriber)) (.listening subscriber .closed sent)

/-- A session sends something else than an event. -/
theorem effect_send {message : ServerMessage} (other : message.event? = none) (delivered : Bool) :
    Effect toJson state (.listening subscriber .looping sent) state
      (send subscriber sent message delivered) := by
  rw [send]
  split
  · refine .talks subscriber _ sent _ (.inl rfl) ?_
    rw [List.filterMap_append, List.filterMap_cons_none other, List.filterMap_nil, List.append_nil]
  · exact .talks subscriber _ sent _ (.inr rfl) rfl

theorem effect_of_step (stepped : session.step toJson state event = some (shared, moved)) :
    Effect toJson state session shared moved := by
  cases session with
  | arriving topics =>
      cases event with
      | proceed =>
          obtain ⟨rfl, rfl⟩ := Prod.mk.inj (Option.some.inj stepped)
          exact .subscribes topics
      | client _ _ | receive _ | heartbeat _ _ => cases stepped
  | listening subscriber phase sent =>
      cases phase with
      | counting =>
          cases event with
          | proceed =>
              obtain ⟨rfl, rfl⟩ := Prod.mk.inj (Option.some.inj stepped)
              exact .counts subscriber sent
          | client _ _ | receive _ | heartbeat _ _ => cases stepped
      | looping =>
          cases event with
          | proceed => cases stepped
          | client message delivered =>
              obtain ⟨rfl, rfl⟩ := Prod.mk.inj (Option.some.inj stepped)
              cases message with
              | text _ | binary _ | pong _ => exact .talks subscriber _ sent _ (.inl rfl) rfl
              | ping data => exact effect_send rfl delivered
              | close | error => exact .talks subscriber _ sent _ (.inr rfl) rfl
          | receive delivered => exact .receives subscriber sent delivered shared moved stepped
          | heartbeat timestamp delivered =>
              obtain ⟨rfl, rfl⟩ := Prod.mk.inj (Option.some.inj stepped)
              exact effect_send rfl delivered
      | leaving =>
          cases event with
          | proceed =>
              obtain ⟨rfl, rfl⟩ := Prod.mk.inj (Option.some.inj stepped)
              exact .leaves subscriber sent
          | client _ _ | receive _ | heartbeat _ _ => cases stepped
      | dropping =>
          cases event with
          | proceed =>
              obtain ⟨rfl, rfl⟩ := Prod.mk.inj (Option.some.inj stepped)
              exact .drops subscriber sent
          | client _ _ | receive _ | heartbeat _ _ => cases stepped
      | closed => cases event <;> cases stepped

/-- A session goes on. -/
theorem Effect.listens (effect : Effect toJson state session shared moved)
    (listens : session.Listens toJson state.eventHub) (tracked : state.eventHub.Tracked)
    (present : ¬state.eventHub.Gone) : moved.Listens toJson shared.eventHub := by
  cases effect with
  | subscribes topics =>
      rw [Listeners.onHub]
      split
      · exact listens_subscribe present
      · rename_i some_topics
        exact listens_subscribeTopics present (by simpa using some_topics)
  | counts subscriber sent => exact listens.rephase (fun _ => rfl) rfl
  | talks subscriber phase sent sent' remains quiet => exact listens.rephase (fun _ => rfl) quiet
  | receives subscriber sent delivered shared moved received =>
      exact listens.receive tracked received
  | leaves subscriber sent => exact listens.rephase (fun receives => by cases receives) rfl
  | drops subscriber sent =>
      obtain ⟨reader, heard, known, held⟩ := listens
      have inside := (List.getElem?_eq_some_iff.mp known).1
      have left : Heard toJson state.eventHub reader.leave .closed sent heard :=
        held.leave rfl rfl EventHub.leave_topic_iff rfl
      rw [Listeners.onHub, EventHub.apply_dropReceiver known]
      exact ⟨reader.leave, heard, List.getElem?_set_self inside, left.congr rfl rfl⟩

/-- A receive moves a receiver, and the session loops or leaves. -/
theorem receive_eq_some {delivered : Bool}
    (received : receive toJson state subscriber sent delivered = some (shared, moved)) :
    shared = state.onHub (.recv subscriber) ∧ ∃ phase sent', (phase = .looping ∨ phase = .leaving) ∧
      moved = .listening subscriber phase sent' := by
  rw [receive] at received
  obtain ⟨reader, -, received⟩ := Option.bind_eq_some_iff.mp received
  split at received
  · split at received
    · obtain ⟨rfl, rfl⟩ := Prod.mk.inj (Option.some.inj received)
      refine ⟨rfl, ?_⟩
      rw [send]
      split
      · exact ⟨_, _, .inl rfl, rfl⟩
      · exact ⟨_, _, .inr rfl, rfl⟩
    · obtain ⟨rfl, rfl⟩ := Prod.mk.inj (Option.some.inj received)
      exact ⟨rfl, _, _, .inl rfl, rfl⟩
  · obtain ⟨rfl, rfl⟩ := Prod.mk.inj (Option.some.inj received)
    exact ⟨rfl, _, _, .inr rfl, rfl⟩
  · cases received

/-- What a session does to the hub is one of its steps, and not its end. -/
theorem Effect.hub_cases (effect : Effect toJson state session shared moved) :
    shared.eventHub = state.eventHub ∨
      ∃ call, call ≠ .dropHub ∧ shared.eventHub = state.eventHub.apply call := by
  cases effect with
  | subscribes topics =>
      refine .inr ⟨_, ?_, rfl⟩
      split <;> exact fun same => by cases same
  | counts _ _ | talks _ _ _ _ _ _ | leaves _ _ => exact .inl rfl
  | receives subscriber sent delivered shared moved received =>
      obtain ⟨rfl, -⟩ := receive_eq_some received
      exact .inr ⟨.recv subscriber, (fun same => by cases same), rfl⟩
  | drops subscriber sent =>
      exact .inr ⟨.dropReceiver subscriber, (fun same => by cases same), rfl⟩

/-- The other subscribers are left alone. -/
theorem Effect.spares (effect : Effect toJson state session shared moved) {other : Nat}
    (ne : session.subscriber? ≠ some other) :
    EventHub.Spares state.eventHub shared.eventHub other := by
  cases effect with
  | subscribes topics =>
      rw [Listeners.onHub]
      split
      · exact .subscribe _ _
      · exact .subscribeTopics _ _ _
  | counts _ _ | talks _ _ _ _ _ _ | leaves _ _ => exact .refl _ _
  | receives subscriber sent delivered shared moved received =>
      obtain ⟨rfl, -⟩ := receive_eq_some received
      exact .recv fun same => ne (congrArg some same)
  | drops subscriber sent => exact .dropReceiver fun same => ne (congrArg some same)

/-- A session keeps its subscriber, or takes the next number. -/
theorem Effect.subscriber_cases (effect : Effect toJson state session shared moved) :
    moved.subscriber? = session.subscriber? ∨
      session.subscriber? = none ∧ moved.subscriber? = some state.eventHub.subscribers.length := by
  cases effect with
  | subscribes topics => exact .inr ⟨rfl, rfl⟩
  | counts _ _ | talks _ _ _ _ _ _ | leaves _ _ | drops _ _ => exact .inl rfl
  | receives subscriber sent delivered shared moved received =>
      obtain ⟨-, phase, sent', -, rfl⟩ := receive_eq_some received
      exact .inl rfl

/-- The clients are counted as long as their sessions are. -/
theorem Effect.clientCount (effect : Effect toJson state session shared moved)
    (counted : session.counted.toNat ≤ state.clientCount) :
    shared.clientCount + session.counted.toNat = state.clientCount + moved.counted.toNat := by
  cases effect with
  | subscribes _ | counts _ _ | drops _ _ => rfl
  | talks subscriber phase sent sent' remains quiet =>
      obtain rfl | rfl := remains <;> rfl
  | receives subscriber sent delivered shared moved received =>
      obtain ⟨rfl, phase, sent', rfl | rfl, rfl⟩ := receive_eq_some received <;> rfl
  | leaves subscriber sent => exact Nat.sub_add_cancel counted

end Session

/-! ## All sessions -/

/-- A hub that is there stays, unless it is dropped. -/
theorem EventHub.present_apply {hub : EventHub} (tracked : hub.Tracked) (present : ¬hub.Gone)
    {call : EventStep} (lives : call ≠ .dropHub) : ¬(hub.apply call).Gone := by
  cases call with
  | subscribe | subscribeTopics topics | cleanupSubscribers =>
      rw [EventHub.apply, if_neg present]
      exact present
  | publish event =>
      rw [EventHub.apply, if_neg present, tracked.publish_eq, Option.getD_some, EventHub.Gone,
        Broadcast.send]
      split <;> exact present
  | recv subscriber | dropReceiver subscriber =>
      rw [EventHub.apply]
      split <;> exact present
  | dropHub => exact absurd rfl lives

namespace EventSessions

/-- The hub is there; the sessions are counted, have subscribers of their own, and have forwarded
what these have heard. -/
structure Sound (toJson : Event → Option String) (sessions : EventSessions) : Prop where
  tracked : sessions.shared.eventHub.Tracked
  present : ¬sessions.shared.eventHub.Gone
  counted : sessions.shared.clientCount = sessions.total fun session => session.counted.toNat
  own : (sessions.processes.filterMap Session.subscriber?).Nodup
  listens : ∀ session ∈ sessions.processes, session.Listens toJson sessions.shared.eventHub

variable {trim : String → String} {toJson : Event → Option String} {sessions : EventSessions}

theorem sound_start (capacity : Nat) : (start capacity).Sound toJson where
  tracked := EventHub.tracked_new capacity
  present gone := by cases gone
  counted := rfl
  own := List.nodup_nil
  listens session member := by cases member

theorem Sound.lt_length (sound : sessions.Sound toJson) {subscriber : Nat}
    (member : subscriber ∈ sessions.processes.filterMap Session.subscriber?) :
    subscriber < sessions.shared.eventHub.subscribers.length := by
  obtain ⟨session, listed, same⟩ := List.mem_filterMap.mp member
  cases session with
  | arriving topics => cases same
  | listening other phase sent =>
      obtain rfl := Option.some.inj same
      obtain ⟨reader, heard, known, -⟩ := sound.listens _ listed
      exact (List.getElem?_eq_some_iff.mp known).1

/-- A step of the hub by someone else. -/
theorem Sound.onHub (sound : sessions.Sound toJson) {call : EventStep} (lives : call ≠ .dropHub)
    (keeps : ∀ session ∈ sessions.processes,
      session.Listens toJson (sessions.shared.eventHub.apply call)) :
    Sound toJson { sessions with shared := sessions.shared.onHub call } where
  tracked := sound.tracked.apply call
  present := EventHub.present_apply sound.tracked sound.present lives
  counted := sound.counted
  own := sound.own
  listens := keeps

theorem Sound.publish (sound : sessions.Sound toJson) (event : Event) :
    Sound toJson { sessions with shared := sessions.shared.onHub (.publish event) } := by
  refine sound.onHub (fun same => by cases same) fun session member => ?_
  have listens := sound.listens session member
  rw [EventHub.apply, if_neg sound.present, sound.tracked.publish_eq, Option.getD_some]
  cases session with
  | arriving topics => trivial
  | listening subscriber phase sent =>
      obtain ⟨reader, heard, known, held⟩ := listens
      exact ⟨reader, heard, known, held.publish (List.mem_of_getElem? known) event⟩

theorem Sound.cleanupSubscribers (sound : sessions.Sound toJson) :
    Sound toJson { sessions with shared := sessions.shared.onHub .cleanupSubscribers } := by
  refine sound.onHub (fun same => by cases same) fun session member => ?_
  refine (sound.listens session member).of_spares fun subscriber _ => ?_
  rw [EventHub.apply, if_neg sound.present]
  exact ⟨rfl, rfl, fun _ known => known⟩

theorem Sound.connect (sound : sessions.Sound toJson) (topics : List String) :
    Sound toJson (sessions.spawn (.arriving topics)) where
  tracked := sound.tracked
  present := sound.present
  counted := by
    rw [Pool.total_spawn]
    exact sound.counted
  own := by
    rw [Pool.spawn, List.filterMap_append]
    exact (List.append_nil _).symm ▸ sound.own
  listens session member := by
    rcases Pool.mem_spawn.mp member with before | rfl
    · exact sound.listens session before
    · trivial

/-- A session that moves keeps a subscriber of its own. -/
theorem Sound.own_move (sound : sessions.Sound toJson) {before after : List Session}
    {session moved : Session} {shared : Listeners}
    (listed : sessions.processes = before ++ session :: after)
    (effect : session.Effect toJson sessions.shared shared moved) :
    ((before ++ moved :: after).filterMap Session.subscriber?).Nodup := by
  have own := sound.own
  have below : ∀ subscriber ∈ sessions.processes.filterMap Session.subscriber?,
      subscriber < sessions.shared.eventHub.subscribers.length :=
    fun _ member => sound.lt_length member
  rw [listed] at own below
  rcases effect.subscriber_cases with same | ⟨none_before, next⟩
  · rw [List.filterMap_append, List.filterMap_cons, same, ← List.filterMap_cons,
      ← List.filterMap_append]
    exact own
  · rw [List.filterMap_append, List.filterMap_cons_none none_before] at own below
    rw [List.filterMap_append, List.filterMap_cons_some next, List.nodup_middle, List.nodup_cons]
    exact ⟨fun member => (below _ member).false, own⟩

theorem Sound.goOn (sound : sessions.Sound toJson) (index : Nat) (event : SessionEvent) :
    Sound toJson (sessions.move (Session.step toJson) index event) := by
  rcases sessions.move_cases index event with same | ⟨before, session, after, shared, moved, listed,
    stepped, moved_eq⟩
  · rw [same]
    exact sound
  have effect := Session.effect_of_step stepped
  have own := sound.own_move listed effect
  have member : session ∈ sessions.processes := by simp [listed]
  have hub : shared.eventHub.Tracked ∧ ¬shared.eventHub.Gone := by
    rcases effect.hub_cases with unchanged | ⟨call, lives, applied⟩
    · rw [unchanged]
      exact ⟨sound.tracked, sound.present⟩
    · rw [applied]
      exact ⟨sound.tracked.apply call, EventHub.present_apply sound.tracked sound.present lives⟩
  have others : ∀ other ∈ before ++ after, other.Listens toJson shared.eventHub := by
    intro other listed_other
    have other_member : other ∈ sessions.processes := by
      rw [listed]
      rcases List.mem_append.mp listed_other with earlier | later
      · exact List.mem_append_left _ earlier
      · exact List.mem_append_right _ (List.mem_cons_of_mem _ later)
    refine (sound.listens other other_member).of_spares fun subscriber has => ?_
    refine effect.spares fun same => ?_
    have distinct := sound.own
    rw [listed, List.filterMap_append, List.filterMap_cons_some same, List.nodup_middle,
      List.nodup_cons, ← List.filterMap_append] at distinct
    exact distinct.1 (List.mem_filterMap.mpr ⟨other, listed_other, has⟩)
  refine ⟨?_, ?_, ?_, ?_, ?_⟩
  · rw [moved_eq]
    exact hub.1
  · rw [moved_eq]
    exact hub.2
  · rw [moved_eq]
    have weighed : session.counted.toNat ≤ sessions.shared.clientCount := by
      rw [sound.counted]
      exact @Pool.weight_le_total _ _ sessions (fun session => session.counted.toNat) session member
    have counts := effect.clientCount weighed
    have counted := sound.counted
    simp only [Pool.total, listed, List.map_append, List.map_cons, List.sum_append,
      List.sum_cons] at counted ⊢
    omega
  · rw [moved_eq]
    exact own
  · rw [moved_eq]
    intro other listed_other
    rcases List.mem_append.mp listed_other with earlier | later
    · exact others other (List.mem_append_left _ earlier)
    · rcases List.mem_cons.mp later with rfl | later
      · exact effect.listens (sound.listens session member) sound.tracked sound.present
      · exact others other (List.mem_append_right _ later)

theorem Sound.apply (sound : sessions.Sound toJson) (step : SessionStep) :
    (sessions.apply trim toJson step).Sound toJson := by
  cases step with
  | connect topics => exact sound.connect _
  | goOn index event => exact sound.goOn index event
  | publish event => exact sound.publish event
  | cleanupSubscribers => exact sound.cleanupSubscribers

/-! ## Forwarding and leaving -/

/-- A session has forwarded the texts of the first events published since its subscription: none if
it has topics, and all if it has none, is in its loop and has nothing to receive. -/
def Forwards (toJson : Event → Option String) (hub : EventHub) (subscriber : Nat)
    (phase : SessionPhase) (sent : List ServerMessage) : Prop :=
  ∃ reader heard, hub.subscribers[subscriber]? = some reader ∧
    heard <+: hub.published.drop reader.since ∧
    sent.filterMap ServerMessage.event? = heard.filterMap toJson ∧
    (reader.topics ≠ [] → heard = []) ∧
    (phase = .looping → reader.topics = [] → (hub.recv reader.receiver).1 = none →
      heard = hub.published.drop reader.since)

/-- A session is made to leave its loop: its client is gone, a message has not got there, or its
receiver has topics or has fallen behind. -/
def MustLeave (hub : EventHub) (subscriber : Nat) : SessionEvent → Prop
  | .proceed => False
  | .client message delivered => message = .close ∨ message = .error ∨ delivered = false
  | .receive delivered => delivered = false ∨ ∃ reader,
      hub.subscribers[subscriber]? = some reader ∧
        (reader.topics ≠ [] ∨
          ∃ next, reader.receiver = .broadcast next ∧ hub.broadcastTx.Lags next)
  | .heartbeat _ delivered => delivered = false

/-- A session that leaves its loop must. -/
def LeavesForCause (trim : String → String) (toJson : Event → Option String)
    (sessions : EventSessions) : SessionStep → Prop
  | .goOn index event => ∀ subscriber sent sent',
      sessions.processes[index]? = some (.listening subscriber .looping sent) →
        (sessions.apply trim toJson (.goOn index event)).processes[index]? =
          some (.listening subscriber .leaving sent') →
        MustLeave sessions.shared.eventHub subscriber event
  | .connect _ | .publish _ | .cleanupSubscribers => True

theorem Sound.forwards (sound : sessions.Sound toJson) {subscriber : Nat} {phase : SessionPhase}
    {sent : List ServerMessage}
    (member : Session.listening subscriber phase sent ∈ sessions.processes) :
    Forwards toJson sessions.shared.eventHub subscriber phase sent := by
  obtain ⟨reader, heard, known, held⟩ := sound.listens _ member
  refine ⟨reader, heard, known, held.order, held.texts, fun some_topics => ?_, ?_⟩
  · cases receiver : reader.receiver with
    | topic channel => exact (held.topic channel receiver).2
    | broadcast next => exact absurd (held.all next receiver).1 some_topics
  · rintro rfl no_topics waits
    cases receiver : reader.receiver with
    | topic channel => exact absurd no_topics (held.topic channel receiver).1
    | broadcast next =>
        obtain ⟨front, channel, place⟩ := (held.all next receiver).2 rfl
        rw [receiver] at waits
        have ended := EventHub.recv_broadcast_waits waits
        rw [channel, place, List.length_append] at ended
        exact held.order.eq_of_length_le (Nat.le_of_add_le_add_left ended)

theorem mustLeave_of_send {subscriber other : Nat} {sent sent' : List ServerMessage}
    {message : ServerMessage} {delivered : Bool}
    (left : Session.send other sent message delivered = .listening subscriber .leaving sent') :
    delivered = false := by
  cases delivered with
  | false => rfl
  | true => cases left

theorem Sound.mustLeave (sound : sessions.Sound toJson) {subscriber : Nat}
    {event : SessionEvent} {sent sent' : List ServerMessage} {shared : Listeners}
    (member : Session.listening subscriber .looping sent ∈ sessions.processes)
    (stepped : (Session.listening subscriber .looping sent).step toJson sessions.shared event =
      some (shared, .listening subscriber .leaving sent')) :
    MustLeave sessions.shared.eventHub subscriber event := by
  cases event with
  | proceed => cases stepped
  | client message delivered =>
      have left := (Prod.mk.inj (Option.some.inj stepped)).2
      cases message with
      | text _ | binary _ | pong _ => cases left
      | ping data => exact .inr (.inr (mustLeave_of_send left))
      | close => exact .inl rfl
      | error => exact .inr (.inl rfl)
  | heartbeat timestamp delivered =>
      exact mustLeave_of_send (Prod.mk.inj (Option.some.inj stepped)).2
  | receive delivered =>
      have received : Session.receive toJson sessions.shared subscriber sent delivered =
        some (shared, .listening subscriber .leaving sent') := stepped
      rw [Session.receive] at received
      obtain ⟨reader, known, received⟩ := Option.bind_eq_some_iff.mp received
      split at received
      · split at received
        · exact .inl (mustLeave_of_send (Prod.mk.inj (Option.some.inj received)).2)
        · cases (Prod.mk.inj (Option.some.inj received)).2
      · rename_i ended
        refine .inr ⟨reader, known, ?_⟩
        cases receiver : reader.receiver with
        | topic channel =>
            obtain ⟨reader', heard, known', held⟩ := sound.listens _ member
            obtain rfl := Option.some.inj (known'.symm.trans known)
            exact .inl (held.topic channel receiver).1
        | broadcast next =>
            refine .inr ⟨next, rfl, ?_⟩
            by_contra keeps
            rw [receiver] at ended
            exact sound.present (EventHub.recv_broadcast_iff.mpr (.inr keeps) ended)
      · cases received

theorem Sound.leavesForCause (sound : sessions.Sound toJson) (step : SessionStep) :
    LeavesForCause trim toJson sessions step := by
  cases step with
  | connect _ | publish _ | cleanupSubscribers => trivial
  | goOn index event =>
      intro subscriber sent sent' looping leaving
      rw [EventSessions.apply] at leaving
      rcases sessions.move_eq_or_step index event with same | ⟨session, shared, moved, found,
        stepped⟩
      · rw [same, looping] at leaving
        cases leaving
      · have inside := (List.getElem?_eq_some_iff.mp found).1
        rw [Pool.move_of_step found stepped, List.getElem?_set_self inside] at leaving
        obtain rfl := Option.some.inj leaving
        obtain rfl := Option.some.inj (looping.symm.trans found)
        exact sound.mustLeave (List.mem_of_getElem? looping) stepped

end EventSessions

/-- In every interleaving of sessions, publications and clean-ups, the hub counts the sessions that
are connected; each session has forwarded the first events published since its subscription, in
their order and without a gap, and all of them when it loops without topics and has nothing to
receive; and a session leaves its loop only if it must. -/
theorem sessions_forward_in_order (trim : String → String) (toJson : Event → Option String)
    (capacity : Nat) (steps : List SessionStep) :
    EveryState (EventSessions.apply trim toJson)
        (fun reached =>
          reached.shared.clientCount = reached.processes.countP Session.counted ∧
            ∀ subscriber phase sent, .listening subscriber phase sent ∈ reached.processes →
              EventSessions.Forwards toJson reached.shared.eventHub subscriber phase sent)
        (.start capacity) steps ∧
      EveryStep (EventSessions.apply trim toJson) (EventSessions.LeavesForCause trim toJson)
        (.start capacity) steps := by
  have keeps : ∀ (sessions : EventSessions) (step : SessionStep), sessions.Sound toJson →
      (sessions.apply trim toJson step).Sound toJson := fun _ step sound => sound.apply step
  have every := everyState_of_keeps keeps (EventSessions.sound_start capacity) steps
  refine ⟨every.mono fun reached sound => ⟨?_, fun subscriber phase sent member => ?_⟩,
    every.everyStep fun _ step sound => sound.leavesForCause step⟩
  · rw [sound.counted]
    exact reached.total_toNat Session.counted
  · exact sound.forwards member

end CyxCloud.Gateway
