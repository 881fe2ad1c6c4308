import CyxCloud.Gateway.EventHub

/-!
# Delivery of events

Any number of subscribers under any sequence of events.  A topic subscriber has lost its sender when
its subscription returns, so that it is sent nothing and told at once that the hub is gone; a
subscriber of all events is told so when it falls behind.
-/

namespace CyxCloud.Gateway

open Library

/-- A call of the hub, a receive or the end of a receiver, or the end of the hub. -/
inductive EventStep where
  | subscribe
  | subscribeTopics (topics : List String)
  | publish (event : Event)
  | cleanupSubscribers
  | recv (subscriber : Nat)
  | dropReceiver (subscriber : Nat)
  | dropHub
  deriving DecidableEq, Repr

/-- The subscriber drops its receiver. -/
def Subscriber.leave (subscriber : Subscriber) : Subscriber :=
  { subscriber with
    receiver :=
      match subscriber.receiver with
      | .broadcast next => .broadcast next
      | .topic channel => .topic channel.drop
    dropped := true }

namespace EventHub

/-- The hub is gone. -/
def Gone (hub : EventHub) : Prop := hub.broadcastTx.closed = true

instance (hub : EventHub) : Decidable hub.Gone :=
  inferInstanceAs (Decidable (hub.broadcastTx.closed = true))

/-- Carry out a step; a call needs the hub, and a receive a receiver. -/
def apply (hub : EventHub) : EventStep → EventHub
  | .subscribe => if hub.Gone then hub else hub.subscribe
  | .subscribeTopics topics => if hub.Gone then hub else hub.subscribeTopics topics
  | .publish event => if hub.Gone then hub else (hub.publish event).getD hub
  | .cleanupSubscribers => if hub.Gone then hub else hub.cleanupSubscribers
  | .recv subscriber =>
      match hub.subscribers[subscriber]? with
      | some { topics, since, receiver, dropped := false } =>
          let receiver := (hub.recv receiver).2
          { hub with
            subscribers :=
              hub.subscribers.set subscriber { topics, since, receiver, dropped := false } }
      | _ => hub
  | .dropReceiver subscriber =>
      match hub.subscribers[subscriber]? with
      | some reader => { hub with subscribers := hub.subscribers.set subscriber reader.leave }
      | none => hub
  | .dropHub =>
      { hub with
        broadcastTx := hub.broadcastTx.close
        topicSubscribers := fun _ => [] }

/-- The channel of a topic subscriber has carried the events of its topics that were published since
the subscription, once and in order; what a channel carries is received in order. -/
def Served (hub : EventHub) (subscriber : Subscriber) : Prop :=
  match subscriber.receiver with
  | .broadcast _ => True
  | .topic channel => subscriber.dropped = false →
      channel.sent = (hub.published.drop subscriber.since).filter fun event =>
        subscriber.topics.contains event.category

/-- Every topic subscriber is served. -/
def Delivers (hub : EventHub) : Prop := ∀ subscriber ∈ hub.subscribers, hub.Served subscriber

/-- A receive ends only after the hub is gone. -/
def EndsWithHub (hub : EventHub) : EventStep → Prop
  | .recv subscriber => ∀ reader, hub.subscribers[subscriber]? = some reader →
      reader.dropped = false → (hub.recv reader.receiver).1 = some none → hub.Gone
  | _ => True

/-! ## The condition -/

/-- While the hub is there, no topic subscriber receives, and a subscriber of all events keeps up. -/
def KeepsUp (hub : EventHub) (reader : Subscriber) : Prop :=
  match reader.receiver with
  | .broadcast next => ¬hub.broadcastTx.Lags next
  | .topic _ => False

/-- No event is published for a topic subscriber. -/
def PublishesElsewhere (hub : EventHub) : EventStep → Prop
  | .publish event => ¬hub.Gone → ∀ subscriber ∈ hub.subscribers, ∀ channel,
      subscriber.receiver = .topic channel → subscriber.dropped = false →
        event.category ∉ subscriber.topics
  | _ => True

/-- Whoever receives while the hub is there keeps up. -/
def ReceivesInTime (hub : EventHub) : EventStep → Prop
  | .recv subscriber => ∀ reader, hub.subscribers[subscriber]? = some reader →
      reader.dropped = false → hub.Gone ∨ hub.KeepsUp reader
  | _ => True

/-! ## The invariant -/

/-- A subscription belongs to the past, and a topic channel has lost its sender unused. -/
structure Subscribed (hub : EventHub) (subscriber : Subscriber) : Prop where
  past : subscriber.since ≤ hub.published.length
  severed : ∀ channel, subscriber.receiver = .topic channel →
    channel.sent = [] ∧ channel.closed = true

/-- All subscribers are so. -/
def Tracked (hub : EventHub) : Prop := ∀ subscriber ∈ hub.subscribers, hub.Subscribed subscriber

variable {hub : EventHub}

theorem tracked_new (capacity : Nat) : (new capacity).Tracked :=
  fun _ nothing => nomatch nothing

/-- Nothing is sent to a topic subscriber. -/
theorem Tracked.sendTo_eq (tracked : hub.Tracked) (event : Event) (subscriber : Nat) :
    sendTo event hub.subscribers subscriber = some hub.subscribers := by
  unfold sendTo
  split
  · rename_i topics since channel dropped known
    have severed := (tracked _ (List.mem_of_getElem? known)).severed channel rfl
    rw [if_pos severed.2]
  · rfl

/-- A publication reaches the broadcast channel only, and never waits. -/
theorem Tracked.publish_eq (tracked : hub.Tracked) (event : Event) :
    hub.publish event =
      some { hub with
        broadcastTx := hub.broadcastTx.send hub.receiverCount event
        published := hub.published ++ [event] } := by
  have unchanged : ∀ subscribers : List Nat,
      subscribers.foldlM (sendTo event) hub.subscribers = some hub.subscribers := by
    intro subscribers
    induction subscribers with
    | nil => rfl
    | cons subscriber subscribers induction =>
        rw [List.foldlM_cons, tracked.sendTo_eq]
        exact induction
  rw [publish, unchanged]
  rfl

/-- A topic receiver whose sender is lost is told that the hub is gone. -/
theorem recv_topic {channel : Channel Event} (empty : channel.sent = [])
    (closed : channel.closed = true) :
    hub.recv (.topic channel) = (some none, .topic channel) := by
  have ended : channel.receive = (.ended, channel) := by
    simp [Channel.receive, empty, closed]
  rw [recv, ended]

variable {subscriber : Subscriber}

/-- An event has passed a topic subscriber by. -/
def Missed (hub : EventHub) (subscriber : Subscriber) : Prop :=
  ∃ channel, subscriber.receiver = .topic channel ∧ subscriber.dropped = false ∧
    ∃ event ∈ hub.published.drop subscriber.since, event.category ∈ subscriber.topics

theorem Subscribed.served_iff (subscribed : hub.Subscribed subscriber) :
    hub.Served subscriber ↔ ¬hub.Missed subscriber := by
  unfold Served Missed
  cases receiver : subscriber.receiver with
  | broadcast next => simp
  | topic channel =>
      have empty := (subscribed.severed channel receiver).1
      simp only [empty, EventReceiver.topic.injEq, exists_eq_left', not_and]
      refine forall_congr' fun present => ?_
      rw [eq_comm, List.filter_eq_nil_iff]
      simp

theorem Tracked.delivers_iff_forall (tracked : hub.Tracked) :
    hub.Delivers ↔ ∀ subscriber ∈ hub.subscribers, ¬hub.Missed subscriber :=
  forall₂_congr fun subscriber member => (tracked subscriber member).served_iff

/-! ## Every step keeps the invariant -/

/-- A receive changes neither the kind of a receiver nor a channel without sender. -/
theorem severed_recv {receiver : EventReceiver}
    (severed : ∀ channel, receiver = .topic channel → channel.sent = [] ∧ channel.closed = true)
    {channel : Channel Event} (topic : (hub.recv receiver).2 = .topic channel) :
    receiver = .topic channel := by
  cases receiver with
  | broadcast next =>
      simp only [recv] at topic
      split at topic <;> exact nomatch topic
  | topic other =>
      have lost := severed other rfl
      rw [recv_topic lost.1 lost.2] at topic
      exact topic

theorem Tracked.append (tracked : hub.Tracked) (subscribed : hub.Subscribed subscriber)
    (topicSubscribers : String → List Nat) :
    Tracked { hub with
      topicSubscribers
      subscribers := hub.subscribers ++ [subscriber] } := by
  intro other member
  have known : hub.Subscribed other := by
    rcases List.mem_append.mp member with old | new
    · exact tracked other old
    · rw [List.mem_singleton.mp new]
      exact subscribed
  exact ⟨known.past, known.severed⟩

theorem Tracked.set (tracked : hub.Tracked) (position : Nat)
    (subscribed : hub.Subscribed subscriber) :
    Tracked { hub with subscribers := hub.subscribers.set position subscriber } := by
  intro other member
  have known : hub.Subscribed other := by
    rcases List.mem_or_eq_of_mem_set member with old | rfl
    · exact tracked other old
    · exact subscribed
  exact ⟨known.past, known.severed⟩

theorem Subscribed.leave (subscribed : hub.Subscribed subscriber) :
    hub.Subscribed subscriber.leave where
  past := subscribed.past
  severed := by
    intro channel topic
    cases receiver : subscriber.receiver with
    | broadcast next =>
        simp only [Subscriber.leave, receiver] at topic
        exact nomatch topic
    | topic other =>
        simp only [Subscriber.leave, receiver, EventReceiver.topic.injEq] at topic
        subst topic
        exact subscribed.severed other receiver

theorem Tracked.apply (tracked : hub.Tracked) (step : EventStep) : (hub.apply step).Tracked := by
  cases step with
  | dropHub => exact fun subscriber member => ⟨(tracked subscriber member).past,
      (tracked subscriber member).severed⟩
  | dropReceiver position =>
      simp only [EventHub.apply]
      split
      · rename_i reader known
        exact tracked.set position (tracked reader (List.mem_of_getElem? known)).leave
      · exact tracked
  | recv position =>
      simp only [EventHub.apply]
      split
      · rename_i topics since receiver known
        have subscribed := tracked _ (List.mem_of_getElem? known)
        refine tracked.set position ⟨subscribed.past, fun channel topic => ?_⟩
        exact subscribed.severed channel (severed_recv subscribed.severed topic)
      · exact tracked
  | subscribe =>
      simp only [EventHub.apply]
      split
      · exact tracked
      · refine tracked.append ⟨le_rfl, fun channel topic => ?_⟩ hub.topicSubscribers
        exact nomatch topic
  | subscribeTopics topics =>
      simp only [EventHub.apply]
      split
      · exact tracked
      · refine tracked.append ⟨le_rfl, fun channel topic => ?_⟩ _
        cases topic
        exact ⟨rfl, rfl⟩
  | cleanupSubscribers =>
      simp only [EventHub.apply]
      split
      · exact tracked
      · exact fun subscriber member => ⟨(tracked subscriber member).past,
          (tracked subscriber member).severed⟩
  | publish event =>
      simp only [EventHub.apply, tracked.publish_eq, Option.getD_some]
      split
      · exact tracked
      · intro subscriber member
        have subscribed := tracked subscriber member
        refine ⟨?_, subscribed.severed⟩
        rw [List.length_append]
        exact Nat.le_add_right_of_le subscribed.past

/-! ## What reaches the subscribers -/

/-- A new subscriber has missed nothing. -/
theorem delivers_append (delivers : ∀ other ∈ hub.subscribers, ¬hub.Missed other)
    (since : subscriber.since = hub.published.length) (topicSubscribers : String → List Nat) :
    ∀ other ∈ hub.subscribers ++ [subscriber], ¬Missed { hub with
      topicSubscribers
      subscribers := hub.subscribers ++ [subscriber] } other := by
  intro other member
  rcases List.mem_append.mp member with old | new
  · exact delivers other old
  · cases List.mem_singleton.mp new
    rintro ⟨-, -, -, event, later, -⟩
    rw [since, List.drop_length] at later
    exact nomatch later

/-- Nor has one that misses nothing when its receiver changes. -/
theorem delivers_set (delivers : ∀ other ∈ hub.subscribers, ¬hub.Missed other) (position : Nat)
    (unmissed : ¬hub.Missed subscriber) :
    ∀ other ∈ hub.subscribers.set position subscriber,
      ¬Missed { hub with subscribers := hub.subscribers.set position subscriber } other := by
  intro other member
  rcases List.mem_or_eq_of_mem_set member with old | rfl
  · exact delivers other old
  · exact unmissed

theorem Tracked.missed_publish_iff (tracked : hub.Tracked) (event : Event)
    (member : subscriber ∈ hub.subscribers) (unmissed : ¬hub.Missed subscriber) :
    ¬Missed { hub with
        broadcastTx := hub.broadcastTx.send hub.receiverCount event
        published := hub.published ++ [event] } subscriber ↔
      ∀ channel, subscriber.receiver = .topic channel → subscriber.dropped = false →
        event.category ∉ subscriber.topics := by
  have past := (tracked subscriber member).past
  simp only [Missed, List.drop_append_of_le_length past, List.mem_append, List.mem_singleton]
  constructor
  · intro unmissed' channel topic present matching
    exact unmissed' ⟨channel, topic, present, event, .inr rfl, matching⟩
  · rintro elsewhere ⟨channel, topic, present, other, old | rfl, matching⟩
    · exact unmissed ⟨channel, topic, present, other, old, matching⟩
    · exact elsewhere channel topic present matching

theorem Tracked.delivers_apply_iff (tracked : hub.Tracked) (delivers : hub.Delivers)
    (step : EventStep) : (hub.apply step).Delivers ↔ hub.PublishesElsewhere step := by
  rw [(tracked.apply step).delivers_iff_forall]
  rw [tracked.delivers_iff_forall] at delivers
  cases step with
  | dropHub => exact iff_of_true delivers trivial
  | dropReceiver position =>
      refine iff_of_true ?_ trivial
      simp only [EventHub.apply]
      split
      · rename_i reader known
        refine delivers_set delivers position ?_
        rintro ⟨-, -, present, -⟩
        exact nomatch present
      · exact delivers
  | recv position =>
      refine iff_of_true ?_ trivial
      simp only [EventHub.apply]
      split
      · rename_i topics since receiver known
        have member := List.mem_of_getElem? known
        refine delivers_set delivers position fun ⟨channel, topic, missed⟩ => ?_
        have same := severed_recv (tracked _ member).severed topic
        exact delivers _ member ⟨channel, same, missed⟩
      · exact delivers
  | subscribe =>
      refine iff_of_true ?_ trivial
      simp only [EventHub.apply]
      split
      · exact delivers
      · exact delivers_append delivers rfl hub.topicSubscribers
  | subscribeTopics topics =>
      refine iff_of_true ?_ trivial
      simp only [EventHub.apply]
      split
      · exact delivers
      · exact delivers_append delivers rfl _
  | cleanupSubscribers =>
      refine iff_of_true ?_ trivial
      simp only [EventHub.apply]
      split
      · exact delivers
      · exact delivers
  | publish event =>
      simp only [EventHub.apply, tracked.publish_eq, Option.getD_some, PublishesElsewhere]
      split
      · rename_i gone
        exact iff_of_true delivers fun present => absurd gone present
      · rename_i present
        rw [forall_prop_of_true present]
        exact forall₂_congr fun subscriber member =>
          tracked.missed_publish_iff event member (delivers subscriber member)

/-! ## What a receive is told -/

/-- A subscriber of all events that keeps up is told the truth, one that lags is told that the hub is
gone. -/
theorem recv_broadcast_iff {next : Nat} :
    ((hub.recv (.broadcast next)).1 = some none → hub.Gone) ↔
      hub.Gone ∨ ¬hub.broadcastTx.Lags next := by
  by_cases lags : hub.broadcastTx.Lags next
  · have told : (hub.recv (.broadcast next)).1 = some none := by
      rw [recv, Broadcast.receive_of_lags lags]
    simp [told, lags]
  · refine iff_of_true (fun told => ?_) (.inr lags)
    have ended := Broadcast.closed_of_receive_ended lags
    have inTime := Broadcast.receive_ne_lagged lags
    simp only [recv] at told
    split at told <;> rename_i heard
    · exact nomatch told
    · exact absurd (congrArg Prod.fst heard) (inTime _)
    · exact ended (congrArg Prod.fst heard)
    · exact nomatch told

theorem Tracked.endsWithHub_iff (tracked : hub.Tracked) (step : EventStep) :
    hub.EndsWithHub step ↔ hub.ReceivesInTime step := by
  cases step with
  | recv position =>
      refine forall₃_congr fun reader known present => ?_
      have severed := (tracked reader (List.mem_of_getElem? known)).severed
      unfold KeepsUp
      cases receiver : reader.receiver with
      | topic channel =>
          have lost := severed channel receiver
          rw [recv_topic lost.1 lost.2]
          simp
      | broadcast next => exact recv_broadcast_iff
  | _ => exact Iff.rfl

/-! ## Runs -/

/-- In every run, every topic subscriber gets the events of its topics and a receive ends only with
the hub exactly if no event is published for a topic subscriber, no topic subscriber receives while
the hub is there, and no subscriber of all events lags when it receives. -/
theorem delivers_iff (capacity : Nat) (steps : List EventStep) :
    EveryState EventHub.apply Delivers (new capacity) steps ∧
        EveryStep EventHub.apply EndsWithHub (new capacity) steps ↔
      EveryStep EventHub.apply (fun hub step =>
        hub.PublishesElsewhere step ∧ hub.ReceivesInTime step) (new capacity) steps := by
  have keeps : ∀ hub step, Tracked hub → (hub.apply step).Tracked :=
    fun _ step tracked => tracked.apply step
  have start := tracked_new capacity
  have delivers := everyState_iff_everyStep Tracked keeps
    (fun _ step tracked delivers => tracked.delivers_apply_iff delivers step)
    start (fun _ nothing => nomatch nothing) steps
  have ends := everyStep_congr keeps (fun _ step tracked => tracked.endsWithHub_iff step) start
    steps
  rw [everyStep_and_iff, delivers, ends]

/-- A subscriber of file events is not sent the creation of a file and is told that the hub is gone,
and so is a subscriber of all events that two events have overtaken. -/
theorem not_delivers_of_topic :
    ¬EveryState EventHub.apply Delivers (new 1)
        [.subscribeTopics ["file"], .publish (.fileCreated "bucket" "key" 1)] ∧
      ¬EveryStep EventHub.apply EndsWithHub (new 1) [.subscribeTopics ["file"], .recv 0] ∧
      ¬EveryStep EventHub.apply EndsWithHub (new 1)
        [.subscribe, .publish (.heartbeat 0), .publish (.heartbeat 30), .recv 0] := by
  refine ⟨fun delivers => ?_, fun ends => ?_, fun ends => ?_⟩
  · have served := delivers.last _ (List.mem_singleton.mpr rfl) rfl
    exact nomatch served
  · obtain ⟨-, ended, -⟩ := ends
    exact nomatch ended _ rfl rfl rfl
  · obtain ⟨-, -, -, ended, -⟩ := ends
    have alive := recv_broadcast_iff.mp (ended _ rfl rfl)
    have lags : 0 + 2 ^ Nat.clog 2 1 < 2 := by simp
    rcases alive with gone | inTime
    · exact nomatch gone
    · exact inTime lags

end EventHub

end CyxCloud.Gateway
