import Mathlib.Data.List.Basic

/-!
# Channels

A bounded channel from one sender to one receiver: the items that were ever sent, and how many of
them the receiver has taken.  A send waits while the channel is full, and fails once the receiver is
gone; the receiver sees the end after the last item.
-/

namespace CyxCloud.Library

/-- A channel with its history. -/
structure Channel (α : Type*) where
  capacity : Nat
  sent : List α
  received : Nat
  /-- The sender is gone. -/
  closed : Bool
  /-- The receiver is gone. -/
  dropped : Bool
  received_le : received ≤ sent.length

/-- What becomes of a send. -/
inductive Sending where
  | waiting
  | refused
  | accepted
  deriving DecidableEq, Repr

/-- What becomes of a receive. -/
inductive Receiving (α : Type*) where
  | waiting
  | ended
  | item (item : α)
  deriving DecidableEq, Repr

namespace Channel

variable {α : Type*}

/-- A channel through which nothing has passed. -/
def fresh (capacity : Nat) : Channel α :=
  { capacity
    sent := []
    received := 0
    closed := false
    dropped := false
    received_le := Nat.le_refl 0 }

variable (channel : Channel α)

/-- The items that the receiver has taken. -/
def taken : List α := channel.sent.take channel.received

/-- The channel without its sender. -/
def close : Channel α := { channel with closed := true }

/-- The channel without its receiver. -/
def drop : Channel α := { channel with dropped := true }

/-- The channel with one more item. -/
def push (item : α) : Channel α :=
  { channel with
    sent := channel.sent ++ [item]
    received_le := by
      rw [List.length_append]
      exact Nat.le_add_right_of_le channel.received_le }

/-- The channel after one more item was taken. -/
def advance (more : channel.received < channel.sent.length) : Channel α :=
  { channel with
    received := channel.received + 1
    received_le := more }

/-- Try to send an item. -/
def send (item : α) : Sending × Channel α :=
  if channel.dropped then
    (.refused, channel)
  else if channel.sent.length - channel.received < channel.capacity then
    (.accepted, channel.push item)
  else
    (.waiting, channel)

/-- Try to receive an item. -/
def receive : Receiving α × Channel α :=
  if more : channel.received < channel.sent.length then
    (.item (channel.sent.get ⟨channel.received, more⟩), channel.advance more)
  else if channel.closed then
    (.ended, channel)
  else
    (.waiting, channel)

@[simp]
theorem taken_push (item : α) : (channel.push item).taken = channel.taken :=
  List.take_append_of_le_length channel.received_le

theorem taken_advance (more : channel.received < channel.sent.length) :
    (channel.advance more).taken =
      channel.taken ++ [channel.sent.get ⟨channel.received, more⟩] := by
  rw [taken, taken, List.get_eq_getElem]
  exact (List.take_append_getElem more).symm

@[simp]
theorem sent_receive : channel.receive.2.sent = channel.sent := by
  unfold receive
  split
  · rfl
  · split <;> rfl

@[simp]
theorem dropped_receive : channel.receive.2.dropped = channel.dropped := by
  unfold receive
  split
  · rfl
  · split <;> rfl

@[simp]
theorem closed_receive : channel.receive.2.closed = channel.closed := by
  unfold receive
  split
  · rfl
  · split <;> rfl

theorem taken_prefix : channel.taken <+: channel.sent := List.take_prefix _ _

variable {channel}

/-- What a send does, by its outcome. -/
theorem send_eq_accepted {item : α} {after : Channel α}
    (sent : channel.send item = (.accepted, after)) :
    channel.dropped = false ∧ after = channel.push item := by
  unfold send at sent
  split at sent
  · cases sent
  · rename_i kept
    split at sent
    · cases sent
      exact ⟨by simpa using kept, rfl⟩
    · cases sent

theorem send_eq_refused {item : α} {after : Channel α}
    (sent : channel.send item = (.refused, after)) : channel.dropped = true ∧ after = channel := by
  unfold send at sent
  split at sent
  · rename_i dropped
    cases sent
    exact ⟨dropped, rfl⟩
  · split at sent <;> cases sent

/-- What a receive does, by its outcome. -/
theorem receive_eq_item {item : α} {after : Channel α}
    (received : channel.receive = (.item item, after)) :
    ∃ more : channel.received < channel.sent.length,
      after = channel.advance more ∧ after.taken = channel.taken ++ [item] := by
  unfold receive at received
  split at received
  · rename_i more
    cases received
    exact ⟨more, rfl, channel.taken_advance more⟩
  · split at received <;> cases received

theorem receive_eq_ended {after : Channel α} (received : channel.receive = (.ended, after)) :
    channel.closed = true ∧ channel.taken = channel.sent ∧ after = channel := by
  unfold receive at received
  split at received
  · cases received
  · rename_i none_left
    split at received
    · rename_i closed
      cases received
      exact ⟨closed, List.take_of_length_le (Nat.le_of_not_lt none_left), rfl⟩
    · cases received

end Channel

end CyxCloud.Library
