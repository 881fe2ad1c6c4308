import Mathlib.Data.List.Basic

/-!
# Broadcast channels

A channel from which every receiver hears every item, at its own pace: the items that were ever sent,
of which the last ones are kept.  A receiver is the number of items it is past; one that has fallen
further behind than what is kept is told so once and goes on with the oldest item that is left.
-/

namespace CyxCloud.Library

/-- A broadcast channel with its history. -/
structure Broadcast (α : Type*) where
  capacity : Nat
  sent : List α
  /-- The sender is gone. -/
  closed : Bool
  deriving DecidableEq, Repr

/-- What becomes of a receive. -/
inductive Hearing (α : Type*) where
  | waiting
  | ended
  | lagged (missed : Nat)
  | item (item : α)
  deriving DecidableEq, Repr

namespace Broadcast

variable {α : Type*}

/-- A channel through which nothing has passed. -/
def fresh (capacity : Nat) : Broadcast α where
  capacity := capacity
  sent := []
  closed := false

variable (channel : Broadcast α)

/-- Send an item; without receivers it is not kept. -/
def send (receivers : Nat) (item : α) : Broadcast α :=
  if receivers = 0 then channel else { channel with sent := channel.sent ++ [item] }

/-- A receiver that hears what is sent from now on. -/
def subscribe : Nat := channel.sent.length

/-- The channel without its sender. -/
def close : Broadcast α := { channel with closed := true }

/-- The receiver has fallen further behind than what is kept. -/
def Lags (next : Nat) : Prop := next + channel.capacity < channel.sent.length

instance (next : Nat) : Decidable (channel.Lags next) :=
  inferInstanceAs (Decidable (next + channel.capacity < channel.sent.length))

/-- Try to receive an item. -/
def receive (next : Nat) : Hearing α × Nat :=
  if channel.Lags next then
    let oldest := channel.sent.length - channel.capacity
    (.lagged (oldest - next), oldest)
  else
    match channel.sent[next]? with
    | some item => (.item item, next + 1)
    | none => if channel.closed then (.ended, next) else (.waiting, next)

variable {channel} {next : Nat}

theorem receive_of_lags (lags : channel.Lags next) :
    channel.receive next =
      (.lagged (channel.sent.length - channel.capacity - next),
        channel.sent.length - channel.capacity) := by
  rw [receive, if_pos lags]

/-- A receiver that keeps up hears the end only after the sender is gone. -/
theorem closed_of_receive_ended (keeps : ¬channel.Lags next)
    (ended : (channel.receive next).1 = .ended) : channel.closed = true := by
  rw [receive, if_neg keeps] at ended
  split at ended
  · exact nomatch ended
  · split at ended
    · assumption
    · exact nomatch ended

/-- A receiver that keeps up is not told that it lags. -/
theorem receive_ne_lagged (keeps : ¬channel.Lags next) (missed : Nat) :
    (channel.receive next).1 ≠ .lagged missed := by
  rw [receive, if_neg keeps]
  split
  · exact fun same => nomatch same
  · split <;> exact fun same => nomatch same

/-- What is received is the item at the place of the receiver. -/
theorem receive_eq_item {item : α} {after : Nat}
    (received : channel.receive next = (.item item, after)) :
    channel.sent[next]? = some item ∧ after = next + 1 := by
  rw [receive] at received
  split at received
  · cases received
  · split at received
    · rename_i stored
      obtain ⟨same, rfl⟩ := Prod.mk.inj received
      exact ⟨by rw [stored, Hearing.item.inj same], rfl⟩
    · split at received <;> cases received

/-- A receiver that waits has received everything. -/
theorem receive_eq_waiting {after : Nat} (received : channel.receive next = (.waiting, after)) :
    channel.sent.length ≤ next := by
  rw [receive] at received
  split at received
  · cases received
  · split at received
    · cases received
    · rename_i beyond
      exact List.getElem?_eq_none_iff.mp beyond

end Broadcast

end CyxCloud.Library
