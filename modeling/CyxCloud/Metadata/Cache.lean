import CyxCloud.Core.Chunk
import CyxCloud.Library.ExpiringKeys

/-!
# The Redis cache

The commands of Redis that `cyxcloud-metadata/src/cache.rs` sends, each on its own key and atomic,
and the operations of the cache that are one command.
-/

namespace CyxCloud.Metadata

open CyxCloud.Core Library

/-- Nanoseconds in a second. -/
def nanosPerSec : Nat := 1000000000

/-- A length of time. -/
structure Duration where
  secs : UInt64
  nanos : Fin nanosPerSec
  deriving DecidableEq, Repr

namespace Duration

/-- A whole number of seconds. -/
def fromSecs (secs : UInt64) : Duration where
  secs := secs
  nanos := ⟨0, by decide⟩

/-- Whole seconds; the fraction is dropped. -/
def asSecs (duration : Duration) : UInt64 := duration.secs

/-- All of the duration, in nanoseconds. -/
def toNanos (duration : Duration) : Nat :=
  duration.secs.toNat * nanosPerSec + duration.nanos

end Duration

/-! ## Commands -/

/-- An expiry that a command does not take. -/
inductive RedisError where
  | invalidExpireTime
  deriving DecidableEq, Repr

/-- Most seconds that fit a signed 64-bit number of milliseconds; the clock is far from its end. -/
def maxExpireSecs : Nat := 9223372036854775

namespace RedisKey

variable {α : Type} (key : ExpiringKey α) (now : Time)

/-- When a key that lives for so many seconds is gone. -/
def expiry (secs : Nat) : Nat := now + secs * nanosPerSec

/-- `SETEX`. -/
def setEx (value : α) (secs : UInt64) : ExpiringKey α × Except RedisError Unit :=
  if 0 < secs ∧ secs.toNat ≤ maxExpireSecs then
    (.lapsing value (expiry now secs.toNat), .ok ())
  else
    (key, .error .invalidExpireTime)

/-- `SET` with `NX` and `EX`. -/
def setNxEx (value : α) (secs : UInt64) : ExpiringKey α × Except RedisError Bool :=
  if 0 < secs ∧ secs.toNat ≤ maxExpireSecs then
    match key.get now with
    | some _ => (key, .ok false)
    | none => (.lapsing value (expiry now secs.toNat), .ok true)
  else
    (key, .error .invalidExpireTime)

/-- `EXPIRE`; a time that has come deletes the key. -/
def expire (secs : Int) : ExpiringKey α × Except RedisError Bool :=
  if secs.natAbs ≤ maxExpireSecs then
    if 0 < secs then
      let (key, found) := key.expireAt now (expiry now secs.toNat)
      (key, .ok found)
    else
      (.absent, .ok (key.get now).isSome)
  else
    (key, .error .invalidExpireTime)

/-- `INCR`. -/
def incr (key : ExpiringKey Nat) (now : Time) : ExpiringKey Nat × Nat :=
  let key := key.modify now fun
    | some count => count + 1
    | none => 1
  (key, (key.get now).getD 0)

/-! ## What the commands leave -/

section

variable {key now} {value : α}

theorem setNxEx_of_ok {secs : UInt64} (written : (setNxEx key now value secs).2 = .ok true) :
    key.get now = none ∧
      (setNxEx key now value secs).1 = .lapsing value (expiry now secs.toNat) := by
  unfold setNxEx at written ⊢
  split at written
  · rename_i accepted
    rw [if_pos accepted]
    cases found : key.get now with
    | none => exact ⟨rfl, rfl⟩
    | some other =>
        rw [found] at written
        exact nomatch written
  · exact nomatch written

theorem setNxEx_of_not_ok {secs : UInt64} (refused : (setNxEx key now value secs).2 ≠ .ok true) :
    (setNxEx key now value secs).1 = key := by
  unfold setNxEx at refused ⊢
  split
  · rename_i accepted
    rw [if_pos accepted] at refused
    cases found : key.get now with
    | none =>
        rw [found] at refused
        exact absurd rfl refused
    | some other => rfl
  · rfl

/-- An expiry that is set keeps the value until then, and deletes it if the time has come. -/
theorem expire_of_ok {secs : Int} (expires : (expire key now secs).2 = .ok true) :
    ∃ value, key.get now = some value ∧ (expire key now secs).1 =
      if 0 < secs then .lapsing value (expiry now secs.toNat) else .absent := by
  unfold expire at expires ⊢
  split at expires
  · rename_i accepted
    rw [if_pos accepted]
    cases found : key.get now with
    | none => split at expires <;> simp_all [ExpiringKey.expireAt]
    | some value =>
        refine ⟨value, rfl, ?_⟩
        split
        · rw [ExpiringKey.expireAt_of_get found]
        · rfl
  · cases expires

/-- An expiry that is not set leaves the value as it is. -/
theorem expire_of_not_ok {secs : Int} (refused : (expire key now secs).2 ≠ .ok true)
    {time : Nat} (past : now ≤ time) : (expire key now secs).1.get time = key.get time := by
  unfold expire at refused ⊢
  split
  · rename_i accepted
    rw [if_pos accepted] at refused
    have nothing : key.get now = none := by
      by_contra found
      obtain ⟨value, found⟩ := Option.ne_none_iff_exists'.mp found
      split at refused
      · exact refused (by rw [ExpiringKey.expireAt_of_get found])
      · exact refused (by rw [found]; rfl)
    split
    · rw [ExpiringKey.expireAt_of_absent nothing]
    · rw [ExpiringKey.get_later nothing past, ExpiringKey.get_absent]
  · rfl

end

section

variable {key : ExpiringKey Nat} {now}

/-- A counter that is not there starts at one and stays. -/
theorem incr_of_absent (nothing : key.get now = none) : incr key now = (.staying 1, 1) := by
  rw [incr, ExpiringKey.modify_of_absent nothing]
  rfl

theorem incr_staying (count : Nat) (now : Time) :
    incr (.staying count) now = (.staying (count + 1), count + 1) := rfl

theorem incr_lapsing {lapses : Nat} (early : now < lapses) (count : Nat) :
    incr (.lapsing count lapses) now = (.lapsing (count + 1) lapses, count + 1) := by
  simp [incr, ExpiringKey.modify_lapsing early, ExpiringKey.get_lapsing, early]

end

end RedisKey

/-! ## Locks -/

/-- Acquire a distributed lock. -/
def acquireLock (key : ExpiringKey String) (now : Time) (ttl : Duration) :
    ExpiringKey String × Except RedisError Bool :=
  RedisKey.setNxEx key now "locked" ttl.asSecs

/-- Release a distributed lock. -/
def releaseLock (_key : ExpiringKey String) : ExpiringKey String := .absent

/-- Extend a lock, if it exists. -/
def extendLock (key : ExpiringKey String) (now : Time) (ttl : Duration) :
    ExpiringKey String × Except RedisError Bool :=
  RedisKey.expire key now ttl.asSecs.toInt64.toInt

/-- A number of seconds as a signed number. -/
theorem toInt_toInt64 (secs : UInt64) :
    secs.toInt64.toInt =
      if secs.toNat < 2 ^ 63 then (secs.toNat : Int) else secs.toNat - 2 ^ 64 := by
  have bounded := secs.toNat_lt
  have same : secs.toInt64.toInt = secs.toBitVec.toInt := rfl
  rw [same, BitVec.toInt_eq_toNat_cond, UInt64.toNat_toBitVec]
  split <;> split <;> omega

end CyxCloud.Metadata
