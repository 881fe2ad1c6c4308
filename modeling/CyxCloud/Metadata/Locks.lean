import Mathlib.Logic.Function.Basic
import CyxCloud.Library.Runs
import CyxCloud.Metadata.Cache

/-!
# Distributed locks

Clients that acquire, extend and release one lock, in any order and at any time.  The key names no
owner and counts whole seconds, so that the lock excludes other clients exactly as long as each of
them touches only a lock that no other client holds.
-/

namespace CyxCloud.Metadata

open CyxCloud.Core Library

/-- A call of a client, or the passage of time. -/
inductive LockStep where
  | acquire (client : Nat) (ttl : Duration)
  | extend (client : Nat) (ttl : Duration)
  | release (client : Nat)
  | wait (duration : Nat)
  deriving DecidableEq, Repr

/-- The key of a lock, and until when each client has leased it since it has acquired it. -/
structure LockClients where
  key : ExpiringKey String
  now : Time
  leases : Nat → Option Time

namespace LockClients

/-- Nobody has acquired the lock. -/
def start (now : Time) : LockClients where
  key := .absent
  now := now
  leases := fun _ => none

/-- Carry out a step; a client that has not acquired the lock does not lease it by an extension. -/
def apply (state : LockClients) : LockStep → LockClients
  | .acquire client ttl =>
      let (key, acquired) := acquireLock state.key state.now ttl
      { state with
        key
        leases :=
          if acquired = .ok true then
            Function.update state.leases client (some (state.now + ttl.toNanos))
          else
            state.leases }
  | .extend client ttl =>
      let (key, extended) := extendLock state.key state.now ttl
      { state with
        key
        leases :=
          if extended = .ok true ∧ (state.leases client).isSome then
            Function.update state.leases client (some (state.now + ttl.toNanos))
          else
            state.leases }
  | .release client =>
      { state with
        key := releaseLock state.key
        leases := Function.update state.leases client none }
  | .wait duration => { state with now := state.now + duration }

/-- The client holds the lock. -/
def Holds (state : LockClients) (client : Nat) : Prop :=
  ∃ lapses, state.leases client = some lapses ∧ state.now < lapses

/-- The lease of the client has lapsed. -/
def Lapsed (state : LockClients) (client : Nat) : Prop :=
  ∃ lapses, state.leases client = some lapses ∧ lapses ≤ state.now

/-- At most one client holds the lock. -/
def Exclusive (state : LockClients) : Prop :=
  ∀ client other, state.Holds client → state.Holds other → client = other

/-- At most one client holds the lock, also if another waits and then tries to acquire it. -/
structure Excludes (state : LockClients) : Prop where
  present : state.Exclusive
  next : ∀ duration client ttl,
    ((state.apply (.wait duration)).apply (.acquire client ttl)).Exclusive

/-- A client whose lease has lapsed neither releases nor extends the lock of another. -/
def SparesOthers (state : LockClients) : LockStep → Prop
  | .release client => state.Lapsed client → ∀ other, state.Holds other →
      (state.apply (.release client)).key.get state.now = state.key.get state.now
  | .extend client ttl => state.Lapsed client → ∀ other, state.Holds other →
      (extendLock state.key state.now ttl).2 ≠ .ok true
  | _ => True

/-! ## The condition -/

/-- No other client holds the lock. -/
def OnlyHeldBy (state : LockClients) (client : Nat) : Prop :=
  ∀ other, state.Holds other → other = client

/-- Clients release and extend only locks that no other client holds, for whole seconds; one that
has acquired no lock may prolong that of another. -/
def KeepsToOwn (state : LockClients) : LockStep → Prop
  | .acquire _ ttl => (acquireLock state.key state.now ttl).2 = .ok true → ttl.nanos.val = 0
  | .extend client ttl =>
      (extendLock state.key state.now ttl).2 = .ok true →
        if (state.leases client).isSome then
          state.OnlyHeldBy client ∧ ttl.nanos.val = 0 ∧ ttl.secs.toNat < 2 ^ 63
        else
          ∀ other lapses, state.leases other = some lapses → state.now < lapses →
            ttl.secs.toNat < 2 ^ 63 ∧ lapses ≤ RedisKey.expiry state.now ttl.secs.toNat
  | .release client => state.OnlyHeldBy client
  | .wait _ => True

/-- At most one client holds the lock, and the key is there as long as the lease. -/
structure Sound (state : LockClients) : Prop where
  exclusive : state.Exclusive
  covered : ∀ client lapses, state.leases client = some lapses →
    ∀ time, state.now ≤ time → time < lapses → (state.key.get time).isSome

end LockClients

/-! ## What the operations leave -/

section

variable {key : ExpiringKey String} {now : Time} {ttl : Duration}

theorem acquireLock_of_ok (acquired : (acquireLock key now ttl).2 = .ok true) (time : Time) :
    ((acquireLock key now ttl).1.get time).isSome ↔
      time < RedisKey.expiry now ttl.secs.toNat := by
  rw [acquireLock, (RedisKey.setNxEx_of_ok acquired).2, ExpiringKey.get_lapsing, Duration.asSecs]
  split <;> rename_i early <;> simp [early]

theorem acquireLock_of_not_ok (refused : (acquireLock key now ttl).2 ≠ .ok true) :
    (acquireLock key now ttl).1 = key :=
  RedisKey.setNxEx_of_not_ok refused

/-- An extension that succeeds keeps the key for the whole seconds of its time, if these are
positive as a signed number, and deletes it otherwise. -/
theorem extendLock_of_ok (extended : (extendLock key now ttl).2 = .ok true) {time : Time}
    (past : now ≤ time) :
    ((extendLock key now ttl).1.get time).isSome ↔
      ttl.secs.toNat < 2 ^ 63 ∧ time < RedisKey.expiry now ttl.secs.toNat := by
  obtain ⟨value, -, left⟩ := RedisKey.expire_of_ok extended
  have bounded := ttl.secs.toNat_lt
  rw [extendLock, left, Duration.asSecs, toInt_toInt64]
  by_cases small : ttl.secs.toNat < 2 ^ 63
  · rw [if_pos small, Int.toNat_natCast]
    split <;> rename_i positive
    · rw [ExpiringKey.get_lapsing]
      split <;> rename_i early
      · exact iff_of_true rfl ⟨small, early⟩
      · exact iff_of_false Bool.false_ne_true fun both => early both.2
    · have zero : ttl.secs.toNat = 0 := by omega
      have late : ¬time < RedisKey.expiry now ttl.secs.toNat := by
        rw [zero, RedisKey.expiry, Nat.zero_mul]
        exact not_lt.mpr past
      exact iff_of_false Bool.false_ne_true fun both => late both.2
  · have negative : ¬(0 : Int) < ttl.secs.toNat - 2 ^ 64 := by omega
    rw [if_neg small, if_neg negative]
    exact iff_of_false Bool.false_ne_true fun both => small both.1

end

namespace LockClients

variable {state : LockClients} {client : Nat} {ttl : Duration}

/-! ## What a step does -/

theorem apply_acquire_of_ok (acquired : (acquireLock state.key state.now ttl).2 = .ok true) :
    state.apply (.acquire client ttl) =
      { state with
        key := (acquireLock state.key state.now ttl).1
        leases := Function.update state.leases client (some (state.now + ttl.toNanos)) } := by
  simp [LockClients.apply, acquired]

theorem apply_acquire_of_not_ok (refused : (acquireLock state.key state.now ttl).2 ≠ .ok true) :
    state.apply (.acquire client ttl) = state := by
  simp [LockClients.apply, refused, acquireLock_of_not_ok]

theorem apply_extend_of_leased (extended : (extendLock state.key state.now ttl).2 = .ok true)
    (leased : (state.leases client).isSome) :
    state.apply (.extend client ttl) =
      { state with
        key := (extendLock state.key state.now ttl).1
        leases := Function.update state.leases client (some (state.now + ttl.toNanos)) } := by
  simp [LockClients.apply, extended, leased]

/-- An extension that fails or is another's business changes no lease. -/
theorem apply_extend_of_not_leased
    (other : ¬((extendLock state.key state.now ttl).2 = .ok true ∧
      (state.leases client).isSome)) :
    state.apply (.extend client ttl) =
      { state with key := (extendLock state.key state.now ttl).1 } := by
  simp only [LockClients.apply, other, if_false]

/-! ## The invariant -/

/-- Nobody holds a lock whose key is gone. -/
theorem Sound.not_holds (sound : state.Sound) (nothing : state.key.get state.now = none)
    (client : Nat) : ¬state.Holds client := by
  rintro ⟨lapses, lease, later⟩
  have found := sound.covered client lapses lease state.now le_rfl later
  rw [nothing] at found
  exact nomatch found

theorem sound_start (now : Time) : (start now).Sound where
  exclusive := by
    rintro client other ⟨lapses, lease, -⟩
    exact nomatch lease
  covered := fun _ _ lease => nomatch lease

theorem Sound.wait (sound : state.Sound) (duration : Nat) :
    (state.apply (.wait duration)).Sound where
  exclusive := by
    rintro client other ⟨lapses, lease, early⟩ ⟨lapses', lease', early'⟩
    have past : state.now ≤ state.now + duration := Nat.le_add_right _ _
    exact sound.exclusive client other ⟨lapses, lease, past.trans_lt early⟩
      ⟨lapses', lease', past.trans_lt early'⟩
  covered := by
    intro client lapses lease time past early
    exact sound.covered client lapses lease time ((Nat.le_add_right _ _).trans past) early

/-- A lease that only one client gets while nobody else holds the lock is exclusive. -/
theorem exclusive_update {key : ExpiringKey String} {lapses : Time}
    (alone : state.OnlyHeldBy client) :
    Exclusive { state with
      key
      leases := Function.update state.leases client (some lapses) } := by
  have only : OnlyHeldBy { state with
      key
      leases := Function.update state.leases client (some lapses) } client := by
    rintro other ⟨lapses', lease, early⟩
    by_contra different
    dsimp only at lease
    rw [Function.update_of_ne different] at lease
    exact different (alone other ⟨lapses', lease, early⟩)
  intro one other holds holds'
  rw [only one holds, only other holds']

/-- Whoever acquires the lock holds it alone. -/
theorem Sound.exclusive_acquire (sound : state.Sound) (client : Nat) (ttl : Duration) :
    (state.apply (.acquire client ttl)).Exclusive := by
  by_cases acquired : (acquireLock state.key state.now ttl).2 = .ok true
  · rw [apply_acquire_of_ok acquired]
    have nothing := (RedisKey.setNxEx_of_ok acquired).1
    exact exclusive_update fun other holds => absurd holds (sound.not_holds nothing other)
  · rw [apply_acquire_of_not_ok acquired]
    exact sound.exclusive

theorem Sound.excludes (sound : state.Sound) : state.Excludes where
  present := sound.exclusive
  next := fun duration client ttl => (sound.wait duration).exclusive_acquire client ttl

/-- The key covers a lease of whole seconds. -/
theorem add_toNanos (now : Time) (whole : ttl.nanos.val = 0) :
    now + ttl.toNanos = RedisKey.expiry now ttl.secs.toNat := by
  rw [Duration.toNanos, whole, RedisKey.expiry, Nat.add_zero]

theorem Sound.acquire (sound : state.Sound)
    (whole : (acquireLock state.key state.now ttl).2 = .ok true → ttl.nanos.val = 0) :
    (state.apply (.acquire client ttl)).Sound := by
  refine ⟨sound.exclusive_acquire client ttl, ?_⟩
  by_cases acquired : (acquireLock state.key state.now ttl).2 = .ok true
  · rw [apply_acquire_of_ok acquired]
    intro other lapses lease time past early
    dsimp only at lease past
    have nothing := (RedisKey.setNxEx_of_ok acquired).1
    refine (acquireLock_of_ok acquired time).mpr ?_
    by_cases same : other = client
    · subst same
      rw [Function.update_self, Option.some.injEq, add_toNanos state.now (whole acquired)] at lease
      rwa [lease]
    · rw [Function.update_of_ne same] at lease
      exact absurd ⟨lapses, lease, past.trans_lt early⟩ (sound.not_holds nothing other)
  · rw [apply_acquire_of_not_ok acquired]
    exact sound.covered

theorem Sound.extend (sound : state.Sound) (keeps : state.KeepsToOwn (.extend client ttl)) :
    (state.apply (.extend client ttl)).Sound := by
  by_cases extended : (extendLock state.key state.now ttl).2 = .ok true
  · have own := keeps extended
    split at own
    · rename_i leased
      obtain ⟨alone, whole, small⟩ := own
      rw [apply_extend_of_leased extended leased]
      refine ⟨exclusive_update alone, fun other lapses lease time past early => ?_⟩
      dsimp only at lease past
      refine (extendLock_of_ok extended past).mpr ⟨small, ?_⟩
      by_cases same : other = client
      · subst same
        rw [Function.update_self, Option.some.injEq, add_toNanos state.now whole] at lease
        rwa [lease]
      · rw [Function.update_of_ne same] at lease
        exact absurd (alone other ⟨lapses, lease, past.trans_lt early⟩) same
    · rename_i stranger
      rw [apply_extend_of_not_leased fun both => stranger both.2]
      refine ⟨sound.exclusive, fun other lapses lease time past early => ?_⟩
      obtain ⟨small, long⟩ := own other lapses lease (past.trans_lt early)
      exact (extendLock_of_ok extended past).mpr ⟨small, early.trans_le long⟩
  · rw [apply_extend_of_not_leased fun both => extended both.1]
    refine ⟨sound.exclusive, fun other lapses lease time past early => ?_⟩
    rw [extendLock, RedisKey.expire_of_not_ok extended past]
    exact sound.covered other lapses lease time past early

theorem OnlyHeldBy.release (alone : state.OnlyHeldBy client) :
    (state.apply (.release client)).Sound := by
  have nobody : ∀ other, ¬(state.apply (.release client)).Holds other := by
    rintro other ⟨lapses, lease, early⟩
    by_cases same : other = client
    · simp only [LockClients.apply, same, Function.update_self] at lease
      exact nomatch lease
    · simp only [LockClients.apply, Function.update_of_ne same] at lease
      exact same (alone other ⟨lapses, lease, early⟩)
  refine ⟨fun one _ holds => absurd holds (nobody one), ?_⟩
  intro other lapses lease time past early
  exact absurd ⟨lapses, lease, past.trans_lt early⟩ (nobody other)

theorem Sound.apply (sound : state.Sound) {step : LockStep} (keeps : state.KeepsToOwn step) :
    (state.apply step).Sound := by
  cases step with
  | acquire client ttl => exact sound.acquire keeps
  | extend client ttl => exact sound.extend keeps
  | release client => exact OnlyHeldBy.release keeps
  | wait duration => exact sound.wait duration

/-! ## The condition is needed -/

/-- If nobody else can acquire the lock while a client holds it, then the key is there. -/
theorem Excludes.sound (excludes : state.Excludes) : state.Sound := by
  refine ⟨excludes.present, fun client lapses lease time past early => ?_⟩
  by_contra gone
  have nothing : state.key.get time = none := by simpa using gone
  -- another client waits until the key is gone
  let waited := state.apply (.wait (time - state.now))
  have now_eq : waited.now = time := Nat.add_sub_cancel' past
  have acquired : (acquireLock waited.key waited.now (.fromSecs 1)).2 = .ok true := by
    rw [now_eq]
    simp [waited, apply, acquireLock, RedisKey.setNxEx, nothing, Duration.asSecs,
      Duration.fromSecs, maxExpireSecs]
  have exclusive := excludes.next (time - state.now) (client + 1) (.fromSecs 1)
  rw [apply_acquire_of_ok acquired] at exclusive
  have same : client = client + 1 := by
    refine exclusive client (client + 1) ⟨lapses, ?_, now_eq.trans_lt early⟩
      ⟨_, Function.update_self .., Nat.lt_add_of_pos_right (by decide)⟩
    exact (Function.update_of_ne (Nat.succ_ne_self client).symm _ _).trans lease
  exact Nat.succ_ne_self client same.symm

/-- A client that holds the lock before a call of another holds it afterwards. -/
theorem Excludes.keepsToOwn {step : LockStep} (excludes : (state.apply step).Excludes) :
    state.KeepsToOwn step := by
  have sound := excludes.sound
  cases step with
  | wait duration => trivial
  | acquire client ttl =>
      intro acquired
      rw [apply_acquire_of_ok acquired] at sound
      by_contra fraction
      have found := sound.covered client _ (Function.update_self ..)
        (RedisKey.expiry state.now ttl.secs.toNat) (Nat.le_add_right _ _)
        (Nat.add_lt_add_left (Nat.lt_add_of_pos_right (Nat.pos_of_ne_zero fraction)) _)
      exact lt_irrefl _ ((acquireLock_of_ok acquired _).mp found)
  | release client =>
      rintro other ⟨lapses, lease, early⟩
      by_contra different
      have lease' : (state.apply (.release client)).leases other = some lapses :=
        (Function.update_of_ne different _ _).trans lease
      exact nomatch sound.covered other lapses lease' state.now le_rfl early
  | extend client ttl =>
      intro extended
      split
      · rename_i leased
        rw [apply_extend_of_leased extended leased] at sound
        have found := sound.covered client _ (Function.update_self ..)
        refine ⟨?_, ?_, ?_⟩
        · rintro other ⟨lapses, lease, early⟩
          by_contra different
          have lease' : Function.update state.leases client (some (state.now + ttl.toNanos)) other =
              some lapses := (Function.update_of_ne different _ _).trans lease
          -- the key is there, so that the client holds the lock as well
          have present := (extendLock_of_ok extended le_rfl).mp
            (sound.covered other lapses lease' state.now le_rfl early)
          have holds : state.now < state.now + ttl.toNanos :=
            present.2.trans_le (Nat.add_le_add_left (Nat.le_add_right _ _) _)
          exact different (sound.exclusive other client ⟨lapses, lease', early⟩
            ⟨_, Function.update_self .., holds⟩)
        · by_contra fraction
          have late := found (RedisKey.expiry state.now ttl.secs.toNat) (Nat.le_add_right _ _)
            (Nat.add_lt_add_left (Nat.lt_add_of_pos_right (Nat.pos_of_ne_zero fraction)) _)
          exact lt_irrefl _ ((extendLock_of_ok extended (Nat.le_add_right _ _)).mp late).2
        · by_contra large
          have positive : 0 < ttl.toNanos :=
            Nat.add_pos_left (Nat.mul_pos (by omega) (by decide)) _
          have present := found state.now le_rfl (Nat.lt_add_of_pos_right positive)
          exact large ((extendLock_of_ok extended le_rfl).mp present).1
      · rename_i stranger
        rw [apply_extend_of_not_leased fun both => stranger both.2] at sound
        intro other lapses lease early
        have found := sound.covered other lapses lease
        have small := (extendLock_of_ok extended le_rfl).mp (found state.now le_rfl early)
        refine ⟨small.1, ?_⟩
        have last := (extendLock_of_ok extended (Nat.le_sub_one_of_lt early)).mp
          (found (lapses - 1) (Nat.le_sub_one_of_lt early) (Nat.sub_one_lt_of_lt early))
        exact Nat.le_of_pred_lt last.2

/-! ## Runs -/

/-- A client whose lease has lapsed and who keeps to its own lock touches that of no other. -/
theorem KeepsToOwn.sparesOthers {step : LockStep} (keeps : state.KeepsToOwn step) :
    state.SparesOthers step := by
  have lapsed_ne : ∀ {client other}, state.Lapsed client → state.Holds other →
      other ≠ client := by
    rintro client other ⟨lapses, lease, late⟩ ⟨lapses', lease', early⟩ rfl
    cases lease.symm.trans lease'
    exact absurd late (not_le.mpr early)
  cases step with
  | wait duration => trivial
  | acquire client ttl => trivial
  | release client =>
      intro lapsed other holds
      exact absurd (keeps other holds) (lapsed_ne lapsed holds)
  | extend client ttl =>
      intro lapsed other holds extended
      have own := keeps extended
      have leased : (state.leases client).isSome := by
        obtain ⟨lapses, lease, -⟩ := lapsed
        rw [lease]
        rfl
      rw [if_pos leased] at own
      exact lapsed_ne lapsed holds (own.1 other holds)

/-- In every run, at most one client holds the lock, even if another tries to acquire it at any
time, and no client whose lease has lapsed touches the lock of another, exactly if every client
keeps to its own lock. -/
theorem excludes_iff_keepsToOwn (now : Time) (steps : List LockStep) :
    EveryState LockClients.apply Excludes (start now) steps ∧
        EveryStep LockClients.apply SparesOthers (start now) steps ↔
      EveryStep LockClients.apply KeepsToOwn (start now) steps := by
  have restores : ∀ state step, Sound state → state.KeepsToOwn step → (state.apply step).Sound :=
    fun _ _ sound keeps => sound.apply keeps
  have needs : ∀ state step, Sound state → (state.apply step).Excludes → state.KeepsToOwn step :=
    fun _ _ _ excludes => excludes.keepsToOwn
  have excludes := everyState_iff_of_restores Sound (fun _ sound => sound.excludes) restores needs
    (sound_start now) steps
  rw [excludes, and_iff_left_of_imp]
  exact fun keeps => keeps.mono fun _ _ own => own.sparesOthers

/-- A client that releases the lock after its lease has lapsed lets a third one in, one that extends
it gets the lock of another, and a lease of one and a half seconds outlives its key. -/
theorem not_excludes_of_late_release :
    ¬EveryState LockClients.apply Exclusive (start 0)
        [.acquire 0 (.fromSecs 1), .wait nanosPerSec, .acquire 1 (.fromSecs 1), .release 0,
          .acquire 2 (.fromSecs 1)] ∧
      ¬EveryStep LockClients.apply SparesOthers (start 0)
        [.acquire 0 (.fromSecs 1), .wait nanosPerSec, .acquire 1 (.fromSecs 1),
          .extend 0 (.fromSecs 1)] ∧
      ¬EveryState LockClients.apply Exclusive (start 0)
        [.acquire 0 ⟨1, ⟨500000000, by decide⟩⟩, .wait nanosPerSec, .acquire 1 (.fromSecs 1)] := by
  refine ⟨fun exclusive => ?_, fun spares => ?_, fun exclusive => ?_⟩
  · have same := exclusive.last 1 2 ⟨2 * nanosPerSec, by decide, by decide⟩
      ⟨2 * nanosPerSec, by decide, by decide⟩
    exact nomatch same
  · obtain ⟨-, -, -, spared, -⟩ := spares
    exact spared ⟨nanosPerSec, by decide, by decide⟩ 1 ⟨2 * nanosPerSec, by decide, by decide⟩
      (by decide)
  · have same := exclusive.last 0 1 ⟨1500000000, by decide, by decide⟩
      ⟨2 * nanosPerSec, by decide, by decide⟩
    exact nomatch same

end LockClients

end CyxCloud.Metadata
