import Mathlib.Data.List.Nodup
import CyxCloud.Library.Runs
import CyxCloud.Metadata.Cache

/-!
# Rate limits

Calls of `check_rate_limit` for one key, each of which increments the counter and then, if it was the
first, arms the expiry.  No counter lets more calls through than it should, but one whose first call
fails in between stays for good.
-/

namespace CyxCloud.Metadata

open CyxCloud.Core Library

/-- What has become of a call that has incremented the counter. -/
inductive RatePhase where
  | counted
  | answered (allowed : Bool)
  | failed
  deriving DecidableEq, Repr

/-- A call, with the counter it has incremented and the count it was told. -/
structure RateCall where
  counter : Nat
  count : Nat
  phase : RatePhase
  deriving DecidableEq, Repr

/-- The key of a limit, the number of counters that it has held one after the other, and all calls
in order. -/
structure RateLimiter where
  key : ExpiringKey Nat
  now : Time
  counters : Nat
  calls : List RateCall
  deriving DecidableEq, Repr

/-- A call increments the counter, goes on to its answer, or fails or crashes before; or time
passes. -/
inductive RateStep where
  | increment
  | finish (call : Nat)
  | fail (call : Nat)
  | wait (duration : Nat)
  deriving DecidableEq, Repr

namespace RateLimiter

/-- No calls yet. -/
def start (now : Time) : RateLimiter where
  key := .absent
  now := now
  counters := 0
  calls := []

/-- Increment counter. -/
def increment (state : RateLimiter) : RateLimiter :=
  let (key, count) := RedisKey.incr state.key state.now
  let counters := if (state.key.get state.now).isSome then state.counters else state.counters + 1
  { state with
    key
    counters
    calls := state.calls ++ [{ counter := counters, count, phase := .counted }] }

/-- Set expiry on first request, and answer. -/
def finish (maxRequests : Nat) (window : Duration) (state : RateLimiter) (count : Nat) :
    ExpiringKey Nat × RatePhase :=
  if count = 1 then
    match RedisKey.expire state.key state.now window.asSecs.toInt64.toInt with
    | (key, .ok _) => (key, .answered (decide (count ≤ maxRequests)))
    | (key, .error _) => (key, .failed)
  else
    (state.key, .answered (decide (count ≤ maxRequests)))

/-- Carry out a step; only a call that has no answer yet can go on or fail. -/
def apply (maxRequests : Nat) (window : Duration) (state : RateLimiter) : RateStep → RateLimiter
  | .increment => state.increment
  | .finish call =>
      match state.calls[call]? with
      | some { counter, count, phase := .counted } =>
          let (key, phase) := state.finish maxRequests window count
          { state with key, calls := state.calls.set call { counter, count, phase } }
      | _ => state
  | .fail call =>
      match state.calls[call]? with
      | some { counter, count, phase := .counted } =>
          { state with calls := state.calls.set call { counter, count, phase := .failed } }
      | _ => state
  | .wait duration => { state with now := state.now + duration }

end RateLimiter

/-- The call is about to arm the expiry. -/
def RateCall.Arms (call : RateCall) : Prop := call.phase = .counted ∧ call.count = 1

instance : DecidablePred RateCall.Arms := fun call =>
  inferInstanceAs (Decidable (call.phase = .counted ∧ call.count = 1))

/-- The counter and the count of a call. -/
def RateCall.ticket (call : RateCall) : Nat × Nat := (call.counter, call.count)

namespace RateLimiter

/-- Between two expiries the counter lets at most so many calls through, it expires or is about to be
given an expiry, and when no call is about to give it one it is gone after a window. -/
structure Limits (maxRequests : Nat) (window : Duration) (state : RateLimiter) : Prop where
  limited : ∀ counter, state.calls.countP (fun call =>
    call.counter == counter && call.phase == .answered true) ≤ maxRequests
  armed : ∀ count, state.key = .staying count → ∃ call ∈ state.calls, call.Arms
  freed : (∀ call ∈ state.calls, ¬call.Arms) →
    state.key.get (RedisKey.expiry state.now window.secs.toNat) = none

/-- The first call of a counter neither fails before it arms the expiry, nor does the server refuse
the window. -/
def ArmsExpiry (window : Duration) (state : RateLimiter) : RateStep → Prop
  | .finish call => ∀ first, state.calls[call]? = some first → first.Arms →
      window.asSecs.toInt64.toInt.natAbs ≤ maxExpireSecs
  | .fail call => ∀ first, state.calls[call]? = some first → ¬first.Arms
  | _ => True

/-! ## The invariant -/

/-- No two calls have incremented a counter to the same count, and the present counter has come at
least as far as its calls were told. -/
structure Numbered (state : RateLimiter) (tickets : List (Nat × Nat)) : Prop where
  nodup : tickets.Nodup
  earlier : ∀ ticket ∈ tickets, ticket.1 ≤ state.counters
  counted : ∀ count, state.key.get state.now = some count →
    ∀ ticket ∈ tickets, ticket.1 = state.counters → ticket.2 ≤ count
  positive : ∀ ticket ∈ tickets, 1 ≤ ticket.2
  begun : ∀ count, state.key.get state.now = some count → 1 ≤ count

/-- A counter without expiry is the present one, and its first call is about to arm the expiry. -/
structure Tracked (maxRequests : Nat) (window : Duration) (state : RateLimiter) : Prop where
  numbered : state.Numbered (state.calls.map RateCall.ticket)
  allowed : ∀ call ∈ state.calls, call.phase = .answered true → call.count ≤ maxRequests
  arms : ∀ call ∈ state.calls, call.Arms →
    call.counter = state.counters ∧ ∃ count, state.key = .staying count
  armed : ∀ count, state.key = .staying count → ∃ call ∈ state.calls, call.Arms
  short : ∀ count lapses, state.key = .lapsing count lapses →
    lapses ≤ RedisKey.expiry state.now window.secs.toNat

variable {maxRequests : Nat} {window : Duration} {state : RateLimiter}

theorem tracked_start (maxRequests : Nat) (window : Duration) (now : Time) :
    (start now).Tracked maxRequests window where
  numbered := by constructor <;> simp [start]
  allowed := fun _ nothing => nomatch nothing
  arms := fun _ nothing => nomatch nothing
  armed := fun _ nothing => nomatch nothing
  short := fun _ _ nothing => nomatch nothing

/-- What becomes of a call leaves its ticket as it is. -/
theorem map_ticket_set {calls : List RateCall} {call counter count : Nat} {phase : RatePhase}
    (known : calls[call]? = some { counter, count, phase }) (phase' : RatePhase) :
    (calls.set call { counter, count, phase := phase' }).map RateCall.ticket =
      calls.map RateCall.ticket :=
  map_set_of_getElem? known RateCall.ticket rfl

/-- Only one call is about to arm the expiry. -/
theorem Tracked.only_arms (tracked : state.Tracked maxRequests window)
    {call counter count : Nat} {phase phase' : RatePhase}
    (known : state.calls[call]? = some { counter, count, phase })
    (arms : RateCall.Arms { counter, count, phase }) (other : phase' ≠ .counted) :
    ∀ later ∈ state.calls.set call { counter, count, phase := phase' }, ¬later.Arms := by
  intro later member laterArms
  have bound := (List.getElem?_eq_some_iff.mp known).1
  obtain ⟨position, found⟩ := List.getElem?_of_mem member
  by_cases same : call = position
  · subst same
    rw [List.getElem?_set_self bound, Option.some.injEq] at found
    exact other ((congrArg RateCall.phase found).trans laterArms.1)
  · rw [List.getElem?_set_ne same] at found
    have first := tracked.arms _ (List.mem_of_getElem? known) arms
    have second := tracked.arms _ (List.mem_of_getElem? found) laterArms
    have tickets : (state.calls.map RateCall.ticket)[call]? =
        (state.calls.map RateCall.ticket)[position]? := by
      rw [List.getElem?_map, List.getElem?_map, known, found, Option.map_some, Option.map_some,
        RateCall.ticket, RateCall.ticket, first.1, second.1, laterArms.2]
      exact congrArg (fun told => some (state.counters, told)) arms.2
    exact same ((List.getElem?_inj (by simpa using bound) tracked.numbered.nodup).mp tickets)

/-- A counter lets through at most the calls that were told a count within the limit. -/
theorem Tracked.limited (tracked : state.Tracked maxRequests window) (counter : Nat) :
    state.calls.countP (fun call =>
      call.counter == counter && call.phase == .answered true) ≤ maxRequests := by
  let through := state.calls.filter fun call =>
    call.counter == counter && call.phase == .answered true
  have distinct : (through.map RateCall.ticket).Nodup :=
    tracked.numbered.nodup.sublist (List.filter_sublist.map RateCall.ticket)
  have told : through.map RateCall.ticket ⊆ (List.range' 1 maxRequests).map (counter, ·) := by
    intro ticket member
    obtain ⟨call, passed, rfl⟩ := List.mem_map.mp member
    obtain ⟨present, matching⟩ := List.mem_filter.mp passed
    rw [Bool.and_eq_true, beq_iff_eq, beq_iff_eq] at matching
    have few := tracked.allowed call present matching.2
    have positive := tracked.numbered.positive _ (List.mem_map_of_mem present)
    refine List.mem_map.mpr ⟨call.count, List.mem_range'_1.mpr ⟨positive, by omega⟩, ?_⟩
    rw [RateCall.ticket, matching.1]
  have few := (List.subperm_of_subset distinct told).length_le
  rwa [List.length_map, List.length_map, List.length_range', ← List.countP_eq_length_filter]
    at few

theorem Tracked.freed (tracked : state.Tracked maxRequests window)
    (idle : ∀ call ∈ state.calls, ¬call.Arms) :
    state.key.get (RedisKey.expiry state.now window.secs.toNat) = none := by
  by_contra found
  obtain ⟨count, found⟩ := Option.ne_none_iff_exists'.mp found
  obtain staying | ⟨lapses, early, lapsing⟩ := ExpiringKey.eq_of_get found
  · obtain ⟨call, member, arms⟩ := tracked.armed count staying
    exact idle call member arms
  · exact absurd (tracked.short count lapses lapsing) (not_le.mpr early)

theorem Tracked.limits (tracked : state.Tracked maxRequests window) :
    state.Limits maxRequests window where
  limited := tracked.limited
  armed := tracked.armed
  freed := tracked.freed

/-! ## Every step keeps the invariant -/

theorem Tracked.wait (tracked : state.Tracked maxRequests window) (duration : Nat) :
    (state.apply maxRequests window (.wait duration)).Tracked maxRequests window where
  numbered :=
    { nodup := tracked.numbered.nodup
      earlier := tracked.numbered.earlier
      counted := fun count found =>
        tracked.numbered.counted count (ExpiringKey.get_earlier found (Nat.le_add_right _ _))
      positive := tracked.numbered.positive
      begun := fun count found =>
        tracked.numbered.begun count (ExpiringKey.get_earlier found (Nat.le_add_right _ _)) }
  allowed := tracked.allowed
  arms := tracked.arms
  armed := tracked.armed
  short := fun count lapses lapsing =>
    (tracked.short count lapses lapsing).trans (Nat.add_le_add_right (Nat.le_add_right _ _) _)

/-- A new call has a new ticket. -/
theorem Numbered.append {tickets : List (Nat × Nat)} (numbered : state.Numbered tickets)
    {key : ExpiringKey Nat} {counters count : Nat} {calls : List RateCall}
    (found : key.get state.now = some count) (positive : 1 ≤ count)
    (later : state.counters < counters ∨ counters = state.counters ∧
      ∃ before < count, state.key.get state.now = some before) :
    Numbered { key, now := state.now, counters, calls } (tickets ++ [(counters, count)]) where
  nodup := by
    rw [List.nodup_append_comm, List.singleton_append, List.nodup_cons]
    refine ⟨fun member => ?_, numbered.nodup⟩
    have earlier := numbered.earlier _ member
    rcases later with next | ⟨same, before, less, known⟩
    · exact absurd earlier (not_le.mpr next)
    · exact absurd (numbered.counted before known _ member same) (not_le.mpr less)
  earlier := by
    intro ticket member
    rcases List.mem_append.mp member with old | new
    · have earlier := numbered.earlier ticket old
      rcases later with next | ⟨same, -⟩
      · exact earlier.trans next.le
      · exact earlier.trans same.ge
    · rw [List.mem_singleton.mp new]
  counted := by
    intro count' found' ticket member same
    cases found.symm.trans found'
    rcases List.mem_append.mp member with old | new
    · rcases later with next | ⟨equal, before, less, known⟩
      · exact absurd (numbered.earlier ticket old) (not_le.mpr (next.trans_eq same.symm))
      · exact (numbered.counted before known ticket old (same.trans equal)).trans less.le
    · rw [List.mem_singleton.mp new]
  positive := by
    intro ticket member
    rcases List.mem_append.mp member with old | new
    · exact numbered.positive ticket old
    · rw [List.mem_singleton.mp new]
      exact positive
  begun := by
    intro count' found'
    cases found.symm.trans found'
    exact positive

/-- An increment starts a counter that stays, or goes on with the present one. -/
theorem increment_cases (state : RateLimiter) :
    state.key.get state.now = none ∧ state.increment =
        { state with
          key := .staying 1
          counters := state.counters + 1
          calls := state.calls ++
            [{ counter := state.counters + 1, count := 1, phase := .counted }] } ∨
      ∃ count key, state.key.get state.now = some count ∧ key.get state.now = some (count + 1) ∧
        (state.key = .staying count ∧ key = .staying (count + 1) ∨
          ∃ lapses, state.key = .lapsing count lapses ∧ key = .lapsing (count + 1) lapses) ∧
        state.increment =
          { state with
            key
            calls := state.calls ++
              [{ counter := state.counters, count := count + 1, phase := .counted }] } := by
  cases found : state.key.get state.now with
  | none =>
      refine .inl ⟨rfl, ?_⟩
      rw [increment, RedisKey.incr_of_absent found, found]
      rfl
  | some count =>
      refine .inr ⟨count, (RedisKey.incr state.key state.now).1, rfl, ?_⟩
      obtain staying | ⟨lapses, early, lapsing⟩ := ExpiringKey.eq_of_get found
      · rw [increment, found, staying, RedisKey.incr_staying]
        exact ⟨rfl, .inl ⟨rfl, rfl⟩, rfl⟩
      · rw [increment, found, lapsing, RedisKey.incr_lapsing early]
        refine ⟨?_, .inr ⟨lapses, rfl, rfl⟩, rfl⟩
        rw [ExpiringKey.get_lapsing, if_pos early]

theorem Tracked.increment (tracked : state.Tracked maxRequests window) :
    state.increment.Tracked maxRequests window := by
  obtain ⟨nothing, starts⟩ | ⟨count, key, found, found', kinds, goes⟩ := state.increment_cases
  · rw [starts]
    refine ⟨?_, ?_, ?_, ?_, ?_⟩
    · rw [List.map_append]
      exact tracked.numbered.append rfl le_rfl (.inl (Nat.lt_succ_self _))
    · intro call member passed
      rcases List.mem_append.mp member with old | new
      · exact tracked.allowed call old passed
      · rw [List.mem_singleton.mp new] at passed
        exact nomatch passed
    · intro call member arms
      rcases List.mem_append.mp member with old | new
      · -- the key of the call that arms it would still be there
        obtain ⟨-, count, staying⟩ := tracked.arms call old arms
        rw [staying] at nothing
        exact nomatch nothing
      · rw [List.mem_singleton.mp new]
        exact ⟨rfl, 1, rfl⟩
    · exact fun _ _ => ⟨_, List.mem_append_right _ (List.mem_singleton.mpr rfl), rfl, rfl⟩
    · exact fun _ _ lapsing => nomatch lapsing
  · rw [goes]
    refine ⟨?_, ?_, ?_, ?_, ?_⟩
    · rw [List.map_append]
      exact tracked.numbered.append found' (Nat.le_add_left 1 count)
        (.inr ⟨rfl, count, Nat.lt_succ_self count, found⟩)
    · intro call member passed
      rcases List.mem_append.mp member with old | new
      · exact tracked.allowed call old passed
      · rw [List.mem_singleton.mp new] at passed
        exact nomatch passed
    · intro call member arms
      rcases List.mem_append.mp member with old | new
      · obtain ⟨same, count', staying⟩ := tracked.arms call old arms
        obtain ⟨-, staying'⟩ | ⟨lapses, lapsing, -⟩ := kinds
        · exact ⟨same, _, staying'⟩
        · rw [staying] at lapsing
          exact nomatch lapsing
      · rw [List.mem_singleton.mp new] at arms
        exact absurd (Nat.succ.inj arms.2)
          (Nat.one_le_iff_ne_zero.mp (tracked.numbered.begun count found))
    · intro count' staying
      obtain ⟨staying', -⟩ | ⟨lapses, -, lapsing⟩ := kinds
      · obtain ⟨call, member, arms⟩ := tracked.armed count staying'
        exact ⟨call, List.mem_append_left _ member, arms⟩
      · exact nomatch staying.symm.trans lapsing
    · intro count' lapses lapsing
      obtain ⟨-, staying⟩ | ⟨lapses', lapsing', same⟩ := kinds
      · exact nomatch staying.symm.trans lapsing
      · cases lapsing.symm.trans same
        exact tracked.short count lapses lapsing'

/-- What becomes of a call that was told a count within the limit, or of one that is not allowed,
keeps the number of allowed calls within the limit. -/
theorem Tracked.allowed_set (tracked : state.Tracked maxRequests window)
    {call counter count : Nat} {phase : RatePhase}
    (allowed : phase = .answered true → count ≤ maxRequests) :
    ∀ later ∈ state.calls.set call { counter, count, phase },
      later.phase = .answered true → later.count ≤ maxRequests := by
  intro later member passed
  rcases List.mem_or_eq_of_mem_set member with old | rfl
  · exact tracked.allowed later old passed
  · exact allowed passed

/-- A later call goes on or fails. -/
theorem Tracked.pass (tracked : state.Tracked maxRequests window) {call counter count : Nat}
    (known : state.calls[call]? = some { counter, count, phase := .counted })
    (later : count ≠ 1) {phase : RatePhase} (answered : phase ≠ .counted)
    (allowed : phase = .answered true → count ≤ maxRequests) :
    Tracked maxRequests window
      { state with calls := state.calls.set call { counter, count, phase } } where
  numbered := by
    rw [map_ticket_set known]
    exact ⟨tracked.numbered.nodup, tracked.numbered.earlier, tracked.numbered.counted,
      tracked.numbered.positive, tracked.numbered.begun⟩
  allowed := tracked.allowed_set allowed
  arms := by
    intro other member arms
    rcases List.mem_or_eq_of_mem_set member with old | rfl
    · exact tracked.arms other old arms
    · exact absurd arms.1 answered
  armed := by
    intro value staying
    obtain ⟨first, member, arms⟩ := tracked.armed value staying
    obtain ⟨position, found⟩ := List.getElem?_of_mem member
    refine ⟨first, List.mem_iff_getElem?.mpr ⟨position, ?_⟩, arms⟩
    rw [List.getElem?_set_ne, found]
    rintro rfl
    cases known.symm.trans found
    exact later arms.2
  short := tracked.short

/-- The first call arms the expiry of the counter. -/
theorem Tracked.arm (tracked : state.Tracked maxRequests window) {call counter count : Nat}
    (known : state.calls[call]? = some { counter, count, phase := .counted })
    (first : count = 1) {phase : RatePhase} (answered : phase ≠ .counted)
    (allowed : phase = .answered true → count ≤ maxRequests) {key : ExpiringKey Nat}
    (less : ∀ value, key.get state.now = some value → state.key.get state.now = some value)
    (expires : ∀ value, key ≠ .staying value)
    (short : ∀ value lapses, key = .lapsing value lapses →
      lapses ≤ RedisKey.expiry state.now window.secs.toNat) :
    Tracked maxRequests window
      { state with key, calls := state.calls.set call { counter, count, phase } } where
  numbered := by
    rw [map_ticket_set known]
    exact ⟨tracked.numbered.nodup, tracked.numbered.earlier,
      fun value found => tracked.numbered.counted value (less value found),
      tracked.numbered.positive, fun value found => tracked.numbered.begun value (less value found)⟩
  allowed := tracked.allowed_set allowed
  arms := by
    intro other member arms
    exact absurd arms (tracked.only_arms known ⟨rfl, first⟩ answered other member)
  armed := fun value staying => absurd staying (expires value)
  short := short

/-- A first call finds a counter that stays, and gives it an expiry if the server takes the
window. -/
theorem finish_first {value : Nat} (staying : state.key = .staying value) :
    state.finish maxRequests window 1 =
      if window.asSecs.toInt64.toInt.natAbs ≤ maxExpireSecs then
        (if 0 < window.asSecs.toInt64.toInt then
          .lapsing value (RedisKey.expiry state.now window.asSecs.toInt64.toInt.toNat)
        else
          .absent, .answered (decide (1 ≤ maxRequests)))
      else
        (state.key, .failed) := by
  simp only [finish, staying, RedisKey.expire, if_true]
  by_cases accepted : window.asSecs.toInt64.toInt.natAbs ≤ maxExpireSecs
  · by_cases positive : 0 < window.asSecs.toInt64.toInt
    · simp only [accepted, positive, if_true]
      rfl
    · simp only [accepted, positive, if_true, if_false]
  · simp only [accepted, if_false]

theorem toInt_toInt64_toNat_le (secs : UInt64) : secs.toInt64.toInt.toNat ≤ secs.toNat := by
  have bounded := secs.toNat_lt
  rw [toInt_toInt64]
  split <;> omega

theorem Tracked.finish (tracked : state.Tracked maxRequests window) {call : Nat}
    (arms : state.ArmsExpiry window (.finish call)) :
    (state.apply maxRequests window (.finish call)).Tracked maxRequests window := by
  simp only [apply]
  split
  · rename_i counter count known
    by_cases first : count = 1
    · obtain ⟨-, value, staying⟩ := tracked.arms _ (List.mem_of_getElem? known) ⟨rfl, first⟩
      have accepted := arms _ known ⟨rfl, first⟩
      cases first
      rw [finish_first staying, if_pos accepted]
      refine tracked.arm known rfl (by simp) (by simp) ?_ ?_ ?_
      · intro value' found
        dsimp only at found
        rw [staying]
        split at found
        · exact congrArg some (ExpiringKey.get_lapsing_eq_some_iff.mp found).2
        · exact nomatch found
      · intro value'
        dsimp only
        split <;> exact fun same => nomatch same
      · intro value' lapses lapsing
        dsimp only at lapsing
        split at lapsing
        · cases lapsing
          exact Nat.add_le_add_left (Nat.mul_le_mul_right _ (toInt_toInt64_toNat_le _)) _
        · exact nomatch lapsing
    · rw [RateLimiter.finish, if_neg first]
      exact tracked.pass known first (by simp) (by simp)
  · exact tracked

theorem Tracked.fail (tracked : state.Tracked maxRequests window) {call : Nat}
    (arms : state.ArmsExpiry window (.fail call)) :
    (state.apply maxRequests window (.fail call)).Tracked maxRequests window := by
  simp only [apply]
  split
  · rename_i counter count known
    exact tracked.pass known (fun first => arms _ known ⟨rfl, first⟩) (by simp) (by simp)
  · exact tracked

theorem Tracked.apply (tracked : state.Tracked maxRequests window) {step : RateStep}
    (arms : state.ArmsExpiry window step) :
    (state.apply maxRequests window step).Tracked maxRequests window := by
  cases step with
  | increment => exact tracked.increment
  | finish call => exact tracked.finish arms
  | fail call => exact tracked.fail arms
  | wait duration => exact tracked.wait duration

/-! ## The condition is needed -/

/-- A counter whose first call fails is never given an expiry. -/
theorem Tracked.armsExpiry (tracked : state.Tracked maxRequests window) {step : RateStep}
    (limits : (state.apply maxRequests window step).Limits maxRequests window) :
    state.ArmsExpiry window step := by
  cases step with
  | increment => trivial
  | wait duration => trivial
  | finish call =>
      rintro ⟨counter, count, phase⟩ known ⟨rfl, first⟩
      by_contra refused
      obtain ⟨-, value, staying⟩ := tracked.arms _ (List.mem_of_getElem? known) ⟨rfl, first⟩
      have fails : state.apply maxRequests window (.finish call) =
          { state with calls := state.calls.set call { counter, count, phase := .failed } } := by
        cases first
        simp [RateLimiter.apply, known, finish_first staying, refused]
      rw [fails] at limits
      obtain ⟨later, member, arms⟩ := limits.armed value staying
      exact tracked.only_arms known ⟨rfl, first⟩ (by simp) later member arms
  | fail call =>
      rintro ⟨counter, count, phase⟩ known ⟨rfl, first⟩
      obtain ⟨-, value, staying⟩ := tracked.arms _ (List.mem_of_getElem? known) ⟨rfl, first⟩
      have fails : state.apply maxRequests window (.fail call) =
          { state with calls := state.calls.set call { counter, count, phase := .failed } } := by
        simp [RateLimiter.apply, known]
      rw [fails] at limits
      obtain ⟨later, member, arms⟩ := limits.armed value staying
      exact tracked.only_arms known ⟨rfl, first⟩ (by simp) later member arms

/-! ## Runs -/

/-- In every run, the counter lets no more calls through than it should and never stays for good
exactly if the first call of every counter arms the expiry. -/
theorem limits_iff_armsExpiry (maxRequests : Nat) (window : Duration) (now : Time)
    (steps : List RateStep) :
    EveryState (RateLimiter.apply maxRequests window) (Limits maxRequests window) (start now)
        steps ↔
      EveryStep (RateLimiter.apply maxRequests window) (ArmsExpiry window) (start now) steps :=
  everyState_iff_of_restores (Tracked maxRequests window) (fun _ tracked => tracked.limits)
    (fun _ _ tracked arms => tracked.apply arms) (fun _ _ tracked limits => tracked.armsExpiry limits)
    (tracked_start maxRequests window now) steps

/-- The first call fails after it has incremented the counter, and the counter stays: four calls are
let through, and whenever the next one comes, it is refused. -/
theorem not_limits_of_failure :
    ¬EveryState (RateLimiter.apply 5 (.fromSecs 60)) (Limits 5 (.fromSecs 60)) (start 0)
        [.increment, .fail 0] ∧
      ∀ duration, (runAll (RateLimiter.apply 5 (.fromSecs 60)) (start 0)
        [.increment, .fail 0, .increment, .finish 1, .increment, .finish 2, .increment, .finish 3,
          .increment, .finish 4, .wait duration, .increment, .finish 5]).calls.map RateCall.phase =
        [.failed, .answered true, .answered true, .answered true, .answered true,
          .answered false] := by
  refine ⟨fun limits => ?_, fun duration => rfl⟩
  obtain ⟨call, member, arms⟩ := limits.last.armed 1 rfl
  cases List.mem_singleton.mp member
  exact nomatch arms.1

end RateLimiter

end CyxCloud.Metadata
