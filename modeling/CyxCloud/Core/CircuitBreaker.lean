import CyxCloud.Core.Chunk
import CyxCloud.Library.Runs

/-!
# The circuit breaker

The circuit breaker of `cyxcloud-core/src/circuit_breaker.rs` under any interleaving of its three
operations: its states change as documented, its counter counts the failures since the last success,
and it rejects requests exactly while it is open and recovering.
-/

namespace CyxCloud.Core

open Library

/-- Circuit breaker state. -/
inductive CircuitState where
  | closed
  | opened
  | halfOpen
  deriving DecidableEq, Repr

/-- Circuit breaker configuration; durations are nanoseconds. -/
structure CircuitBreakerConfig where
  /-- Consecutive failures before the circuit opens. -/
  failureThreshold : UInt64
  /-- Time from the last failure to a trial. -/
  recoveryTimeout : Nat
  name : String
  deriving DecidableEq, Repr

/-- Five failures and thirty seconds. -/
def CircuitBreakerConfig.default : CircuitBreakerConfig where
  failureThreshold := 5
  recoveryTimeout := 30000000000
  name := "default"

/-- A circuit breaker. -/
structure CircuitBreaker where
  config : CircuitBreakerConfig
  state : CircuitState
  failureCount : UInt64
  successCount : UInt64
  lastFailureTime : Option Time
  deriving DecidableEq, Repr

namespace CircuitBreaker

/-- A closed breaker. -/
def new (config : CircuitBreakerConfig) : CircuitBreaker where
  config := config
  state := .closed
  failureCount := 0
  successCount := 0
  lastFailureTime := none

variable (breaker : CircuitBreaker) (now : Time)

/-- Whether the recovery timeout has elapsed since the last failure. -/
def recovered : Bool :=
  match breaker.lastFailureTime with
  | some lastFailure => decide (now - lastFailure ≥ breaker.config.recoveryTimeout)
  | none => false

/-- Check if a request is allowed. -/
def allowRequest : CircuitBreaker × Bool :=
  match breaker.state with
  | .closed => (breaker, true)
  | .opened =>
      if breaker.recovered now then
        ({ breaker with state := .halfOpen }, true)
      else
        (breaker, false)
  | .halfOpen => (breaker, true)

/-- Record a successful operation. -/
def recordSuccess : CircuitBreaker :=
  match breaker.state with
  | .halfOpen =>
      { breaker with
        state := .closed
        failureCount := 0
        successCount := breaker.successCount + 1 }
  | .closed =>
      { breaker with
        failureCount := 0
        successCount := breaker.successCount + 1 }
  | .opened => { breaker with successCount := breaker.successCount + 1 }

/-- Record a failed operation. -/
def recordFailure : CircuitBreaker :=
  { breaker with
    state :=
      match breaker.state with
      | .closed =>
          if breaker.failureCount + 1 ≥ breaker.config.failureThreshold then .opened else .closed
      | .halfOpen => .opened
      | .opened => .opened
    failureCount := breaker.failureCount + 1
    lastFailureTime := some now }

end CircuitBreaker

/-! ## Runs -/

/-- An operation on a breaker, or the passage of time. -/
inductive BreakerOp where
  | allowRequest
  | recordSuccess
  | recordFailure
  | wait (duration : Nat)
  deriving DecidableEq, Repr

/-- An operation with the state of the breaker that it met, and its time. -/
structure BreakerRecord where
  op : BreakerOp
  state : CircuitState
  time : Time
  deriving DecidableEq, Repr

/-- A breaker in use: the clock, and what was done so far, the latest first. -/
structure BreakerRun where
  breaker : CircuitBreaker
  now : Time
  log : List BreakerRecord
  deriving DecidableEq, Repr

namespace BreakerRun

/-- A new breaker. -/
def start (config : CircuitBreakerConfig) (now : Time) : BreakerRun where
  breaker := .new config
  now := now
  log := []

/-- The breaker after an operation. -/
def next (run : BreakerRun) : BreakerOp → CircuitBreaker
  | .allowRequest => (run.breaker.allowRequest run.now).1
  | .recordSuccess => run.breaker.recordSuccess
  | .recordFailure => run.breaker.recordFailure run.now
  | .wait _ => run.breaker

/-- Carry out an operation. -/
def apply (run : BreakerRun) (op : BreakerOp) : BreakerRun where
  breaker := run.next op
  now :=
    match op with
    | .wait duration => run.now + duration
    | _ => run.now
  log := { op, state := run.breaker.state, time := run.now } :: run.log

end BreakerRun

/-- Failures since the last success that met a closed or half-open breaker, or since creation. -/
def failuresSince : List BreakerRecord → Nat
  | [] => 0
  | record :: log =>
      match record.op, record.state with
      | .recordFailure, _ => failuresSince log + 1
      | .recordSuccess, .closed => 0
      | .recordSuccess, .halfOpen => 0
      | _, _ => failuresSince log

/-- The time of the last recorded failure. -/
def lastFailure : List BreakerRecord → Option Time
  | [] => none
  | record :: log =>
      match record.op with
      | .recordFailure => some record.time
      | _ => lastFailure log

/-- The documented transitions. -/
inductive CircuitState.Transition : CircuitState → CircuitState → Prop
  | opens : Transition .closed .opened
  | tries : Transition .opened .halfOpen
  | closes : Transition .halfOpen .closed
  | reopens : Transition .halfOpen .opened

/-- In a closed breaker the counter is below the threshold and counts the failures since the last
success; an open one knows when it failed. -/
structure BreakerRun.Sound (run : BreakerRun) : Prop where
  below : run.breaker.state = .closed →
    run.breaker.failureCount < run.breaker.config.failureThreshold
  counted : run.breaker.state = .closed →
    run.breaker.failureCount.toNat = failuresSince run.log
  timed : run.breaker.state = .opened → run.breaker.lastFailureTime.isSome

/-- The state changes along a documented transition or not at all, and a request is rejected exactly
if the breaker is open and less than the recovery timeout has elapsed since the last failure. -/
structure BreakerRun.SoundStep (run : BreakerRun) (op : BreakerOp) : Prop where
  transition : (run.apply op).breaker.state = run.breaker.state ∨
    CircuitState.Transition run.breaker.state (run.apply op).breaker.state
  rejected : op = .allowRequest →
    ((run.breaker.allowRequest run.now).2 = false ↔
      run.breaker.state = .opened ∧ ∃ time, lastFailure run.log = some time ∧
        run.now - time < run.breaker.config.recoveryTimeout)

/-! ## The invariant -/

/-- What every operation keeps: counter and time of the last failure follow the log, and a closed
breaker is below its threshold. -/
structure BreakerRun.Follows (config : CircuitBreakerConfig) (run : BreakerRun) : Prop where
  config_eq : run.breaker.config = config
  time_eq : run.breaker.lastFailureTime = lastFailure run.log
  timed : run.breaker.state ≠ .closed → run.breaker.lastFailureTime.isSome
  count_eq : run.breaker.state = .closed →
    run.breaker.failureCount.toNat = failuresSince run.log
  below : run.breaker.state = .closed →
    failuresSince run.log < config.failureThreshold.toNat

namespace BreakerRun

variable {config : CircuitBreakerConfig} {run : BreakerRun}

theorem follows_start (positive : 1 ≤ config.failureThreshold) (now : Time) :
    (start config now).Follows config where
  config_eq := rfl
  time_eq := rfl
  timed := fun other => absurd rfl other
  count_eq := fun _ => rfl
  below := fun _ => UInt64.le_iff_toNat_le.mp positive

theorem Follows.allowRequest (follows : run.Follows config) :
    (run.apply .allowRequest).Follows config := by
  obtain ⟨config_eq, time_eq, timed, count_eq, below⟩ := follows
  simp only [apply, next, CircuitBreaker.allowRequest]
  split
  · exact ⟨config_eq, time_eq, timed, count_eq, below⟩
  · rename_i opened
    split
    · refine ⟨config_eq, time_eq, fun _ => timed ?_, fun closed => ?_, fun closed => ?_⟩
      · rw [opened]
        decide
      · exact nomatch closed
      · exact nomatch closed
    · exact ⟨config_eq, time_eq, timed, count_eq, below⟩
  · exact ⟨config_eq, time_eq, timed, count_eq, below⟩

theorem Follows.recordSuccess (positive : 1 ≤ config.failureThreshold)
    (follows : run.Follows config) : (run.apply .recordSuccess).Follows config := by
  obtain ⟨config_eq, time_eq, timed, count_eq, below⟩ := follows
  have positive' : 0 < config.failureThreshold.toNat := UInt64.le_iff_toNat_le.mp positive
  simp only [apply, next, CircuitBreaker.recordSuccess]
  cases state : run.breaker.state with
  | halfOpen =>
      exact ⟨config_eq, time_eq, fun other => absurd rfl other, fun _ => rfl, fun _ => positive'⟩
  | closed =>
      exact ⟨config_eq, time_eq, fun other => absurd rfl other, fun _ => rfl, fun _ => positive'⟩
  | opened =>
      refine ⟨config_eq, time_eq, fun _ => timed ?_, fun closed => ?_, fun closed => ?_⟩
      · rw [state]
        decide
      · exact nomatch closed
      · exact nomatch closed

theorem Follows.recordFailure (follows : run.Follows config) :
    (run.apply .recordFailure).Follows config := by
  obtain ⟨config_eq, time_eq, timed, count_eq, below⟩ := follows
  refine ⟨config_eq, rfl, fun _ => rfl, fun closed => ?_, fun closed => ?_⟩
  all_goals
    simp only [apply, next, CircuitBreaker.recordFailure] at closed
    cases state : run.breaker.state with
    | opened => rw [state] at closed; exact nomatch closed
    | halfOpen => rw [state] at closed; exact nomatch closed
    | closed => ?_
  all_goals
    rw [state] at closed
    dsimp only at closed
    split at closed
    · exact nomatch closed
    rename_i under
    -- the counter is below the threshold, so that it does not wrap around
    have known := count_eq state
    have few := below state
    have bounded := config.failureThreshold.toNat_lt
    have grown : (run.breaker.failureCount + 1).toNat = failuresSince run.log + 1 := by
      have one : (1 : UInt64).toNat = 1 := rfl
      rw [UInt64.toNat_add, known, one]
      exact Nat.mod_eq_of_lt (by omega)
    rw [config_eq, ge_iff_le, UInt64.le_iff_toNat_le, grown, not_le] at under
  · exact grown
  · exact under

theorem Follows.wait (follows : run.Follows config) (duration : Nat) :
    (run.apply (.wait duration)).Follows config :=
  ⟨follows.config_eq, follows.time_eq, follows.timed, follows.count_eq, follows.below⟩

theorem Follows.apply (positive : 1 ≤ config.failureThreshold) (follows : run.Follows config)
    (op : BreakerOp) : (run.apply op).Follows config := by
  cases op with
  | allowRequest => exact follows.allowRequest
  | recordSuccess => exact follows.recordSuccess positive
  | recordFailure => exact follows.recordFailure
  | wait duration => exact follows.wait duration

theorem Follows.sound (follows : run.Follows config) : run.Sound where
  below := by
    intro closed
    rw [UInt64.lt_iff_toNat_lt, follows.count_eq closed, follows.config_eq]
    exact follows.below closed
  counted := follows.count_eq
  timed := by
    intro opened
    refine follows.timed ?_
    rw [opened]
    decide

theorem transition_apply (run : BreakerRun) (op : BreakerOp) :
    (run.apply op).breaker.state = run.breaker.state ∨
      CircuitState.Transition run.breaker.state (run.apply op).breaker.state := by
  cases op with
  | wait duration => exact .inl rfl
  | allowRequest =>
      simp only [BreakerRun.apply, next, CircuitBreaker.allowRequest]
      cases state : run.breaker.state with
      | closed => exact .inl state
      | halfOpen => exact .inl state
      | opened =>
          cases run.breaker.recovered run.now with
          | true => exact .inr .tries
          | false => exact .inl state
  | recordSuccess =>
      simp only [BreakerRun.apply, next, CircuitBreaker.recordSuccess]
      cases state : run.breaker.state with
      | closed => exact .inl rfl
      | halfOpen => exact .inr .closes
      | opened => exact .inl rfl
  | recordFailure =>
      simp only [BreakerRun.apply, next, CircuitBreaker.recordFailure]
      cases state : run.breaker.state with
      | halfOpen => exact .inr .reopens
      | opened => exact .inl rfl
      | closed =>
          dsimp only
          split
          · exact .inr .opens
          · exact .inl rfl

theorem Follows.soundStep (follows : run.Follows config) (op : BreakerOp) : run.SoundStep op where
  transition := run.transition_apply op
  rejected := by
    rintro rfl
    unfold CircuitBreaker.allowRequest
    cases state : run.breaker.state with
    | closed => simp
    | halfOpen => simp
    | opened =>
        have timed := follows.timed (by rw [state]; decide)
        obtain ⟨time, known⟩ := Option.isSome_iff_exists.mp timed
        have logged := follows.time_eq.symm.trans known
        simp only [CircuitBreaker.recovered, known, logged, Option.some.injEq, true_and,
          exists_eq_left']
        split <;> rename_i late <;> simpa using late

/-- The breaker is sound in every state of every run, and so is every step. -/
theorem breaker_sound {config : CircuitBreakerConfig} (positive : 1 ≤ config.failureThreshold)
    (now : Time) (ops : List BreakerOp) :
    EveryState BreakerRun.apply BreakerRun.Sound (start config now) ops ∧
      EveryStep BreakerRun.apply BreakerRun.SoundStep (start config now) ops := by
  have keeps : ∀ run op, Follows config run → (run.apply op).Follows config :=
    fun _ op follows => follows.apply positive op
  have start_follows := follows_start positive now
  have gives : ∀ run op, Follows config run → True → SoundStep run op :=
    fun _ op follows _ => follows.soundStep op
  refine ⟨?_, ?_⟩
  · exact (everyState_of_keeps keeps start_follows ops).mono fun _ follows => follows.sound
  · exact everyStep_of_everyStep (fun run op follows _ => keeps run op follows) gives start_follows
      (everyStep_of_forall (fun _ _ _ => trivial) _)

/-- Five failures open a breaker with the default configuration, and a success after the recovery
timeout closes it. -/
theorem breaker_sound_recovery :
    EveryState BreakerRun.apply BreakerRun.Sound (start .default 0)
        [.recordFailure, .recordFailure, .recordFailure, .recordFailure, .recordFailure,
          .allowRequest, .wait 30000000000, .allowRequest, .recordSuccess] ∧
      EveryStep BreakerRun.apply BreakerRun.SoundStep (start .default 0)
        [.recordFailure, .recordFailure, .recordFailure, .recordFailure, .recordFailure,
          .allowRequest, .wait 30000000000, .allowRequest, .recordSuccess] :=
  breaker_sound (by decide) 0 _

end BreakerRun

end CyxCloud.Core
