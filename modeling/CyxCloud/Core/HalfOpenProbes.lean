import CyxCloud.Core.CircuitBreaker

/-!
# Calls through the circuit breaker

Overlapping calls through a breaker.  While it is half-open the breaker admits every call, and takes
the result of any call for one of its trials.
-/

namespace CyxCloud.Core

open Library

/-- Error of a call: the circuit is open, or the operation has failed. -/
inductive CircuitBreakerError (ε : Type) where
  | opened (name : String)
  | inner (cause : ε)
  deriving DecidableEq, Repr

namespace CircuitBreaker

variable (breaker : CircuitBreaker) (now : Time) {ε τ : Type}

/-- The start of a call, before its operation runs. -/
def startCall : CircuitBreaker × Except (CircuitBreakerError ε) Unit :=
  let (breaker, allowed) := breaker.allowRequest now
  (breaker, if allowed then .ok () else .error (.opened breaker.config.name))

/-- The end of a call, when its operation has run. -/
def endCall : Except ε τ → CircuitBreaker × Except (CircuitBreakerError ε) τ
  | .ok value => (breaker.recordSuccess, .ok value)
  | .error cause => (breaker.recordFailure now, .error (.inner cause))

end CircuitBreaker

/-! ## Overlapping calls -/

/-- An admitted call, with the stay in the half-open state in which it was admitted, if any. -/
structure AdmittedCall where
  stay : Option Nat
  finished : Bool
  deriving DecidableEq, Repr

/-- A breaker with the number of its stays in the half-open state and the calls that were admitted,
in order. -/
structure BreakerCalls where
  breaker : CircuitBreaker
  now : Time
  stays : Nat
  calls : List AdmittedCall
  deriving DecidableEq, Repr

/-- A call arrives, the operation of a call ends, or time passes. -/
inductive CallStep where
  | arrive
  | finish (call : Nat) (result : Except Unit Unit)
  | wait (duration : Nat)

namespace BreakerCalls

/-- A new breaker without calls. -/
def start (config : CircuitBreakerConfig) (now : Time) : BreakerCalls where
  breaker := .new config
  now := now
  stays := 0
  calls := []

/-- A call is admitted; a breaker that was open has become half-open. -/
def admitCall (state : BreakerCalls) (breaker : CircuitBreaker) : BreakerCalls :=
  let stays := if state.breaker.state = .opened then state.stays + 1 else state.stays
  { breaker
    now := state.now
    stays
    calls := state.calls ++
      [{ stay := if breaker.state = .halfOpen then some stays else none
         finished := false }] }

/-- Carry out a step; only a call that was admitted and is not finished can end. -/
def apply (state : BreakerCalls) : CallStep → BreakerCalls
  | .arrive =>
      let started : CircuitBreaker × Except (CircuitBreakerError Unit) Unit :=
        state.breaker.startCall state.now
      match started.2 with
      | .ok () => state.admitCall started.1
      | .error _ => { state with breaker := started.1 }
  | .finish call result =>
      match state.calls[call]? with
      | some { stay, finished := false } =>
          { state with
            breaker := (state.breaker.endCall state.now result).1
            calls := state.calls.set call { stay, finished := true } }
      | _ => state
  | .wait duration => { state with now := state.now + duration }

/-- At most so many calls were admitted during each stay in the half-open state. -/
def Limited (bound : Nat) (state : BreakerCalls) : Prop :=
  ∀ stay, (state.calls.map AdmittedCall.stay).count (some stay) ≤ bound

/-- The breaker closes only on the success of a call that was admitted during the stay. -/
def DecidedByProbes (state : BreakerCalls) (step : CallStep) : Prop :=
  state.breaker.state = .halfOpen → (state.apply step).breaker.state = .closed →
    ∃ call admitted, step = .finish call (.ok ()) ∧ state.calls[call]? = some admitted ∧
      admitted.stay = some state.stays

/-! ## Conditions on steps -/

/-- Calls of the present stay that are not finished. -/
def pendingProbes (state : BreakerCalls) : Nat :=
  state.calls.countP fun call => call.stay == some state.stays && !call.finished

/-- A call that arrives while the breaker is half-open, or makes it so, finds room among the
unfinished calls of the stay. -/
def FindsRoom (bound : Nat) (state : BreakerCalls) : CallStep → Prop
  | .arrive =>
      match state.breaker.state with
      | .closed => True
      | .opened => state.breaker.recovered state.now = true → 0 < bound
      | .halfOpen => state.pendingProbes < bound
  | .finish _ _ => True
  | .wait _ => True

/-- No call from before the stay succeeds while the breaker is half-open. -/
def NoLateSuccess (state : BreakerCalls) : CallStep → Prop
  | .finish call (.ok ()) =>
      state.breaker.state = .halfOpen → ∀ admitted, state.calls[call]? = some admitted →
        admitted.finished = false → admitted.stay = some state.stays
  | _ => True

/-- Calls belong to stays so far, and those of the present stay are not finished. -/
structure Tracked (state : BreakerCalls) : Prop where
  past : ∀ call ∈ state.calls, ∀ stay, call.stay = some stay → stay ≤ state.stays
  pending : state.breaker.state = .halfOpen → ∀ call ∈ state.calls,
    call.stay = some state.stays → call.finished = false

section

variable {state : BreakerCalls}

/-! ## What a step does -/

theorem apply_arrive_cases (state : BreakerCalls) :
    (state.breaker.state = .closed ∧ state.apply .arrive = state.admitCall state.breaker) ∨
      (state.breaker.state = .opened ∧ state.breaker.recovered state.now = true ∧
        state.apply .arrive = state.admitCall { state.breaker with state := .halfOpen }) ∨
      (state.breaker.state = .opened ∧ state.breaker.recovered state.now = false ∧
        state.apply .arrive = state) ∨
      (state.breaker.state = .halfOpen ∧ state.apply .arrive = state.admitCall state.breaker) := by
  cases known : state.breaker.state with
  | closed =>
      refine .inl ⟨rfl, ?_⟩
      simp [apply, CircuitBreaker.startCall, CircuitBreaker.allowRequest, known]
  | halfOpen =>
      refine .inr (.inr (.inr ⟨rfl, ?_⟩))
      simp [apply, CircuitBreaker.startCall, CircuitBreaker.allowRequest, known]
  | opened =>
      cases late : state.breaker.recovered state.now with
      | true =>
          refine .inr (.inl ⟨rfl, rfl, ?_⟩)
          simp [apply, CircuitBreaker.startCall, CircuitBreaker.allowRequest, known, late]
      | false =>
          refine .inr (.inr (.inl ⟨rfl, rfl, ?_⟩))
          simp [apply, CircuitBreaker.startCall, CircuitBreaker.allowRequest, known, late]

theorem apply_finish_cases (state : BreakerCalls) (call : Nat) (result : Except Unit Unit) :
    state.apply (.finish call result) = state ∧
        (∀ admitted, state.calls[call]? = some admitted → admitted.finished = true) ∨
      ∃ stay, state.calls[call]? = some { stay, finished := false } ∧
        state.apply (.finish call result) =
          { state with
            breaker := (state.breaker.endCall state.now result).1
            calls := state.calls.set call { stay, finished := true } } := by
  simp only [apply]
  cases known : state.calls[call]? with
  | none => exact .inl ⟨rfl, fun _ nothing => nomatch nothing⟩
  | some admitted =>
      obtain ⟨stay, finished⟩ := admitted
      cases finished with
      | false => exact .inr ⟨stay, rfl, rfl⟩
      | true =>
          refine .inl ⟨rfl, ?_⟩
          intro admitted' same
          cases same
          rfl

theorem endCall_ne_halfOpen (breaker : CircuitBreaker) (now : Time) (result : Except Unit Unit) :
    (breaker.endCall now result).1.state ≠ .halfOpen := by
  obtain ⟨⟩ | ⟨⟩ := result
  · simp only [CircuitBreaker.endCall, CircuitBreaker.recordFailure]
    split
    · split <;> decide
    · decide
    · decide
  · simp only [CircuitBreaker.endCall, CircuitBreaker.recordSuccess]
    split <;> simp_all

/-! ## The number of calls in a stay -/

/-- A call that ends keeps the stay in which it was admitted. -/
theorem map_stay_set {calls : List AdmittedCall} {call : Nat} {stay : Option Nat} {finished : Bool}
    (known : calls[call]? = some { stay, finished }) (finished' : Bool) :
    (calls.set call { stay, finished := finished' }).map AdmittedCall.stay =
      calls.map AdmittedCall.stay :=
  map_set_of_getElem? known AdmittedCall.stay rfl

/-- One more call in a stay keeps the number of calls of every stay within the bound exactly if there
was room in that one. -/
theorem limited_append {stays : List (Option Nat)} {bound : Nat}
    (limited : ∀ stay, stays.count (some stay) ≤ bound) (present : Nat) :
    (∀ stay, (stays ++ [some present]).count (some stay) ≤ bound) ↔
      stays.count (some present) < bound := by
  constructor
  · intro limited'
    have few := limited' present
    rw [List.count_append, List.count_singleton_self] at few
    exact few
  · intro room stay
    rw [List.count_append]
    by_cases same : stay = present
    · subst same
      rw [List.count_singleton_self]
      exact room
    · have other : [some present].count (some stay) = 0 := by
        rw [List.count_eq_zero]
        simpa using same
      rw [other]
      exact limited stay

theorem Tracked.count_next (tracked : state.Tracked) :
    (state.calls.map AdmittedCall.stay).count (some (state.stays + 1)) = 0 := by
  rw [List.count_eq_zero]
  intro member
  obtain ⟨call, known, stay⟩ := List.mem_map.mp member
  have past := tracked.past call known _ stay
  omega

/-- While the breaker is half-open, all calls of the stay are unfinished. -/
theorem Tracked.count_present (tracked : state.Tracked)
    (halfOpen : state.breaker.state = .halfOpen) :
    (state.calls.map AdmittedCall.stay).count (some state.stays) = state.pendingProbes := by
  rw [List.count, List.countP_map]
  refine List.countP_congr fun call member => ?_
  have pending := tracked.pending halfOpen call member
  simp only [Function.comp_apply, beq_iff_eq, Bool.and_eq_true, Bool.not_eq_true']
  constructor
  · intro present
    exact ⟨present, pending present⟩
  · rintro ⟨present, -⟩
    exact present

/-! ## Every step keeps the invariant -/

theorem Tracked.start (config : CircuitBreakerConfig) (now : Time) :
    (BreakerCalls.start config now).Tracked where
  past := fun _ nothing => nomatch nothing
  pending := fun _ _ nothing => nomatch nothing

theorem Tracked.admitCall (tracked : state.Tracked) {breaker : CircuitBreaker}
    (entered : breaker.state = .halfOpen → state.breaker.state ≠ .closed) :
    (state.admitCall breaker).Tracked where
  past := by
    intro call member stay known
    simp only [BreakerCalls.admitCall, List.mem_append, List.mem_singleton] at member
    dsimp only [BreakerCalls.admitCall]
    rcases member with old | rfl
    · have past := tracked.past call old stay known
      split <;> omega
    · dsimp only at known
      split at known
      · cases known
        exact le_rfl
      · exact nomatch known
  pending := by
    intro halfOpen call member present
    dsimp only [BreakerCalls.admitCall] at halfOpen
    simp only [BreakerCalls.admitCall, List.mem_append, List.mem_singleton] at member present
    rcases member with old | rfl
    · cases known : state.breaker.state with
      | closed => exact absurd known (entered halfOpen)
      | opened =>
          rw [if_pos known] at present
          have past := tracked.past call old _ present
          omega
      | halfOpen =>
          rw [if_neg (by rw [known]; decide)] at present
          exact tracked.pending known call old present
    · rfl

theorem Tracked.apply (tracked : state.Tracked) (step : CallStep) : (state.apply step).Tracked := by
  cases step with
  | wait duration => exact ⟨tracked.past, tracked.pending⟩
  | arrive =>
      obtain ⟨closed, admits⟩ | ⟨opened, -, admits⟩ | ⟨-, -, same⟩ | ⟨halfOpen, admits⟩ :=
        state.apply_arrive_cases
      · rw [admits]
        exact tracked.admitCall fun halfOpen => by rw [closed] at halfOpen; exact nomatch halfOpen
      · rw [admits]
        exact tracked.admitCall fun _ => by rw [opened]; decide
      · rw [same]
        exact tracked
      · rw [admits]
        exact tracked.admitCall fun _ => by rw [halfOpen]; decide
  | finish call result =>
      obtain ⟨same, -⟩ | ⟨stay, known, finishes⟩ := state.apply_finish_cases call result
      · rw [same]
        exact tracked
      rw [finishes]
      refine ⟨fun later member stay' present => ?_, fun halfOpen => ?_⟩
      · have member' : some stay' ∈ state.calls.map AdmittedCall.stay := by
          rw [← map_stay_set known true]
          exact List.mem_map.mpr ⟨later, member, present⟩
        obtain ⟨earlier, old, present'⟩ := List.mem_map.mp member'
        exact tracked.past earlier old stay' present'
      · exact absurd halfOpen (endCall_ne_halfOpen state.breaker state.now result)

/-! ## When the stays are limited -/

theorem Tracked.limited_apply_iff (tracked : state.Tracked) {bound : Nat}
    (limited : state.Limited bound) (step : CallStep) :
    (state.apply step).Limited bound ↔ state.FindsRoom bound step := by
  cases step with
  | wait duration => exact iff_of_true limited trivial
  | finish call result =>
      refine iff_of_true ?_ trivial
      obtain ⟨same, -⟩ | ⟨stay, known, finishes⟩ := state.apply_finish_cases call result
      · rw [same]
        exact limited
      · rw [finishes, Limited, map_stay_set known]
        exact limited
  | arrive =>
      obtain ⟨closed, admits⟩ | ⟨opened, late, admits⟩ | ⟨opened, early, same⟩ |
        ⟨halfOpen, admits⟩ := state.apply_arrive_cases
      · simp only [FindsRoom, closed, iff_true]
        rw [admits, Limited, BreakerCalls.admitCall, List.map_append, closed]
        intro stay
        rw [List.count_append]
        exact limited stay
      · simp only [FindsRoom, opened, late, forall_const]
        rw [admits, Limited, BreakerCalls.admitCall, List.map_append, if_pos opened]
        refine (limited_append limited (state.stays + 1)).trans ?_
        rw [tracked.count_next]
      · simp only [FindsRoom, opened, early, Bool.false_eq_true, false_implies, iff_true]
        rw [same]
        exact limited
      · simp only [FindsRoom, halfOpen]
        have stay : ¬state.breaker.state = .opened := by
          rw [halfOpen]
          decide
        rw [admits, Limited, BreakerCalls.admitCall, List.map_append, if_pos halfOpen, if_neg stay,
          ← tracked.count_present halfOpen]
        exact limited_append limited state.stays

/-! ## When the probes decide -/

theorem decidedByProbes_iff (state : BreakerCalls) (step : CallStep) :
    state.DecidedByProbes step ↔ state.NoLateSuccess step := by
  cases step with
  | wait duration =>
      refine iff_of_true (fun halfOpen closed => ?_) trivial
      rw [apply, halfOpen] at closed
      cases closed
  | arrive =>
      refine iff_of_true (fun halfOpen closed => ?_) trivial
      simp [apply, CircuitBreaker.startCall, CircuitBreaker.allowRequest, halfOpen, admitCall]
        at closed
  | finish call result =>
      cases result with
      | error cause =>
          refine iff_of_true (fun halfOpen closed => ?_) trivial
          obtain ⟨same, -⟩ | ⟨stay, -, finishes⟩ := state.apply_finish_cases call (.error cause)
          · rw [same, halfOpen] at closed
            cases closed
          · rw [finishes] at closed
            simp [CircuitBreaker.endCall, CircuitBreaker.recordFailure, halfOpen] at closed
      | ok value =>
          refine forall_congr' fun halfOpen => ?_
          obtain ⟨same, finished⟩ | ⟨stay, known, finishes⟩ :=
            state.apply_finish_cases call (.ok value)
          · refine iff_of_true (fun closed => ?_) fun admitted known unfinished => ?_
            · rw [same, halfOpen] at closed
              cases closed
            · rw [finished admitted known] at unfinished
              cases unfinished
          · have closes : (state.apply (.finish call (.ok value))).breaker.state = .closed := by
              rw [finishes]
              simp [CircuitBreaker.endCall, CircuitBreaker.recordSuccess, halfOpen]
            constructor
            · intro decided admitted known' _
              obtain ⟨call', admitted', same, known'', present⟩ := decided closes
              cases same
              cases known'.symm.trans known''
              exact present
            · intro present _
              exact ⟨call, _, rfl, known, present _ known rfl⟩

end

/-! ## Runs -/

/-- In every run the stays in the half-open state are limited and decided by their own calls exactly
if every call that arrives in one finds room among its unfinished calls, and no call from before it
succeeds during it. -/
theorem limited_and_decided_iff (bound : Nat) (config : CircuitBreakerConfig) (now : Time)
    (steps : List CallStep) :
    EveryState BreakerCalls.apply (Limited bound) (start config now) steps ∧
        EveryStep BreakerCalls.apply DecidedByProbes (start config now) steps ↔
      EveryStep BreakerCalls.apply (fun state step =>
        state.FindsRoom bound step ∧ state.NoLateSuccess step) (start config now) steps := by
  have keeps : ∀ state step, Tracked state → (state.apply step).Tracked :=
    fun _ step tracked => tracked.apply step
  have tracked := Tracked.start config now
  have limited := everyState_iff_everyStep Tracked keeps
    (fun _ step tracked limited => tracked.limited_apply_iff limited step)
    tracked (fun _ => Nat.zero_le bound) steps
  have decided := everyStep_congr keeps
    (fun state step _ => decidedByProbes_iff state step) tracked steps
  rw [everyStep_and_iff, limited, decided]

/-! ## Runs without a limit -/

/-- Opens at the first failure and tries again at once. -/
def impatient : CircuitBreakerConfig where
  failureThreshold := 1
  recoveryTimeout := 0
  name := "impatient"

/-- A call fails; another arrives at once, and so many more arrive before it ends. -/
def crowd (size : Nat) : List CallStep :=
  [.arrive, .finish 0 (.error ()), .arrive] ++ List.replicate size .arrive

/-- Every call that arrives while the breaker is half-open is admitted to the stay. -/
theorem stays_arrivals {state : BreakerCalls} (halfOpen : state.breaker.state = .halfOpen)
    (size : Nat) :
    (runAll BreakerCalls.apply state (List.replicate size .arrive)).calls.map AdmittedCall.stay =
      state.calls.map AdmittedCall.stay ++ List.replicate size (some state.stays) := by
  induction size generalizing state with
  | zero => simp
  | succ size induction =>
      have admits : state.apply .arrive = state.admitCall state.breaker := by
        simp [BreakerCalls.apply, CircuitBreaker.startCall, CircuitBreaker.allowRequest, halfOpen]
      have same : (state.admitCall state.breaker).stays = state.stays := by
        simp [admitCall, halfOpen]
      have admitted : (state.admitCall state.breaker).calls.map AdmittedCall.stay =
          state.calls.map AdmittedCall.stay ++ [some state.stays] := by
        simp [admitCall, halfOpen]
      have stays : (state.admitCall state.breaker).breaker.state = .halfOpen := halfOpen
      rw [List.replicate_succ, runAll_cons, admits, induction stays, same, admitted,
        List.append_assoc, List.singleton_append, List.replicate_succ]

theorem stays_crowd (size : Nat) :
    (runAll BreakerCalls.apply (start impatient 0) (crowd size)).calls.map AdmittedCall.stay =
      none :: some 1 :: List.replicate size (some 1) := by
  have halfOpen : (runAll BreakerCalls.apply (start impatient 0)
      [.arrive, .finish 0 (.error ()), .arrive]).breaker.state = .halfOpen := by decide
  rw [crowd, runAll, List.foldl_append]
  exact stays_arrivals halfOpen size

/-- No constant bounds the calls of a stay, and the success of a call from before a stay ends it. -/
theorem not_limited_and_decided :
    (¬∃ bound, ∀ steps,
      EveryState BreakerCalls.apply (Limited bound) (start impatient 0) steps) ∧
    ¬EveryStep BreakerCalls.apply DecidedByProbes (start impatient 0)
      [.arrive, .arrive, .finish 0 (.error ()), .arrive, .finish 1 (.ok ())] := by
  constructor
  · rintro ⟨bound, limited⟩
    have few := (limited (crowd bound)).last 1
    rw [stays_crowd] at few
    simp at few
  · rintro ⟨-, -, -, -, decided, -⟩
    obtain ⟨call, admitted, same, known, present⟩ := decided (by decide) (by decide)
    cases same
    cases known
    exact nomatch present

end BreakerCalls

end CyxCloud.Core
