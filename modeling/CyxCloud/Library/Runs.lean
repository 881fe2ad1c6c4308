import Mathlib.Data.List.Basic

/-!
# Runs

A run applies a list of operations to a state, one after the other.  A property of every state it
passes through is settled one step at a time.
-/

namespace CyxCloud.Library

variable {σ α : Type*} {apply : σ → α → σ}

/-- A property holds in every state of a run, the first and the last included. -/
def EveryState (apply : σ → α → σ) (property : σ → Prop) : σ → List α → Prop
  | state, [] => property state
  | state, op :: ops => property state ∧ EveryState apply property (apply state op) ops

/-- A condition holds of every step of a run in the state the step starts from. -/
def EveryStep (apply : σ → α → σ) (condition : σ → α → Prop) : σ → List α → Prop
  | _, [] => True
  | state, op :: ops => condition state op ∧ EveryStep apply condition (apply state op) ops

instance EveryState.decidable (property : σ → Prop) [DecidablePred property] :
    ∀ (state : σ) (ops : List α), Decidable (EveryState apply property state ops)
  | state, [] => inferInstanceAs (Decidable (property state))
  | state, op :: ops =>
      have := EveryState.decidable property (apply state op) ops
      inferInstanceAs (Decidable (property state ∧ EveryState apply property (apply state op) ops))

instance EveryStep.decidable (condition : σ → α → Prop)
    [∀ state, DecidablePred (condition state)] :
    ∀ (state : σ) (ops : List α), Decidable (EveryStep apply condition state ops)
  | _, [] => inferInstanceAs (Decidable True)
  | state, op :: ops =>
      have := EveryStep.decidable condition (apply state op) ops
      inferInstanceAs
        (Decidable (condition state op ∧ EveryStep apply condition (apply state op) ops))

/-- The state in which a run ends. -/
def runAll (apply : σ → α → σ) (state : σ) (ops : List α) : σ := ops.foldl apply state

@[simp]
theorem runAll_nil (state : σ) : runAll apply state [] = state := rfl

@[simp]
theorem runAll_cons (state : σ) (op : α) (ops : List α) :
    runAll apply state (op :: ops) = runAll apply (apply state op) ops := rfl

theorem runAll_append (state : σ) (ops later : List α) :
    runAll apply state (ops ++ later) = runAll apply (runAll apply state ops) later :=
  List.foldl_append

/-- A state that no operation changes stays. -/
theorem runAll_of_fixed {state : σ} (fixed : ∀ op, apply state op = state) (ops : List α) :
    runAll apply state ops = state := by
  induction ops with
  | nil => rfl
  | cons op ops induction => rw [runAll_cons, fixed, induction]

theorem EveryState.first {property : σ → Prop} {state : σ} {ops : List α}
    (every : EveryState apply property state ops) : property state := by
  cases ops with
  | nil => exact every
  | cons op ops => exact every.1

theorem EveryState.last {property : σ → Prop} {state : σ} {ops : List α}
    (every : EveryState apply property state ops) : property (runAll apply state ops) := by
  induction ops generalizing state with
  | nil => exact every
  | cons op ops induction => exact induction every.2

theorem EveryState.mono {property weaker : σ → Prop} {state : σ} {ops : List α}
    (every : EveryState apply property state ops)
    (weaken : ∀ reached, property reached → weaker reached) :
    EveryState apply weaker state ops := by
  induction ops generalizing state with
  | nil => exact weaken state every
  | cons op ops induction => exact ⟨weaken state every.1, induction every.2⟩

/-- What every step does from a state with a property, it does throughout a run through such
states. -/
theorem EveryState.everyStep {property : σ → Prop} {condition : σ → α → Prop} {state : σ}
    {ops : List α} (every : EveryState apply property state ops)
    (gives : ∀ reached op, property reached → condition reached op) :
    EveryStep apply condition state ops := by
  induction ops generalizing state with
  | nil => trivial
  | cons op ops induction => exact ⟨gives state op every.1, induction every.2⟩

theorem EveryStep.mono {condition weaker : σ → α → Prop} {state : σ} {ops : List α}
    (every : EveryStep apply condition state ops)
    (weaken : ∀ reached op, condition reached op → weaker reached op) :
    EveryStep apply weaker state ops := by
  induction ops generalizing state with
  | nil => trivial
  | cons op ops induction => exact ⟨weaken state op every.1, induction every.2⟩

theorem EveryStep.and {condition other : σ → α → Prop} {state : σ} {ops : List α}
    (every : EveryStep apply condition state ops) (every' : EveryStep apply other state ops) :
    EveryStep apply (fun state op => condition state op ∧ other state op) state ops := by
  induction ops generalizing state with
  | nil => trivial
  | cons op ops induction => exact ⟨⟨every.1, every'.1⟩, induction every.2 every'.2⟩

theorem everyStep_and_iff {condition other : σ → α → Prop} {state : σ} {ops : List α} :
    EveryStep apply (fun state op => condition state op ∧ other state op) state ops ↔
      EveryStep apply condition state ops ∧ EveryStep apply other state ops := by
  constructor
  · intro both
    exact ⟨both.mono fun _ _ met => met.1, both.mono fun _ _ met => met.2⟩
  · rintro ⟨every, every'⟩
    exact every.and every'

theorem everyStep_concat_iff {condition : σ → α → Prop} {state : σ} {ops : List α} {op : α} :
    EveryStep apply condition state (ops ++ [op]) ↔
      EveryStep apply condition state ops ∧ condition (runAll apply state ops) op := by
  induction ops generalizing state with
  | nil => exact and_comm
  | cons first ops induction =>
      rw [List.cons_append, EveryStep, EveryStep, induction, and_assoc, runAll_cons]

theorem everyStep_of_forall {condition : σ → α → Prop} {ops : List α}
    (all : ∀ op ∈ ops, ∀ state, condition state op) (state : σ) :
    EveryStep apply condition state ops := by
  induction ops generalizing state with
  | nil => trivial
  | cons op ops induction =>
      refine ⟨all op List.mem_cons_self state, induction ?_ _⟩
      exact fun later member => all later (List.mem_cons_of_mem op member)

/-- An invariant that every step keeps holds throughout a run. -/
theorem everyState_of_keeps {inv : σ → Prop} (keeps : ∀ state op, inv state → inv (apply state op))
    {state : σ} (start : inv state) (ops : List α) : EveryState apply inv state ops := by
  induction ops generalizing state with
  | nil => exact start
  | cons op ops induction => exact ⟨start, induction (keeps state op start)⟩

/-- An invariant that every step keeps under a condition holds throughout a run whose steps meet
the condition. -/
theorem everyState_of_everyStep {inv : σ → Prop} {condition : σ → α → Prop}
    (keeps : ∀ state op, inv state → condition state op → inv (apply state op))
    {state : σ} (start : inv state) {ops : List α} (met : EveryStep apply condition state ops) :
    EveryState apply inv state ops := by
  induction ops generalizing state with
  | nil => exact start
  | cons op ops induction =>
      exact ⟨start, induction (keeps state op start met.1) met.2⟩

/-- What every step does where an invariant and a condition hold, it does throughout a run whose
steps meet the condition. -/
theorem everyStep_of_everyStep {inv : σ → Prop} {condition conclusion : σ → α → Prop}
    (keeps : ∀ state op, inv state → condition state op → inv (apply state op))
    (gives : ∀ state op, inv state → condition state op → conclusion state op)
    {state : σ} (start : inv state) {ops : List α} (met : EveryStep apply condition state ops) :
    EveryStep apply conclusion state ops := by
  induction ops generalizing state with
  | nil => trivial
  | cons op ops induction =>
      exact ⟨gives state op start met.1, induction (keeps state op start met.1) met.2⟩

/-- Conditions that agree where an invariant holds agree throughout a run. -/
theorem everyStep_congr {inv : σ → Prop} {condition other : σ → α → Prop}
    (keeps : ∀ state op, inv state → inv (apply state op))
    (agree : ∀ state op, inv state → (condition state op ↔ other state op))
    {state : σ} (start : inv state) (ops : List α) :
    EveryStep apply condition state ops ↔ EveryStep apply other state ops := by
  induction ops generalizing state with
  | nil => rfl
  | cons op ops induction =>
      exact and_congr (agree state op start) (induction (keeps state op start))

/-- Let an invariant make a property of a step agree with a condition that restores it.  Then the
property holds of every step of a run exactly when the condition does. -/
theorem everyStep_iff_of_restores (inv : σ → Prop) {property condition : σ → α → Prop}
    (agree : ∀ state op, inv state → (property state op ↔ condition state op))
    (restores : ∀ state op, inv state → condition state op → inv (apply state op))
    {state : σ} (start : inv state) (ops : List α) :
    EveryStep apply property state ops ↔ EveryStep apply condition state ops := by
  induction ops generalizing state with
  | nil => rfl
  | cons op ops induction =>
      constructor
      · rintro ⟨first, later⟩
        have met := (agree state op start).mp first
        exact ⟨met, (induction (restores state op start met)).mp later⟩
      · rintro ⟨met, later⟩
        exact ⟨(agree state op start).mpr met, (induction (restores state op start met)).mpr later⟩

/-- Let an invariant give a property, and let a step from it restore the invariant under a condition
and the property under no other.  Then the property holds throughout a run exactly when every step
meets the condition. -/
theorem everyState_iff_of_restores (inv : σ → Prop) {property : σ → Prop}
    {condition : σ → α → Prop}
    (gives : ∀ state, inv state → property state)
    (restores : ∀ state op, inv state → condition state op → inv (apply state op))
    (needs : ∀ state op, inv state → property (apply state op) → condition state op)
    {state : σ} (start : inv state) (ops : List α) :
    EveryState apply property state ops ↔ EveryStep apply condition state ops := by
  constructor
  · intro every
    induction ops generalizing state with
    | nil => trivial
    | cons op ops induction =>
        have met := needs state op start every.2.first
        exact ⟨met, induction (restores state op start met) every.2⟩
  · intro met
    exact (everyState_of_everyStep restores start met).mono gives

/-- Let every step keep an invariant and, where it holds, keep a property exactly under a
condition.  Then the property holds throughout a run exactly when every step meets the
condition. -/
theorem everyState_iff_everyStep (inv : σ → Prop) {property : σ → Prop}
    {condition : σ → α → Prop}
    (keeps : ∀ state op, inv state → inv (apply state op))
    (step : ∀ state op, inv state → property state →
      (property (apply state op) ↔ condition state op))
    {state : σ} (start : inv state) (holds : property state) (ops : List α) :
    EveryState apply property state ops ↔ EveryStep apply condition state ops := by
  refine everyState_iff_of_restores (fun state => inv state ∧ property state)
    (fun _ both => both.2) ?_ ?_ ⟨start, holds⟩ ops
  · intro state op both met
    exact ⟨keeps state op both.1, (step state op both.1 both.2).mpr met⟩
  · intro state op both reached
    exact (step state op both.1 both.2).mp reached

/-! ## Calls in the order of their starts -/

/-- A call that changes in its place keeps what a function tells of every call. -/
theorem map_set_of_getElem? {β : Type*} {calls : List α} {position : ℕ} {call call' : α}
    (known : calls[position]? = some call) (f : α → β) (same : f call' = f call) :
    (calls.set position call').map f = calls.map f := by
  have bound := (List.getElem?_eq_some_iff.mp known).1
  rw [List.map_set]
  refine List.ext_getElem? fun other => ?_
  by_cases here : position = other
  · subst here
    rw [List.getElem?_set_self (by simpa using bound), List.getElem?_map, known, same]
    rfl
  · rw [List.getElem?_set_ne here]

/-! ## Answers -/

section

variable {τ β : Type*}

/-- What a server answers to a list of requests. -/
def answers (serve : σ → α → σ × β) : σ → List α → List β
  | _, [] => []
  | state, op :: ops => (serve state op).2 :: answers serve (serve state op).1 ops

@[simp]
theorem length_answers (serve : σ → α → σ × β) (state : σ) (ops : List α) :
    (answers serve state ops).length = ops.length := by
  induction ops generalizing state with
  | nil => rfl
  | cons op ops induction => rw [answers, List.length_cons, induction, List.length_cons]

/-- The last request is answered in the state that the others leave. -/
theorem answers_concat (serve : σ → α → σ × β) (state : σ) (ops : List α) (op : α) :
    answers serve state (ops ++ [op]) = answers serve state ops ++
      [(serve (runAll (fun reached next => (serve reached next).1) state ops) op).2] := by
  induction ops generalizing state with
  | nil => rfl
  | cons first ops induction =>
      rw [List.cons_append, answers, induction, answers, List.cons_append, runAll_cons]

/-- Two servers answer the same when a relation between their states is kept and gives the same
answer at every step. -/
theorem answers_eq_of_simulation {serve : σ → α → σ × β} {serve' : τ → α → τ × β}
    (rel : σ → τ → Prop) {admitted : α → Prop}
    (step : ∀ state state' op, admitted op → rel state state' →
      (serve state op).2 = (serve' state' op).2 ∧ rel (serve state op).1 (serve' state' op).1)
    {state : σ} {state' : τ} (start : rel state state') {ops : List α}
    (all : ∀ op ∈ ops, admitted op) : answers serve state ops = answers serve' state' ops := by
  induction ops generalizing state state' with
  | nil => rfl
  | cons op ops induction =>
      obtain ⟨same, related⟩ := step state state' op (all op List.mem_cons_self) start
      have later := induction related fun next member => all next (List.mem_cons_of_mem op member)
      rw [answers, answers, same, later]

end

end CyxCloud.Library
