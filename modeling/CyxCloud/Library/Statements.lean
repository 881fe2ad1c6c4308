import CyxCloud.Library.Effects
import CyxCloud.Library.Runs

/-!
# Programs cut into statements

A machine runs the statements of a program one at a time, so that others can work on the state in
between.  It simulates the program if, left alone, it does to the state what the program does and
ends where the result of the program sends it.
-/

namespace CyxCloud.Library

universe u v

namespace Effect

variable {σ : Type u} {α β : Type v} {μ ε ι : Type*} {step : σ × μ → ε → σ × μ}
  {stopped failure : μ}

/-- Where a machine goes on after a result. -/
def landing (stopped failure : μ) (success : α → μ) : Except Halt α → μ
  | .ok value => success value
  | .error .error => failure
  | .error .crash => stopped

/-- Left alone, the machine does what the program does. -/
def SimulatedBy (step : σ × μ → ε → σ × μ) (stopped failure : μ) (start : μ) (success : α → μ)
    (program : Effect σ α) : Prop :=
  ∀ state, ∃ events, runAll step (state, start) events =
    ((program state).1, landing stopped failure success (program state).2)

theorem SimulatedBy.of_step {program : Effect σ α} {start : μ} {success : α → μ}
    (one : ∀ state, ∃ event, step (state, start) event =
      ((program state).1, landing stopped failure success (program state).2)) :
    SimulatedBy step stopped failure start success program := by
  intro state
  obtain ⟨event, stepped⟩ := one state
  exact ⟨[event], stepped⟩

theorem SimulatedBy.bind (middle : α → μ) {program : Effect σ α} {next : α → Effect σ β}
    {start : μ} {success : β → μ}
    (first : SimulatedBy step stopped failure start middle program)
    (rest : ∀ value, SimulatedBy step stopped failure (middle value) success (next value)) :
    SimulatedBy step stopped failure start success (program >>= next) := by
  intro state
  obtain ⟨events, ran⟩ := first state
  rcases Effect.bind_cases program next state with
    ⟨reached, halt, here, result⟩ | ⟨reached, value, here, result⟩
  · rw [here] at ran
    rw [result]
    refine ⟨events, ran.trans ?_⟩
    cases halt <;> rfl
  · obtain ⟨later, ended⟩ := rest value reached
    rw [here] at ran
    refine ⟨events ++ later, ?_⟩
    rw [result, ← ended, runAll, List.foldl_append]
    exact congrArg (fun middle => later.foldl step middle) ran

/-- A program whose errors are only logged goes on after one. -/
theorem SimulatedBy.attempt {program : Effect σ α} {start next : μ}
    (simulated : SimulatedBy step stopped next start (fun _ => next) program) :
    SimulatedBy step stopped failure start (fun _ => next) (attempt program) := by
  intro state
  obtain ⟨events, ran⟩ := simulated state
  refine ⟨events, ran.trans ?_⟩
  unfold Effect.attempt
  cases program state with
  | mk reached result =>
      cases result with
      | ok value => rfl
      | error halt =>
          cases halt with
          | error => rfl
          | crash => rfl

/-- A loop is simulated by the machine that remembers the elements that are left. -/
theorem simulatedBy_each (place : List ι → μ) {program : ι → Effect σ Unit} {elements : List ι}
    (simulated : ∀ element rest, SimulatedBy step stopped failure (place (element :: rest))
      (fun _ => place rest) (program element)) :
    SimulatedBy step stopped failure (place elements) (fun _ => place [])
      (each elements program) := by
  induction elements with
  | nil => exact fun _ => ⟨[], rfl⟩
  | cons element rest induction => exact (simulated element rest).bind _ fun _ => induction

end Effect

end CyxCloud.Library
