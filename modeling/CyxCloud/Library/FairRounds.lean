import CyxCloud.Library.Runs
import Mathlib.Order.Nat

/-!
# Fair rounds

A system that is not done always has a kind of step that makes progress, and whatever makes no
progress leaves that kind as it is.  Then it is done after as many rounds as there is progress to
make, whatever else happens in a round and in whatever order.
-/

namespace CyxCloud.Library

variable {σ α κ τ : Type*}

/-- A round has a step of every kind. -/
def IsRound (kind : α → Option κ) (round : List α) : Prop := ∀ wanted, some wanted ∈ round.map kind

/-- Progress towards an end: a measure that no step raises, a view of the state that a step without
progress leaves alone, and a kind of step that makes progress wherever the view is the same. -/
structure Progress (apply : σ → α → σ) (kind : α → Option κ) (inv : σ → Prop) (view : σ → τ)
    (measure : σ → Nat) : Prop where
  keeps : ∀ state op, inv state → inv (apply state op)
  congr : ∀ state other, view state = view other → measure state = measure other
  idle_or_less : ∀ state op, inv state →
    view (apply state op) = view state ∨ measure (apply state op) < measure state
  driven : ∀ state, inv state → 0 < measure state → ∃ wanted, ∀ other op,
    view other = view state → kind op = some wanted → measure (apply other op) < measure other

namespace Progress

variable {apply : σ → α → σ} {kind : α → Option κ} {inv : σ → Prop} {view : σ → τ}
  {measure : σ → Nat}

theorem le_apply (progress : Progress apply kind inv view measure) {state : σ} (holds : inv state)
    (op : α) : measure (apply state op) ≤ measure state := by
  rcases progress.idle_or_less state op holds with same | less
  · exact (progress.congr _ _ same).le
  · exact less.le

theorem runAll_le (progress : Progress apply kind inv view measure) {state : σ} (holds : inv state)
    (ops : List α) : measure (runAll apply state ops) ≤ measure state := by
  induction ops generalizing state with
  | nil => exact le_rfl
  | cons op ops induction =>
      exact (induction (progress.keeps state op holds)).trans (progress.le_apply holds op)

/-- Steps among which there is one of the kind that makes progress make progress. -/
theorem runAll_lt (progress : Progress apply kind inv view measure) {state : σ} {wanted : κ}
    (drives : ∀ other op, view other = view state → kind op = some wanted →
      measure (apply other op) < measure other)
    {ops : List α} (present : some wanted ∈ ops.map kind) {reached : σ} (holds : inv reached)
    (same : view reached = view state) : measure (runAll apply reached ops) < measure reached := by
  induction ops generalizing reached with
  | nil => cases present
  | cons op ops induction =>
      have kept := progress.keeps reached op holds
      have rest := progress.runAll_le kept ops
      rcases List.mem_cons.mp present with here | later
      · exact rest.trans_lt (drives reached op same here.symm)
      · rcases progress.idle_or_less reached op holds with idle | less
        · have after := induction later kept (idle.trans same)
          exact after.trans_eq (progress.congr _ _ idle)
        · exact rest.trans_lt less

/-- A round makes progress until there is none to make. -/
theorem runAll_round (progress : Progress apply kind inv view measure) {round : List α}
    (fair : IsRound kind round) {state : σ} (holds : inv state) (left : 0 < measure state) :
    measure (runAll apply state round) < measure state := by
  obtain ⟨wanted, drives⟩ := progress.driven state holds left
  exact progress.runAll_lt drives (fair wanted) holds rfl

/-- After as many rounds as there is progress to make, nothing is left. -/
theorem runAll_rounds (progress : Progress apply kind inv view measure) {rounds : List (List α)}
    (fair : ∀ round ∈ rounds, IsRound kind round) {state : σ} (holds : inv state)
    (enough : measure state ≤ rounds.length) :
    measure (runAll apply state rounds.flatten) = 0 := by
  induction rounds generalizing state with
  | nil => exact Nat.le_zero.mp enough
  | cons round rounds induction =>
      rw [List.flatten_cons, runAll_append]
      have kept := (everyState_of_keeps progress.keeps holds round).last
      refine induction (fun other member => fair other (List.mem_cons_of_mem _ member)) kept ?_
      rw [List.length_cons] at enough
      rcases Nat.eq_zero_or_pos (measure state) with done | left
      · have still := progress.runAll_le holds round
        omega
      · have less := progress.runAll_round (fair round List.mem_cons_self) holds left
        omega

end Progress

end CyxCloud.Library
