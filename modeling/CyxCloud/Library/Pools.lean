import Mathlib.Algebra.BigOperators.Group.Finset.Piecewise
import Mathlib.Algebra.BigOperators.Group.List.Basic
import Mathlib.Algebra.GroupWithZero.Nat
import Mathlib.Algebra.Order.BigOperators.Group.Finset
import Mathlib.Data.List.Basic

/-!
# Pools of processes

Processes over a shared state, of which one moves at a time.  What a move of one process balances
between the shared state and that process is balanced in the whole pool, and what a move keeps for
the process that makes it and for every other is kept for all.
-/

namespace CyxCloud.Library

/-- Processes and the state they share. -/
structure Pool (σ π : Type*) where
  shared : σ
  processes : List π

namespace Pool

variable {σ π μ : Type*} (step : σ → π → μ → Option (σ × π))

/-- Let a process make a move; nothing happens if it cannot. -/
def move (pool : Pool σ π) (index : Nat) (made : μ) : Pool σ π :=
  match pool.processes[index]? with
  | none => pool
  | some process =>
      match step pool.shared process made with
      | none => pool
      | some (shared, moved) =>
          { shared
            processes := pool.processes.set index moved }

/-- Add a process. -/
def spawn (pool : Pool σ π) (process : π) : Pool σ π :=
  { pool with processes := pool.processes ++ [process] }

/-- The weights of all processes together. -/
def total (weight : π → Nat) (pool : Pool σ π) : Nat := (pool.processes.map weight).sum

variable {step} {pool : Pool σ π}

@[simp]
theorem shared_spawn (process : π) : (pool.spawn process).shared = pool.shared := rfl

theorem mem_spawn {process other : π} :
    other ∈ (pool.spawn process).processes ↔ other ∈ pool.processes ∨ other = process := by
  simp [spawn]

@[simp]
theorem total_spawn (weight : π → Nat) (process : π) :
    (pool.spawn process).total weight = pool.total weight + weight process := by
  simp [total, spawn]

theorem move_of_step {index : Nat} {made : μ} {process moved : π} {shared : σ}
    (found : pool.processes[index]? = some process)
    (stepped : step pool.shared process made = some (shared, moved)) :
    pool.move step index made = ⟨shared, pool.processes.set index moved⟩ := by
  simp only [move, found, stepped]

/-- Nothing happens if there is no such process or it cannot make the move. -/
theorem move_of_none {index : Nat} {made : μ}
    (cannot : ∀ process, pool.processes[index]? = some process →
      step pool.shared process made = none) : pool.move step index made = pool := by
  unfold move
  split
  · rfl
  · rename_i process found
    rw [cannot process found]

/-- Unless the process of a move takes a step, nothing happens. -/
theorem move_eq_or_step (pool : Pool σ π) (index : Nat) (made : μ) :
    pool.move step index made = pool ∨
      ∃ process shared moved, pool.processes[index]? = some process ∧
        step pool.shared process made = some (shared, moved) := by
  by_cases cannot : ∀ process, pool.processes[index]? = some process →
      step pool.shared process made = none
  · exact .inl (move_of_none cannot)
  · push Not at cannot
    obtain ⟨process, found, can⟩ := cannot
    obtain ⟨⟨shared, moved⟩, stepped⟩ := Option.ne_none_iff_exists'.mp can
    exact .inr ⟨process, shared, moved, found, stepped⟩

/-- What a move does: nothing, or one process takes a step. -/
theorem move_cases (pool : Pool σ π) (index : Nat) (made : μ) :
    pool.move step index made = pool ∨
      ∃ before process after shared moved,
        pool.processes = before ++ process :: after ∧
          step pool.shared process made = some (shared, moved) ∧
          pool.move step index made = ⟨shared, before ++ moved :: after⟩ := by
  obtain same | ⟨process, shared, moved, found, stepped⟩ :=
    @move_eq_or_step σ π μ step pool index made
  · exact .inl same
  · obtain ⟨inside, rfl⟩ := List.getElem?_eq_some_iff.mp found
    obtain ⟨before, after, listed, -, replaced⟩ := @List.exists_of_set _ _ moved _ inside
    refine .inr ⟨before, _, after, shared, moved, listed, stepped, ?_⟩
    rw [move_of_step found stepped, replaced]

/-- A move of a process changes a total by what it changes of the weight of that process. -/
theorem total_move_of_step {index : Nat} {made : μ} {process moved : π} {shared : σ}
    (found : pool.processes[index]? = some process)
    (stepped : step pool.shared process made = some (shared, moved)) (weight : π → Nat) :
    (pool.move step index made).total weight + weight process =
      pool.total weight + weight moved := by
  obtain ⟨inside, rfl⟩ := List.getElem?_eq_some_iff.mp found
  obtain ⟨before, after, listed, -, replaced⟩ := @List.exists_of_set _ _ moved _ inside
  rw [move_of_step found stepped, replaced]
  generalize pool.processes[index] = process at listed
  simp only [total, listed, List.map_append, List.map_cons, List.sum_append, List.sum_cons]
  omega

theorem total_move_cases (pool : Pool σ π) (index : Nat) (made : μ) :
    pool.move step index made = pool ∨
      ∃ process ∈ pool.processes, ∃ shared moved,
        step pool.shared process made = some (shared, moved) ∧
          (pool.move step index made).shared = shared ∧
          ∀ weight : π → Nat, (pool.move step index made).total weight + weight process =
            pool.total weight + weight moved := by
  obtain same | ⟨process, shared, moved, found, stepped⟩ :=
    @move_eq_or_step σ π μ step pool index made
  · exact .inl same
  · refine .inr ⟨process, List.mem_of_getElem? found, shared, moved, stepped, ?_, ?_⟩
    · rw [move_of_step found stepped]
    · exact total_move_of_step found stepped

/-- What a step keeps balanced between the shared state and the process is balanced in the
pool. -/
theorem balance_move (stock : σ → Nat) (weight : π → Nat) (pool : Pool σ π) (index : Nat)
    (made : μ)
    (balanced : ∀ {process shared moved}, process ∈ pool.processes →
      step pool.shared process made = some (shared, moved) →
        stock shared + weight moved = stock pool.shared + weight process) :
    stock (pool.move step index made).shared + (pool.move step index made).total weight =
      stock pool.shared + pool.total weight := by
  rcases @total_move_cases σ π μ step pool index made with same | ⟨process, member, shared, moved,
    stepped, shared_eq, totals⟩
  · rw [same]
  · have kept := balanced member stepped
    have total_eq := totals weight
    rw [shared_eq]
    omega

/-- A move keeps a property of every process with the shared state if the step keeps it for the
process that takes it and for every other. -/
theorem all_move {holds : σ → π → Prop}
    (pool : Pool σ π) (index : Nat) (made : μ)
    (own : ∀ {process shared moved}, process ∈ pool.processes →
      step pool.shared process made = some (shared, moved) → holds shared moved)
    (others : ∀ {process shared moved other}, process ∈ pool.processes →
      other ∈ pool.processes → step pool.shared process made = some (shared, moved) →
        holds pool.shared other → holds shared other)
    (all : ∀ process ∈ pool.processes, holds pool.shared process) :
    ∀ process ∈ (pool.move step index made).processes,
      holds (pool.move step index made).shared process := by
  rcases pool.move_cases index made with same | ⟨before, process, after, shared, moved, listed,
    stepped, moved_eq⟩
  · rw [same]
    exact all
  · rw [moved_eq]
    have process_mem : process ∈ pool.processes := by simp [listed]
    intro other member
    rcases List.mem_append.mp member with earlier | later
    · have other_mem : other ∈ pool.processes := by simp [listed, earlier]
      exact others process_mem other_mem stepped (all other other_mem)
    · rcases List.mem_cons.mp later with rfl | later
      · exact own process_mem stepped
      · have other_mem : other ∈ pool.processes := by simp [listed, later]
        exact others process_mem other_mem stepped (all other other_mem)

theorem countP_le_total {weight : π → Nat} {counted : π → Bool} (pool : Pool σ π)
    (weighs : ∀ process ∈ pool.processes, counted process = true → 1 ≤ weight process) :
    pool.processes.countP counted ≤ pool.total weight := by
  unfold total
  revert weighs
  generalize pool.processes = processes
  intro weighs
  induction processes with
  | nil => exact Nat.le_refl 0
  | cons process rest induction =>
      have kept := induction fun other member => weighs other (List.mem_cons_of_mem _ member)
      have own := weighs process List.mem_cons_self
      rw [List.countP_cons, List.map_cons, List.sum_cons]
      split
      · rename_i counts
        have one := own counts
        omega
      · omega

theorem total_toNat (pool : Pool σ π) (counted : π → Bool) :
    (pool.total fun process => (counted process).toNat) = pool.processes.countP counted := by
  unfold total
  induction pool.processes with
  | nil => rfl
  | cons process rest induction =>
      rw [List.map_cons, List.sum_cons, List.countP_cons, induction, Nat.add_comm]
      cases counted process <;> rfl

/-- The processes that are counted are counted class by class. -/
theorem countP_le_sum {κ : Type*} [DecidableEq κ] (processes : List π) (counted : π → Bool)
    (classOf : π → κ) (classes : Finset κ)
    (classified : ∀ process ∈ processes, counted process = true → classOf process ∈ classes) :
    processes.countP counted ≤
      ∑ kind ∈ classes, processes.countP fun process =>
        counted process && classOf process == kind := by
  induction processes with
  | nil => exact Nat.zero_le _
  | cons process rest induction =>
      have kept := induction fun other member => classified other (List.mem_cons_of_mem _ member)
      simp only [List.countP_cons, Finset.sum_add_distrib]
      refine Nat.add_le_add kept ?_
      split
      · rename_i counts
        have member := classified process List.mem_cons_self counts
        simp [counts, member]
      · exact Nat.zero_le _

/-- If the processes have any weight, one of them has. -/
theorem exists_weight_of_total {weight : π → Nat} (some_weight : 0 < pool.total weight) :
    ∃ process ∈ pool.processes, 0 < weight process := by
  obtain ⟨_, listed, positive⟩ := List.sum_pos_iff_exists_pos_nat.mp some_weight
  obtain ⟨process, member, rfl⟩ := List.mem_map.mp listed
  exact ⟨process, member, positive⟩

theorem weight_le_total {weight : π → Nat} {process : π} (member : process ∈ pool.processes) :
    weight process ≤ pool.total weight := by
  obtain ⟨before, after, listed⟩ := List.append_of_mem member
  simp only [total, listed, List.map_append, List.map_cons, List.sum_append, List.sum_cons]
  omega

end Pool
end CyxCloud.Library
