import CyxCloud.Library.Runs
import CyxCloud.Rebalancer.RepairPlans

/-!
# Budgets of a plan

A plan has a budget of bytes, and its targets have only so much space.  The planner stops once the
budget is used up, but holds no task against what is left of it, and holds each task alone against
the space of a node.
-/

namespace CyxCloud.Rebalancer

open Library Planner

variable {Load Score : Type*} [Preorder Load] [DecidableLE Load] [DecidableLT Load]
  [Preorder Score] [DecidableLE Score]

/-- Bytes that a plan writes to a node. -/
def RepairPlan.bytesFor (plan : RepairPlan) (nodeId : String) : Nat :=
  ((plan.tasksForTarget nodeId).map fun task => task.chunkSize.toNat).sum

/-- A plan stays within its budget of bytes and within the space of every node. -/
structure WithinBudgets (config : PlannerConfig Load) (nodes : List (NodeInfo Load))
    (plan : RepairPlan) : Prop where
  bytes : plan.totalBytes ≤ config.maxBytes
  space : ∀ node ∈ nodes, plan.bytesFor node.id ≤ node.availableStorage.toNat

/-- Bytes of one copy. -/
def copyBytes : Nat := 1024 * 1024

section Conditions

variable (one : Load) (config : PlannerConfig Load) (nodes : List (NodeInfo Load))

omit [DecidableLE Load] [DecidableLT Load] in
/-- Copies that the planner makes for an issue. -/
def copiesOf (issue : ChunkIssue) : Nat :=
  match issue.health with
  | .underReplicated current target => target - current
  | .critical => config.replicationFactor
  | _ => 0

/-- A node that may get a copy for an issue: it is healthy, does not hold the chunk, has space for a
copy, and is not overloaded by itself. -/
def MayTake (issue : ChunkIssue) (node : NodeInfo Load) : Prop :=
  node.isHealthy = true ∧ node.id ∉ issue.currentNodes ∧
    copyBytes ≤ node.availableStorage.toNat ∧
      (node.load ≤ one ∨ config.maxNodeLoad ≤ one → node.load < config.maxNodeLoad)

instance (issue : ChunkIssue) (node : NodeInfo Load) : Decidable (MayTake one config issue node) :=
  inferInstanceAs (Decidable (_ ∧ _ ∧ _ ∧ _))

/-- An issue that may get a task: it asks for copies, a healthy node holds the chunk, and there are
enough nodes that may get a copy. -/
def Repairable (issue : ChunkIssue) : Prop :=
  copiesOf config issue ≠ 0 ∧
    (∃ node ∈ nodes, node.isHealthy = true ∧ node.id ∈ issue.currentNodes) ∧
      copiesOf config issue ≤ nodes.countP fun node => MayTake one config issue node

instance : DecidablePred (Repairable one config nodes) :=
  fun _ => inferInstanceAs (Decidable (_ ∧ _ ∧ _))

/-- Bytes of the copies for some issues. -/
def bytesOf (issues : List ChunkIssue) : Nat := copyBytes * (issues.map (copiesOf config)).sum

/-- None of some issues comes after a limit is reached. -/
def BelowLimits (planned : List ChunkIssue) : Prop :=
  ∀ before issue after, planned = before ++ issue :: after →
    before.length < config.maxTasks ∧ bytesOf config before < config.maxBytes.toNat

/-- The budgets suffice for some issues, wherever their copies go. -/
structure Suffices (planned : List ChunkIssue) : Prop where
  bytes : bytesOf config planned ≤ config.maxBytes.toNat
  space : ∀ node ∈ nodes,
    copyBytes * (planned.countP fun issue =>
      ∃ taker ∈ nodes, taker.id = node.id ∧ MayTake one config issue taker) ≤
        node.availableStorage.toNat

/-- The budgets suffice for all issues that might be planned. -/
def BudgetsSuffice (issues : List ChunkIssue) : Prop :=
  ∀ planned : List ChunkIssue,
    planned.Sublist ((sortIssues issues).filter fun issue => Repairable one config nodes issue) →
      BelowLimits config planned → Suffices one config nodes planned

end Conditions

namespace Planner

/-! ## One issue after the other -/

/-- Plan an issue unless a limit is reached. -/
def planIssue (arithmetic : LoadArithmetic Load Score) (nodes : List (NodeInfo Load))
    (state : Planner Load × RepairPlan) (issue : ChunkIssue) : Planner Load × RepairPlan :=
  if state.1.config.maxTasks ≤ state.2.tasks.length then state
  else if state.1.config.maxBytes ≤ state.2.totalBytes then state
  else
    match state.1.planRepair arithmetic issue nodes with
    | (planner, .ok task) =>
        ({ planner with pendingLoad := chargeTask planner.pendingLoad task },
          state.2.addTask task)
    | (planner, .error _) => (planner, state.2)

variable {arithmetic : LoadArithmetic Load Score} {healthy nodes : List (NodeInfo Load)}

omit [Preorder Load] [DecidableLE Load] [DecidableLT Load] [Preorder Score] [DecidableLE Score] in
theorem bytesFor_addTask (plan : RepairPlan) (task : RepairTask) (nodeId : String) :
    (plan.addTask task).bytesFor nodeId = plan.bytesFor nodeId +
      if nodeId ∈ task.targetNodes then task.chunkSize.toNat else 0 := by
  simp only [RepairPlan.bytesFor, RepairPlan.tasksForTarget, RepairPlan.addTask,
    List.filter_append, List.map_append, List.sum_append]
  by_cases target : nodeId ∈ task.targetNodes
  · simp [target]
  · simp [target]

theorem planIssue_config (state : Planner Load × RepairPlan) (issue : ChunkIssue) :
    (planIssue arithmetic healthy state issue).1.config = state.1.config := by
  have kept : (state.1.planRepair arithmetic issue healthy).1.config = state.1.config :=
    planRepair_keeps.1
  rw [planIssue]
  split
  · rfl
  · split
    · rfl
    · split
      · rename_i ran
        rw [ran] at kept
        exact kept
      · rename_i ran
        rw [ran] at kept
        exact kept

/-- What a plan holds when it was made for some issues: it counts their copies, and puts no more on a
node than one copy for each of them that the node may get. -/
structure MadeFor (one : Load) (config : PlannerConfig Load) (nodes : List (NodeInfo Load))
    (planned : List ChunkIssue) (plan : RepairPlan) : Prop where
  below : BelowLimits config planned
  length_eq : plan.tasks.length = planned.length
  bytes_eq : plan.totalBytes.toNat = bytesOf config planned
  written : ∀ nodeId, plan.bytesFor nodeId ≤
    copyBytes * planned.countP fun issue =>
      ∃ taker ∈ nodes, taker.id = nodeId ∧ MayTake one config issue taker

omit [Preorder Load] [DecidableLE Load] [DecidableLT Load] in
theorem copiesOf_eq {config : PlannerConfig Load} {issue : ChunkIssue} {copies : Nat}
    (counted : CopiesFor config issue.health copies) : copiesOf config issue = copies := by
  unfold copiesOf
  unfold CopiesFor at counted
  generalize issue.health = health at counted ⊢
  cases health with
  | underReplicated current target =>
      rw [← show current + copies = target from counted]
      exact Nat.add_sub_cancel_left current copies
  | critical => exact (show copies = config.replicationFactor from counted).symm
  | _ => exact absurd counted id

omit [Preorder Score] [DecidableLE Score] in
theorem mayTake_of_isCandidate {planner : Planner Load} {issue : ChunkIssue} {source : String}
    {node : NodeInfo Load} (healthy : node.isHealthy = true)
    (candidate : planner.isCandidate arithmetic issue source node = true) :
    MayTake arithmetic.one planner.config issue node := by
  have sound := targetSound_of_isCandidate healthy candidate
  exact ⟨healthy, sound.outside, UInt64.le_iff_toNat_le.mp sound.space, sound.load⟩

omit [Preorder Score] [DecidableLE Score] in
/-- A planned issue may get a task. -/
theorem repairable_of_planned {planner : Planner Load} {issue : ChunkIssue} {copies : Nat}
    {task : RepairTask}
    (made : PlannedTask arithmetic planner issue (nodes.filter NodeInfo.isHealthy) copies task)
    (counted : CopiesFor planner.config issue.health copies) :
    Repairable arithmetic.one planner.config nodes issue := by
  rw [Repairable, copiesOf_eq counted]
  refine ⟨made.copies_ne, ?_, made.enough.trans ?_⟩
  · obtain ⟨holds, source, known, source_eq⟩ := made.source
    obtain ⟨source_mem, source_healthy⟩ := List.mem_filter.mp known
    exact ⟨source, source_mem, source_healthy, source_eq ▸ holds⟩
  · rw [← List.countP_eq_length_filter, List.countP_filter]
    refine List.countP_mono_left fun node _ both => ?_
    rw [Bool.and_eq_true] at both
    exact decide_eq_true (mayTake_of_isCandidate both.2 both.1)

omit [DecidableLE Load] [DecidableLT Load] [Preorder Load] in
theorem bytesOf_append (config : PlannerConfig Load) (planned : List ChunkIssue)
    (issue : ChunkIssue) :
    bytesOf config (planned ++ [issue]) =
      bytesOf config planned + copyBytes * copiesOf config issue := by
  simp only [bytesOf, List.map_append, List.sum_append, List.map_singleton, List.sum_singleton,
    Nat.mul_add]

omit [DecidableLE Load] [DecidableLT Load] [Preorder Load] in
theorem belowLimits_append {config : PlannerConfig Load} {planned : List ChunkIssue}
    (below : BelowLimits config planned) (tasks : planned.length < config.maxTasks)
    (bytes : bytesOf config planned < config.maxBytes.toNat) (issue : ChunkIssue) :
    BelowLimits config (planned ++ [issue]) := by
  intro before next after split
  rcases List.eq_nil_or_concat after with rfl | ⟨middle, last, rfl⟩
  · obtain ⟨rfl, -⟩ := List.append_inj' split rfl
    exact ⟨tasks, bytes⟩
  · rw [List.concat_eq_append, ← List.cons_append, ← List.append_assoc] at split
    obtain ⟨rfl, -⟩ := List.append_inj' split rfl
    exact below before next middle rfl

/-- The loop plans one issue after the other. -/
theorem planIssues_eq_runAll (planner : Planner Load) (plan : RepairPlan)
    (issues : List ChunkIssue) :
    planIssues arithmetic healthy planner plan issues =
      runAll (planIssue arithmetic healthy) (planner, plan) issues := by
  induction issues generalizing planner plan with
  | nil => rfl
  | cons issue issues induction =>
      rw [planIssues]
      split
      · rename_i enough_tasks
        have fixed : ∀ other, planIssue arithmetic healthy (planner, plan) other =
            (planner, plan) := by
          intro other
          rw [planIssue, if_pos enough_tasks]
        exact (runAll_of_fixed fixed _).symm
      · rename_i task_room
        split
        · rename_i enough_bytes
          have fixed : ∀ other, planIssue arithmetic healthy (planner, plan) other =
              (planner, plan) := by
            intro other
            rw [planIssue, if_neg task_room, if_pos enough_bytes]
          exact (runAll_of_fixed fixed _).symm
        · rename_i byte_room
          rw [runAll_cons, planIssue, if_neg task_room, if_neg byte_room]
          split
          · rename_i planned task ran
            simp only [ran]
            exact induction _ _
          · rename_i planned cause ran
            simp only [ran]
            exact induction _ _

theorem runAll_config (state : Planner Load × RepairPlan) (issues : List ChunkIssue) :
    (runAll (planIssue arithmetic healthy) state issues).1.config = state.1.config := by
  induction issues generalizing state with
  | nil => rfl
  | cons issue issues induction =>
      rw [runAll_cons, induction, planIssue_config]

theorem toNat_add_copies {total : UInt64} {before copies : Nat} (total_eq : total.toNat = before)
    (small : before + copyBytes * copies < 2 ^ 64) :
    (total + 1024 * 1024 * UInt64.ofNat copies).toNat = before + copyBytes * copies := by
  have unit : (1024 * 1024 : UInt64).toNat = copyBytes := by decide
  have copies_le : copies ≤ copyBytes * copies := Nat.le_mul_of_pos_left copies (by decide)
  have copies_small : copies < 2 ^ 64 := by omega
  have copies_eq : (UInt64.ofNat copies).toNat = copies :=
    UInt64.toNat_ofNat_of_lt' copies_small
  have bytes_eq : (1024 * 1024 * UInt64.ofNat copies).toNat = copyBytes * copies := by
    rw [UInt64.toNat_mul, unit, copies_eq]
    exact Nat.mod_eq_of_lt (by omega)
  rw [UInt64.toNat_add, total_eq, bytes_eq]
  exact Nat.mod_eq_of_lt small

/-- An issue leaves the plan alone, or adds a task for itself. -/
theorem planIssue_madeFor {state : Planner Load × RepairPlan} {config : PlannerConfig Load}
    (config_eq : state.1.config = config) {planned : List ChunkIssue}
    (made : MadeFor arithmetic.one config nodes planned state.2) (issue : ChunkIssue)
    (suffices_next : Repairable arithmetic.one config nodes issue →
      BelowLimits config (planned ++ [issue]) →
        Suffices arithmetic.one config nodes (planned ++ [issue])) :
    MadeFor arithmetic.one config nodes planned
        (planIssue arithmetic (nodes.filter NodeInfo.isHealthy) state issue).2 ∨
      Repairable arithmetic.one config nodes issue ∧
        MadeFor arithmetic.one config nodes (planned ++ [issue])
          (planIssue arithmetic (nodes.filter NodeInfo.isHealthy) state issue).2 := by
  subst config_eq
  rw [planIssue]
  split
  · exact .inl made
  · rename_i task_room
    split
    · exact .inl made
    · rename_i byte_room
      split
      · rename_i planner task ran
        obtain ⟨-, copies, task_made, counted⟩ := planRepair_ok ran
        have repairable := repairable_of_planned task_made counted
        have below : BelowLimits state.1.config (planned ++ [issue]) := by
          refine belowLimits_append made.below ?_ ?_ issue
          · rw [← made.length_eq]
            exact Nat.lt_of_not_le task_room
          · rw [← made.bytes_eq]
            exact UInt64.lt_iff_toNat_lt.mp (UInt64.not_le.mp byte_room)
        have bytes := (suffices_next repairable below).bytes
        refine .inr ⟨repairable, below, ?_, ?_, fun nodeId => ?_⟩
        · simp only [RepairPlan.addTask, List.length_append, List.length_singleton,
            made.length_eq]
        · have size : task.chunkSize = 1024 * 1024 := planRepair_keeps.2 task (by rw [ran])
          rw [bytesOf_append, copiesOf_eq counted] at bytes ⊢
          have small := bytes.trans_lt state.1.config.maxBytes.toNat_lt
          simp only [RepairPlan.addTask, RepairTask.estimatedBandwidth, size, task_made.length_eq]
          exact toNat_add_copies made.bytes_eq small
        · rw [bytesFor_addTask, List.countP_append, List.countP_singleton, Nat.mul_add]
          refine Nat.add_le_add (made.written nodeId) ?_
          split
          · rename_i target
            have size : task.chunkSize = 1024 * 1024 := planRepair_keeps.2 task (by rw [ran])
            obtain ⟨taker, listed, id_eq, candidate⟩ := task_made.targets nodeId target
            obtain ⟨taker_mem, taker_healthy⟩ := List.mem_filter.mp listed
            rw [if_pos (decide_eq_true ⟨taker, taker_mem, id_eq,
              mayTake_of_isCandidate taker_healthy candidate⟩), size]
            decide
          · exact Nat.zero_le _
      · exact .inl made

/-- The plan is made for some of the issues done. -/
theorem runAll_madeFor {planner : Planner Load} {issues : List ChunkIssue}
    (enough : BudgetsSuffice arithmetic.one planner.config nodes issues) (done : List ChunkIssue)
    (known : done.Sublist (sortIssues issues)) :
    ∃ planned : List ChunkIssue,
      planned.Sublist (done.filter fun issue =>
        Repairable arithmetic.one planner.config nodes issue) ∧
      MadeFor arithmetic.one planner.config nodes planned
        (runAll (planIssue arithmetic (nodes.filter NodeInfo.isHealthy))
          ({ planner with pendingLoad := fun _ => 0 }, .default) done).2 := by
  induction done using List.reverseRecOn with
  | nil =>
      refine ⟨[], List.nil_sublist _, ?_, rfl, rfl, fun _ => Nat.zero_le _⟩
      intro before issue after split
      simp at split
  | append_singleton done issue induction =>
      obtain ⟨planned, inside, made⟩ := induction ((List.sublist_append_left _ _).trans known)
      rw [runAll_append, runAll_cons, runAll_nil]
      have config_eq : (runAll (planIssue arithmetic (nodes.filter NodeInfo.isHealthy))
          ({ planner with pendingLoad := fun _ => 0 }, .default) done).1.config =
          planner.config := runAll_config _ done
      have grown : Repairable arithmetic.one planner.config nodes issue →
          (planned ++ [issue]).Sublist
            ((done ++ [issue]).filter fun issue =>
              Repairable arithmetic.one planner.config nodes issue) := by
        intro repairable
        rw [List.filter_append, List.filter_cons_of_pos (by simpa using repairable),
          List.filter_nil]
        exact inside.append (List.Sublist.refl _)
      rcases planIssue_madeFor config_eq made issue fun repairable below =>
          enough _ ((grown repairable).trans (known.filter _)) below with kept | ⟨repairable, added⟩
      · exact ⟨planned, inside.trans ((List.sublist_append_left done [issue]).filter _), kept⟩
      · exact ⟨planned ++ [issue], grown repairable, added⟩

omit [Preorder Score] [DecidableLE Score] in
/-- The budgets suffice for issues that lack a replica each, when the budget of bytes is one of whole
copies and every node has space for a copy of each chunk. -/
theorem budgetsSuffice_of_lone {one : Load} {config : PlannerConfig Load}
    {issues : List ChunkIssue} (lone : ∀ issue ∈ issues, copiesOf config issue ≤ 1)
    (whole : copyBytes ∣ config.maxBytes.toNat)
    (room : ∀ node ∈ nodes, copyBytes * issues.length ≤ node.availableStorage.toNat) :
    BudgetsSuffice one config nodes issues := by
  intro planned inside below
  have known := inside.trans List.filter_sublist
  refine ⟨?_, fun node member => ?_⟩
  · rcases List.eq_nil_or_concat planned with rfl | ⟨before, last, rfl⟩
    · exact Nat.zero_le _
    · rw [List.concat_eq_append] at known below ⊢
      have few := lone last ((sortIssues_perm issues).subset (known.subset (by simp)))
      obtain ⟨-, bytes⟩ := below before last [] rfl
      obtain ⟨copies, whole_eq⟩ := whole
      rw [whole_eq] at bytes ⊢
      rw [bytesOf_append, bytesOf, ← Nat.mul_add]
      rw [bytesOf] at bytes
      have fewer := Nat.lt_of_mul_lt_mul_left bytes
      exact Nat.mul_le_mul_left copyBytes (by omega)
  · refine (Nat.mul_le_mul_left copyBytes ?_).trans (room node member)
    exact List.countP_le_length.trans
      (known.length_le.trans_eq (sortIssues_perm issues).length_eq)

end Planner

namespace Basic

/-- A chunk with one replica that should have two. -/
def loneReplica (chunkId : UInt8) : ChunkIssue :=
  { chunkId := [chunkId]
    health := .underReplicated 1 2
    currentNodes := ["n1"]
    fileId := none
    priority := 800 }

/-- The holder of the replicas, and a node with space for one chunk. -/
def nearlyFull : List (NodeInfo ℚ) :=
  [makeNode "n1" "dc1" (1 / 10),
    { makeNode "n2" "dc1" (2 / 10) with availableStorage := 1024 * 1024 }]

/-- A plan for one chunk, on two nodes, within a budget of bytes. -/
def onePlan (maxBytes : UInt64) : Except PlanFailure RepairPlan :=
  ((Planner.new { PlannerConfig.default (8 / 10 : ℚ) with maxBytes }).createPlan exactArithmetic
    [loneReplica 1] nearlyFull).2

/-- A plan for two chunks, on two nodes. -/
def twoPlans : Except PlanFailure RepairPlan :=
  ((Planner.new (PlannerConfig.default (8 / 10 : ℚ))).createPlan exactArithmetic
    [loneReplica 1, loneReplica 2] nearlyFull).2

theorem twoPlans_bytesFor :
    (twoPlans.map fun plan => plan.bytesFor "n2") = .ok (2 * 1024 * 1024) := by
  have sorted : sortIssues [loneReplica 1, loneReplica 2] = [loneReplica 1, loneReplica 2] :=
    List.mergeSort_of_pairwise (by decide)
  rw [twoPlans, createPlan, sorted]
  decide +kernel

end Basic

end CyxCloud.Rebalancer
