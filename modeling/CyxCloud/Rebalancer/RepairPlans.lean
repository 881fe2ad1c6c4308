import Mathlib
import CyxCloud.Rebalancer.Planner

/-!
# Soundness of repair plans

The planner goes through the issues by decreasing priority and keeps, beside the plan, the bytes
that the tasks planned so far put on each node.  What a plan promises is an invariant of this loop;
the numbers of the tasks carry over from one plan to the next.
-/

namespace CyxCloud.Rebalancer

open CyxCloud.Core Library Planner

variable {Load Score : Type*} [Preorder Load] [DecidableLE Load] [DecidableLT Load]
  [Preorder Score] [DecidableLE Score]

/-! ## What a plan promises -/

/-- Bytes that tasks put on each node. -/
def pendingAfter (tasks : List RepairTask) : String → UInt64 :=
  tasks.foldl chargeTask fun _ => 0

/-- A copy may go to a node: it is healthy, does not hold the chunk, has space, and its load is
below the limit, both with the operations pending on it and, in the range of loads, without. -/
structure TargetSound (arithmetic : LoadArithmetic Load Score) (config : PlannerConfig Load)
    (pending : String → UInt64) (issue : ChunkIssue) (node : NodeInfo Load) : Prop where
  healthy : node.isHealthy = true
  outside : node.id ∉ issue.currentNodes
  space : 1024 * 1024 ≤ node.availableStorage
  effective_load :
    getNodeLoad arithmetic { config, pendingLoad := pending, taskCounter := 0 } node.id node.load <
      config.maxNodeLoad
  load : node.load ≤ arithmetic.one ∨ config.maxNodeLoad ≤ arithmetic.one →
    node.load < config.maxNodeLoad

/-- The number of copies that a task makes for its issue. -/
def CopiesFor (config : PlannerConfig Load) (health : ChunkHealth) (copies : Nat) : Prop :=
  match health with
  | .underReplicated current target => current + copies = target
  | .critical => copies = config.replicationFactor
  | _ => False

/-- What a task promises when it is planned after other tasks. -/
structure TaskSound (arithmetic : LoadArithmetic Load Score) (config : PlannerConfig Load)
    (issues : List ChunkIssue) (nodes : List (NodeInfo Load)) (before : List RepairTask)
    (task : RepairTask) : Prop where
  issue_mem : task.issue ∈ issues
  chunkId_eq : task.chunkId = task.issue.chunkId
  priority_eq : task.priority = task.issue.priority
  source_current : task.sourceNode ∈ task.issue.currentNodes
  source_healthy : ∃ node ∈ nodes, node.id = task.sourceNode ∧ node.isHealthy = true
  targets_nodup : task.targetNodes.Nodup
  targets : ∀ target ∈ task.targetNodes, ∃ node ∈ nodes, node.id = target ∧
    TargetSound arithmetic config (pendingAfter before) task.issue node
  copies : CopiesFor config task.issue.health task.targetNodes.length

/-- The pairs of chunk and target of some tasks. -/
def transfers (tasks : List RepairTask) : List (Bytes × String) :=
  tasks.flatMap fun task => task.targetNodes.map fun target => (task.chunkId, target)

/-- The totals of a plan are those of its tasks. -/
structure TotalsSound (plan : RepairPlan) : Prop where
  totalBytes_eq : plan.totalBytes = (plan.tasks.map RepairTask.estimatedBandwidth).sum
  sourceNodes_eq : plan.sourceNodes = (plan.tasks.map RepairTask.sourceNode).toFinset
  targetNodes_eq : plan.targetNodes = (plan.tasks.flatMap RepairTask.targetNodes).toFinset

/-- What a plan promises. -/
structure PlanSound (arithmetic : LoadArithmetic Load Score) (config : PlannerConfig Load)
    (issues : List ChunkIssue) (nodes : List (NodeInfo Load)) (plan : RepairPlan) : Prop where
  tasks : ∀ before task after, plan.tasks = before ++ task :: after →
    TaskSound arithmetic config issues nodes before task
  priorities : plan.tasks.Pairwise fun left right => right.priority ≤ left.priority
  length_le : plan.tasks.length ≤ config.maxTasks
  transfers_nodup : (issues.map ChunkIssue.chunkId).Nodup → (transfers plan.tasks).Nodup
  totals : TotalsSound plan

/-! ## Selection of nodes -/

section Selection

variable {arithmetic : LoadArithmetic Load Score} {planner : Planner Load} {issue : ChunkIssue}
  {nodes : List (NodeInfo Load)}

omit [Preorder Score] [DecidableLE Score] in
theorem selectSourceNode_ok {source : String}
    (selected : planner.selectSourceNode arithmetic issue nodes = .ok source) :
    source ∈ issue.currentNodes ∧ ∃ node ∈ nodes, node.id = source := by
  unfold selectSourceNode at selected
  simp only at selected
  split at selected
  · cases selected
  · rename_i best found
    obtain rfl : best.id = source := Except.ok.inj selected
    obtain ⟨member, holds⟩ := List.mem_filter.mp (List.argmin_mem found)
    exact ⟨by simpa using holds, best, member, rfl⟩

omit [DecidableLT Load] [Preorder Score] [DecidableLE Score] in
/-- An effective load below the limit comes from a base load below the limit. -/
theorem load_lt_of_getNodeLoad_lt {nodeId : String} {load limit : Load}
    (below : planner.getNodeLoad arithmetic nodeId load < limit)
    (ranged : load ≤ arithmetic.one ∨ limit ≤ arithmetic.one) : load < limit := by
  have grows := arithmetic.le_addPending load (planner.pendingLoad nodeId)
  unfold getNodeLoad at below
  simp only at below
  split at below
  · exact lt_of_le_of_lt grows below
  · rcases ranged with small | capped
    · exact lt_of_le_of_lt small below
    · exact absurd (lt_of_lt_of_le below capped) (lt_irrefl _)

omit [Preorder Score] [DecidableLE Score] in
theorem targetSound_of_isCandidate {source : String} {node : NodeInfo Load}
    (healthy : node.isHealthy = true)
    (candidate : planner.isCandidate arithmetic issue source node = true) :
    TargetSound arithmetic planner.config planner.pendingLoad issue node := by
  simp only [isCandidate, Bool.and_eq_true, Bool.not_eq_true', bne_iff_ne, decide_eq_true_eq]
    at candidate
  obtain ⟨⟨⟨outside, -⟩, space⟩, below⟩ := candidate
  exact
    { healthy
      outside := by simpa using outside
      space
      effective_load := below
      load := load_lt_of_getNodeLoad_lt below }

theorem selectTargetNodes_ok {source : String} {count : Nat} {targets : List String}
    (selected : planner.selectTargetNodes arithmetic issue nodes source count = .ok targets) :
    targets.length = count ∧
      count ≤ (nodes.filter (planner.isCandidate arithmetic issue source)).length ∧
      ((nodes.map NodeInfo.id).Nodup → targets.Nodup) ∧
      ∀ target ∈ targets, ∃ node ∈ nodes, node.id = target ∧
        planner.isCandidate arithmetic issue source node = true := by
  unfold selectTargetNodes at selected
  simp only at selected
  split at selected
  · cases selected
  · rename_i enough
    generalize ranked_eq : List.mergeSort (nodes.filter
      (planner.isCandidate arithmetic issue source)) _ = ranked at selected
    obtain rfl := Except.ok.inj selected
    have perm : ranked.Perm (nodes.filter (planner.isCandidate arithmetic issue source)) :=
      ranked_eq ▸ List.mergeSort_perm _ _
    refine ⟨?_, not_lt.mp enough, ?_, ?_⟩
    · rw [List.length_map, List.length_take, perm.length_eq]
      exact min_eq_left (not_lt.mp enough)
    · intro distinct
      have ranked_nodup : (ranked.map NodeInfo.id).Nodup :=
        (perm.map NodeInfo.id).nodup_iff.mpr (distinct.sublist (List.filter_sublist.map _))
      exact ranked_nodup.sublist ((List.take_sublist count ranked).map _)
    · intro target member
      obtain ⟨node, taken, rfl⟩ := List.mem_map.mp member
      obtain ⟨known, candidate⟩ := List.mem_filter.mp (perm.subset (List.mem_of_mem_take taken))
      exact ⟨node, known, rfl, candidate⟩

end Selection

/-! ## One task -/

section Task

variable {arithmetic : LoadArithmetic Load Score} {planner planned : Planner Load}
  {issue : ChunkIssue} {nodes : List (NodeInfo Load)} {task : RepairTask}

/-- What a planned task is: it copies as many times as replicas are missing. -/
structure PlannedTask (arithmetic : LoadArithmetic Load Score) (planner : Planner Load)
    (issue : ChunkIssue) (nodes : List (NodeInfo Load)) (copies : Nat) (task : RepairTask) :
    Prop where
  taskId_eq : task.taskId = taskName (planner.taskCounter + 1)
  chunkId_eq : task.chunkId = issue.chunkId
  priority_eq : task.priority = issue.priority
  issue_eq : task.issue = issue
  source : task.sourceNode ∈ issue.currentNodes ∧ ∃ node ∈ nodes, node.id = task.sourceNode
  targets_nodup : (nodes.map NodeInfo.id).Nodup → task.targetNodes.Nodup
  targets : ∀ target ∈ task.targetNodes, ∃ node ∈ nodes, node.id = target ∧
    planner.isCandidate arithmetic issue task.sourceNode node = true
  length_eq : task.targetNodes.length = copies
  enough : copies ≤
    (nodes.filter (planner.isCandidate arithmetic issue task.sourceNode)).length
  copies_ne : copies ≠ 0

theorem planUnderReplicated_ok {current target : Nat}
    (ran : planner.planUnderReplicated arithmetic issue nodes current target =
      (planned, .ok task)) :
    planned = { planner with taskCounter := planner.taskCounter + 1 } ∧
      PlannedTask arithmetic planner issue nodes (target - current) task := by
  unfold planUnderReplicated at ran
  cases sourced : planner.selectSourceNode arithmetic issue nodes with
  | error cause => simp [sourced] at ran
  | ok source =>
      simp only [sourced] at ran
      split at ran
      · simp at ran
      · rename_i needed
        cases targeted :
            planner.selectTargetNodes arithmetic issue nodes source (target - current) with
        | error cause => simp [targeted] at ran
        | ok targets =>
            simp only [targeted, Prod.mk.injEq, Except.ok.injEq] at ran
            obtain ⟨rfl, rfl⟩ := ran
            obtain ⟨length_eq, enough, targets_nodup, candidates⟩ := selectTargetNodes_ok targeted
            exact ⟨rfl,
              { taskId_eq := rfl
                chunkId_eq := rfl
                priority_eq := rfl
                issue_eq := rfl
                source := selectSourceNode_ok sourced
                targets_nodup
                targets := candidates
                length_eq
                enough
                copies_ne := needed }⟩

theorem planUnderReplicated_error {current target : Nat} {cause : PlannerError}
    (ran : planner.planUnderReplicated arithmetic issue nodes current target =
      (planned, .error cause)) : planned = planner := by
  unfold planUnderReplicated at ran
  cases sourced : planner.selectSourceNode arithmetic issue nodes with
  | error cause => simp_all
  | ok source =>
      simp only [sourced] at ran
      split at ran
      · exact (Prod.mk.inj ran).1.symm
      · split at ran
        · exact (Prod.mk.inj ran).1.symm
        · simp at ran

theorem planRepair_ok
    (ran : planner.planRepair arithmetic issue nodes = (planned, .ok task)) :
    planned = { planner with taskCounter := planner.taskCounter + 1 } ∧
      ∃ copies, PlannedTask arithmetic planner issue nodes copies task ∧
        CopiesFor planner.config issue.health copies := by
  unfold planRepair at ran
  split at ran
  · rename_i current target health
    obtain ⟨advanced, made⟩ := planUnderReplicated_ok ran
    refine ⟨advanced, target - current, made, ?_⟩
    have needed := made.copies_ne
    rw [health, CopiesFor]
    omega
  · rename_i health
    split at ran
    · simp at ran
    · obtain ⟨advanced, made⟩ := planUnderReplicated_ok ran
      refine ⟨advanced, _, made, ?_⟩
      rw [health, CopiesFor, Nat.sub_zero]
  · simp at ran
  · simp at ran

theorem planRepair_error {cause : PlannerError}
    (ran : planner.planRepair arithmetic issue nodes = (planned, .error cause)) :
    planned = planner := by
  unfold planRepair at ran
  split at ran
  · exact planUnderReplicated_error ran
  · split at ran
    · exact (Prod.mk.inj ran).1.symm
    · exact planUnderReplicated_error ran
  · exact (Prod.mk.inj ran).1.symm
  · exact (Prod.mk.inj ran).1.symm

omit [Preorder Score] [DecidableLE Score] in
/-- A planned task keeps its promise to the caller. -/
theorem PlannedTask.taskSound {before : List RepairTask} {issues : List ChunkIssue}
    {all : List (NodeInfo Load)} {copies : Nat} (distinct : (all.map NodeInfo.id).Nodup)
    (made : PlannedTask arithmetic planner issue (all.filter NodeInfo.isHealthy) copies task)
    (counted : CopiesFor planner.config issue.health copies) (member : issue ∈ issues)
    (pending_eq : planner.pendingLoad = pendingAfter before) :
    TaskSound arithmetic planner.config issues all before task := by
  obtain ⟨holds, source, known, source_eq⟩ := made.source
  obtain ⟨source_mem, source_healthy⟩ := List.mem_filter.mp known
  refine
    { issue_mem := made.issue_eq ▸ member
      chunkId_eq := made.issue_eq ▸ made.chunkId_eq
      priority_eq := made.issue_eq ▸ made.priority_eq
      source_current := made.issue_eq ▸ holds
      source_healthy := ⟨source, source_mem, source_eq, source_healthy⟩
      targets_nodup := made.targets_nodup (distinct.sublist (List.filter_sublist.map _))
      targets := ?_
      copies := ?_ }
  · intro target selected
    obtain ⟨node, listed, id_eq, candidate⟩ := made.targets target selected
    obtain ⟨node_mem, node_healthy⟩ := List.mem_filter.mp listed
    refine ⟨node, node_mem, id_eq, ?_⟩
    rw [made.issue_eq, ← pending_eq]
    exact targetSound_of_isCandidate node_healthy candidate
  · rw [made.issue_eq, made.length_eq]
    exact counted

end Task

/-! ## The loop -/

section Loop

variable {arithmetic : LoadArithmetic Load Score} {config : PlannerConfig Load}
  {issues done : List ChunkIssue} {nodes : List (NodeInfo Load)} {start : Nat}
  {planner : Planner Load} {plan : RepairPlan}

/-- The plan and the planner once some issues are done, from a counter at the start. -/
structure PlanProgress (arithmetic : LoadArithmetic Load Score) (config : PlannerConfig Load)
    (issues : List ChunkIssue) (nodes : List (NodeInfo Load)) (start : Nat)
    (done : List ChunkIssue) (planner : Planner Load) (plan : RepairPlan) : Prop where
  config_eq : planner.config = config
  pending_eq : planner.pendingLoad = pendingAfter plan.tasks
  counter_eq : planner.taskCounter = start + plan.tasks.length
  taskIds_eq : plan.tasks.map RepairTask.taskId =
    (List.range' (start + 1) plan.tasks.length).map taskName
  issues_sublist : (plan.tasks.map RepairTask.issue).Sublist done
  length_le : plan.tasks.length ≤ config.maxTasks
  tasks : ∀ before task after, plan.tasks = before ++ task :: after →
    TaskSound arithmetic config issues nodes before task
  totals : TotalsSound plan

theorem foldl_insert_eq (targets : List String) (nodes : Finset String) :
    targets.foldl (fun nodes target => insert target nodes) nodes = nodes ∪ targets.toFinset := by
  induction targets generalizing nodes with
  | nil => simp
  | cons target targets induction =>
      rw [List.foldl_cons, induction, List.toFinset_cons, Finset.insert_union,
        Finset.union_insert]

theorem TotalsSound.addTask (totals : TotalsSound plan) (task : RepairTask) :
    TotalsSound (plan.addTask task) where
  totalBytes_eq := by
    simp [RepairPlan.addTask, totals.totalBytes_eq]
  sourceNodes_eq := by
    simp only [RepairPlan.addTask, totals.sourceNodes_eq, List.map_append, List.toFinset_append]
    ext node
    simp
  targetNodes_eq := by
    simp only [RepairPlan.addTask, totals.targetNodes_eq, foldl_insert_eq, List.flatMap_append,
      List.toFinset_append, List.flatMap_cons, List.flatMap_nil, List.append_nil]

omit [DecidableLT Load] [Preorder Score] [DecidableLE Score] in
/-- An issue without a task leaves plan and planner alone. -/
theorem PlanProgress.skip (progress : PlanProgress arithmetic config issues nodes start done
      planner plan) (issue : ChunkIssue) :
    PlanProgress arithmetic config issues nodes start (done ++ [issue]) planner plan :=
  { progress with
    issues_sublist := progress.issues_sublist.trans (List.sublist_append_left done [issue]) }

/-- An issue with a task extends the plan. -/
theorem PlanProgress.add {issue : ChunkIssue} {planned : Planner Load} {task : RepairTask}
    (progress : PlanProgress arithmetic config issues nodes start done planner plan)
    (distinct : (nodes.map NodeInfo.id).Nodup) (member : issue ∈ issues)
    (room : plan.tasks.length < config.maxTasks)
    (ran : planner.planRepair arithmetic issue (nodes.filter NodeInfo.isHealthy) =
      (planned, .ok task)) :
    PlanProgress arithmetic config issues nodes start (done ++ [issue])
      { planned with pendingLoad := chargeTask planned.pendingLoad task }
      (plan.addTask task) := by
  obtain ⟨rfl, copies, made, counted⟩ := planRepair_ok ran
  have tasks_eq : (plan.addTask task).tasks = plan.tasks ++ [task] := rfl
  have length_eq : (plan.addTask task).tasks.length = plan.tasks.length + 1 := by
    rw [tasks_eq, List.length_append, List.length_singleton]
  have sound := made.taskSound distinct counted member progress.pending_eq
  rw [progress.config_eq] at sound
  refine
    { config_eq := progress.config_eq
      pending_eq := ?_
      counter_eq := ?_
      taskIds_eq := ?_
      issues_sublist := ?_
      length_le := length_eq ▸ room
      tasks := ?_
      totals := progress.totals.addTask task }
  · rw [tasks_eq, pendingAfter, List.foldl_append]
    exact congrArg (chargeTask · task) progress.pending_eq
  · change planner.taskCounter + 1 = _
    rw [progress.counter_eq, length_eq, Nat.add_assoc]
  · rw [length_eq, List.range'_concat, List.map_append, ← progress.taskIds_eq, tasks_eq,
      List.map_append, List.map_singleton, List.map_singleton, made.taskId_eq,
      progress.counter_eq]
    congr 3
    omega
  · rw [tasks_eq, List.map_append, List.map_singleton, made.issue_eq]
    exact progress.issues_sublist.append (List.Sublist.refl [issue])
  · intro before later after split
    rw [tasks_eq] at split
    rcases List.append_eq_append_iff.mp split with ⟨middle, before_eq, last_eq⟩ |
      ⟨middle, plan_eq, later_eq⟩
    · -- the task is the one just added, or there is nothing left of it
      cases middle with
      | nil =>
          obtain rfl : task = later := by simpa using (List.cons.inj last_eq).1
          rw [List.append_nil] at before_eq
          exact before_eq ▸ sound
      | cons head middle => simp at last_eq
    · cases middle with
      | nil =>
          obtain rfl : later = task := by simpa using (List.cons.inj later_eq).1
          rw [List.append_nil] at plan_eq
          exact plan_eq ▸ sound
      | cons head middle =>
          obtain ⟨rfl, -⟩ := List.cons.inj later_eq
          exact progress.tasks before later middle plan_eq

/-- The loop ends with some of the issues done. -/
theorem PlanProgress.planIssues {rest : List ChunkIssue}
    (progress : PlanProgress arithmetic config issues nodes start done planner plan)
    (distinct : (nodes.map NodeInfo.id).Nodup) (known : ∀ issue ∈ rest, issue ∈ issues) :
    ∃ treated, treated.Sublist (done ++ rest) ∧
      PlanProgress arithmetic config issues nodes start treated
        (planIssues arithmetic (nodes.filter NodeInfo.isHealthy) planner plan rest).1
        (planIssues arithmetic (nodes.filter NodeInfo.isHealthy) planner plan rest).2 := by
  induction rest generalizing done planner plan with
  | nil => exact ⟨done, by simp, progress⟩
  | cons issue rest induction =>
      have later : ∀ issue ∈ rest, issue ∈ issues :=
        fun next member => known next (List.mem_cons_of_mem _ member)
      rw [Planner.planIssues]
      split
      · exact ⟨done, List.sublist_append_left _ _, progress⟩
      · rename_i room
        split
        · exact ⟨done, List.sublist_append_left _ _, progress⟩
        · rw [progress.config_eq] at room
          rw [List.append_cons]
          split
          · rename_i planned task ran
            exact induction (progress.add distinct (known issue List.mem_cons_self)
              (not_le.mp room) ran) later
          · rename_i planned cause ran
            obtain rfl := planRepair_error ran
            exact induction (progress.skip issue) later

end Loop

/-! ## Plans -/

section Plans

variable {arithmetic : LoadArithmetic Load Score} {config : PlannerConfig Load}
  {issues : List ChunkIssue} {nodes : List (NodeInfo Load)}

theorem sortIssues_perm (issues : List ChunkIssue) : (sortIssues issues).Perm issues :=
  List.mergeSort_perm _ _

theorem sortIssues_sorted (issues : List ChunkIssue) :
    (sortIssues issues).Pairwise fun left right => right.priority ≤ left.priority := by
  have trans : ∀ a b c : ChunkIssue, decide (b.priority ≤ a.priority) = true →
      decide (c.priority ≤ b.priority) = true → decide (c.priority ≤ a.priority) = true := by
    intro a b c left right
    simp only [decide_eq_true_eq] at *
    exact UInt32.le_trans right left
  have total : ∀ a b : ChunkIssue,
      (decide (b.priority ≤ a.priority) || decide (a.priority ≤ b.priority)) = true := by
    intro a b
    simpa using UInt32.le_total b.priority a.priority
  exact (List.pairwise_mergeSort trans total issues).imp of_decide_eq_true

/-- Tasks for distinct chunks, each with distinct targets, have distinct transfers. -/
theorem transfers_nodup {tasks : List RepairTask}
    (chunks : (tasks.map RepairTask.chunkId).Nodup)
    (targets : ∀ task ∈ tasks, task.targetNodes.Nodup) : (transfers tasks).Nodup := by
  induction tasks with
  | nil => exact List.nodup_nil
  | cons task tasks induction =>
      obtain ⟨fresh, chunks⟩ := List.nodup_cons.mp chunks
      refine List.nodup_append.mpr ⟨?_, ?_, ?_⟩
      · exact (targets task List.mem_cons_self).map fun _ _ same => (Prod.mk.inj same).2
      · exact induction chunks fun later member => targets later (List.mem_cons_of_mem _ member)
      · rintro _ here _ there rfl
        obtain ⟨target, -, rfl⟩ := List.mem_map.mp here
        obtain ⟨later, member, listed⟩ := List.mem_flatMap.mp there
        obtain ⟨_, -, same⟩ := List.mem_map.mp listed
        have chunk_eq : later.chunkId = task.chunkId := (Prod.mk.inj same).1
        exact fresh (chunk_eq ▸ List.mem_map_of_mem member)

omit [DecidableLT Load] [Preorder Score] [DecidableLE Score] in
/-- Where the loop ends, the plan keeps its promise. -/
theorem PlanProgress.planSound {start : Nat} {treated : List ChunkIssue} {planner : Planner Load}
    {plan : RepairPlan}
    (progress : PlanProgress arithmetic config issues nodes start treated planner plan)
    (sublist : treated.Sublist (sortIssues issues)) :
    PlanSound arithmetic config issues nodes plan := by
  have sound : ∀ task ∈ plan.tasks, ∃ before, TaskSound arithmetic config issues nodes before
      task := by
    intro task member
    obtain ⟨before, after, split⟩ := List.append_of_mem member
    exact ⟨before, progress.tasks before task after split⟩
  have inherited : (plan.tasks.map RepairTask.issue).Sublist (sortIssues issues) :=
    progress.issues_sublist.trans sublist
  refine
    { tasks := progress.tasks
      priorities := ?_
      length_le := progress.length_le
      transfers_nodup := ?_
      totals := progress.totals }
  · have sorted := (sortIssues_sorted issues).sublist inherited
    rw [List.pairwise_map] at sorted
    refine sorted.imp_of_mem fun {left right} left_mem right_mem ordered => ?_
    obtain ⟨_, left_sound⟩ := sound left left_mem
    obtain ⟨_, right_sound⟩ := sound right right_mem
    rw [left_sound.priority_eq, right_sound.priority_eq]
    exact ordered
  · intro distinct
    have chunks_eq : plan.tasks.map RepairTask.chunkId =
        (plan.tasks.map RepairTask.issue).map ChunkIssue.chunkId := by
      rw [List.map_map]
      refine List.map_congr_left fun task member => ?_
      obtain ⟨_, task_sound⟩ := sound task member
      exact task_sound.chunkId_eq
    refine Rebalancer.transfers_nodup ?_ fun task member => ?_
    · rw [chunks_eq]
      exact (((sortIssues_perm issues).map _).nodup_iff.mpr distinct).sublist (inherited.map _)
    · obtain ⟨_, task_sound⟩ := sound task member
      exact task_sound.targets_nodup

/-- The loop of one call ends with some of the sorted issues done. -/
theorem planIssues_progress (arithmetic : LoadArithmetic Load Score) (planner : Planner Load)
    (issues : List ChunkIssue) (distinct : (nodes.map NodeInfo.id).Nodup) :
    ∃ treated, treated.Sublist (sortIssues issues) ∧
      PlanProgress arithmetic planner.config issues nodes planner.taskCounter treated
        (planIssues arithmetic (nodes.filter NodeInfo.isHealthy)
          { planner with pendingLoad := fun _ => 0 } .default (sortIssues issues)).1
        (planIssues arithmetic (nodes.filter NodeInfo.isHealthy)
          { planner with pendingLoad := fun _ => 0 } .default (sortIssues issues)).2 := by
  have begun : PlanProgress arithmetic planner.config issues nodes planner.taskCounter []
      { planner with pendingLoad := fun _ => 0 } .default :=
    { config_eq := rfl
      pending_eq := rfl
      counter_eq := rfl
      taskIds_eq := rfl
      issues_sublist := List.Sublist.refl []
      length_le := Nat.zero_le _
      tasks := fun before task after split => by
        simp [RepairPlan.default] at split
      totals :=
        { totalBytes_eq := rfl
          sourceNodes_eq := rfl
          targetNodes_eq := rfl } }
  have known : ∀ issue ∈ sortIssues issues, issue ∈ issues :=
    fun issue member => (sortIssues_perm issues).subset member
  exact begun.planIssues distinct known

/-- The tasks of a plan are for issues in their order, each at most once. -/
theorem createPlan_issues_sublist {planner : Planner Load}
    (distinct : (nodes.map NodeInfo.id).Nodup) {plan : RepairPlan}
    (made : (planner.createPlan arithmetic issues nodes).2 = .ok plan) :
    (plan.tasks.map RepairTask.issue).Sublist (sortIssues issues) := by
  obtain ⟨treated, sublist, progress⟩ := planIssues_progress arithmetic planner issues distinct
  unfold createPlan at made
  simp only at made
  split at made
  · cases made
  · split at made
    · cases made
    · obtain rfl := Except.ok.inj made
      exact progress.issues_sublist.trans sublist

/-- What one call does: it numbers its tasks on from the counter, and its plan is sound. -/
theorem createPlan_spec (arithmetic : LoadArithmetic Load Score) (planner : Planner Load)
    (issues : List ChunkIssue) (distinct : (nodes.map NodeInfo.id).Nodup) :
    (planner.createPlan arithmetic issues nodes).1.config = planner.config ∧
      planner.taskCounter ≤ (planner.createPlan arithmetic issues nodes).1.taskCounter ∧
      ∀ plan, (planner.createPlan arithmetic issues nodes).2 = .ok plan →
        PlanSound arithmetic planner.config issues nodes plan ∧
        (planner.createPlan arithmetic issues nodes).1.taskCounter =
          planner.taskCounter + plan.tasks.length ∧
        plan.tasks.map RepairTask.taskId =
          (List.range' (planner.taskCounter + 1) plan.tasks.length).map taskName := by
  obtain ⟨treated, sublist, progress⟩ := planIssues_progress arithmetic planner issues distinct
  unfold createPlan
  simp only
  split
  · exact ⟨rfl, le_rfl, nofun⟩
  · generalize planIssues arithmetic (nodes.filter NodeInfo.isHealthy)
      { planner with pendingLoad := fun _ => 0 } .default (sortIssues issues) = ended at progress
    obtain ⟨planned, plan⟩ := ended
    have counted : planned.taskCounter = planner.taskCounter + plan.tasks.length :=
      progress.counter_eq
    have advanced : planner.taskCounter ≤ planned.taskCounter := by omega
    simp only
    split
    · exact ⟨progress.config_eq, advanced, nofun⟩
    · refine ⟨progress.config_eq, advanced, fun returned is_plan => ?_⟩
      obtain rfl := Except.ok.inj is_plan
      have sound := progress.planSound sublist
      exact ⟨{ sound with totals := { sound.totals with } }, counted, progress.taskIds_eq⟩

/-! ## All plans of a planner -/

theorem taskName_injective : Function.Injective taskName := by
  intro left right same
  rw [taskName, taskName, String.append_right_inj] at same
  exact Nat.repr_injective same

/-- The names of the tasks of a result. -/
def taskIdsOf (result : Except PlanFailure RepairPlan) : List String :=
  match result with
  | .ok plan => plan.tasks.map RepairTask.taskId
  | .error _ => []

/-- Later calls number their tasks beyond the counter. -/
theorem createPlans_taskIds {requests : List (PlanRequest Load)}
    (distinct : ∀ request ∈ requests, (request.nodes.map NodeInfo.id).Nodup)
    (planner : Planner Load) :
    ((createPlans arithmetic planner requests).flatMap fun entry => taskIdsOf entry.2).Nodup ∧
      ∀ name ∈ (createPlans arithmetic planner requests).flatMap fun entry => taskIdsOf entry.2,
        ∃ number, planner.taskCounter < number ∧ name = taskName number := by
  induction requests generalizing planner with
  | nil => exact ⟨List.nodup_nil, nofun⟩
  | cons request requests induction =>
      obtain ⟨-, advanced, returns⟩ :=
        createPlan_spec arithmetic planner request.issues
          (distinct request List.mem_cons_self)
      rw [createPlans]
      generalize planner.createPlan arithmetic request.issues request.nodes = ended at *
      obtain ⟨planned, result⟩ := ended
      obtain ⟨later_nodup, later_numbers⟩ :=
        induction (fun later member => distinct later (List.mem_cons_of_mem _ member)) planned
      simp only [List.flatMap_cons] at *
      have here : (taskIdsOf result).Nodup ∧ ∀ name ∈ taskIdsOf result, ∃ number,
          planner.taskCounter < number ∧ number ≤ planned.taskCounter ∧
            name = taskName number := by
        cases result with
        | error failure => exact ⟨List.nodup_nil, nofun⟩
        | ok plan =>
            obtain ⟨-, counted, names_eq⟩ := returns plan rfl
            rw [taskIdsOf, names_eq]
            refine ⟨(List.nodup_range' 1).map taskName_injective, fun name member => ?_⟩
            obtain ⟨number, ranged, rfl⟩ := List.mem_map.mp member
            have bounds := List.mem_range'_1.mp ranged
            exact ⟨number, by omega, by omega, rfl⟩
      obtain ⟨here_nodup, here_numbers⟩ := here
      refine ⟨List.nodup_append.mpr ⟨here_nodup, later_nodup, ?_⟩, fun name member => ?_⟩
      · rintro name first _ second rfl
        obtain ⟨low, -, below, rfl⟩ := here_numbers name first
        obtain ⟨high, above, same⟩ := later_numbers _ second
        have := taskName_injective same
        omega
      · rcases List.mem_append.mp member with first | second
        · obtain ⟨number, beyond, -, name_eq⟩ := here_numbers name first
          exact ⟨number, beyond, name_eq⟩
        · obtain ⟨number, beyond, name_eq⟩ := later_numbers name second
          exact ⟨number, lt_of_le_of_lt advanced beyond, name_eq⟩

/-- Later calls keep the configuration, and their plans are sound. -/
theorem createPlans_sound {requests : List (PlanRequest Load)}
    (distinct : ∀ request ∈ requests, (request.nodes.map NodeInfo.id).Nodup)
    (planner : Planner Load) :
    ∀ request plan, (request, .ok plan) ∈ createPlans arithmetic planner requests →
      PlanSound arithmetic planner.config request.issues request.nodes plan := by
  induction requests generalizing planner with
  | nil => exact nofun
  | cons request requests induction =>
      obtain ⟨config_eq, -, returns⟩ :=
        createPlan_spec arithmetic planner request.issues
          (distinct request List.mem_cons_self)
      intro asked plan member
      rw [createPlans] at member
      rcases List.mem_cons.mp member with first | later
      · obtain ⟨rfl, result_eq⟩ := Prod.mk.inj first
        exact (returns plan result_eq.symm).1
      · rw [← config_eq]
        exact induction (fun later member => distinct later (List.mem_cons_of_mem _ member)) _
          asked plan later

/-- Over any calls of one planner, every plan is sound and no two tasks have the same name. -/
theorem repair_plans_sound (arithmetic : LoadArithmetic Load Score) (config : PlannerConfig Load)
    (requests : List (PlanRequest Load))
    (distinct : ∀ request ∈ requests, (request.nodes.map NodeInfo.id).Nodup) :
    (∀ request plan, (request, .ok plan) ∈ createPlans arithmetic (.new config) requests →
      PlanSound arithmetic config request.issues request.nodes plan) ∧
      ((createPlans arithmetic (.new config) requests).flatMap fun entry =>
        taskIdsOf entry.2).Nodup :=
  ⟨createPlans_sound distinct (.new config), (createPlans_taskIds distinct (.new config)).1⟩

end Plans

/-! ## The basic plan -/

namespace Basic

/-- The arithmetic of the source without rounding. -/
def exactArithmetic : LoadArithmetic ℚ ℚ where
  one := 1
  addPending load pending := load + pending.toNat / (10 * 1024 * 1024 * 1024)
  le_addPending load pending := by
    have share_nonneg : (0 : ℚ) ≤ pending.toNat / (10 * 1024 * 1024 * 1024) := by positivity
    linarith
  score bonus storage load :=
    1 + (if bonus then 1 / 2 else 0) + min (storage.toNat / (100 * 1024 * 1024 * 1024)) 1 * 3 / 10 +
      (1 - load) / 5

/-- A healthy node with 100 GB of free storage. -/
def makeNode (id datacenter : String) (load : ℚ) : NodeInfo ℚ :=
  { id
    availableStorage := 100 * 1024 * 1024 * 1024
    load
    datacenter := some datacenter
    isHealthy := true }

/-- One chunk with a single replica, and four nodes. -/
def request : PlanRequest ℚ :=
  { issues :=
      [{ chunkId := [1]
         health := .underReplicated 1 3
         currentNodes := ["n1"]
         fileId := none
         priority := 800 }]
    nodes :=
      [makeNode "n1" "dc1" (1 / 10), makeNode "n2" "dc1" (2 / 10), makeNode "n3" "dc2" (3 / 10),
        makeNode "n4" "dc2" (4 / 10)] }

/-- The results of asking twice for the basic plan. -/
def results : List (PlanRequest ℚ × Except PlanFailure RepairPlan) :=
  createPlans exactArithmetic (.new (.default (8 / 10))) [request, request]

theorem results_sound :
    (∀ asked plan, (asked, .ok plan) ∈ results →
      PlanSound exactArithmetic (.default (8 / 10)) asked.issues asked.nodes plan) ∧
      (results.flatMap fun entry => taskIdsOf entry.2).Nodup :=
  repair_plans_sound exactArithmetic (.default (8 / 10)) [request, request] (by decide)

example : (results.flatMap fun entry => taskIdsOf entry.2) = ["repair-1", "repair-2"] := by
  decide +kernel

end Basic

end CyxCloud.Rebalancer
