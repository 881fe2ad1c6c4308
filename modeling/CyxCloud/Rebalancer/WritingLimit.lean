import CyxCloud.Rebalancer.Permits

/-!
# The limit on the writing side

No semaphore counts the transfers to a node.  The tasks that transfer to it at the same time are
limited by the permits for their sources and by the global ones, and by these only.
-/

namespace CyxCloud.Rebalancer.Executor

open CyxCloud.Core Library

variable {World Call Event : Type*}

/-! ## Writers -/

/-- The targets to which a task is transferring. -/
def transferTargets (process : Process Call) : List String :=
  match process.phase with
  | .transfer _ attempts _ => attempts.targetsFailed
  | _ => []

/-- The tasks that are transferring to a node. -/
def writers (executor : Executor World Call) (node : String) : Nat :=
  executor.pool.processes.countP fun process => (transferTargets process).contains node

/-- The limit on the transfers to one node holds. -/
def TargetsLimited (config : ExecutorConfig) (executor : Executor World Call) : Prop :=
  ∀ node, executor.writers node ≤ config.maxPerTarget

/-- The task of a process that has not ended. -/
def liveTask (process : Process Call) : Option RepairTask :=
  if ended process then none else some process.task

/-- The tasks that are spawned and have not ended, and those still to be spawned. -/
def liveTasks (executor : Executor World Call) : List RepairTask :=
  executor.pool.processes.filterMap liveTask ++ executor.unspawned

/-- The task transfers from one node to another. -/
def joins (source target : String) (task : RepairTask) : Bool :=
  task.sourceNode == source && task.targetNodes.contains target

/-- How many of the tasks can transfer to a node at the same time. -/
def writingLoad (config : ExecutorConfig) (tasks : List RepairTask) (target : String) : Nat :=
  min config.maxConcurrent
    (∑ source ∈ (tasks.map RepairTask.sourceNode).toFinset,
      min config.maxPerSource (tasks.countP (joins source target)))

/-- When a plan is started, the tasks that are live then cannot together exceed the limit on the
transfers to one node. -/
def StartsWithinLimit (config : ExecutorConfig) (executor : Executor World Call) :
    Action Event → Prop
  | .execute plan =>
      ∀ target, writingLoad config (executor.liveTasks ++ plan.tasks) target ≤ config.maxPerTarget
  | _ => True

theorem writingLoad_mono (config : ExecutorConfig) {fewer more : List RepairTask}
    (contained : fewer.Subperm more) (target : String) :
    writingLoad config fewer target ≤ writingLoad config more target := by
  refine min_le_min_left _ ?_
  calc
    _ ≤ ∑ source ∈ (fewer.map RepairTask.sourceNode).toFinset,
        min config.maxPerSource (more.countP (joins source target)) :=
      Finset.sum_le_sum fun source _ => min_le_min_left _ (contained.countP_le _)
    _ ≤ _ := by
      refine Finset.sum_le_sum_of_subset ?_
      intro source member
      rw [List.mem_toFinset, List.mem_map] at member ⊢
      obtain ⟨task, task_mem, source_eq⟩ := member
      exact ⟨task, contained.subset task_mem, source_eq⟩

/-! ## Live tasks -/

section Steps

variable {config : ExecutorConfig} {transferFn : TransferFn World Call Event}

theorem ended_of_step {task : RepairTask} {shared after : Shared World} {phase next : Phase Call}
    (step : TaskStep config transferFn task shared phase after next) :
    ended { task, phase } = false := by
  cases step <;> rfl

/-- Only the start of a plan makes new tasks live. -/
theorem liveTasks_act (executor : Executor World Call) (action : Action Event)
    (not_started : ∀ plan, action ≠ .execute plan) :
    (executor.act config transferFn action).liveTasks.Subperm executor.liveTasks := by
  cases action with
  | execute plan => exact absurd rfl (not_started plan)
  | spawn execution =>
      rcases executor.spawnNext_cases execution with same | ⟨before, task, after, listed, left,
        skipped | spawned⟩
      · rw [act, same]
      · simp only [act, liveTasks, skipped, listed, left]
        have fewer : (before ++ after).Sublist (before ++ task :: after) :=
          (List.sublist_cons_self task after).append_left before
        exact (fewer.append_left _).subperm
      · simp only [act, liveTasks, spawned, listed, left, Pool.spawn, List.filterMap_append]
        refine List.Perm.subperm ?_
        rw [List.append_assoc]
        refine List.Perm.append_left _ ?_
        change (task :: (before ++ after)).Perm (before ++ task :: after)
        exact List.perm_middle.symm
  | shutdown => exact List.Subperm.refl _
  | receive => exact List.Subperm.refl _
  | closeReceiver => exact List.Subperm.refl _
  | background event => exact List.Subperm.refl _
  | task index move =>
      simp only [act, liveTasks, unspawned]
      rcases @Pool.move_cases _ _ _ (executeTask config transferFn) executor.pool index move with
        same | ⟨before, process, after, shared, moved, listed, stepped, moved_eq⟩
      · rw [same]
      · obtain ⟨task_eq, step⟩ := taskStep_of_executeTask stepped
        rw [moved_eq, listed]
        refine (List.Sublist.append_right ?_ _).subperm
        rw [List.filterMap_append, List.filterMap_append]
        refine List.Sublist.append_left ?_ _
        have live : liveTask process = some process.task := by
          rw [liveTask, ended_of_step step]
          rfl
        rw [List.filterMap_cons_some live]
        cases moved_live : liveTask moved with
        | none =>
            rw [List.filterMap_cons_none moved_live]
            exact List.sublist_cons_self _ _
        | some task =>
            have same : task = process.task := by
              unfold liveTask at moved_live
              split at moved_live
              · cases moved_live
              · rw [← Option.some.inj moved_live, task_eq]
            rw [List.filterMap_cons_some moved_live, same]

theorem liveTasks_execute (executor : Executor World Call) (plan : RepairPlan) :
    (executor.act config transferFn (.execute plan)).liveTasks =
      executor.liveTasks ++ plan.tasks := by
  simp [act, liveTasks, unspawned]

/-! ## Targets -/

/-- The variables of the loop in which a task stands. -/
def loopVariables : Phase Call → Option Attempts
  | .reportRetry _ attempts | .sleep _ attempts | .transfer _ attempts _ |
    .reportCompletion _ attempts => some attempts
  | _ => none

/-- The targets that are left to a task are among its targets. -/
def TargetsPlanned (process : Process Call) : Prop :=
  ∀ attempts, loopVariables process.phase = some attempts →
    attempts.targetsFailed ⊆ process.task.targetNodes

theorem record_targetsFailed_subset (attempts : Attempts) (task : RepairTask)
    (outcome : Except ExecutorError (List String)) :
    (attempts.record task outcome).targetsFailed ⊆ attempts.targetsFailed := by
  cases outcome with
  | ok succeeded => exact List.filter_subset_self _
  | error cause => exact List.Subset.refl _

theorem targetsPlanned_afterAttempt {task : RepairTask} {semaphore : Nat} {attempts : Attempts}
    {outcome : Except ExecutorError (List String)}
    (planned : attempts.targetsFailed ⊆ task.targetNodes) :
    TargetsPlanned
      { task, phase := (afterAttempt config task semaphore attempts outcome : Phase Call) } := by
  have fewer := record_targetsFailed_subset attempts task outcome
  intro recorded went_on
  rcases @afterAttempt_cases Call config task semaphore attempts outcome with done | ⟨-, retried⟩
  · rw [done] at went_on
    cases went_on
    exact List.Subset.trans fewer planned
  · rw [retried] at went_on
    cases went_on
    exact List.Subset.trans fewer planned

theorem targetsPlanned_of_step {task : RepairTask} {shared after : Shared World}
    {phase next : Phase Call} (step : TaskStep config transferFn task shared phase after next)
    (planned : TargetsPlanned { task, phase }) : TargetsPlanned { task, phase := next } := by
  intro attempts went_on
  cases step with
  | reportRunning _ =>
      cases went_on
      exact List.Subset.refl _
  | reportRetry _ | slept | resumed _ => exact planned attempts went_on
  | returned _ | timedOut => exact targetsPlanned_afterAttempt (planned _ rfl) attempts went_on
  | _ => cases went_on

/-! ## The limit -/

/-- The tasks that transfer to a node are at most as many as can at the same time. -/
theorem writers_le_writingLoad {executor : Executor World Call}
    (accounts : Accounts config executor)
    (planned : ∀ process ∈ executor.pool.processes, TargetsPlanned process) (target : String) :
    executor.writers target ≤ writingLoad config executor.liveTasks target := by
  have writer : ∀ process ∈ executor.pool.processes,
      (transferTargets process).contains target = true →
        transferring process = true ∧ liveTask process = some process.task ∧
          process.task.targetNodes.contains target = true := by
    intro process member written
    have kept := planned process member
    obtain ⟨task, phase⟩ := process
    cases phase with
    | transfer semaphore attempts call =>
        refine ⟨rfl, rfl, ?_⟩
        rw [List.contains_iff_mem] at written ⊢
        exact kept attempts rfl written
    | _ => simp [transferTargets] at written
  refine le_min ?_ ?_
  · refine le_trans (List.countP_mono_left ?_) accounts.withinLimits.concurrent
    intro process member written
    exact (writer process member written).1
  · refine le_trans (Pool.countP_le_sum _ _ (fun process => process.task.sourceNode)
      (executor.liveTasks.map RepairTask.sourceNode).toFinset ?_) ?_
    · intro process member written
      obtain ⟨-, live, -⟩ := writer process member written
      rw [List.mem_toFinset]
      refine List.mem_map_of_mem (List.mem_append_left _ ?_)
      exact List.mem_filterMap.mpr ⟨process, member, live⟩
    · refine Finset.sum_le_sum fun source _ => le_min ?_ ?_
      · refine le_trans (List.countP_mono_left ?_) (accounts.perSource source)
        intro process member counted
        simp only [Bool.and_eq_true] at counted ⊢
        exact ⟨(writer process member counted.1).1, counted.2⟩
      · rw [liveTasks, List.countP_append, List.countP_filterMap]
        refine le_trans (List.countP_mono_left ?_) (Nat.le_add_right _ _)
        intro process member counted
        simp only [Bool.and_eq_true] at counted
        obtain ⟨-, live, targeted⟩ := writer process member counted.1
        rw [live]
        simp only [joins, Bool.and_eq_true, Option.map_some, Option.getD_some]
        exact ⟨counted.2, targeted⟩

/-- The accounts are in balance, and the tasks that are live cannot exceed the limit. -/
structure LimitKept (config : ExecutorConfig) (executor : Executor World Call) : Prop where
  accounts : Accounts config executor
  planned : ∀ process ∈ executor.pool.processes, TargetsPlanned process
  load : ∀ target, writingLoad config executor.liveTasks target ≤ config.maxPerTarget

theorem LimitKept.act {executor : Executor World Call} (kept : LimitKept config executor)
    (action : Action Event) (within : StartsWithinLimit config executor action) :
    LimitKept config (executor.act config transferFn action) where
  accounts := kept.accounts.act action
  planned := by
    rcases act_cases config transferFn executor action with ⟨world, progress, changed⟩ |
      ⟨task, spawned⟩ | ⟨index, move, moved⟩
    · rw [changed]
      exact kept.planned
    · rw [spawned]
      intro process member
      rcases Pool.mem_spawn.mp member with earlier | rfl
      · exact kept.planned process earlier
      · intro attempts went_on
        cases went_on
    · rw [moved]
      apply @Pool.all_move _ _ _ _ (fun _ process => TargetsPlanned process)
      · intro process shared next member stepped
        obtain ⟨task_eq, step⟩ := taskStep_of_executeTask stepped
        have planned := targetsPlanned_of_step step (kept.planned process member)
        rw [← task_eq] at planned
        exact planned
      · intro _ _ _ _ _ _ _ planned
        exact planned
      · exact kept.planned
  load := by
    intro target
    cases action with
    | execute plan =>
        rw [liveTasks_execute]
        exact within target
    | _ =>
        refine le_trans (writingLoad_mono config (liveTasks_act executor _ ?_) target)
          (kept.load target)
        intro plan started
        cases started

theorem limitKept_of_new {start : Executor World Call} {world : World}
    (created : start = new config world ∨ start = withProgress config world) :
    LimitKept config start := by
  have load : ∀ target, writingLoad config [] target ≤ config.maxPerTarget := by
    intro target
    simp [writingLoad]
  rcases created with rfl | rfl
  · exact ⟨accounts_new world, (fun _ member => nomatch member), load⟩
  · exact ⟨accounts_withProgress world, (fun _ member => nomatch member), load⟩

/-- In every run in which each plan that is started leaves the limit out of reach, the limit on
the transfers to one node holds at every point. -/
theorem writing_side_limited (config : ExecutorConfig) (transferFn : TransferFn World Call Event)
    (world : World) (start : Executor World Call)
    (created : start = new config world ∨ start = withProgress config world)
    (actions : List (Action Event))
    (within : EveryStep (act config transferFn) (StartsWithinLimit config) start actions) :
    EveryState (act config transferFn) (TargetsLimited config) start actions := by
  have kept : EveryState (act config transferFn) (LimitKept config) start actions :=
    everyState_of_everyStep (fun _ action kept within => kept.act action within)
      (limitKept_of_new created) within
  refine kept.mono fun executor limited target => ?_
  exact (writers_le_writingLoad limited.accounts limited.planned target).trans
    (limited.load target)

end Steps

/-! ## Four tasks with one target -/

namespace FourTasks

/-- A task that copies a chunk to one node. -/
def task (number : Nat) (source : String) : RepairTask :=
  { taskId := Planner.taskName number
    chunkId := [UInt8.ofNat number]
    sourceNode := source
    targetNodes := ["target"]
    chunkSize := 1024 * 1024
    priority := 800
    issue :=
      { chunkId := [UInt8.ofNat number]
        health := .underReplicated 1 2
        currentNodes := [source]
        fileId := none
        priority := 800 } }

/-- The plan with a task for each of the given sources. -/
def plan (sources : List String) : RepairPlan :=
  (sources.zipIdx 1).foldl (fun plan entry => plan.addTask (task entry.2 entry.1)) .default

/-- Transfers end as the environment decides. -/
def anyTransfer : TransferFn Unit Unit (Except String (List String)) where
  call _ _ _ _ := ()
  resume _ _ outcome := ((), .inr outcome)
  abandon _ _ := ()
  background _ _ := ()

/-- All four tasks are spawned and go as far as they can without the end of a transfer. -/
def actions (sources : List String) : List (Action (Except String (List String))) :=
  [.execute (plan sources), .spawn 0, .spawn 0, .spawn 0, .spawn 0] ++
    [0, 1, 2, 3].flatMap fun index => List.replicate 6 (.task index .proceed)

/-- With one source its permits are enough for the limit. -/
theorem limited_one_source :
    EveryState (act .default anyTransfer) (TargetsLimited .default)
      (withProgress .default ()) (actions ["source", "source", "source", "source"]) := by
  refine writing_side_limited .default anyTransfer () _ (.inr rfl) _ ?_
  refine ⟨?_, by repeat constructor⟩
  intro target
  refine le_trans (min_le_right _ _) (le_trans (Finset.sum_le_card_nsmul _ _ 3 ?_) (by decide))
  intro source _
  exact min_le_left _ _

/-- With four sources all four tasks transfer to the same node, of which the limit allows three. -/
theorem unlimited_four_sources :
    ¬ EveryState (act .default anyTransfer) (TargetsLimited .default)
      (withProgress .default ()) (actions ["a", "b", "c", "d"]) := by
  intro every
  exact absurd (every.last "target") (by decide)

end FourTasks

end CyxCloud.Rebalancer.Executor
