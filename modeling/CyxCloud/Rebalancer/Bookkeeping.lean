import CyxCloud.Rebalancer.AttemptRecords
import CyxCloud.Rebalancer.StepsLeft

/-!
# Bookkeeping of the executor

The runs of an executor are observed: with it stand the plans that it was given and what the
attempts of each of its tasks have reported.
-/

namespace CyxCloud.Rebalancer.Executor

open CyxCloud.Core Library

variable {World Call Event : Type*}

/-! ## Observed runs -/

/-- An executor with the plans of its calls of `execute` and the reports of each of its tasks. -/
structure Observed (World Call : Type*) where
  executor : Executor World Call
  plans : List RepairPlan
  reports : Nat → List Report

/-- An executor that has not been used. -/
def Observed.start (executor : Executor World Call) : Observed World Call :=
  { executor
    plans := []
    reports := fun _ => [] }

/-- The transfer panics. -/
def panics : Move Event → Bool
  | .panic => true
  | _ => false

section Observe

variable (config : ExecutorConfig) (transferFn : TransferFn World Call Event)

/-- The report of the attempt that a move of a task ends. -/
def report (world : World) (process : Process Call) (move : Move Event) : Option Report :=
  match process.phase, move with
  | .transfer _ attempts call, .transfer event =>
      match (transferFn.resume world call event).2 with
      | .inl _ => none
      | .inr outcome => some (attempts.report (outcome.mapError .transferFailed))
  | .transfer _ attempts _, .timeout => some (attempts.report (.error .timeout))
  | _, _ => none

/-- What an action adds to the reports of a task. -/
def newReports (executor : Executor World Call) (action : Action Event) (index : Nat) :
    List Report :=
  match action with
  | .task moving move =>
      if moving = index then
        (executor.pool.processes[index]?.bind fun process =>
          report transferFn executor.pool.shared.world process move).toList
      else
        []
  | _ => []

/-- One thing that happens to an observed executor. -/
def Observed.observe (observed : Observed World Call) (action : Action Event) : Observed World Call :=
  { executor := observed.executor.act config transferFn action
    plans :=
      match action with
      | .execute plan => observed.plans ++ [plan]
      | _ => observed.plans
    reports := fun index =>
      observed.reports index ++ newReports transferFn observed.executor action index }

/-- The tasks of a plan have distinct targets, no transfer panics, and what an attempt reports is
among what it was to reach. -/
def Regular (observed : Observed World Call) (action : Action Event) : Prop :=
  match action with
  | .execute plan => ∀ task ∈ plan.tasks, task.targetNodes.Nodup
  | .task index move =>
      panics move = false ∧ ∀ report ∈ newReports transferFn observed.executor action index,
        report.succeeded ⊆ report.requested
  | _ => True

instance (observed : Observed World Call) : DecidablePred (Regular transferFn observed)
  | .execute _ => inferInstanceAs (Decidable (∀ _ ∈ _, _))
  | .task _ _ => inferInstanceAs (Decidable (_ ∧ ∀ _ ∈ _, _))
  | .spawn _ | .shutdown | .receive | .closeReceiver | .background _ =>
      inferInstanceAs (Decidable True)

end Observe

/-! ## One task -/

/-- What a task has recorded agrees with its reports. -/
def Agrees (process : Process Call) (reports : List Report) : Prop :=
  match process.phase with
  | .reportRetry _ attempts | .sleep _ attempts | .transfer _ attempts _ =>
      Recorded process.task reports attempts
  | .reportCompletion _ attempts => Recorded process.task reports attempts ∧ reports ≠ []
  | .returnSource _ result | .returnGlobal result | .finished result =>
      ∃ kept, result = some kept ∧ kept.Kept process.task reports
  | _ => reports = []

section Task

variable {config : ExecutorConfig} {transferFn : TransferFn World Call Event}
  {shared after : Shared World} {task : RepairTask} {reports : List Report}

theorem agrees_afterAttempt {attempts : Attempts}
    (recorded : Recorded task reports attempts) (distinct : task.targetNodes.Nodup)
    (semaphore : Nat) (outcome : Except ExecutorError (List String))
    (requested : (attempts.report outcome).succeeded ⊆ attempts.targetsFailed) :
    Agrees
      { task, phase := (afterAttempt config task semaphore attempts outcome : Phase Call) }
      (reports ++ [attempts.report outcome]) := by
  have next := recorded.record distinct outcome (by rintro succeeded rfl; exact requested)
  rcases @afterAttempt_cases Call config task semaphore attempts outcome with done | ⟨-, retried⟩
  · rw [done]
    exact ⟨next, by simp⟩
  · rw [retried]
    exact next.numbered _

/-- Only a task inside the transfer function has something to report. -/
theorem report_outside {process : Process Call} (outside : transferring process = false)
    (world : World) (move : Move Event) : report transferFn world process move = none := by
  obtain ⟨task, phase⟩ := process
  cases phase with
  | transfer semaphore attempts call => cases outside
  | _ => cases move <;> rfl

/-- A move that a task cannot make ends no attempt. -/
theorem report_of_cannot {process : Process Call} {move : Move Event}
    (cannot : executeTask config transferFn shared process move = none) :
    report transferFn shared.world process move = none := by
  cases inside : transferring process with
  | false => exact report_outside inside shared.world move
  | true =>
      obtain ⟨task, phase⟩ := process
      obtain ⟨semaphore, attempts, call, phase_eq⟩ := phase_of_transferring inside
      cases phase_eq
      cases move with
      | timeout => cases cannot
      | transfer event =>
          simp only [executeTask] at cannot
          split at cannot <;> cases cannot
      | _ => rfl

/-- A step of a task keeps its records in agreement with its reports. -/
theorem Agrees.step {process moved : Process Call} {move : Move Event}
    (agrees : Agrees process reports) (distinct : process.task.targetNodes.Nodup)
    (stepped : executeTask config transferFn shared process move = some (after, moved))
    (no_panic : panics move = false)
    (requested : ∀ made ∈ report transferFn shared.world process move,
      made.succeeded ⊆ made.requested) :
    Agrees moved (reports ++ (report transferFn shared.world process move).toList) := by
  have task_eq := (taskStep_of_executeTask stepped).1
  have step := (taskStep_of_executeTask stepped).2
  obtain ⟨task, phase⟩ := process
  obtain ⟨other, next⟩ := moved
  cases task_eq
  change TaskStep config transferFn task shared phase after next at step
  cases phase with
  | transfer semaphore attempts call =>
      cases move with
      | proceed => cases stepped
      | panic => cases no_panic
      | timeout =>
          cases stepped
          exact agrees_afterAttempt agrees distinct semaphore _ (List.nil_subset _)
      | transfer event =>
          rcases resumed : transferFn.resume shared.world call event with ⟨world, call | outcome⟩
          · simp only [executeTask, report, resumed] at stepped ⊢
            cases stepped
            rw [Option.toList_none, List.append_nil]
            exact agrees
          · simp only [executeTask, report, resumed] at stepped requested ⊢
            cases stepped
            exact agrees_afterAttempt agrees distinct semaphore _ (requested _ rfl)
  | reportCompletion semaphore attempts =>
      cases step with
      | reportCompletion sent =>
          rw [report_outside rfl, Option.toList_none, List.append_nil]
          exact ⟨_, rfl, agrees.1.result agrees.2⟩
  | reportRunning semaphore =>
      cases step with
      | reportRunning sent =>
          rw [report_outside rfl, Option.toList_none, List.append_nil]
          rw [show reports = [] from agrees]
          exact recorded_first task
  | _ =>
      rw [report_outside rfl, Option.toList_none, List.append_nil]
      cases step <;> exact agrees

end Task

/-! ## The books -/

/-- The tasks of the processes. -/
def tasks (executor : Executor World Call) : List RepairTask :=
  executor.pool.processes.map Process.task

/-- The tasks of a plan are those that its call of `execute` has spawned, those that it has skipped
and those that remain, in this order, and none is skipped before a shutdown. -/
def Covers (executor : Executor World Call) (execution : Execution) (plan : RepairPlan) : Prop :=
  ∃ spawned skipped,
    plan.tasks = spawned ++ skipped ++ execution.remaining ∧
      execution.handles.map (fun handle => executor.tasks[handle]?) = spawned.map some ∧
        execution.skipped = skipped.length ∧ (skipped ≠ [] → executor.shutdown = true)

/-- The books of an executor are in order: the records of its tasks agree with their reports, and
every task is spawned, skipped or to be spawned by one call of `execute`. -/
structure Books (config : ExecutorConfig) (executor : Executor World Call)
    (plans : List RepairPlan) (reports : Nat → List Report) : Prop where
  accounts : Accounts config executor
  agree : ∀ index process, executor.pool.processes[index]? = some process →
    Agrees process (reports index)
  unused : ∀ index, executor.pool.processes.length ≤ index → reports index = []
  distinct : ∀ task ∈ executor.tasks ++ executor.unspawned, task.targetNodes.Nodup
  lengths : executor.executions.length = plans.length
  covers : ∀ (index : Nat) (execution : Execution) (plan : RepairPlan),
    executor.executions[index]? = some execution → plans[index]? = some plan →
      executor.Covers execution plan
  handles : (executor.executions.flatMap Execution.handles).Perm
    (List.range executor.pool.processes.length)

section Books

variable {config : ExecutorConfig} {transferFn : TransferFn World Call Event}
  {executor : Executor World Call} {plans : List RepairPlan} {reports : Nat → List Report}

theorem books_new (world : World) :
    Books config (new config world : Executor World Call) [] fun _ => [] where
  accounts := accounts_new world
  agree _ _ known := nomatch known
  unused _ _ := rfl
  distinct _ member := nomatch member
  lengths := rfl
  covers _ _ _ known := nomatch known
  handles := .nil

theorem books_withProgress (world : World) :
    Books config (withProgress config world : Executor World Call) [] fun _ => [] where
  accounts := accounts_withProgress world
  agree _ _ known := nomatch known
  unused _ _ := rfl
  distinct _ member := nomatch member
  lengths := rfl
  covers _ _ _ known := nomatch known
  handles := .nil

/-- Tasks that are spawned and a shutdown change nothing for a call of `execute`. -/
theorem Covers.mono {later : Executor World Call} {execution : Execution} {plan : RepairPlan}
    (covers : executor.Covers execution plan)
    (known : ∀ handle ∈ execution.handles, later.tasks[handle]? = executor.tasks[handle]?)
    (shuts_down : executor.shutdown = true → later.shutdown = true) :
    later.Covers execution plan := by
  obtain ⟨spawned, skipped, tasks_eq, handles_eq, skipped_eq, after_shutdown⟩ := covers
  refine ⟨spawned, skipped, tasks_eq, ?_, skipped_eq, fun some_skipped =>
    shuts_down (after_shutdown some_skipped)⟩
  rw [← handles_eq]
  exact List.map_congr_left known

/-- What leaves the processes and the calls of `execute` alone keeps the books. -/
theorem Books.of_same (books : Books config executor plans reports)
    {later : Executor World Call} (accounts : Accounts config later)
    (same_processes : later.pool.processes = executor.pool.processes)
    (same_executions : later.executions = executor.executions)
    (shuts_down : executor.shutdown = true → later.shutdown = true) :
    Books config later plans reports := by
  have same_tasks : later.tasks = executor.tasks := congrArg (List.map Process.task) same_processes
  have same_unspawned : later.unspawned = executor.unspawned :=
    congrArg (List.flatMap Execution.remaining) same_executions
  refine ⟨accounts, ?_, ?_, ?_, ?_, ?_, ?_⟩
  · rw [same_processes]
    exact books.agree
  · rw [same_processes]
    exact books.unused
  · rw [same_tasks, same_unspawned]
    exact books.distinct
  · rw [same_executions]
    exact books.lengths
  · rw [same_executions]
    intro index execution plan known given
    exact (books.covers index execution plan known given).mono (fun _ _ => by rw [same_tasks])
      shuts_down
  · rw [same_executions, same_processes]
    exact books.handles

/-- A call of `execute` starts with all tasks of its plan. -/
theorem Books.execute (books : Books config executor plans reports) {plan : RepairPlan}
    (distinct : ∀ task ∈ plan.tasks, task.targetNodes.Nodup) :
    Books config (executor.act config transferFn (.execute plan)) (plans ++ [plan]) reports := by
  refine ⟨books.accounts.act _, books.agree, books.unused, ?_, ?_, ?_, ?_⟩
  · have unspawned_eq : (executor.act config transferFn (.execute plan)).unspawned =
        executor.unspawned ++ plan.tasks := by
      simp [Executor.act, unspawned]
    rw [unspawned_eq, ← List.append_assoc]
    intro task member
    rcases List.mem_append.mp member with earlier | new
    · exact books.distinct task earlier
    · exact distinct task new
  · simp [Executor.act, books.lengths]
  · intro index execution given known given_eq
    simp only [Executor.act] at known
    rcases Nat.lt_or_ge index executor.executions.length with earlier | later
    · rw [List.getElem?_append_left earlier] at known
      rw [List.getElem?_append_left (books.lengths ▸ earlier)] at given_eq
      exact books.covers index execution given known given_eq
    · rw [List.getElem?_append_right later, List.getElem?_singleton] at known
      rw [List.getElem?_append_right (books.lengths ▸ later), List.getElem?_singleton,
        ← books.lengths] at given_eq
      split at known
      · rename_i last
        rw [if_pos last] at given_eq
        cases known
        cases given_eq
        exact ⟨[], [], rfl, rfl, rfl, fun some_skipped => absurd rfl some_skipped⟩
      · cases known
  · simpa [Executor.act] using books.handles

/-- The places of the spawned tasks are places of processes. -/
theorem Books.handle_lt (books : Books config executor plans reports) {execution : Execution}
    (member : execution ∈ executor.executions) {handle : Nat} (spawned : handle ∈ execution.handles) :
    handle < executor.pool.processes.length := by
  have listed := List.mem_flatMap.mpr ⟨execution, member, spawned⟩
  exact List.mem_range.mp (books.handles.mem_iff.mp listed)

/-- A step of one call of `execute` that may spawn a task changes nothing for the others. -/
theorem Books.covers_set (books : Books config executor plans reports) {index : Nat}
    {execution next : Execution} (known : executor.executions[index]? = some execution)
    {later : Executor World Call} (executions_eq : later.executions = executor.executions.set index next)
    (kept_tasks : ∃ spawned, later.tasks = executor.tasks ++ spawned)
    (same_shutdown : later.shutdown = executor.shutdown)
    (own : ∀ plan, executor.Covers execution plan → later.Covers next plan) :
    ∀ (position : Nat) (found : Execution) (plan : RepairPlan),
      later.executions[position]? = some found → plans[position]? = some plan →
        later.Covers found plan := by
  intro position found plan found_eq plan_eq
  rw [executions_eq] at found_eq
  by_cases here : index = position
  · subst here
    rw [List.getElem?_set_self (List.getElem?_eq_some_iff.mp known).1] at found_eq
    cases found_eq
    exact own plan (books.covers index execution plan known plan_eq)
  · rw [List.getElem?_set_ne here] at found_eq
    refine (books.covers position found plan found_eq plan_eq).mono ?_ fun down => ?_
    · intro handle spawned
      obtain ⟨more, tasks_eq⟩ := kept_tasks
      have inside := books.handle_lt (List.mem_of_getElem? found_eq) spawned
      rw [tasks_eq, List.getElem?_append_left (by rwa [tasks, List.length_map])]
    · rw [same_shutdown]
      exact down

theorem Books.distinct_spawnNext (books : Books config executor plans reports) {index : Nat}
    {execution : Execution} {task : RepairTask} {remaining : List RepairTask}
    (known : executor.executions[index]? = some execution)
    (next : execution.remaining = task :: remaining) :
    ∀ other ∈ (executor.spawnNext index).tasks ++ (executor.spawnNext index).unspawned,
      other.targetNodes.Nodup := by
  obtain ⟨before, after, listed, left, pool_eq⟩ := spawnNext_of_task known next
  intro other member
  refine books.distinct other ?_
  rw [left, List.mem_append, List.mem_append] at member
  rw [listed, List.mem_append, List.mem_append, List.mem_cons]
  rcases member with processed | earlier | later
  · rcases pool_eq with same | spawned
    · rw [tasks, same] at processed
      exact .inl processed
    · rw [tasks, spawned, Pool.spawn, List.map_append, List.mem_append] at processed
      rcases processed with processed | new
      · exact .inl processed
      · exact .inr (.inr (.inl (List.mem_singleton.mp new)))
  · exact .inr (.inl earlier)
  · exact .inr (.inr (.inr later))

/-- A call of `execute` skips its next task. -/
theorem Books.skip (books : Books config executor plans reports) {index : Nat}
    (accounts : Accounts config (executor.spawnNext index)) {execution : Execution}
    {task : RepairTask} {remaining : List RepairTask}
    (known : executor.executions[index]? = some execution)
    (next : execution.remaining = task :: remaining) (down : executor.shutdown = true) :
    Books config (executor.spawnNext index) plans reports := by
  have skips : executor.spawnNext index =
      { executor with
        executions := executor.executions.set index
          { execution with
            remaining
            skipped := execution.skipped + 1 } } := by
    simp only [spawnNext, known, next, down, if_true]
  refine ⟨accounts, ?_, ?_, books.distinct_spawnNext known next, ?_, ?_, ?_⟩
  · rw [skips]
    exact books.agree
  · rw [skips]
    exact books.unused
  · rw [skips, List.length_set]
    exact books.lengths
  · refine books.covers_set known (by rw [skips]) ⟨[], by rw [skips]; exact (List.append_nil _).symm⟩
      (by rw [skips]) ?_
    rintro plan ⟨spawned, skipped, tasks_eq, handles_eq, skipped_eq, -⟩
    refine ⟨spawned, skipped ++ [task], ?_, ?_, ?_, fun _ => by rw [skips]; exact down⟩
    · simp [tasks_eq, next]
    · rw [skips]
      exact handles_eq
    · simp [skipped_eq]
  · have same : (executor.spawnNext index).executions.map Execution.handles =
        executor.executions.map Execution.handles := by
      rw [skips]
      exact map_set_of_getElem? known Execution.handles rfl
    rw [List.flatMap_def, same, ← List.flatMap_def, skips]
    exact books.handles

/-- A call of `execute` spawns its next task. -/
theorem Books.spawn (books : Books config executor plans reports) {index : Nat}
    (accounts : Accounts config (executor.spawnNext index)) {execution : Execution}
    {task : RepairTask} {remaining : List RepairTask}
    (known : executor.executions[index]? = some execution)
    (next : execution.remaining = task :: remaining) (up : executor.shutdown = false) :
    Books config (executor.spawnNext index) plans reports := by
  have spawns : executor.spawnNext index =
      { executor with
        pool := executor.pool.spawn { task, phase := .reportPending }
        executions := executor.executions.set index
          { execution with
            remaining
            handles := execution.handles ++ [executor.pool.processes.length] } } := by
    simp only [spawnNext, known, next, up, Bool.false_eq_true, if_false]
  have new_tasks : (executor.spawnNext index).tasks = executor.tasks ++ [task] := by
    rw [spawns, tasks, Pool.spawn, List.map_append]
    rfl
  refine ⟨accounts, ?_, ?_, books.distinct_spawnNext known next, ?_, ?_, ?_⟩
  · intro position process found
    rw [spawns] at found
    rcases Nat.lt_or_ge position executor.pool.processes.length with earlier | later
    · simp only [Pool.spawn, List.getElem?_append_left earlier] at found
      exact books.agree position process found
    · simp only [Pool.spawn, List.getElem?_append_right later, List.getElem?_singleton] at found
      split at found
      · cases found
        exact books.unused position later
      · cases found
  · intro position beyond
    rw [spawns] at beyond
    simp only [Pool.spawn, List.length_append] at beyond
    exact books.unused position (by omega)
  · rw [spawns, List.length_set]
    exact books.lengths
  · refine books.covers_set known (by rw [spawns]) ⟨[task], new_tasks⟩ (by rw [spawns]) ?_
    rintro plan ⟨spawned, skipped, tasks_eq, handles_eq, skipped_eq, after_shutdown⟩
    have none_skipped : skipped = [] := by
      by_contra some_skipped
      rw [after_shutdown some_skipped] at up
      cases up
    subst none_skipped
    refine ⟨spawned ++ [task], [], ?_, ?_, skipped_eq, fun some_skipped => absurd rfl some_skipped⟩
    · simp [tasks_eq, next]
    · rw [List.map_append, List.map_append, ← handles_eq]
      refine congrArg₂ (· ++ ·) (List.map_congr_left ?_) ?_
      · intro handle spawned
        have inside := books.handle_lt (List.mem_of_getElem? known) spawned
        rw [new_tasks, List.getElem?_append_left (by rwa [tasks, List.length_map])]
      · have placed : executor.pool.processes.length = executor.tasks.length :=
          (List.length_map _).symm
        rw [List.map_singleton, List.map_singleton, new_tasks, placed, List.getElem?_concat_length]
  · obtain ⟨inside, execution_eq⟩ := List.getElem?_eq_some_iff.mp known
    have listed : executor.executions = executor.executions.take index ++
        execution :: executor.executions.drop (index + 1) := by
      rw [← execution_eq, ← List.drop_eq_getElem_cons inside, List.take_append_drop]
    have handles := books.handles
    rw [listed, List.flatMap_append, List.flatMap_cons] at handles
    rw [spawns]
    simp only [Pool.spawn, List.length_append, List.length_singleton, List.range_succ]
    rw [List.set_eq_take_append_cons_drop, if_pos inside, List.flatMap_append, List.flatMap_cons]
    refine List.Perm.trans ?_ (handles.append_right _)
    simp only [List.append_assoc]
    exact ((List.perm_append_comm).append_left _).append_left _

/-- A task moves, and its attempt may end. -/
theorem Books.task (books : Books config executor plans reports) {index : Nat} {move : Move Event}
    (no_panic : panics move = false)
    (requested : ∀ made ∈ newReports transferFn executor (.task index move) index,
      made.succeeded ⊆ made.requested) :
    Books config (executor.act config transferFn (.task index move)) plans fun position =>
      reports position ++ newReports transferFn executor (.task index move) position := by
  have accounts := @Accounts.act World Call Event config transferFn executor books.accounts
    (.task index move)
  by_cases cannot : ∀ process, executor.pool.processes[index]? = some process →
      executeTask config transferFn executor.pool.shared process move = none
  · have nothing_new : ∀ position,
        newReports transferFn executor (.task index move) position = [] := by
      intro position
      simp only [newReports]
      split
      · rename_i here
        subst here
        cases found : executor.pool.processes[index]? with
        | none => rfl
        | some process =>
            rw [Option.bind_some, report_of_cannot (cannot process found)]
            rfl
      · rfl
    simp only [nothing_new, List.append_nil]
    simp only [Executor.act, Pool.move_of_none cannot]
    exact books
  · push Not at cannot
    obtain ⟨process, found, can⟩ := cannot
    obtain ⟨⟨shared, moved⟩, stepped⟩ := Option.ne_none_iff_exists'.mp can
    have moves : executor.act config transferFn (.task index move) =
        { executor with pool := ⟨shared, executor.pool.processes.set index moved⟩ } := by
      simp only [Executor.act, Pool.move_of_step found stepped]
    have same_tasks : (executor.act config transferFn (.task index move)).tasks =
        executor.tasks := by
      rw [moves]
      exact map_set_of_getElem? found Process.task (taskStep_of_executeTask stepped).1
    have own : newReports transferFn executor (.task index move) index =
        (report transferFn executor.pool.shared.world process move).toList := by
      simp only [newReports, found, if_true, Option.bind_some]
    refine ⟨accounts, ?_, ?_, ?_, ?_, ?_, ?_⟩
    · intro position other found_other
      rw [moves] at found_other
      by_cases here : index = position
      · subst here
        have inside := (List.getElem?_eq_some_iff.mp found).1
        simp only [List.getElem?_set_self inside] at found_other
        cases found_other
        rw [own] at requested ⊢
        refine (books.agree index process found).step ?_ stepped no_panic ?_
        · refine books.distinct process.task (List.mem_append_left _ ?_)
          exact List.mem_map_of_mem (List.mem_of_getElem? found)
        · intro made reported
          exact requested made (Option.mem_toList.mpr reported)
      · simp only [List.getElem?_set_ne here] at found_other
        simp only [newReports, if_neg here, List.append_nil]
        exact books.agree position other found_other
    · intro position beyond
      rw [moves] at beyond
      simp only [List.length_set] at beyond
      have elsewhere : index ≠ position := by
        rintro rfl
        exact absurd (List.getElem?_eq_some_iff.mp found).1 (Nat.not_lt.mpr beyond)
      simp only [newReports, if_neg elsewhere, List.append_nil]
      exact books.unused position beyond
    · rw [same_tasks, moves]
      exact books.distinct
    · rw [moves]
      exact books.lengths
    · intro position execution plan known given
      rw [moves] at known
      refine (books.covers position execution plan known given).mono (fun _ _ => ?_) fun down => ?_
      · rw [same_tasks]
      · rw [moves]
        exact down
    · rw [moves]
      simp only [List.length_set]
      exact books.handles

/-- A call of `execute` comes to its next task. -/
theorem Books.spawnNext (books : Books config executor plans reports) {index : Nat}
    (accounts : Accounts config (executor.spawnNext index)) :
    Books config (executor.spawnNext index) plans reports := by
  by_cases none_left : ∀ execution, executor.executions[index]? = some execution →
      execution.remaining = []
  · rw [spawnNext_of_none none_left]
    exact books
  · push Not at none_left
    obtain ⟨execution, known, more⟩ := none_left
    obtain ⟨task, remaining, next⟩ := List.exists_cons_of_ne_nil more
    cases flag : executor.shutdown with
    | true => exact books.skip accounts known next flag
    | false => exact books.spawn accounts known next flag

/-- A regular action keeps the books. -/
theorem Books.observe {observed : Observed World Call}
    (books : Books config observed.executor observed.plans observed.reports)
    {action : Action Event} (regular : Regular transferFn observed action) :
    Books config (observed.observe config transferFn action).executor
      (observed.observe config transferFn action).plans
      (observed.observe config transferFn action).reports := by
  have accounts := @Accounts.act World Call Event config transferFn _ books.accounts action
  cases action with
  | task index move => exact books.task regular.1 regular.2
  | execute plan =>
      simp only [Observed.observe, newReports, List.append_nil]
      exact books.execute regular
  | spawn index =>
      simp only [Observed.observe, newReports, List.append_nil]
      exact books.spawnNext accounts
  | shutdown =>
      simp only [Observed.observe, newReports, List.append_nil]
      exact books.of_same accounts rfl rfl fun _ => rfl
  | receive | closeReceiver | background _ =>
      simp only [Observed.observe, newReports, List.append_nil]
      exact books.of_same accounts rfl rfl id

end Books

/-! ## What the books say -/

/-- A returned call of `execute` accounts for every task of its plan once: for each spawned one by
the result of its process, which is a succeeded or a failed one, and for the rest by the number of
skipped ones. -/
def Accounted (executor : Executor World Call) (execution : Execution) (plan : RepairPlan) : Prop :=
  let result := executor.collect execution
  (∃ (spawned : List (RepairTask × TaskResult)) (skipped : List RepairTask),
    plan.tasks = spawned.map Prod.fst ++ skipped ∧
      execution.handles.map (fun handle => executor.pool.processes[handle]?) =
        spawned.map (fun entry =>
          some { task := entry.1, phase := .finished (some entry.2) }) ∧
      result.succeeded = (spawned.map Prod.snd).filter TaskResult.success ∧
      result.failed = (spawned.map Prod.snd).filter (fun result => !result.success) ∧
      result.skipped = skipped.length ∧ (skipped ≠ [] → executor.shutdown = true)) ∧
    result.succeeded.length + result.failed.length + result.skipped = plan.tasks.length

/-- The bookkeeping of an executor: no task requests a target that it has reported succeeded, the
result of a finished task says what was reported, and the calls of `execute` have processes of their
own and account for all tasks when they return. -/
structure Bookkept (observed : Observed World Call) : Prop where
  once : ∀ index, (observed.reports index).Pairwise fun earlier later =>
    earlier.succeeded.Disjoint later.requested
  inFlight : ∀ (index : Nat) (task : RepairTask) (semaphore : Nat) (attempts : Attempts)
    (call : Call), observed.executor.pool.processes[index]? =
        some { task, phase := .transfer semaphore attempts call } →
      ∀ report ∈ observed.reports index, report.succeeded.Disjoint attempts.targetsFailed
  finished : ∀ (index : Nat) (task : RepairTask) (result : Option TaskResult),
    observed.executor.pool.processes[index]? = some { task, phase := .finished result } →
      ∃ kept, result = some kept ∧ kept.Kept task (observed.reports index)
  handles : (observed.executor.executions.flatMap Execution.handles).Perm
    (List.range observed.executor.pool.processes.length)
  accounted : List.Forall₂ (fun execution plan => observed.executor.returned execution →
    observed.executor.Accounted execution plan) observed.executor.executions observed.plans

/-- A call of `execute` that has not returned goes on by itself. -/
def GoesOn (config : ExecutorConfig) (transferFn : TransferFn World Call Event)
    (observed : Observed World Call) : Prop :=
  ∀ execution ∈ observed.executor.executions, ¬ observed.executor.returned execution →
    ∃ action : Action Event, unprompted action = true ∧ Regular transferFn observed action ∧
      observed.executor.advances config transferFn action = true

section Conclusions

variable {config : ExecutorConfig} {transferFn : TransferFn World Call Event}
  {executor : Executor World Call} {plans : List RepairPlan} {reports : Nat → List Report}

/-- The reports of a task request nothing twice that has succeeded. -/
theorem Agrees.once {process : Process Call} {reports : List Report}
    (agrees : Agrees process reports) :
    reports.Pairwise fun earlier later => earlier.succeeded.Disjoint later.requested := by
  obtain ⟨task, phase⟩ := process
  cases phase with
  | reportRetry _ _ | sleep _ _ | transfer _ _ _ => exact Recorded.once agrees
  | reportCompletion _ _ => exact agrees.1.once
  | returnSource _ _ | returnGlobal _ | finished _ =>
      obtain ⟨kept, -, is_kept⟩ := agrees
      exact is_kept.once
  | _ =>
      rw [show reports = [] from agrees]
      exact .nil

theorem Books.once (books : Books config executor plans reports) (index : Nat) :
    (reports index).Pairwise fun earlier later =>
      earlier.succeeded.Disjoint later.requested := by
  rcases Nat.lt_or_ge index executor.pool.processes.length with inside | beyond
  · exact (books.agree index _ (List.getElem?_eq_getElem inside)).once
  · rw [books.unused index beyond]
    exact .nil

/-- What an unprompted action reports is among what was to be reached. -/
theorem regular_of_unprompted {observed : Observed World Call} {action : Action Event}
    (by_itself : unprompted action = true) : Regular transferFn observed action := by
  cases action with
  | spawn index => exact trivial
  | task index move =>
      cases move with
      | transfer event => cases by_itself
      | panic => cases by_itself
      | _ =>
          refine ⟨rfl, fun made member => ?_⟩
          simp only [newReports, if_true] at member
          obtain ⟨process, -, reported⟩ := Option.bind_eq_some_iff.mp (Option.mem_toList.mp member)
          unfold report at reported
          split at reported
          · rename_i same
            cases same
          · cases reported
            exact List.nil_subset _
          · cases reported
  | _ => cases by_itself

/-- The processes of tasks that have all finished with a result. -/
theorem exists_entries {processes : List (Process Call)} {handles : List Nat}
    {spawned : List RepairTask}
    (placed : handles.map (fun handle => (processes.map Process.task)[handle]?) = spawned.map some)
    (finished : ∀ handle ∈ handles, ∀ process, processes[handle]? = some process →
      ∃ result, process.phase = .finished (some result)) :
    ∃ entries : List (RepairTask × TaskResult), entries.map Prod.fst = spawned ∧
      handles.map (fun handle => processes[handle]?) = entries.map fun entry =>
        some { task := entry.1, phase := .finished (some entry.2) } := by
  induction handles generalizing spawned with
  | nil =>
      rw [List.map_nil, eq_comm, List.map_eq_nil_iff] at placed
      exact ⟨[], placed.symm, rfl⟩
  | cons handle handles induction =>
      obtain ⟨task, tasks, rfl, first, rest⟩ := List.map_eq_cons_iff.mp placed.symm
      obtain ⟨entries, tasks_eq, processes_eq⟩ := induction rest.symm fun later member =>
        finished later (List.mem_cons_of_mem _ member)
      have known : (processes.map Process.task)[handle]? = some task := first.symm
      rw [List.getElem?_map, Option.map_eq_some_iff] at known
      obtain ⟨process, found, task_eq⟩ := known
      obtain ⟨result, phase_eq⟩ := finished handle List.mem_cons_self process found
      refine ⟨(task, result) :: entries, by rw [List.map_cons, tasks_eq], ?_⟩
      obtain ⟨own, phase⟩ := process
      cases task_eq
      cases phase_eq
      rw [List.map_cons, List.map_cons, found, processes_eq]

/-- A returned call of `execute` has a result for each of the tasks that it has spawned. -/
theorem Books.accounted (books : Books config executor plans reports) {execution : Execution}
    {plan : RepairPlan} (covers : executor.Covers execution plan)
    (returned : executor.returned execution) : executor.Accounted execution plan := by
  obtain ⟨spawned, skipped, tasks_eq, handles_eq, skipped_eq, after_shutdown⟩ := covers
  rw [returned.1, List.append_nil] at tasks_eq
  have finished : ∀ handle ∈ execution.handles, ∀ process,
      executor.pool.processes[handle]? = some process →
        ∃ result, process.phase = .finished (some result) := by
    intro handle member process found
    obtain ⟨result, phase_eq⟩ := phase_of_ended (returned.2 handle member process found)
    have agrees := books.agree handle process found
    obtain ⟨task, phase⟩ := process
    cases phase_eq
    obtain ⟨kept, rfl, -⟩ := agrees
    exact ⟨kept, rfl⟩
  obtain ⟨entries, rfl, processes_eq⟩ := exists_entries handles_eq finished
  have results_eq : executor.taskResults execution = entries.map Prod.snd := by
    have mapped : executor.taskResults execution =
        (execution.handles.map fun handle => executor.pool.processes[handle]?).filterMap
          fun found => found.bind fun process => process.phase.taskResult := by
      rw [List.filterMap_map]
      rfl
    rw [mapped, processes_eq, List.filterMap_map]
    exact congrFun List.filterMap_eq_map' entries
  refine ⟨⟨entries, skipped, tasks_eq, processes_eq, ?_, ?_, skipped_eq, after_shutdown⟩, ?_⟩
  · simp only [collect, results_eq]
  · simp only [collect, results_eq]
  · have both := List.length_eq_length_filter_add (l := entries.map Prod.snd) TaskResult.success
    simp only [collect, results_eq, skipped_eq, tasks_eq, List.length_append]
    rw [List.length_map] at both ⊢
    omega

theorem Books.bookkept {observed : Observed World Call}
    (books : Books config observed.executor observed.plans observed.reports) :
    Bookkept observed where
  once := books.once
  inFlight index task semaphore attempts call found := by
    have recorded : Recorded task (observed.reports index) attempts := books.agree index _ found
    have distinct : task.targetNodes.Nodup := by
      refine books.distinct task (List.mem_append_left _ ?_)
      exact List.mem_map.mpr ⟨_, List.mem_of_getElem? found, rfl⟩
    intro report member target reported left
    have known := (recorded.succeeded target).mpr ⟨report, member, reported⟩
    exact recorded.disjoint distinct known left
  finished index task result found := books.agree index _ found
  handles := books.handles
  accounted := by
    refine List.forall₂_iff_get.mpr ⟨books.lengths, ?_⟩
    intro index inside given returned
    refine books.accounted (books.covers index _ _ ?_ ?_) returned
    · exact List.getElem?_eq_getElem inside
    · exact List.getElem?_eq_getElem given

theorem goesOn_of_supplied {observed : Observed World Call}
    (supplied : Supplied config observed.executor) : GoesOn config transferFn observed := by
  intro execution member goes_on
  obtain ⟨action, by_itself, advances⟩ :=
    @Supplied.can_advance World Call Event config transferFn _ supplied execution member goes_on
  exact ⟨action, by_itself, regular_of_unprompted by_itself, advances⟩

end Conclusions

/-- The books of every run of an executor: they are kept in every state, every action leaves at most
the work that there was and that it brings, less one if the executor advances with it, and if every
plan is started with positive limits and room for its messages, a call of `execute` goes on until it
returns. -/
def KeepsBooks (config : ExecutorConfig) (transferFn : TransferFn World Call Event)
    (start : Executor World Call) (actions : List (Action Event)) : Prop :=
  EveryState (Observed.observe config transferFn) Bookkept (.start start) actions ∧
    EveryStep (Observed.observe config transferFn) (fun observed action =>
      work config (observed.executor.act config transferFn action) +
          (if observed.executor.advances config transferFn action then 1 else 0) ≤
        work config observed.executor + brings config action) (.start start) actions ∧
    (EveryStep (Observed.observe config transferFn)
        (fun observed => RoomFor config observed.executor) (.start start) actions →
      EveryState (Observed.observe config transferFn) (GoesOn config transferFn) (.start start)
        actions)

/-- Regular actions keep the books. -/
theorem keepsBooks_of_regular {config : ExecutorConfig} {transferFn : TransferFn World Call Event}
    {world : World} {start : Executor World Call}
    (fresh : start ∈ [new config world, withProgress config world]) {actions : List (Action Event)}
    (regular : EveryStep (Observed.observe config transferFn) (Regular transferFn) (.start start)
      actions) : KeepsBooks config transferFn start actions := by
  refine ⟨?_, everyStep_of_forall (fun action _ observed => work_act observed.executor action) _, ?_⟩
  · have keeps : ∀ (observed : Observed World Call) (action : Action Event),
        Books config observed.executor observed.plans observed.reports →
          Regular transferFn observed action →
            Books config (observed.observe config transferFn action).executor
              (observed.observe config transferFn action).plans
              (observed.observe config transferFn action).reports :=
      fun _ _ books met => books.observe met
    have books : Books config (Observed.start start).executor (Observed.start start).plans
        (Observed.start start).reports := by
      rcases List.mem_cons.mp fresh with rfl | last
      · exact books_new world
      · rw [List.mem_singleton.mp last]
        exact books_withProgress world
    have kept := everyState_of_everyStep keeps books regular
    exact kept.mono fun _ books => books.bookkept
  · intro has_room
    have keeps : ∀ (observed : Observed World Call) (action : Action Event),
        Supplied config observed.executor → RoomFor config observed.executor action →
          Supplied config (observed.observe config transferFn action).executor :=
      fun _ _ supplied met => supplied.act met
    have supplied : Supplied config (Observed.start start).executor := by
      rcases List.mem_cons.mp fresh with rfl | last
      · exact supplied_new config world
      · rw [List.mem_singleton.mp last]
        exact supplied_withProgress config world
    exact (everyState_of_everyStep keeps supplied has_room).mono fun _ supplied =>
      goesOn_of_supplied supplied

end CyxCloud.Rebalancer.Executor
