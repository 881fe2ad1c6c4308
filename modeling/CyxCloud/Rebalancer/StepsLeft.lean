import CyxCloud.Rebalancer.ProgressChannel

/-!
# Steps that an executor has left

A task goes through at most one more attempt than it may retry, so the steps that the tasks of the
given plans can still take are bounded, but for the events of transfers that go on.  As long as a
call of `execute` has not returned, some step can be taken if there are permits and room for the
messages.
-/

namespace CyxCloud.Rebalancer.Executor

open CyxCloud.Core Library

variable {World Call Event : Type*}

/-- The steps that a task can still take, at most. -/
def stepsLeft (config : ExecutorConfig) : Phase Call → Nat
  | .reportPending => 3 * config.maxRetries + 10
  | .acquireGlobal => 3 * config.maxRetries + 9
  | .findSemaphore => 3 * config.maxRetries + 8
  | .createSemaphore => 3 * config.maxRetries + 7
  | .acquireSource _ => 3 * config.maxRetries + 6
  | .reportRunning _ => 3 * config.maxRetries + 5
  | .reportRetry _ attempts => 3 * (config.maxRetries - attempts.attempt) + 6
  | .sleep _ attempts => 3 * (config.maxRetries - attempts.attempt) + 5
  | .transfer _ attempts _ => 3 * (config.maxRetries - attempts.attempt) + 4
  | .reportCompletion _ _ => 3
  | .returnSource _ _ => 2
  | .returnGlobal _ => 1
  | .finished _ => 0

/-- The steps of a task with the one that spawns it. -/
def stepsOfTask (config : ExecutorConfig) : Nat := 3 * config.maxRetries + 11

/-- The steps that the calls of `execute` and their tasks can still take, at most. -/
def work (config : ExecutorConfig) (executor : Executor World Call) : Nat :=
  executor.pool.total (fun process => stepsLeft config process.phase) +
    stepsOfTask config * executor.unspawned.length

/-- The work that an action brings. -/
def brings (config : ExecutorConfig) : Action Event → Nat
  | .execute plan => stepsOfTask config * plan.tasks.length
  | _ => 0

/-- A call of `execute` has returned: all its tasks are spawned or skipped, and have ended. -/
def returned (executor : Executor World Call) (execution : Execution) : Prop :=
  execution.remaining = [] ∧ ∀ handle ∈ execution.handles, ∀ process,
    executor.pool.processes[handle]? = some process → ended process = true

section Advances

variable (config : ExecutorConfig) (transferFn : TransferFn World Call Event)

/-- A call of `execute` comes to a task, or a task takes a step that is not an event of a transfer
that goes on. -/
def advances (executor : Executor World Call) : Action Event → Bool
  | .spawn index =>
      match executor.executions[index]? with
      | none => false
      | some execution => !execution.remaining.isEmpty
  | .task index move =>
      match executor.pool.processes[index]? with
      | none => false
      | some process =>
          match executeTask config transferFn executor.pool.shared process move with
          | none => false
          | some (_, moved) => !(transferring process && transferring moved)
  | _ => false

end Advances

/-! ## One task -/

section Step

variable {config : ExecutorConfig} {transferFn : TransferFn World Call Event} {task : RepairTask}
  {shared after : Shared World} {phase next : Phase Call}

@[simp]
theorem transferring_afterAttempt (config : ExecutorConfig) (task other : RepairTask)
    (semaphore : Nat) (attempts : Attempts) (outcome : Except ExecutorError (List String)) :
    transferring ({ task := other, phase := afterAttempt config task semaphore attempts outcome } :
      Process Call) = false := by
  rcases @afterAttempt_cases Call config task semaphore attempts outcome with done | ⟨-, retried⟩
  · rw [done]
    rfl
  · rw [retried]
    rfl

theorem stepsLeft_afterAttempt (config : ExecutorConfig) (task : RepairTask) (semaphore : Nat)
    (attempts : Attempts) (outcome : Except ExecutorError (List String)) :
    stepsLeft config (afterAttempt config task semaphore attempts outcome : Phase Call) <
      3 * (config.maxRetries - attempts.attempt) + 4 := by
  rcases @afterAttempt_cases Call config task semaphore attempts outcome with done |
    ⟨more, retried⟩
  · rw [done]
    simp only [stepsLeft]
    omega
  · rw [retried]
    simp only [stepsLeft]
    omega

/-- A step leaves less steps, unless a transfer goes on. -/
theorem stepsLeft_of_step (step : TaskStep config transferFn task shared phase after next) :
    stepsLeft config next ≤ stepsLeft config phase ∧
      ((transferring { task, phase } && transferring { task, phase := next }) = false →
        stepsLeft config next < stepsLeft config phase) := by
  cases step with
  | resumed _ => exact ⟨Nat.le_refl _, fun left => nomatch left⟩
  | @returned semaphore attempts _ _ _ outcome _ =>
      have less := @stepsLeft_afterAttempt Call config task semaphore attempts
        (outcome.mapError .transferFailed)
      exact ⟨Nat.le_of_lt less, fun _ => less⟩
  | @timedOut semaphore attempts _ =>
      have less := @stepsLeft_afterAttempt Call config task semaphore attempts (.error .timeout)
      exact ⟨Nat.le_of_lt less, fun _ => less⟩
  | @panicked semaphore attempts call =>
      have less : 2 < stepsLeft config (.transfer semaphore attempts call : Phase Call) := by
        simp only [stepsLeft]
        omega
      exact ⟨Nat.le_of_lt less, fun _ => less⟩
  | _ => simp [stepsLeft, startTransfer, Attempts.first]

end Step

/-! ## The executor -/

section Executor

variable {config : ExecutorConfig} {transferFn : TransferFn World Call Event}
  {executor : Executor World Call}

/-- An executor whose call of `execute` comes to a task has less work left. -/
theorem work_spawnNext {index : Nat} {execution : Execution}
    (known : executor.executions[index]? = some execution) (more : execution.remaining ≠ []) :
    work config (executor.spawnNext index) < work config executor := by
  obtain ⟨task, remaining, next⟩ := List.exists_cons_of_ne_nil more
  obtain ⟨before, after, listed, left, pool_eq⟩ := spawnNext_of_task known next
  have pending : stepsLeft config (.reportPending : Phase Call) < stepsOfTask config := by
    simp [stepsLeft, stepsOfTask]
  have one_less : (executor.spawnNext index).unspawned.length + 1 = executor.unspawned.length := by
    rw [listed, left, List.length_append, List.length_append, List.length_cons, Nat.add_assoc]
  simp only [work]
  rw [← one_less, Nat.mul_add, Nat.mul_one]
  rcases pool_eq with skipped | spawned
  · rw [skipped]
    omega
  · simp only [spawned, Pool.total_spawn]
    omega

/-- A task that moves leaves less work, unless its transfer goes on. -/
theorem work_task {index : Nat} {move : Move Event} {process moved : Process Call}
    {shared : Shared World} (found : executor.pool.processes[index]? = some process)
    (stepped : executeTask config transferFn executor.pool.shared process move =
      some (shared, moved)) :
    work config (executor.act config transferFn (.task index move)) ≤ work config executor ∧
      ((transferring process && transferring moved) = false →
        work config (executor.act config transferFn (.task index move)) <
          work config executor) := by
  obtain ⟨task, phase⟩ := process
  obtain ⟨other, next⟩ := moved
  obtain ⟨same, step⟩ := taskStep_of_executeTask stepped
  cases same
  change TaskStep config transferFn task _ phase shared next at step
  obtain ⟨no_more, less⟩ := stepsLeft_of_step step
  have total_eq : _ + stepsLeft config phase = _ + stepsLeft config next :=
    Pool.total_move_of_step found stepped fun process => stepsLeft config process.phase
  simp only [work, Executor.act]
  change _ + stepsOfTask config * executor.unspawned.length ≤ _ ∧ (_ →
    _ + stepsOfTask config * executor.unspawned.length < _)
  constructor
  · omega
  · intro left
    have fewer := less left
    omega

/-- No action leaves more work than there was and than it brings, and one with which the executor
advances leaves less. -/
theorem work_act (executor : Executor World Call) (action : Action Event) :
    work config (executor.act config transferFn action) +
        (if executor.advances config transferFn action then 1 else 0) ≤
      work config executor + brings config action := by
  cases action with
  | execute plan =>
      have unspawned_eq : (executor.act config transferFn (.execute plan)).unspawned =
          executor.unspawned ++ plan.tasks := by
        simp [Executor.act, unspawned]
      simp only [work, brings, advances, unspawned_eq, List.length_append, Nat.mul_add]
      exact Nat.le_of_eq (Nat.add_assoc _ _ _).symm
  | spawn index =>
      rcases known : executor.executions[index]? with _ | execution
      · simp only [advances, brings, Executor.act, known]
        rw [spawnNext_of_none (by simp [known])]
        exact Nat.le_refl _
      · by_cases none_left : execution.remaining = []
        · simp only [advances, brings, Executor.act, known, none_left]
          rw [spawnNext_of_none (by simp [known, none_left])]
          exact Nat.le_refl _
        · have less := @work_spawnNext World Call config executor index execution known none_left
          have goes_on : executor.advances config transferFn (.spawn index) = true := by
            simp [advances, known, none_left]
          rw [goes_on]
          exact less
  | task index move =>
      rcases found : executor.pool.processes[index]? with _ | process
      · simp only [advances, brings, Executor.act, found]
        rw [Pool.move_of_none (by simp [found])]
        exact Nat.le_refl _
      · rcases stepped : executeTask config transferFn executor.pool.shared process move with
          _ | ⟨shared, moved⟩
        · simp only [advances, brings, Executor.act, found, stepped]
          rw [Pool.move_of_none (by simp [found, stepped])]
          exact Nat.le_refl _
        · obtain ⟨no_more, less⟩ := work_task found stepped
          simp only [advances, brings, found, stepped]
          split
          · rename_i goes_on
            exact less ((Bool.not_eq_true' _).mp goes_on)
          · exact no_more
  | shutdown | receive | closeReceiver | background _ => exact Nat.le_refl _

/-- The action needs no answer of the transfer function. -/
def unprompted : Action Event → Bool
  | .spawn _ | .task _ .proceed | .task _ .timeout => true
  | _ => false

/-- With permits and room for the messages, an executor can advance until every call of `execute`
has returned. -/
theorem Supplied.can_advance (supplied : Supplied config executor) {execution : Execution}
    (member : execution ∈ executor.executions) (goes_on : ¬ executor.returned execution) :
    ∃ action : Action Event,
      unprompted action = true ∧ executor.advances config transferFn action = true := by
  by_cases none_left : execution.remaining = []
  · have live : ∃ process ∈ executor.pool.processes, ended process = false := by
      simp only [returned, none_left, true_and] at goes_on
      push Not at goes_on
      obtain ⟨handle, -, process, found, live⟩ := goes_on
      exact ⟨process, List.mem_of_getElem? found, Bool.eq_false_of_not_eq_true live⟩
    obtain ⟨process, process_mem, process_live, moves⟩ := supplied.exists_mover live
    obtain ⟨index, found⟩ := List.mem_iff_getElem?.mp process_mem
    cases inside : transferring process with
    | true =>
        obtain ⟨semaphore, attempts, call, phase_eq⟩ := phase_of_transferring inside
        refine ⟨.task index .timeout, rfl, ?_⟩
        simp [advances, found, executeTask, phase_eq]
    | false =>
        have can : executeTask config transferFn executor.pool.shared process .proceed ≠ none := by
          rw [Ne, ← cannot_move_iff_proceed config transferFn _ inside,
            cannot_move_iff_waits config transferFn _ process_live, moves]
          exact Bool.false_ne_true
        obtain ⟨⟨shared, moved⟩, stepped⟩ := Option.ne_none_iff_exists'.mp can
        refine ⟨.task index .proceed, rfl, ?_⟩
        simp [advances, found, stepped, inside]
  · obtain ⟨index, known⟩ := List.mem_iff_getElem?.mp member
    refine ⟨.spawn index, rfl, ?_⟩
    simp [advances, known, none_left]

end Executor

end CyxCloud.Rebalancer.Executor
