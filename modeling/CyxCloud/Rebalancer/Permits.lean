import CyxCloud.Rebalancer.Executor

/-!
# Permits of the executor

What a task can do next, and the accounts of the permits: of every semaphore, the available permits
and those that tasks hold are as many as the limit.  All the tasks with one source use one
semaphore, so the limits hold for the tasks inside the transfer function.
-/

namespace CyxCloud.Rebalancer

open CyxCloud.Core Library

variable {World Call Event : Type*}

/-! ## Steps of a task -/

section Steps

variable (config : ExecutorConfig) (transferFn : TransferFn World Call Event) (task : RepairTask)

/-- What a task can do next. -/
inductive TaskStep : Shared World → Phase Call → Shared World → Phase Call → Prop where
  | reportPending {shared after : Shared World}
      (sent : shared.reportProgress (task.update .pending) = some after) :
      TaskStep shared .reportPending after .acquireGlobal
  | acquireGlobal {shared : Shared World} {available : Nat}
      (permits : shared.globalSemaphore = available + 1) :
      TaskStep shared .acquireGlobal { shared with globalSemaphore := available } .findSemaphore
  | found {shared : Shared World} {semaphore : Nat}
      (known : shared.nodeSemaphores task.sourceNode = some semaphore) :
      TaskStep shared .findSemaphore shared (.acquireSource semaphore)
  | missing {shared : Shared World} (unknown : shared.nodeSemaphores task.sourceNode = none) :
      TaskStep shared .findSemaphore shared .createSemaphore
  | entered {shared : Shared World} :
      TaskStep shared .createSemaphore (shared.entry config task.sourceNode).1
        (.acquireSource (shared.entry config task.sourceNode).2)
  | acquireSource {shared : Shared World} {semaphore available : Nat}
      (permits : shared.semaphores[semaphore]? = some (available + 1)) :
      TaskStep shared (.acquireSource semaphore)
        { shared with semaphores := shared.semaphores.set semaphore available }
        (.reportRunning semaphore)
  | reportRunning {shared after : Shared World} {semaphore : Nat}
      (sent : shared.reportProgress (task.update .running) = some after) :
      TaskStep shared (.reportRunning semaphore) after
        (startTransfer transferFn task semaphore (.first task))
  | reportRetry {shared after : Shared World} {semaphore : Nat} {attempts : Attempts}
      (sent : shared.reportProgress (task.update (.retrying attempts.attempt)) = some after) :
      TaskStep shared (.reportRetry semaphore attempts) after (.sleep semaphore attempts)
  | slept {shared : Shared World} {semaphore : Nat} {attempts : Attempts} :
      TaskStep shared (.sleep semaphore attempts) shared
        (startTransfer transferFn task semaphore attempts)
  | resumed {shared : Shared World} {semaphore : Nat} {attempts : Attempts} {call next : Call}
      {event : Event} {world : World}
      (resumes : transferFn.resume shared.world call event = (world, .inl next)) :
      TaskStep shared (.transfer semaphore attempts call) { shared with world }
        (.transfer semaphore attempts next)
  | returned {shared : Shared World} {semaphore : Nat} {attempts : Attempts} {call : Call}
      {event : Event} {world : World} {outcome : Except String (List String)}
      (returns : transferFn.resume shared.world call event = (world, .inr outcome)) :
      TaskStep shared (.transfer semaphore attempts call) { shared with world }
        (afterAttempt config task semaphore attempts (outcome.mapError .transferFailed))
  | timedOut {shared : Shared World} {semaphore : Nat} {attempts : Attempts} {call : Call} :
      TaskStep shared (.transfer semaphore attempts call)
        { shared with world := transferFn.abandon shared.world call }
        (afterAttempt config task semaphore attempts (.error .timeout))
  | panicked {shared : Shared World} {semaphore : Nat} {attempts : Attempts} {call : Call} :
      TaskStep shared (.transfer semaphore attempts call)
        { shared with world := transferFn.abandon shared.world call } (.returnSource semaphore none)
  | reportCompletion {shared after : Shared World} {semaphore : Nat} {attempts : Attempts}
      (sent : shared.reportProgress (attempts.completion task) = some after) :
      TaskStep shared (.reportCompletion semaphore attempts) after
        (.returnSource semaphore (some (attempts.result task)))
  | returnSource {shared : Shared World} {semaphore : Nat} {result : Option TaskResult} :
      TaskStep shared (.returnSource semaphore result)
        { shared with semaphores := shared.semaphores.modify semaphore (· + 1) }
        (.returnGlobal result)
  | returnGlobal {shared : Shared World} {result : Option TaskResult} :
      TaskStep shared (.returnGlobal result)
        { shared with globalSemaphore := shared.globalSemaphore + 1 } (.finished result)

variable {config transferFn}

theorem taskStep_of_executeTask {shared after : Shared World} {process moved : Process Call}
    {move : Move Event}
    (stepped : executeTask config transferFn shared process move = some (after, moved)) :
    moved.task = process.task ∧
      TaskStep config transferFn process.task shared process.phase after moved.phase := by
  obtain ⟨task, phase⟩ := process
  cases phase with
  | reportPending =>
      cases move with
      | proceed =>
          obtain ⟨_, sent, same⟩ := Option.bind_eq_some_iff.mp stepped
          cases same
          exact ⟨rfl, .reportPending sent⟩
      | _ => cases stepped
  | acquireGlobal =>
      cases move with
      | proceed =>
          simp only [executeTask] at stepped
          split at stepped
          · cases stepped
          · rename_i permits
            cases stepped
            exact ⟨rfl, .acquireGlobal permits⟩
      | _ => cases stepped
  | findSemaphore =>
      cases move with
      | proceed =>
          simp only [executeTask] at stepped
          split at stepped
          · rename_i known
            cases stepped
            exact ⟨rfl, .found known⟩
          · rename_i unknown
            cases stepped
            exact ⟨rfl, .missing unknown⟩
      | _ => cases stepped
  | createSemaphore =>
      cases move with
      | proceed =>
          cases stepped
          exact ⟨rfl, .entered⟩
      | _ => cases stepped
  | acquireSource semaphore =>
      cases move with
      | proceed =>
          simp only [executeTask] at stepped
          split at stepped
          · rename_i permits
            cases stepped
            exact ⟨rfl, .acquireSource permits⟩
          · cases stepped
      | _ => cases stepped
  | reportRunning semaphore =>
      cases move with
      | proceed =>
          obtain ⟨_, sent, same⟩ := Option.bind_eq_some_iff.mp stepped
          cases same
          exact ⟨rfl, .reportRunning sent⟩
      | _ => cases stepped
  | reportRetry semaphore attempts =>
      cases move with
      | proceed =>
          obtain ⟨_, sent, same⟩ := Option.bind_eq_some_iff.mp stepped
          cases same
          exact ⟨rfl, .reportRetry sent⟩
      | _ => cases stepped
  | sleep semaphore attempts =>
      cases move with
      | proceed =>
          cases stepped
          exact ⟨rfl, .slept⟩
      | _ => cases stepped
  | transfer semaphore attempts call =>
      cases move with
      | proceed => cases stepped
      | transfer event =>
          simp only [executeTask] at stepped
          split at stepped
          · rename_i resumes
            cases stepped
            exact ⟨rfl, .resumed resumes⟩
          · rename_i returns
            cases stepped
            exact ⟨rfl, .returned returns⟩
      | timeout =>
          cases stepped
          exact ⟨rfl, .timedOut⟩
      | panic =>
          cases stepped
          exact ⟨rfl, .panicked⟩
  | reportCompletion semaphore attempts =>
      cases move with
      | proceed =>
          obtain ⟨_, sent, same⟩ := Option.bind_eq_some_iff.mp stepped
          cases same
          exact ⟨rfl, .reportCompletion sent⟩
      | _ => cases stepped
  | returnSource semaphore result =>
      cases move with
      | proceed =>
          cases stepped
          exact ⟨rfl, .returnSource⟩
      | _ => cases stepped
  | returnGlobal result =>
      cases move with
      | proceed =>
          cases stepped
          exact ⟨rfl, .returnGlobal⟩
      | _ => cases stepped
  | finished result => cases move <;> cases stepped

end Steps

/-- Reporting progress changes the channel only. -/
theorem reportProgress_eq {shared after : Shared World} {update : ProgressUpdate}
    (sent : shared.reportProgress update = some after) :
    after = { shared with progress := after.progress } := by
  unfold Shared.reportProgress at sent
  split at sent
  · cases sent
    rfl
  · split at sent
    · split at sent
      · cases sent
        rfl
      · cases sent
    · cases sent
      rfl

/-! ## Accounts -/

namespace Phase

/-- Global permits that a task holds. -/
def globalPermits : Phase Call → Nat
  | .reportPending | .acquireGlobal | .finished _ => 0
  | _ => 1

/-- The semaphore of the source that a task uses. -/
def semaphore : Phase Call → Option Nat
  | .acquireSource semaphore | .reportRunning semaphore | .reportRetry semaphore _ |
    .sleep semaphore _ | .transfer semaphore _ _ | .reportCompletion semaphore _ |
    .returnSource semaphore _ => some semaphore
  | _ => none

/-- Permits of a semaphore that a task holds. -/
def sourcePermits (counted : Nat) : Phase Call → Nat
  | .reportRunning semaphore | .reportRetry semaphore _ | .sleep semaphore _ |
    .transfer semaphore _ _ | .reportCompletion semaphore _ | .returnSource semaphore _ =>
      if semaphore = counted then 1 else 0
  | _ => 0

end Phase

section AfterAttempt

variable (config : ExecutorConfig) (task : RepairTask) (semaphore : Nat) (attempts : Attempts)
  (outcome : Except ExecutorError (List String))

/-- After an attempt a task retries, if it may, or reports completion. -/
theorem afterAttempt_cases :
    (afterAttempt config task semaphore attempts outcome : Phase Call) =
        .reportCompletion semaphore (attempts.record task outcome) ∨
      attempts.attempt < config.maxRetries ∧
        (afterAttempt config task semaphore attempts outcome : Phase Call) =
          .reportRetry semaphore
            { attempts.record task outcome with attempt := attempts.attempt + 1 } := by
  simp only [afterAttempt]
  split
  · exact .inl rfl
  · split
    · rename_i more
      exact .inr ⟨more, rfl⟩
    · exact .inl rfl

@[simp]
theorem globalPermits_afterAttempt :
    (afterAttempt config task semaphore attempts outcome : Phase Call).globalPermits = 1 := by
  rcases @afterAttempt_cases Call config task semaphore attempts outcome with done | ⟨-, retried⟩
  · rw [done]
    rfl
  · rw [retried]
    rfl

@[simp]
theorem semaphore_afterAttempt :
    (afterAttempt config task semaphore attempts outcome : Phase Call).semaphore =
      some semaphore := by
  rcases @afterAttempt_cases Call config task semaphore attempts outcome with done | ⟨-, retried⟩
  · rw [done]
    rfl
  · rw [retried]
    rfl

@[simp]
theorem sourcePermits_afterAttempt (counted : Nat) :
    (afterAttempt config task semaphore attempts outcome : Phase Call).sourcePermits counted =
      if semaphore = counted then 1 else 0 := by
  rcases @afterAttempt_cases Call config task semaphore attempts outcome with done | ⟨-, retried⟩
  · rw [done]
    rfl
  · rw [retried]
    rfl

end AfterAttempt

/-- Available permits of a semaphore; one that is not made yet has them all. -/
def Shared.available (config : ExecutorConfig) (shared : Shared World) (semaphore : Nat) : Nat :=
  shared.semaphores[semaphore]?.getD config.maxPerSource

/-- The map of the semaphores points into their list. -/
def Shared.Mapped (shared : Shared World) : Prop :=
  ∀ node semaphore, shared.nodeSemaphores node = some semaphore →
    semaphore < shared.semaphores.length

/-- A task uses the semaphore of its source. -/
def UsesSource (shared : Shared World) (process : Process Call) : Prop :=
  ∀ semaphore, process.phase.semaphore = some semaphore →
    shared.nodeSemaphores process.task.sourceNode = some semaphore

section Entry

variable (config : ExecutorConfig) {shared : Shared World}

theorem entry_known (nodeId : String) :
    (shared.entry config nodeId).1.nodeSemaphores nodeId =
      some (shared.entry config nodeId).2 := by
  unfold Shared.entry
  split
  · assumption
  · simp

theorem entry_keeps (nodeId : String) {node : String} {semaphore : Nat}
    (known : shared.nodeSemaphores node = some semaphore) :
    (shared.entry config nodeId).1.nodeSemaphores node = some semaphore := by
  unfold Shared.entry
  split
  · exact known
  · rename_i unknown
    have different : node ≠ nodeId := by
      rintro rfl
      rw [unknown] at known
      cases known
    simpa [Function.update_of_ne different] using known

theorem entry_mapped (nodeId : String) (mapped : shared.Mapped) :
    (shared.entry config nodeId).1.Mapped := by
  unfold Shared.entry
  split
  · exact mapped
  · intro node semaphore known
    simp only [List.length_append, List.length_singleton] at known ⊢
    by_cases same : node = nodeId
    · rw [same, Function.update_self] at known
      cases known
      exact Nat.lt_succ_self _
    · rw [Function.update_of_ne same] at known
      exact Nat.lt_succ_of_lt (mapped node semaphore known)

theorem entry_available (nodeId : String) (semaphore : Nat) :
    (shared.entry config nodeId).1.available config semaphore =
      shared.available config semaphore := by
  unfold Shared.entry
  split
  · rfl
  · simp only [Shared.available]
    rcases lt_trichotomy semaphore shared.semaphores.length with made | new | later
    · rw [List.getElem?_append_left made]
    · subst new
      simp
    · rw [List.getElem?_eq_none (by simp; omega), List.getElem?_eq_none (by omega)]

theorem entry_globalSemaphore (nodeId : String) :
    (shared.entry config nodeId).1.globalSemaphore = shared.globalSemaphore := by
  unfold Shared.entry
  split <;> rfl

end Entry

namespace TaskStep

variable {config : ExecutorConfig} {transferFn : TransferFn World Call Event} {task : RepairTask}
  {shared after : Shared World} {phase next : Phase Call}

theorem mapped (step : TaskStep config transferFn task shared phase after next)
    (mapped : shared.Mapped) : after.Mapped := by
  cases step with
  | reportPending sent | reportRunning sent | reportRetry sent | reportCompletion sent =>
      rw [reportProgress_eq sent]
      exact mapped
  | entered => exact entry_mapped config _ mapped
  | acquireSource permits =>
      intro node semaphore known
      simpa using mapped node semaphore known
  | returnSource =>
      intro node semaphore known
      simpa using mapped node semaphore known
  | _ => exact mapped

/-- The map of the semaphores only grows. -/
theorem keeps_known (step : TaskStep config transferFn task shared phase after next)
    {node : String} {semaphore : Nat} (known : shared.nodeSemaphores node = some semaphore) :
    after.nodeSemaphores node = some semaphore := by
  cases step with
  | reportPending sent | reportRunning sent | reportRetry sent | reportCompletion sent =>
      rw [reportProgress_eq sent]
      exact known
  | entered => exact entry_keeps config _ known
  | _ => exact known

theorem usesSource (step : TaskStep config transferFn task shared phase after next)
    (uses : UsesSource shared { task, phase }) : UsesSource after { task, phase := next } := by
  intro semaphore used
  cases step with
  | found known =>
      cases used
      exact known
  | entered =>
      cases used
      exact entry_known config task.sourceNode
  | reportRunning sent | reportRetry sent | reportCompletion sent =>
      rw [reportProgress_eq sent]
      exact uses semaphore used
  | returned _ | timedOut =>
      rw [semaphore_afterAttempt] at used
      exact uses semaphore used
  | acquireSource _ | slept | resumed _ | panicked => exact uses semaphore used
  | reportPending _ | acquireGlobal _ | missing _ | returnSource | returnGlobal => cases used

/-- A step moves global permits between the semaphore and the task. -/
theorem globalPermits (step : TaskStep config transferFn task shared phase after next) :
    after.globalSemaphore + next.globalPermits = shared.globalSemaphore + phase.globalPermits := by
  cases step with
  | reportPending sent | reportRunning sent | reportRetry sent | reportCompletion sent =>
      rw [reportProgress_eq sent]
      rfl
  | acquireGlobal permits =>
      rw [permits]
      rfl
  | entered =>
      rw [entry_globalSemaphore]
      rfl
  | returned _ | timedOut =>
      rw [globalPermits_afterAttempt]
      rfl
  | _ => rfl

/-- A step moves permits of a source between its semaphore and the task. -/
theorem sourcePermits (step : TaskStep config transferFn task shared phase after next)
    (mapped : shared.Mapped) (uses : UsesSource shared { task, phase }) (semaphore : Nat) :
    after.available config semaphore + next.sourcePermits semaphore =
      shared.available config semaphore + phase.sourcePermits semaphore := by
  cases step with
  | reportPending sent | reportRunning sent | reportRetry sent | reportCompletion sent =>
      rw [reportProgress_eq sent]
      rfl
  | entered =>
      rw [entry_available]
      rfl
  | @acquireSource own left permits =>
      obtain ⟨inside, value⟩ := List.getElem?_eq_some_iff.mp permits
      by_cases same : own = semaphore
      · subst same
        simp [Shared.available, Phase.sourcePermits, inside, value]
      · simp [Shared.available, Phase.sourcePermits, same]
  | @returnSource own result =>
      have inside : own < shared.semaphores.length := mapped _ _ (uses own rfl)
      by_cases same : own = semaphore
      · subst same
        simp [Shared.available, Phase.sourcePermits, inside]
      · simp [Shared.available, Phase.sourcePermits, same]
  | returned _ | timedOut =>
      rw [sourcePermits_afterAttempt]
      rfl
  | _ => rfl

end TaskStep

/-! ## Runs -/

namespace Executor

variable (config : ExecutorConfig) (transferFn : TransferFn World Call Event)

/-- The tasks that are still to be spawned. -/
def unspawned (executor : Executor World Call) : List RepairTask :=
  executor.executions.flatMap Execution.remaining

/-- A call of `execute` that comes to its next task skips or spawns it. -/
theorem spawnNext_of_task {executor : Executor World Call} {index : Nat} {execution : Execution}
    {task : RepairTask} {remaining : List RepairTask}
    (known : executor.executions[index]? = some execution)
    (next : execution.remaining = task :: remaining) :
    ∃ before after, executor.unspawned = before ++ task :: after ∧
      (executor.spawnNext index).unspawned = before ++ after ∧
        ((executor.spawnNext index).pool = executor.pool ∨
          (executor.spawnNext index).pool =
            executor.pool.spawn { task, phase := .reportPending }) := by
  obtain ⟨inside, rfl⟩ := List.getElem?_eq_some_iff.mp known
  simp only [spawnNext, known, next]
  refine ⟨(executor.executions.take index).flatMap Execution.remaining,
    remaining ++ (executor.executions.drop (index + 1)).flatMap Execution.remaining, ?_, ?_⟩
  · rw [unspawned]
    nth_rewrite 1 [← List.take_append_drop index executor.executions]
    rw [List.drop_eq_getElem_cons inside, List.flatMap_append, List.flatMap_cons, next]
    rfl
  · split
    · refine ⟨?_, .inl rfl⟩
      rw [unspawned, List.set_eq_take_append_cons_drop, if_pos inside, List.flatMap_append,
        List.flatMap_cons]
    · refine ⟨?_, .inr rfl⟩
      rw [unspawned, List.set_eq_take_append_cons_drop, if_pos inside, List.flatMap_append,
        List.flatMap_cons]

/-- A call of `execute` that has come to all its tasks spawns none. -/
theorem spawnNext_of_none {executor : Executor World Call} {index : Nat}
    (none_left : ∀ execution, executor.executions[index]? = some execution →
      execution.remaining = []) : executor.spawnNext index = executor := by
  simp only [spawnNext]
  split
  · rfl
  · rename_i execution known
    rw [none_left execution known]

/-- A call of `execute` that comes to its next task, if there is one, skips or spawns it. -/
theorem spawnNext_cases (executor : Executor World Call) (index : Nat) :
    executor.spawnNext index = executor ∨
      ∃ before task after, executor.unspawned = before ++ task :: after ∧
        (executor.spawnNext index).unspawned = before ++ after ∧
        ((executor.spawnNext index).pool = executor.pool ∨
          (executor.spawnNext index).pool =
            executor.pool.spawn { task, phase := .reportPending }) := by
  by_cases none_left : ∀ execution, executor.executions[index]? = some execution →
      execution.remaining = []
  · exact .inl (spawnNext_of_none none_left)
  · push Not at none_left
    obtain ⟨execution, known, more⟩ := none_left
    obtain ⟨task, remaining, next⟩ := List.exists_cons_of_ne_nil more
    obtain ⟨before, after, listed, left, pool_eq⟩ := spawnNext_of_task known next
    exact .inr ⟨before, task, after, listed, left, pool_eq⟩

/-- What an action does to the processes: it changes the world or the channel, or spawns a task,
or lets a task move. -/
theorem act_cases (executor : Executor World Call) (action : Action Event) :
    (∃ world progress, (executor.act config transferFn action).pool =
        { executor.pool with shared := { executor.pool.shared with world, progress } }) ∨
      (∃ task, (executor.act config transferFn action).pool =
        executor.pool.spawn { task, phase := .reportPending }) ∨
      ∃ index move, (executor.act config transferFn action).pool =
        executor.pool.move (executeTask config transferFn) index move := by
  cases action with
  | execute plan => exact .inl ⟨_, _, rfl⟩
  | spawn execution =>
      rcases executor.spawnNext_cases execution with same | ⟨_, task, _, -, -, skipped | spawned⟩
      · exact .inl ⟨_, _, congrArg pool same⟩
      · exact .inl ⟨_, _, skipped⟩
      · exact .inr (.inl ⟨task, spawned⟩)
  | shutdown => exact .inl ⟨_, _, rfl⟩
  | receive => exact .inl ⟨_, _, rfl⟩
  | closeReceiver => exact .inl ⟨_, _, rfl⟩
  | background event => exact .inl ⟨_, _, rfl⟩
  | task index move => exact .inr (.inr ⟨index, move, rfl⟩)

/-- The accounts of the permits are in balance. -/
structure Accounts (executor : Executor World Call) : Prop where
  mapped : executor.pool.shared.Mapped
  sources : ∀ process ∈ executor.pool.processes, UsesSource executor.pool.shared process
  global : executor.pool.shared.globalSemaphore +
    executor.pool.total (fun process => process.phase.globalPermits) = config.maxConcurrent
  source : ∀ semaphore, executor.pool.shared.available config semaphore +
    executor.pool.total (fun process => process.phase.sourcePermits semaphore) =
      config.maxPerSource

variable {config transferFn} {executor : Executor World Call}

theorem accounts_new (world : World) :
    Accounts config (new config world : Executor World Call) where
  mapped _ _ known := nomatch known
  sources _ member := nomatch member
  global := rfl
  source _ := rfl

theorem accounts_withProgress (world : World) :
    Accounts config (withProgress config world : Executor World Call) where
  mapped _ _ known := nomatch known
  sources _ member := nomatch member
  global := rfl
  source _ := rfl

theorem Accounts.act (accounts : Accounts config executor) (action : Action Event) :
    Accounts config (executor.act config transferFn action) := by
  rcases act_cases config transferFn executor action with ⟨world, progress, changed⟩ |
    ⟨task, spawned⟩ | ⟨index, move, moved⟩
  · constructor <;> rw [changed]
    · exact accounts.mapped
    · exact accounts.sources
    · exact accounts.global
    · exact accounts.source
  · constructor <;> rw [spawned]
    · exact accounts.mapped
    · intro process member
      rcases Pool.mem_spawn.mp member with earlier | rfl
      · exact accounts.sources process earlier
      · intro semaphore used
        cases used
    · rw [Pool.total_spawn]
      exact accounts.global
    · intro semaphore
      rw [Pool.total_spawn]
      exact accounts.source semaphore
  · constructor <;> rw [moved]
    · rcases @Pool.total_move_cases _ _ _ (executeTask config transferFn) executor.pool index move
        with same | ⟨process, _, shared, next, stepped, shared_eq, _⟩
      · rw [same]
        exact accounts.mapped
      · rw [shared_eq]
        exact (taskStep_of_executeTask stepped).2.mapped accounts.mapped
    · apply Pool.all_move
      · intro process shared next member stepped
        obtain ⟨task_eq, step⟩ := taskStep_of_executeTask stepped
        have uses := step.usesSource (accounts.sources process member)
        rw [← task_eq] at uses
        exact uses
      · intro process shared next other _ _ stepped uses semaphore used
        exact (taskStep_of_executeTask stepped).2.keeps_known (uses semaphore used)
      · exact accounts.sources
    · rw [← accounts.global]
      apply Pool.balance_move Shared.globalSemaphore
      intro process shared next _ stepped
      exact (taskStep_of_executeTask stepped).2.globalPermits
    · intro semaphore
      rw [← accounts.source semaphore]
      apply Pool.balance_move fun shared : Shared World => shared.available config semaphore
      intro process shared next member stepped
      exact (taskStep_of_executeTask stepped).2.sourcePermits accounts.mapped
        (accounts.sources process member) semaphore

/-! ## Limits -/

/-- The task is inside the transfer function. -/
def transferring (process : Process Call) : Bool :=
  match process.phase with
  | .transfer _ _ _ => true
  | _ => false

/-- The task has ended, with a result or with a panic. -/
def ended (process : Process Call) : Bool :=
  match process.phase with
  | .finished _ => true
  | _ => false

/-- The limits on the reading side hold, and permits that are not available are held by tasks that
have not ended. -/
structure WithinLimits (config : ExecutorConfig) (executor : Executor World Call) : Prop where
  concurrent : executor.pool.processes.countP transferring ≤ config.maxConcurrent
  perSource : ∀ node, executor.pool.processes.countP (fun process =>
    transferring process && process.task.sourceNode == node) ≤ config.maxPerSource
  globalPermits : executor.pool.shared.globalSemaphore +
    executor.pool.total (fun process => process.phase.globalPermits) = config.maxConcurrent
  sourcePermits : ∀ semaphore permits,
    executor.pool.shared.semaphores[semaphore]? = some permits →
      permits + executor.pool.total (fun process => process.phase.sourcePermits semaphore) =
        config.maxPerSource
  returned : executor.pool.processes.all ended = true →
    executor.pool.shared.globalSemaphore = config.maxConcurrent ∧
      ∀ permits ∈ executor.pool.shared.semaphores, permits = config.maxPerSource

theorem phase_of_transferring {process : Process Call} (inside : transferring process = true) :
    ∃ semaphore attempts call, process.phase = .transfer semaphore attempts call := by
  unfold transferring at inside
  split at inside
  · exact ⟨_, _, _, by assumption⟩
  · cases inside

theorem phase_of_ended {process : Process Call} (finished : ended process = true) :
    ∃ result, process.phase = .finished result := by
  unfold ended at finished
  split at finished
  · exact ⟨_, by assumption⟩
  · cases finished

/-- At most as many tasks from one source transfer as its semaphore has permits. -/
theorem Accounts.perSource (accounts : Accounts config executor) (node : String) :
    executor.pool.processes.countP (fun process =>
      transferring process && process.task.sourceNode == node) ≤ config.maxPerSource := by
  cases known : executor.pool.shared.nodeSemaphores node with
  | none =>
      rw [List.countP_eq_zero.mpr]
      · exact Nat.zero_le _
      · intro process member counted
        simp only [Bool.and_eq_true, beq_iff_eq] at counted
        obtain ⟨semaphore, attempts, call, phase_eq⟩ := phase_of_transferring counted.1
        have used := accounts.sources process member semaphore (by rw [phase_eq]; rfl)
        rw [counted.2, known] at used
        cases used
  | some semaphore =>
      have held := Nat.le.intro ((Nat.add_comm _ _).trans (accounts.source semaphore))
      refine le_trans (executor.pool.countP_le_total ?_) held
      intro process member counted
      simp only [Bool.and_eq_true, beq_iff_eq] at counted
      obtain ⟨own, attempts, call, phase_eq⟩ := phase_of_transferring counted.1
      have used := accounts.sources process member own (by rw [phase_eq]; rfl)
      rw [counted.2, known] at used
      cases used
      rw [phase_eq]
      exact Nat.le_of_eq (if_pos rfl).symm

theorem total_eq_zero_of_ended {weight : Phase Call → Nat}
    (weightless : ∀ result, weight (.finished result) = 0)
    (all_ended : executor.pool.processes.all ended = true) :
    executor.pool.total (fun process => weight process.phase) = 0 := by
  by_contra some_weight
  obtain ⟨process, member, positive⟩ := Pool.exists_weight_of_total (Nat.pos_of_ne_zero some_weight)
  obtain ⟨result, phase_eq⟩ := phase_of_ended (List.all_eq_true.mp all_ended process member)
  rw [phase_eq, weightless] at positive
  exact Nat.lt_irrefl 0 positive

theorem Accounts.withinLimits (accounts : Accounts config executor) :
    WithinLimits config executor where
  concurrent := by
    have held := Nat.le.intro ((Nat.add_comm _ _).trans accounts.global)
    refine le_trans (executor.pool.countP_le_total ?_) held
    intro process _ counted
    obtain ⟨semaphore, attempts, call, phase_eq⟩ := phase_of_transferring counted
    rw [phase_eq]
    exact Nat.le_refl 1
  perSource := accounts.perSource
  globalPermits := accounts.global
  sourcePermits semaphore permits made := by
    have held := accounts.source semaphore
    rw [Shared.available, made] at held
    exact held
  returned all_ended := by
    constructor
    · have held := accounts.global
      rw [total_eq_zero_of_ended (fun _ => rfl) all_ended] at held
      exact held
    · intro permits member
      obtain ⟨semaphore, made⟩ := List.mem_iff_getElem?.mp member
      have held := accounts.source semaphore
      rw [total_eq_zero_of_ended (fun _ => rfl) all_ended, Shared.available, made] at held
      exact held

/-- Whatever plans an executor is given and in whatever order their tasks move, the limits on the
reading side hold at every point and every permit is returned when its task ends. -/
theorem reading_side_limited (config : ExecutorConfig) (transferFn : TransferFn World Call Event)
    (world : World) (actions : List (Action Event)) :
    EveryState (act config transferFn) (WithinLimits config) (new config world) actions ∧
      EveryState (act config transferFn) (WithinLimits config) (withProgress config world)
        actions := by
  have throughout : ∀ start : Executor World Call, Accounts config start →
      EveryState (act config transferFn) (WithinLimits config) start actions := by
    intro start accounts
    have balanced : EveryState (act config transferFn) (Accounts config) start actions :=
      everyState_of_keeps (fun _ action kept => kept.act action) accounts actions
    exact balanced.mono fun _ kept => kept.withinLimits
  exact ⟨throughout _ (accounts_new world), throughout _ (accounts_withProgress world)⟩

end Executor

end CyxCloud.Rebalancer
