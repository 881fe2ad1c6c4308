import CyxCloud.Library.Pools
import CyxCloud.Library.Runs
import CyxCloud.Rebalancer.Planner

/-!
# Repair executor

`cyxcloud-rebalancer/src/executor.rs`.  The tasks that an executor has spawned are processes over
its semaphores and its progress channel, and move in any order.  The acquisition and the return of
a permit, a section under the lock of the semaphore map and the sending of a message are single
steps.  Nothing closes a semaphore, so no acquisition fails.  Durations are left out, and so are
limits above `2 ^ 61 - 1`, for which there is no semaphore.
-/

namespace CyxCloud.Rebalancer

open CyxCloud.Core Library

/-! ## Data -/

/-- Executor errors. -/
inductive ExecutorError where
  | transferFailed (message : String)
  | timeout
  | sourceUnavailable (node : String)
  | targetUnavailable (node : String)
  | rateLimitExceeded
  | shutdown
  deriving DecidableEq, Repr

/-- The text of an error. -/
def ExecutorError.toText : ExecutorError → String
  | .transferFailed message => "Transfer failed: " ++ message
  | .timeout => "Timeout during transfer"
  | .sourceUnavailable node => "Source node unavailable: " ++ node
  | .targetUnavailable node => "Target node unavailable: " ++ node
  | .rateLimitExceeded => "Rate limit exceeded"
  | .shutdown => "Executor shutdown"

/-- Result of executing a single repair task. -/
structure TaskResult where
  taskId : String
  success : Bool
  error : Option ExecutorError
  bytesTransferred : UInt64
  targetsSucceeded : List String
  targetsFailed : List String
  deriving DecidableEq, Repr

/-- Overall execution result. -/
structure ExecutionResult where
  succeeded : List TaskResult
  failed : List TaskResult
  totalBytes : UInt64
  skipped : Nat
  deriving DecidableEq, Repr

/-- Executor configuration. -/
structure ExecutorConfig where
  maxConcurrent : Nat
  maxPerSource : Nat
  /-- Nothing reads it. -/
  maxPerTarget : Nat
  maxRetries : Nat
  /-- Nothing reads it. -/
  reportProgress : Bool
  deriving DecidableEq, Repr

/-- The default configuration. -/
def ExecutorConfig.default : ExecutorConfig :=
  { maxConcurrent := 10
    maxPerSource := 3
    maxPerTarget := 3
    maxRetries := 3
    reportProgress := true }

/-- Status of a task in a progress update. -/
inductive ProgressStatus where
  | pending
  | running
  | completed
  | failed (message : String)
  | retrying (attempt : Nat)
  deriving DecidableEq, Repr

/-- Progress update for a task. -/
structure ProgressUpdate where
  taskId : String
  bytesTransferred : UInt64
  totalBytes : UInt64
  percent : Nat
  status : ProgressStatus
  deriving DecidableEq, Repr

/-- The progress channel. -/
structure Channel where
  queue : List ProgressUpdate
  /-- The receiver has not been dropped. -/
  receiving : Bool
  deriving DecidableEq, Repr

/-- Messages that the progress channel holds. -/
def CHANNEL_CAPACITY : Nat := 100

/-- What the tasks of an executor share, with the world on which transfers act.  A semaphore is
its number of available permits; the map gives its place in the list. -/
structure Shared (World : Type*) where
  world : World
  progress : Option Channel
  globalSemaphore : Nat
  semaphores : List Nat
  nodeSemaphores : String → Option Nat

/-- The function that performs transfers.  A call goes on event by event until it returns the
targets that succeeded or a message; it can be dropped before. -/
structure TransferFn (World Call Event : Type*) where
  /-- Call the function with a source, a task, a chunk and targets. -/
  call : String → String → Bytes → List String → Call
  resume : World → Call → Event → World × (Call ⊕ Except String (List String))
  abandon : World → Call → World
  /-- What becomes of requests whose call is gone. -/
  background : World → Event → World

/-- The variables of the loop over the attempts. -/
structure Attempts where
  attempt : Nat
  lastError : Option ExecutorError
  targetsSucceeded : List String
  targetsFailed : List String
  deriving DecidableEq, Repr

/-- Where a task stands. -/
inductive Phase (Call : Type*) where
  | reportPending
  | acquireGlobal
  | findSemaphore
  | createSemaphore
  | acquireSource (semaphore : Nat)
  | reportRunning (semaphore : Nat)
  | reportRetry (semaphore : Nat) (attempts : Attempts)
  | sleep (semaphore : Nat) (attempts : Attempts)
  | transfer (semaphore : Nat) (attempts : Attempts) (call : Call)
  | reportCompletion (semaphore : Nat) (attempts : Attempts)
  | returnSource (semaphore : Nat) (result : Option TaskResult)
  | returnGlobal (result : Option TaskResult)
  /-- There is no result after a panic. -/
  | finished (result : Option TaskResult)

/-- The result of a finished task. -/
def Phase.taskResult {Call : Type*} : Phase Call → Option TaskResult
  | .finished result => result
  | _ => none

/-- A spawned task. -/
structure Process (Call : Type*) where
  task : RepairTask
  phase : Phase Call

/-- What a task can do next: go on, go on with its transfer, find that the transfer has timed out,
or panic in the transfer. -/
inductive Move (Event : Type*) where
  | proceed
  | transfer (event : Event)
  | timeout
  | panic

/-! ## One task -/

section Task

variable {World Call Event : Type*} (config : ExecutorConfig)

/-- Report a progress update.  Without a channel or a receiver nothing happens; a full channel
makes the task wait. -/
def Shared.reportProgress (shared : Shared World) (update : ProgressUpdate) :
    Option (Shared World) :=
  match shared.progress with
  | none => some shared
  | some channel =>
      if channel.receiving then
        if channel.queue.length < CHANNEL_CAPACITY then
          some { shared with
            progress := some { channel with queue := channel.queue ++ [update] } }
        else
          none
      else
        some shared

/-- A progress update without transferred bytes. -/
def RepairTask.update (task : RepairTask) (status : ProgressStatus) : ProgressUpdate :=
  { taskId := task.taskId
    bytesTransferred := 0
    totalBytes := task.chunkSize
    percent := 0
    status }

/-- The loop before its first attempt. -/
def Attempts.first (task : RepairTask) : Attempts :=
  { attempt := 0
    lastError := none
    targetsSucceeded := []
    targetsFailed := task.targetNodes }

/-- Record the outcome of an attempt. -/
def Attempts.record (attempts : Attempts) (task : RepairTask) :
    Except ExecutorError (List String) → Attempts
  | .ok succeeded =>
      let targetsSucceeded := succeeded.foldl
        (fun known target => if known.contains target then known else known ++ [target])
        attempts.targetsSucceeded
      let targetsFailed := attempts.targetsFailed.filter fun target => !succeeded.contains target
      { attempts with
        targetsSucceeded
        targetsFailed
        lastError :=
          if targetsFailed.isEmpty then attempts.lastError
          else some (.transferFailed ("Partial success: " ++ toString targetsSucceeded.length ++
            " of " ++ toString task.targetNodes.length ++ " targets")) }
  | .error cause => { attempts with lastError := some cause }

/-- All targets have succeeded, which ends the loop. -/
def Attempts.breaks (attempts : Attempts) : Except ExecutorError (List String) → Bool
  | .ok _ => attempts.targetsFailed.isEmpty
  | .error _ => false

/-- Where a task goes on after an attempt. -/
def afterAttempt {Call : Type*} (task : RepairTask) (semaphore : Nat) (attempts : Attempts)
    (outcome : Except ExecutorError (List String)) : Phase Call :=
  let recorded := attempts.record task outcome
  if recorded.breaks outcome then
    .reportCompletion semaphore recorded
  else if attempts.attempt < config.maxRetries then
    .reportRetry semaphore { recorded with attempt := attempts.attempt + 1 }
  else
    .reportCompletion semaphore recorded

/-- The result of a task after its last attempt. -/
def Attempts.result (attempts : Attempts) (task : RepairTask) : TaskResult :=
  let success := attempts.targetsFailed.isEmpty
  { taskId := task.taskId
    success
    error := if success then none else attempts.lastError
    bytesTransferred := if success then task.chunkSize else 0
    targetsSucceeded := attempts.targetsSucceeded
    targetsFailed := attempts.targetsFailed }

/-- The progress update that reports completion. -/
def Attempts.completion (attempts : Attempts) (task : RepairTask) : ProgressUpdate :=
  let success := attempts.targetsFailed.isEmpty
  { taskId := task.taskId
    bytesTransferred := if success then task.chunkSize else 0
    totalBytes := task.chunkSize
    percent := if success then 100 else 0
    status :=
      if success then .completed
      else .failed ((attempts.lastError.map ExecutorError.toText).getD "") }

variable (transferFn : TransferFn World Call Event)

/-- Call the transfer function for the targets that are left. -/
def startTransfer (task : RepairTask) (semaphore : Nat) (attempts : Attempts) : Phase Call :=
  .transfer semaphore attempts
    (transferFn.call task.sourceNode task.taskId task.chunkId attempts.targetsFailed)

/-- Make a semaphore for a node, unless there is one now. -/
def Shared.entry (shared : Shared World) (nodeId : String) : Shared World × Nat :=
  match shared.nodeSemaphores nodeId with
  | some semaphore => (shared, semaphore)
  | none =>
      ({ shared with
         semaphores := shared.semaphores ++ [config.maxPerSource]
         nodeSemaphores :=
           Function.update shared.nodeSemaphores nodeId (some shared.semaphores.length) },
        shared.semaphores.length)

/-- Execute a single repair task, one step at a time; there is no step where it has to wait. -/
def executeTask (shared : Shared World) (process : Process Call) (move : Move Event) :
    Option (Shared World × Process Call) :=
  let task := process.task
  let go (shared : Shared World) (phase : Phase Call) := some (shared, { task, phase })
  match process.phase, move with
  | .reportPending, .proceed =>
      (shared.reportProgress (task.update .pending)).bind fun shared => go shared .acquireGlobal
  | .acquireGlobal, .proceed =>
      match shared.globalSemaphore with
      | 0 => none
      | available + 1 => go { shared with globalSemaphore := available } .findSemaphore
  | .findSemaphore, .proceed =>
      match shared.nodeSemaphores task.sourceNode with
      | some semaphore => go shared (.acquireSource semaphore)
      | none => go shared .createSemaphore
  | .createSemaphore, .proceed =>
      let (shared, semaphore) := shared.entry config task.sourceNode
      go shared (.acquireSource semaphore)
  | .acquireSource semaphore, .proceed =>
      match shared.semaphores[semaphore]? with
      | some (available + 1) =>
          go { shared with semaphores := shared.semaphores.set semaphore available }
            (.reportRunning semaphore)
      | _ => none
  | .reportRunning semaphore, .proceed =>
      (shared.reportProgress (task.update .running)).bind fun shared =>
        go shared (startTransfer transferFn task semaphore (.first task))
  | .reportRetry semaphore attempts, .proceed =>
      (shared.reportProgress (task.update (.retrying attempts.attempt))).bind fun shared =>
        go shared (.sleep semaphore attempts)
  | .sleep semaphore attempts, .proceed =>
      go shared (startTransfer transferFn task semaphore attempts)
  | .transfer semaphore attempts call, .transfer event =>
      match transferFn.resume shared.world call event with
      | (world, .inl call) => go { shared with world } (.transfer semaphore attempts call)
      | (world, .inr outcome) =>
          go { shared with world }
            (afterAttempt config task semaphore attempts (outcome.mapError .transferFailed))
  | .transfer semaphore attempts call, .timeout =>
      go { shared with world := transferFn.abandon shared.world call }
        (afterAttempt config task semaphore attempts (.error .timeout))
  | .transfer semaphore _ call, .panic =>
      go { shared with world := transferFn.abandon shared.world call } (.returnSource semaphore none)
  | .reportCompletion semaphore attempts, .proceed =>
      (shared.reportProgress (attempts.completion task)).bind fun shared =>
        go shared (.returnSource semaphore (some (attempts.result task)))
  | .returnSource semaphore result, .proceed =>
      go { shared with semaphores := shared.semaphores.modify semaphore (· + 1) }
        (.returnGlobal result)
  | .returnGlobal result, .proceed =>
      go { shared with globalSemaphore := shared.globalSemaphore + 1 } (.finished result)
  | _, _ => none

end Task

/-! ## The executor -/

/-- A call of `execute`: the tasks not yet spawned, the places of the spawned ones among all
processes, and the number of tasks skipped. -/
structure Execution where
  remaining : List RepairTask
  handles : List Nat
  skipped : Nat
  deriving DecidableEq, Repr

/-- An executor with its clones: the processes, the calls of `execute` and the shutdown flag. -/
structure Executor (World Call : Type*) where
  pool : Pool (Shared World) (Process Call)
  executions : List Execution
  shutdown : Bool

/-- What happens to an executor. -/
inductive Action (Event : Type*) where
  | execute (plan : RepairPlan)
  /-- A call of `execute` comes to its next task. -/
  | spawn (execution : Nat)
  | shutdown
  /-- The receiver takes a message. -/
  | receive
  /-- The receiver is dropped. -/
  | closeReceiver
  | background (event : Event)
  | task (index : Nat) (move : Move Event)

namespace Executor

variable {World Call Event : Type*}

/-- Create an executor. -/
def new (config : ExecutorConfig) (world : World) : Executor World Call :=
  { pool :=
      { shared :=
          { world
            progress := none
            globalSemaphore := config.maxConcurrent
            semaphores := []
            nodeSemaphores := fun _ => none }
        processes := [] }
    executions := []
    shutdown := false }

/-- Replace what the tasks share. -/
def setShared (executor : Executor World Call) (shared : Shared World) : Executor World Call :=
  { executor with pool := { executor.pool with shared } }

/-- Create an executor with a progress channel. -/
def withProgress (config : ExecutorConfig) (world : World) : Executor World Call :=
  let executor := new config world
  executor.setShared
    { executor.pool.shared with
      progress := some
        { queue := []
          receiving := true } }

/-- Spawn the next task of a call of `execute`, or skip it after a shutdown. -/
def spawnNext (executor : Executor World Call) (index : Nat) : Executor World Call :=
  match executor.executions[index]? with
  | none => executor
  | some execution =>
      match execution.remaining with
      | [] => executor
      | task :: remaining =>
          if executor.shutdown then
            { executor with
              executions := executor.executions.set index
                { execution with
                  remaining
                  skipped := execution.skipped + 1 } }
          else
            { executor with
              pool := executor.pool.spawn
                { task
                  phase := .reportPending }
              executions := executor.executions.set index
                { execution with
                  remaining
                  handles := execution.handles ++ [executor.pool.processes.length] } }

/-- Change the progress channel, if there is one. -/
def mapChannel (executor : Executor World Call) (change : Channel → Channel) :
    Executor World Call :=
  executor.setShared
    { executor.pool.shared with progress := executor.pool.shared.progress.map change }

variable (config : ExecutorConfig) (transferFn : TransferFn World Call Event)

/-- One thing that happens to an executor. -/
def act (executor : Executor World Call) : Action Event → Executor World Call
  | .execute plan =>
      { executor with
        executions := executor.executions ++
          [{ remaining := plan.tasks
             handles := []
             skipped := 0 }] }
  | .spawn execution => executor.spawnNext execution
  | .shutdown => { executor with shutdown := true }
  | .receive => executor.mapChannel fun channel => { channel with queue := channel.queue.tail }
  | .closeReceiver =>
      executor.mapChannel fun _ =>
        { queue := []
          receiving := false }
  | .background event =>
      executor.setShared
        { executor.pool.shared with
          world := transferFn.background executor.pool.shared.world event }
  | .task index move =>
      { executor with pool := executor.pool.move (executeTask config transferFn) index move }

/-- The results of the finished tasks of a call of `execute`. -/
def taskResults (executor : Executor World Call) (execution : Execution) : List TaskResult :=
  execution.handles.filterMap fun handle =>
    executor.pool.processes[handle]?.bind fun process => process.phase.taskResult

/-- Collect the results of a call of `execute` whose tasks have finished. -/
def collect (executor : Executor World Call) (execution : Execution) : ExecutionResult :=
  let results := executor.taskResults execution
  { succeeded := results.filter TaskResult.success
    failed := results.filter fun result => !result.success
    totalBytes := (results.map TaskResult.bytesTransferred).sum
    skipped := execution.skipped }

end Executor

end CyxCloud.Rebalancer
