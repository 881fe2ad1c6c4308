import CyxCloud.Rebalancer.Permits

/-!
# The progress channel of the daemon

Tasks wait for permits and for room in the progress channel.  As long as the channel has room for
every message that the tasks can still send, the holder of a permit can move.  The daemon of
`cyxcloud-gateway/src/rebalancer_daemon.rs` makes an executor with a progress channel, keeps the
receiver and takes no message from it.
-/

namespace CyxCloud.Rebalancer.Executor

open CyxCloud.Core Library

variable {World Call Event : Type*}

/-! ## Waiting tasks -/

/-- A message cannot be sent now. -/
def full (shared : Shared World) : Bool :=
  match shared.progress with
  | none => false
  | some channel => channel.receiving && decide (CHANNEL_CAPACITY ≤ channel.queue.length)

/-- The task waits for a permit or for room in the progress channel. -/
def waits (shared : Shared World) : Phase Call → Bool
  | .reportPending | .reportRunning _ | .reportRetry _ _ | .reportCompletion _ _ => full shared
  | .acquireGlobal => shared.globalSemaphore == 0
  | .acquireSource semaphore => shared.semaphores[semaphore]?.getD 0 == 0
  | _ => false

/-- There are tasks that have not ended, all of them wait, and none is left to spawn. -/
def Stuck (executor : Executor World Call) : Prop :=
  executor.unspawned = [] ∧ (∃ process ∈ executor.pool.processes, ended process = false) ∧
    ∀ process ∈ executor.pool.processes, ended process = false →
      waits executor.pool.shared process.phase = true

instance (executor : Executor World Call) : Decidable executor.Stuck :=
  inferInstanceAs (Decidable (_ ∧ _ ∧ _))

theorem reportProgress_eq_none_iff {shared : Shared World} {update : ProgressUpdate} :
    shared.reportProgress update = none ↔ full shared = true := by
  unfold Shared.reportProgress full
  cases shared.progress with
  | none => simp
  | some channel =>
      cases listening : channel.receiving with
      | false => simp [listening]
      | true => simp [listening]

section Moves

variable (config : ExecutorConfig) (transferFn : TransferFn World Call Event)
  (shared : Shared World)

/-- A task cannot move at all if it cannot proceed and is not inside the transfer function. -/
theorem cannot_move_iff_proceed {process : Process Call}
    (outside : transferring process = false) :
    (∀ move, executeTask config transferFn shared process move = none) ↔
      executeTask config transferFn shared process .proceed = none := by
  constructor
  · intro cannot
    exact cannot .proceed
  · intro cannot move
    obtain ⟨task, phase⟩ := process
    cases move with
    | proceed => exact cannot
    | _ =>
        cases phase with
        | transfer semaphore attempts call => cases outside
        | _ => rfl

theorem report_cannot_proceed {update : ProgressUpdate} {process : Process Call} :
    ((shared.reportProgress update).bind fun shared => some (shared, process)) = none ↔
      full shared = true := by
  rw [← @reportProgress_eq_none_iff World shared update]
  cases shared.reportProgress update <;> simp

/-- A task that has not ended can move unless it waits. -/
theorem cannot_move_iff_waits {process : Process Call} (live : ended process = false) :
    (∀ move, executeTask config transferFn shared process move = none) ↔
      waits shared process.phase = true := by
  obtain ⟨task, phase⟩ := process
  cases phase with
  | reportPending | reportRunning _ | reportRetry _ _ | reportCompletion _ _ =>
      rw [cannot_move_iff_proceed config transferFn shared rfl]
      exact report_cannot_proceed shared
  | acquireGlobal =>
      rw [cannot_move_iff_proceed config transferFn shared rfl]
      simp only [executeTask, waits, beq_iff_eq]
      cases shared.globalSemaphore <;> simp
  | acquireSource semaphore =>
      rw [cannot_move_iff_proceed config transferFn shared rfl]
      simp only [executeTask, waits, beq_iff_eq]
      rcases shared.semaphores[semaphore]? with _ | _ | available <;> simp
  | findSemaphore =>
      rw [cannot_move_iff_proceed config transferFn shared rfl]
      simp only [executeTask, waits]
      cases shared.nodeSemaphores task.sourceNode <;> simp
  | createSemaphore | sleep _ _ | returnSource _ _ | returnGlobal _ =>
      rw [cannot_move_iff_proceed config transferFn shared rfl]
      simp [executeTask, waits]
  | transfer semaphore attempts call =>
      refine ⟨fun cannot => ?_, fun waiting => ?_⟩
      · cases cannot .timeout
      · cases waiting
  | finished result => cases live

end Moves

/-! ## The daemon -/

/-- The configuration that the daemon gives its executor. -/
def daemonConfig (repairParallelism : Nat) : ExecutorConfig :=
  { maxConcurrent := repairParallelism
    maxPerSource := 3
    maxPerTarget := 3
    maxRetries := 3
    reportProgress := false }

/-- What happens in the daemon: plans are executed one after the other, nothing shuts the executor
down, and the receiver is neither read nor dropped. -/
def InDaemon (executor : Executor World Call) : Action Event → Prop
  | .execute _ =>
      executor.unspawned = [] ∧ ∀ process ∈ executor.pool.processes, ended process = true
  | .spawn _ | .background _ | .task _ _ => True
  | .shutdown | .receive | .closeReceiver => False

instance (executor : Executor World Call) : DecidablePred (@InDaemon World Call Event executor)
  | .execute _ => inferInstanceAs (Decidable (_ ∧ _))
  | .spawn _ | .background _ | .task _ _ => inferInstanceAs (Decidable True)
  | .shutdown | .receive | .closeReceiver => inferInstanceAs (Decidable False)

/-- Messages in the progress channel. -/
def queued (shared : Shared World) : Nat :=
  match shared.progress with
  | none => 0
  | some channel => channel.queue.length

/-- A plan with tasks is started only with a positive parallelism and with room in the channel for
six messages of each task. -/
def HasRoom (repairParallelism : Nat) (executor : Executor World Call) : Action Event → Prop
  | .execute plan =>
      plan.tasks = [] ∨
        1 ≤ repairParallelism ∧
          queued executor.pool.shared + 6 * plan.tasks.length ≤ CHANNEL_CAPACITY
  | _ => True

/-- The messages that a task can still send. -/
def messagesLeft (config : ExecutorConfig) : Phase Call → Nat
  | .reportPending => config.maxRetries + 3
  | .acquireGlobal | .findSemaphore | .createSemaphore | .acquireSource _ | .reportRunning _ =>
      config.maxRetries + 2
  | .reportRetry _ attempts => config.maxRetries - attempts.attempt + 2
  | .sleep _ attempts | .transfer _ attempts _ => config.maxRetries - attempts.attempt + 1
  | .reportCompletion _ _ => 1
  | .returnSource _ _ | .returnGlobal _ | .finished _ => 0

/-- The receiver of the progress channel is there. -/
def listening (shared : Shared World) : Bool :=
  match shared.progress with
  | none => false
  | some channel => channel.receiving

/-- The messages that the given tasks can still send. -/
def pendingMessages (config : ExecutorConfig) (executor : Executor World Call) : Nat :=
  executor.pool.total (fun process => messagesLeft config process.phase) +
    (config.maxRetries + 3) * executor.unspawned.length

/-- A plan with tasks is started only with positive limits and, if there is a receiver, with room in
the channel for all messages of its tasks behind those that are still to come. -/
def RoomFor (config : ExecutorConfig) (executor : Executor World Call) : Action Event → Prop
  | .execute plan =>
      plan.tasks = [] ∨
        0 < config.maxConcurrent ∧ 0 < config.maxPerSource ∧
          (listening executor.pool.shared = true →
            queued executor.pool.shared + executor.pendingMessages config +
              (config.maxRetries + 3) * plan.tasks.length ≤ CHANNEL_CAPACITY)
  | _ => True

instance (config : ExecutorConfig) (executor : Executor World Call) :
    DecidablePred (@RoomFor World Call Event config executor)
  | .execute _ => inferInstanceAs (Decidable (_ ∨ _ ∧ _ ∧ (_ → _)))
  | .spawn _ | .shutdown | .receive | .closeReceiver | .background _ | .task _ _ =>
      inferInstanceAs (Decidable True)

/-! ## A task that moves -/

section Mover

variable {config : ExecutorConfig} {executor : Executor World Call}
  (accounts : Accounts config executor)
  (sends : ∀ process ∈ executor.pool.processes, 0 < messagesLeft config process.phase →
    full executor.pool.shared = false)

include sends in
/-- A task that holds a permit of its source does not wait, if messages can be sent. -/
theorem source_holder {process : Process Call} (member : process ∈ executor.pool.processes)
    {semaphore : Nat} (holds : 0 < process.phase.sourcePermits semaphore) :
    ended process = false ∧ waits executor.pool.shared process.phase = false := by
  have not_full := sends process member
  obtain ⟨task, phase⟩ := process
  cases phase with
  | reportRunning _ | reportCompletion _ _ | reportRetry _ _ =>
      exact ⟨rfl, not_full (Nat.succ_pos _)⟩
  | sleep _ _ | transfer _ _ _ | returnSource _ _ => exact ⟨rfl, rfl⟩
  | _ => cases holds

section AllWait

variable (all_wait : ∀ process ∈ executor.pool.processes, ended process = false →
  waits executor.pool.shared process.phase = true)
  (source_positive : 0 < config.maxPerSource)

include accounts sends all_wait source_positive

/-- A task that waits for its source would find a holder of one of its permits. -/
theorem no_source_waiter {process : Process Call} (member : process ∈ executor.pool.processes)
    (semaphore : Nat) : process.phase ≠ .acquireSource semaphore := by
  intro phase_eq
  have used := accounts.sources process member semaphore (by rw [phase_eq]; rfl)
  have made := List.getElem?_eq_getElem (accounts.mapped _ _ used)
  have none_left := all_wait process member (by rw [ended, phase_eq])
  rw [phase_eq] at none_left
  simp only [waits, beq_iff_eq, made, Option.getD_some] at none_left
  have balance := accounts.source semaphore
  rw [Shared.available, made, Option.getD_some, none_left, Nat.zero_add] at balance
  obtain ⟨holder, holder_mem, holds⟩ := @Pool.exists_weight_of_total _ _ executor.pool
    (fun process => process.phase.sourcePermits semaphore) (by rw [balance]; exact source_positive)
  obtain ⟨live, moves⟩ := source_holder sends holder_mem holds
  rw [all_wait holder holder_mem live] at moves
  cases moves

/-- A task that holds a global permit is past the wait for it, and does not wait for its source. -/
theorem no_global_holder {process : Process Call} (member : process ∈ executor.pool.processes) :
    process.phase.globalPermits = 0 := by
  have waiting := all_wait process member
  have not_full := sends process member
  have not_source := no_source_waiter accounts sends all_wait source_positive member
  obtain ⟨task, phase⟩ := process
  cases phase with
  | reportPending | acquireGlobal | finished _ => rfl
  | acquireSource semaphore => exact absurd rfl (not_source semaphore)
  | reportRunning _ | reportRetry _ _ | reportCompletion _ _ =>
      have is_full := waiting rfl
      rw [waits, not_full (Nat.succ_pos _)] at is_full
      cases is_full
  | _ => exact absurd (waiting rfl) Bool.false_ne_true

/-- A task that has not ended waits for a global permit. -/
theorem no_permits {process : Process Call} (member : process ∈ executor.pool.processes)
    (live : ended process = false) : executor.pool.shared.globalSemaphore = 0 := by
  have waiting := all_wait process member live
  have not_full := sends process member
  have holds := no_global_holder accounts sends all_wait source_positive member
  obtain ⟨task, phase⟩ := process
  cases phase with
  | reportPending =>
      rw [waits, not_full (Nat.succ_pos _)] at waiting
      cases waiting
  | acquireGlobal => simpa [waits] using waiting
  | finished _ => cases live
  | _ => cases holds

end AllWait

/-- With permits on both sides, and if every message can be sent that is still to be, one of the
tasks that have not ended does not wait. -/
theorem Accounts.exists_mover (accounts : Accounts config executor)
    (positive : 0 < config.maxConcurrent) (source_positive : 0 < config.maxPerSource)
    (sends : ∀ process ∈ executor.pool.processes, 0 < messagesLeft config process.phase →
      full executor.pool.shared = false)
    (live : ∃ process ∈ executor.pool.processes, ended process = false) :
    ∃ process ∈ executor.pool.processes,
      ended process = false ∧ waits executor.pool.shared process.phase = false := by
  by_contra none_moves
  push Not at none_moves
  have all_wait : ∀ process ∈ executor.pool.processes, ended process = false →
      waits executor.pool.shared process.phase = true :=
    fun process member live => Bool.eq_true_of_not_eq_false (none_moves process member live)
  obtain ⟨process, member, live⟩ := live
  have balance := accounts.global
  rw [no_permits accounts sends all_wait source_positive member live, Nat.zero_add] at balance
  obtain ⟨holder, holder_mem, holds⟩ := @Pool.exists_weight_of_total _ _ executor.pool
    (fun process => process.phase.globalPermits) (by rw [balance]; exact positive)
  rw [no_global_holder accounts sends all_wait source_positive holder_mem] at holds
  exact Nat.lt_irrefl 0 holds

end Mover

/-! ## Room for the messages -/

section Room

variable {config : ExecutorConfig} {transferFn : TransferFn World Call Event} {task : RepairTask}
  {shared after : Shared World} {phase next : Phase Call}

theorem queued_reportProgress {update : ProgressUpdate}
    (sent : shared.reportProgress update = some after) :
    queued after ≤ queued shared + 1 := by
  unfold Shared.reportProgress at sent
  split at sent
  · cases sent
    exact Nat.le_succ _
  · rename_i channel opened
    split at sent
    · split at sent
      · cases sent
        simp [queued, opened]
      · cases sent
    · cases sent
      exact Nat.le_succ _

theorem messagesLeft_afterAttempt (config : ExecutorConfig) (task : RepairTask) (semaphore : Nat)
    (attempts : Attempts) (outcome : Except ExecutorError (List String)) :
    messagesLeft config
        (afterAttempt config task semaphore attempts outcome : Phase Call) ≤
      config.maxRetries - attempts.attempt + 1 := by
  rcases @afterAttempt_cases Call config task semaphore attempts outcome with done |
    ⟨more, retried⟩
  · rw [done]
    exact Nat.le_add_left 1 _
  · rw [retried]
    simp only [messagesLeft]
    omega

/-- A message that a task sends is one less that it can send. -/
theorem messagesLeft_of_step (step : TaskStep config transferFn task shared phase after next) :
    queued after + messagesLeft config next ≤ queued shared + messagesLeft config phase := by
  cases step with
  | reportPending sent | reportRunning sent | reportRetry sent | reportCompletion sent =>
      have queued_le := queued_reportProgress sent
      simp only [messagesLeft, startTransfer, Attempts.first]
      omega
  | entered =>
      unfold Shared.entry
      split <;> exact Nat.le_refl _
  | returned _ | timedOut =>
      exact Nat.add_le_add_left (messagesLeft_afterAttempt config task _ _ _) _
  | panicked => exact Nat.add_le_add_left (Nat.zero_le _) _
  | _ => exact Nat.le_refl _

/-- An executor that has tasks has permits for them, and the channel has room for every message
that they can still send. -/
structure Supplied (config : ExecutorConfig) (executor : Executor World Call) : Prop where
  accounts : Accounts config executor
  room : listening executor.pool.shared = true →
    queued executor.pool.shared + executor.pendingMessages config ≤ CHANNEL_CAPACITY
  limits : (executor.pool.processes = [] ∧ executor.unspawned = []) ∨
    0 < config.maxConcurrent ∧ 0 < config.maxPerSource

theorem full_iff :
    full shared = true ↔ listening shared = true ∧ CHANNEL_CAPACITY ≤ queued shared := by
  unfold full listening queued
  cases shared.progress with
  | none => simp
  | some channel => simp

theorem listening_reportProgress {update : ProgressUpdate}
    (sent : shared.reportProgress update = some after) : listening after = listening shared := by
  unfold Shared.reportProgress at sent
  split at sent
  · cases sent
    rfl
  · rename_i channel opened
    split at sent
    · split at sent
      · cases sent
        simp [listening, opened]
      · cases sent
    · cases sent
      rfl

theorem listening_of_step (step : TaskStep config transferFn task shared phase after next) :
    listening after = listening shared := by
  cases step with
  | reportPending sent | reportRunning sent | reportRetry sent | reportCompletion sent =>
      exact listening_reportProgress sent
  | entered =>
      unfold Shared.entry
      split <;> rfl
  | _ => rfl

end Room

section Supplied

variable {config : ExecutorConfig} {transferFn : TransferFn World Call Event}
  {executor : Executor World Call}

theorem supplied_new (config : ExecutorConfig) (world : World) :
    Supplied config (new config world : Executor World Call) where
  accounts := accounts_new world
  room _ := Nat.zero_le _
  limits := .inl ⟨rfl, rfl⟩

theorem supplied_withProgress (config : ExecutorConfig) (world : World) :
    Supplied config (withProgress config world : Executor World Call) where
  accounts := accounts_withProgress world
  room _ := Nat.zero_le _
  limits := .inl ⟨rfl, rfl⟩

theorem Supplied.execute (supplied : Supplied config executor) {plan : RepairPlan}
    (has_room : @RoomFor World Call Event config executor (.execute plan)) :
    Supplied config (executor.act config transferFn (.execute plan)) := by
  have unspawned_eq : (executor.act config transferFn (.execute plan)).unspawned =
      executor.unspawned ++ plan.tasks := by
    simp [Executor.act, unspawned]
  have pending_eq : (executor.act config transferFn (.execute plan)).pendingMessages config =
      executor.pendingMessages config + (config.maxRetries + 3) * plan.tasks.length := by
    simp only [pendingMessages, unspawned_eq, List.length_append, Nat.mul_add, Nat.add_assoc]
    rfl
  refine ⟨supplied.accounts.act _, ?_, ?_⟩
  · intro listens
    rw [pending_eq]
    rcases has_room with no_tasks | ⟨-, -, has_room⟩
    · rw [no_tasks]
      exact supplied.room listens
    · rw [← Nat.add_assoc]
      exact has_room listens
  · rcases has_room with no_tasks | ⟨positive, source_positive, -⟩
    · rw [unspawned_eq, no_tasks, List.append_nil]
      exact supplied.limits
    · exact .inr ⟨positive, source_positive⟩

theorem Supplied.spawn (supplied : Supplied config executor) (index : Nat) :
    Supplied config (executor.act config transferFn (.spawn index)) := by
  have accounts := @Accounts.act World Call Event _ transferFn _ supplied.accounts (.spawn index)
  simp only [Executor.act] at accounts ⊢
  rcases executor.spawnNext_cases index with same | ⟨before, task, after, listed, left, spawned⟩
  · rw [same]
    exact supplied
  · refine ⟨accounts, fun listens => ?_, .inr ?_⟩
    · have pending_le : (executor.spawnNext index).pendingMessages config ≤
          executor.pendingMessages config := by
        have first : messagesLeft config (.reportPending : Phase Call) = config.maxRetries + 3 :=
          rfl
        simp only [pendingMessages, listed, left, List.length_append, List.length_cons,
          Nat.mul_add, Nat.mul_one]
        rcases spawned with skipped | spawned
        · rw [skipped]
          omega
        · simp only [spawned, Pool.total_spawn, first]
          omega
      have same_shared : (executor.spawnNext index).pool.shared = executor.pool.shared := by
        rcases spawned with skipped | spawned
        · rw [skipped]
        · rw [spawned, Pool.shared_spawn]
      rw [same_shared] at listens ⊢
      exact le_trans (Nat.add_le_add_left pending_le _) (supplied.room listens)
    · rcases supplied.limits with ⟨-, none_left⟩ | positive
      · rw [listed] at none_left
        cases List.append_eq_nil_iff.mp none_left |>.2
      · exact positive

theorem Supplied.task (supplied : Supplied config executor) (index : Nat) (move : Move Event) :
    Supplied config (executor.act config transferFn (.task index move)) := by
  refine ⟨supplied.accounts.act _, fun listens => ?_, ?_⟩
  · rcases @Pool.total_move_cases _ _ _ (executeTask config transferFn) executor.pool index move
      with same | ⟨process, _, shared, moved, stepped, shared_eq, totals⟩
    · simp only [Executor.act, same] at listens ⊢
      exact supplied.room listens
    · have step := (taskStep_of_executeTask stepped).2
      have sends := messagesLeft_of_step step
      have total_eq := totals fun process => messagesLeft config process.phase
      simp only [Executor.act, shared_eq] at listens
      rw [listening_of_step step] at listens
      have room := supplied.room listens
      simp only [pendingMessages, Executor.act, shared_eq] at room ⊢
      change _ + (_ + (config.maxRetries + 3) * executor.unspawned.length) ≤ _
      omega
  · rcases supplied.limits with ⟨none_spawned, none_left⟩ | positive
    · refine .inl ⟨?_, none_left⟩
      simp [Executor.act, Pool.move, none_spawned]
    · exact .inr positive

/-- The receiver leaves at least the room there was. -/
theorem Supplied.receive (supplied : Supplied config executor) :
    Supplied config (executor.act config transferFn .receive) := by
  refine ⟨supplied.accounts.act _, fun listens => ?_, supplied.limits⟩
  have same_pending : (executor.act config transferFn .receive).pendingMessages config =
      executor.pendingMessages config := rfl
  rw [same_pending]
  refine le_trans (Nat.add_le_add_right ?_ _) (supplied.room ?_)
  · simp only [queued, Executor.act, mapChannel, setShared]
    cases executor.pool.shared.progress with
    | none => exact Nat.le_refl _
    | some channel =>
        simp only [Option.map_some, List.length_tail]
        exact Nat.sub_le _ _
  · simp only [listening, Executor.act, mapChannel, setShared] at listens ⊢
    cases opened : executor.pool.shared.progress with
    | none =>
        rw [opened] at listens
        cases listens
    | some channel =>
        rw [opened] at listens
        exact listens

/-- Without a receiver no message waits. -/
theorem Supplied.closeReceiver (supplied : Supplied config executor) :
    Supplied config (executor.act config transferFn .closeReceiver) := by
  refine ⟨supplied.accounts.act _, fun listens => ?_, supplied.limits⟩
  simp only [Executor.act, mapChannel, setShared, listening] at listens
  cases opened : executor.pool.shared.progress <;> rw [opened] at listens <;> cases listens

theorem Supplied.act (supplied : Supplied config executor) {action : Action Event}
    (has_room : RoomFor config executor action) :
    Supplied config (executor.act config transferFn action) := by
  cases action with
  | execute plan => exact supplied.execute has_room
  | spawn index => exact supplied.spawn index
  | receive => exact supplied.receive
  | closeReceiver => exact supplied.closeReceiver
  | shutdown | background _ => exact ⟨supplied.accounts.act _, supplied.room, supplied.limits⟩
  | task index move => exact supplied.task index move

/-- With room for the messages, a task that is to report does not wait. -/
theorem Supplied.not_full (supplied : Supplied config executor) {process : Process Call}
    (member : process ∈ executor.pool.processes)
    (reports : 0 < messagesLeft config process.phase) :
    full executor.pool.shared = false := by
  have counted := @Pool.weight_le_total _ _ executor.pool
    (fun process => messagesLeft config process.phase) _ member
  refine Bool.eq_false_of_not_eq_true fun is_full => ?_
  obtain ⟨listens, filled⟩ := full_iff.mp is_full
  have room := supplied.room listens
  rw [pendingMessages] at room
  omega

/-- With permits and room for the messages, one of the tasks that have not ended can move. -/
theorem Supplied.exists_mover (supplied : Supplied config executor)
    (live : ∃ process ∈ executor.pool.processes, ended process = false) :
    ∃ process ∈ executor.pool.processes,
      ended process = false ∧ waits executor.pool.shared process.phase = false := by
  rcases supplied.limits with ⟨none_spawned, -⟩ | ⟨positive, source_positive⟩
  · obtain ⟨process, member, -⟩ := live
    rw [none_spawned] at member
    cases member
  · exact supplied.accounts.exists_mover positive source_positive (fun _ => supplied.not_full) live

theorem Supplied.not_stuck (supplied : Supplied config executor) : ¬ executor.Stuck := by
  rintro ⟨-, live, all_wait⟩
  obtain ⟨mover, mover_mem, mover_live, moves⟩ := supplied.exists_mover live
  rw [all_wait mover mover_mem mover_live] at moves
  cases moves

end Supplied

section Daemon

variable {repairParallelism : Nat} {transferFn : TransferFn World Call Event}

/-- Where all earlier tasks have ended, the messages of a plan are all that are still to come. -/
theorem roomFor_of_hasRoom {executor : Executor World Call} {action : Action Event}
    (scheduled : InDaemon executor action) (has_room : HasRoom repairParallelism executor action) :
    RoomFor (daemonConfig repairParallelism) executor action := by
  cases action with
  | execute plan =>
      rcases has_room with no_tasks | ⟨positive, has_room⟩
      · exact .inl no_tasks
      · refine .inr ⟨positive, Nat.succ_pos _, fun _ => ?_⟩
        have no_messages := @total_eq_zero_of_ended World Call executor
          (messagesLeft (daemonConfig repairParallelism)) (fun _ => rfl)
          (List.all_eq_true.mpr scheduled.2)
        rw [pendingMessages, scheduled.1, no_messages]
        exact has_room
  | _ => trivial

/-- In every run of the daemon in which each plan is started with a positive parallelism and with
room for its messages, the executor is never stuck. -/
theorem daemon_never_stuck (repairParallelism : Nat) (transferFn : TransferFn World Call Event)
    (world : World) (actions : List (Action Event))
    (scheduled : EveryStep (Executor.act (daemonConfig repairParallelism) transferFn) InDaemon
      (withProgress (daemonConfig repairParallelism) world) actions)
    (has_room : EveryStep (Executor.act (daemonConfig repairParallelism) transferFn)
      (HasRoom repairParallelism) (withProgress (daemonConfig repairParallelism) world) actions) :
    EveryState (Executor.act (daemonConfig repairParallelism) transferFn)
      (fun executor => ¬ executor.Stuck) (withProgress (daemonConfig repairParallelism) world)
      actions := by
  have keeps : ∀ (executor : Executor World Call) (action : Action Event),
      Supplied (daemonConfig repairParallelism) executor →
        InDaemon executor action ∧ HasRoom repairParallelism executor action →
          Supplied (daemonConfig repairParallelism)
            (executor.act (daemonConfig repairParallelism) transferFn action) :=
    fun _ _ supplied met => supplied.act (roomFor_of_hasRoom met.1 met.2)
  have kept := everyState_of_everyStep keeps
    (supplied_withProgress (daemonConfig repairParallelism) world) (scheduled.and has_room)
  exact kept.mono fun _ supplied => supplied.not_stuck

end Daemon

/-! ## Transfers that time out -/

namespace TimeOuts

/-- A task that copies a chunk from one node to another. -/
def task (number : Nat) : RepairTask :=
  { taskId := Planner.taskName number
    chunkId := [UInt8.ofNat number]
    sourceNode := "source"
    targetNodes := ["target"]
    chunkSize := 1024 * 1024
    priority := 800
    issue :=
      { chunkId := [UInt8.ofNat number]
        health := .underReplicated 1 2
        currentNodes := ["source"]
        fileId := none
        priority := 800 } }

/-- The plan with a number of such tasks. -/
def plan (count : Nat) : RepairPlan :=
  (List.range count).foldl (fun plan number => plan.addTask (task (number + 1))) .default

/-- Transfers that never end by themselves. -/
def noTransfer : TransferFn Unit Unit Unit where
  call _ _ _ _ := ()
  resume _ _ _ := ((), .inl ())
  abandon _ _ := ()
  background _ _ := ()

/-- What a task does whose four attempts time out. -/
def moves : List (Move Unit) :=
  List.replicate 6 .proceed ++ [.timeout, .proceed, .proceed, .timeout, .proceed, .proceed,
    .timeout, .proceed, .proceed, .timeout, .proceed, .proceed, .proceed]

/-- The tasks of a plan are spawned and time out one after the other. -/
def actions (count : Nat) : List (Action Unit) :=
  .execute (plan count) :: List.replicate count (.spawn 0) ++
    (List.range count).flatMap fun index => moves.map (.task index)

/-- Two tasks leave enough room. -/
theorem two_tasks_not_stuck :
    EveryState (act (daemonConfig 4) noTransfer) (fun executor => ¬ executor.Stuck)
      (withProgress (daemonConfig 4) ()) (actions 2) := by
  refine daemon_never_stuck 4 noTransfer () (actions 2) (by decide) ?_
  refine ⟨.inr ⟨by decide, by decide⟩, by repeat constructor⟩

/-- Of seventeen tasks the first sixteen send six messages each; with the fourth message of the
last the channel is full. -/
theorem seventeen_tasks_stuck :
    EveryStep (act (daemonConfig 4) noTransfer) InDaemon (withProgress (daemonConfig 4) ())
        (actions 17) ∧
      ¬ EveryState (act (daemonConfig 4) noTransfer) (fun executor => ¬ executor.Stuck)
        (withProgress (daemonConfig 4) ()) (actions 17) := by
  refine ⟨by decide +kernel, ?_⟩
  intro every
  exact every.last (by decide +kernel)

end TimeOuts

end CyxCloud.Rebalancer.Executor
