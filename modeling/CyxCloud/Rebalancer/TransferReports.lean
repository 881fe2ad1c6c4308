import CyxCloud.Rebalancer.Bookkeeping
import CyxCloud.Rebalancer.Transfer

/-!
# The books of an executor with chunk transfers

A call of the function that `create_transfer_fn` of `cyxcloud-rebalancer/src/transfer.rs` returns
deals with one target after the other, and reports only targets that it was made for.  With its
transfers and with any others that do so the books are kept; a call of `execute` may still wait for
ever for a channel that nobody reads.
-/

namespace CyxCloud.Rebalancer.Executor

open CyxCloud.Core Library

variable (blake3 : Bytes → Bytes) (isReachable : String → Bool)

/-- A call deals with targets that it was made for. -/
def CallWithin (attempts : Attempts) (call : TransferCall) : Prop :=
  call.remaining ⊆ attempts.targetsFailed ∧ call.successful ⊆ attempts.targetsFailed

/-- The task is inside a call for the targets that it has left, if it is inside one. -/
def CallsWithin (process : Process TransferCall) : Prop :=
  ∀ semaphore attempts call, process.phase = .transfer semaphore attempts call →
    CallWithin attempts call

variable {blake3 isReachable} {attempts : Attempts} {call : TransferCall} {world : TransferWorld}

/-- A call goes on with targets that it was made for, and returns such targets. -/
theorem CallWithin.resume (within : CallWithin attempts call) (event : TransferEvent) :
    (∀ next, ((createTransferFn blake3 isReachable).resume world call event).2 = .inl next →
      CallWithin attempts next) ∧
      ∀ succeeded, ((createTransferFn blake3 isReachable).resume world call event).2 =
        .inr (.ok succeeded) → succeeded ⊆ attempts.targetsFailed := by
  cases event with
  | arrival index fault =>
      refine ⟨fun next resumed => ?_, fun succeeded resumed => nomatch resumed⟩
      cases resumed
      exact within
  | reply reply =>
      simp only [createTransferFn, transferToMultiple]
      split
      · refine ⟨fun next resumed => (nomatch resumed), fun succeeded resumed => ?_⟩
        split at resumed
        · cases resumed
        · cases resumed
          exact within.2
      · rename_i target remaining remaining_eq
        have targets := within.1
        rw [remaining_eq, List.cons_subset] at targets
        split
        · refine ⟨fun next resumed => ?_, fun succeeded resumed => nomatch resumed⟩
          cases resumed
          exact within
        · refine ⟨fun next resumed => ?_, fun succeeded resumed => nomatch resumed⟩
          cases resumed
          refine ⟨targets.2, List.append_subset.mpr ⟨within.2, ?_⟩⟩
          exact List.cons_subset.mpr ⟨targets.1, List.nil_subset _⟩
        · refine ⟨fun next resumed => ?_, fun succeeded resumed => nomatch resumed⟩
          cases resumed
          exact ⟨targets.2, within.2⟩

theorem callsWithin_of_step {config : ExecutorConfig} {task : RepairTask}
    {shared after : Shared TransferWorld} {phase next : Phase TransferCall}
    (step : TaskStep config (createTransferFn blake3 isReachable) task shared phase after next)
    (within : CallsWithin { task, phase }) : CallsWithin { task, phase := next } := by
  intro semaphore attempts call phase_eq
  cases step with
  | reportRunning _ | slept =>
      cases phase_eq
      exact ⟨List.Subset.refl _, List.nil_subset _⟩
  | @resumed _ _ _ _ event _ resumes =>
      cases phase_eq
      exact ((within _ _ _ rfl).resume event).1 call (by rw [resumes])
  | @returned own recorded _ _ _ outcome _ =>
      have outside := @transferring_afterAttempt TransferCall config task task own recorded
        (outcome.mapError .transferFailed)
      rw [transferring, show afterAttempt _ _ _ _ _ = _ from phase_eq] at outside
      cases outside
  | @timedOut own recorded _ =>
      have outside := @transferring_afterAttempt TransferCall config task task own recorded
        (.error .timeout)
      rw [transferring, show afterAttempt _ _ _ _ _ = _ from phase_eq] at outside
      cases outside
  | _ => cases phase_eq

section Within

variable {config : ExecutorConfig} {executor : Executor TransferWorld TransferCall}
  (within : ∀ process ∈ executor.pool.processes, CallsWithin process)

include within

theorem callsWithin_of_act (action : Action TransferEvent) :
    ∀ process ∈ (executor.act config (createTransferFn blake3 isReachable) action).pool.processes,
      CallsWithin process := by
  rcases act_cases config (createTransferFn blake3 isReachable) executor action with
    ⟨_, _, changed⟩ | ⟨task, spawned⟩ | ⟨index, move, moved⟩
  · rw [changed]
    exact within
  · rw [spawned]
    intro process member
    rcases Pool.mem_spawn.mp member with earlier | rfl
    · exact within process earlier
    · intro semaphore attempts call phase_eq
      cases phase_eq
  · rw [moved]
    refine @Pool.all_move _ _ _ _ (fun _ process => CallsWithin process) executor.pool index move
      ?_ (fun _ _ _ kept => kept) within
    intro process shared next member stepped
    have step := (taskStep_of_executeTask stepped).2
    intro semaphore attempts call phase_eq
    exact callsWithin_of_step step (within process member) semaphore attempts call phase_eq

/-- A report comes from a call for the targets that were left. -/
theorem requested_of_callsWithin {action : Action TransferEvent} {index : Nat} {made : Report}
    (member : made ∈ newReports (createTransferFn blake3 isReachable) executor action index) :
    made.succeeded ⊆ made.requested := by
  cases action with
  | task moving move =>
      simp only [newReports] at member
      split at member
      · obtain ⟨⟨task, phase⟩, found, reported⟩ :=
          Option.bind_eq_some_iff.mp (Option.mem_toList.mp member)
        have call_within := within _ (List.mem_of_getElem? found)
        simp only [report] at reported
        split at reported
        · split at reported
          · cases reported
          · rename_i outcome returned
            cases reported
            cases outcome with
            | ok succeeded => exact ((call_within _ _ _ rfl).resume _).2 succeeded returned
            | error message => exact List.nil_subset _
        · cases reported
          exact List.nil_subset _
        · cases reported
      · cases member
  | _ => cases member

end Within

/-- In every run with the transfers of chunks, what an attempt reports is among what it was to
reach. -/
theorem transfers_report_requested (config : ExecutorConfig) (blake3 : Bytes → Bytes)
    (isReachable : String → Bool) {world : TransferWorld}
    {start : Executor TransferWorld TransferCall}
    (fresh : start ∈ [new config world, withProgress config world])
    (actions : List (Action TransferEvent)) :
    EveryStep (Observed.observe config (createTransferFn blake3 isReachable))
      (fun observed action => ∀ index,
        ∀ report ∈ newReports (createTransferFn blake3 isReachable) observed.executor action index,
          report.succeeded ⊆ report.requested) (.start start) actions := by
  have keeps : ∀ (observed : Observed TransferWorld TransferCall) (action : Action TransferEvent),
      (∀ process ∈ observed.executor.pool.processes, CallsWithin process) → True →
        ∀ process ∈ (observed.observe config (createTransferFn blake3 isReachable)
          action).executor.pool.processes, CallsWithin process :=
    fun _ action within _ => callsWithin_of_act within action
  have gives : ∀ (observed : Observed TransferWorld TransferCall) (action : Action TransferEvent),
      (∀ process ∈ observed.executor.pool.processes, CallsWithin process) → True →
        ∀ index, ∀ report ∈ newReports (createTransferFn blake3 isReachable) observed.executor
          action index, report.succeeded ⊆ report.requested :=
    fun _ _ within _ _ _ member => requested_of_callsWithin within member
  refine everyStep_of_everyStep keeps gives ?_ (everyStep_of_forall (fun _ _ _ => trivial) _)
  intro process member
  rcases List.mem_cons.mp fresh with rfl | last
  · cases member
  · rw [Observed.start, List.mem_singleton.mp last] at member
    cases member

/-- The tasks of a plan have distinct targets, and no transfer panics. -/
def Undisturbed {World Call Event : Type*} (_ : Observed World Call) : Action Event → Prop
  | .execute plan => ∀ task ∈ plan.tasks, task.targetNodes.Nodup
  | .task _ move => panics move = false
  | _ => True

/-- Undisturbed transfers of chunks are regular. -/
theorem regular_of_undisturbed {config : ExecutorConfig} {world : TransferWorld}
    {start : Executor TransferWorld TransferCall}
    (fresh : start ∈ [new config world, withProgress config world])
    {actions : List (Action TransferEvent)}
    (undisturbed : EveryStep (Observed.observe config (createTransferFn blake3 isReachable))
      Undisturbed (.start start) actions) :
    EveryStep (Observed.observe config (createTransferFn blake3 isReachable))
      (Regular (createTransferFn blake3 isReachable)) (.start start) actions := by
  have both := undisturbed.and
    (transfers_report_requested config blake3 isReachable fresh actions)
  refine both.mono fun observed action met => ?_
  cases action with
  | execute plan => exact met.1
  | task index move => exact ⟨met.1, met.2 index⟩
  | _ => exact trivial

/-- In every run of an executor with regular actions, and in every undisturbed one with the
transfers of chunks, the books are kept, and a call of `execute` goes on until it returns if the
plans are started with positive limits and room for their messages. -/
theorem bookkeeping.{u, v, w} (config : ExecutorConfig) :
    (∀ (World : Type u) (Call : Type v) (Event : Type w) (transferFn : TransferFn World Call Event)
        (world : World), ∀ start ∈ [new config world, withProgress config world],
        ∀ actions : List (Action Event),
          EveryStep (Observed.observe config transferFn) (Regular transferFn) (.start start)
              actions →
            KeepsBooks config transferFn start actions) ∧
      ∀ (blake3 : Bytes → Bytes) (isReachable : String → Bool) (world : TransferWorld),
        ∀ start ∈ [new config world, withProgress config world],
        ∀ actions : List (Action TransferEvent),
          EveryStep (Observed.observe config (createTransferFn blake3 isReachable)) Undisturbed
              (.start start) actions →
            KeepsBooks config (createTransferFn blake3 isReachable) start actions := by
  constructor
  · intro World Call Event transferFn world start fresh actions regular
    exact keepsBooks_of_regular fresh regular
  · intro blake3 isReachable world start fresh actions undisturbed
    exact keepsBooks_of_regular fresh (regular_of_undisturbed fresh undisturbed)

/-! ## A task with mixed outcomes -/

namespace MixedOutcomes

/-- Transfers that return what the event says. -/
def scripted : TransferFn Unit Unit (Except String (List String)) where
  call _ _ _ _ := ()
  resume _ _ outcome := ((), .inr outcome)
  abandon _ _ := ()
  background _ _ := ()

/-- A plan with one task for two targets. -/
def plan : RepairPlan :=
  RepairPlan.default.addTask { TimeOuts.task 1 with targetNodes := ["first", "second"] }

/-- The first target succeeds, two attempts fail, and then the second target succeeds. -/
def moves : List (Move (Except String (List String))) :=
  List.replicate 6 .proceed ++ [.transfer (.ok ["first"]), .proceed, .proceed, .timeout,
    .proceed, .proceed, .transfer (.error "refused"), .proceed, .proceed,
    .transfer (.ok ["second"]), .proceed, .proceed, .proceed]

/-- The plan is executed. -/
def actions : List (Action (Except String (List String))) :=
  .execute plan :: .spawn 0 :: moves.map (.task 0)

theorem mixed_outcomes_bookkept :
    EveryState (Observed.observe .default scripted) Bookkept
        (.start (withProgress .default ())) actions ∧
      EveryStep (Observed.observe .default scripted) (fun observed action =>
        work .default (observed.executor.act .default scripted action) +
            (if observed.executor.advances .default scripted action then 1 else 0) ≤
          work .default observed.executor + brings .default action)
        (.start (withProgress .default ())) actions ∧
      EveryState (Observed.observe .default scripted) (GoesOn .default scripted)
        (.start (withProgress .default ())) actions := by
  obtain ⟨kept, works, goes_on⟩ := (bookkeeping .default).1 Unit Unit _ scripted ()
    (withProgress .default ()) (List.mem_cons_of_mem _ List.mem_cons_self) actions
    (by decide)
  exact ⟨kept, works, goes_on (by decide)⟩

/-- The call of `execute` has returned with the task among the succeeded ones. -/
example :
    let executor := runAll (act .default scripted) (new .default () : Executor Unit Unit) actions
    executor.executions.map (fun execution =>
      (executor.collect execution).succeeded.map TaskResult.targetsSucceeded) =
        [[["first", "second"]]] := by
  decide

end MixedOutcomes

/-! ## A channel that nobody reads -/

section Unread

variable {World Call Event : Type*} {config : ExecutorConfig}
  {transferFn : TransferFn World Call Event} {executor : Executor World Call}

/-- The receiver takes no message and stays. -/
def unread : Action Event → Bool
  | .receive | .closeReceiver => false
  | _ => true

/-- The task is to report a retry. -/
def retries (process : Process Call) : Bool :=
  match process.phase with
  | .reportRetry _ _ => true
  | _ => false

/-- A task of a call of `execute` is to report a retry, and the channel is full. -/
structure Blocked (position handle : Nat) (executor : Executor World Call) : Prop where
  is_full : full executor.pool.shared = true
  spawned : ∃ execution ∈ executor.executions[position]?, handle ∈ execution.handles
  retrying : ∃ process ∈ executor.pool.processes[handle]?, retries process = true

theorem cannot_move_of_retries {shared : Shared World} (is_full : full shared = true)
    {process : Process Call} (retrying : retries process = true) (move : Move Event) :
    executeTask config transferFn shared process move = none := by
  obtain ⟨task, phase⟩ := process
  cases phase with
  | reportRetry semaphore attempts =>
      have waiting : waits shared (.reportRetry semaphore attempts : Phase Call) = true := is_full
      exact (cannot_move_iff_waits config transferFn shared rfl).mpr waiting move
  | _ => cases retrying

/-- A full channel stays full. -/
theorem full_of_step {task : RepairTask} {shared after : Shared World} {phase next : Phase Call}
    (step : TaskStep config transferFn task shared phase after next)
    (is_full : full shared = true) : full after = true := by
  cases step with
  | reportPending sent | reportRunning sent | reportRetry sent | reportCompletion sent =>
      rw [reportProgress_eq_none_iff.mpr is_full] at sent
      cases sent
  | entered =>
      unfold Shared.entry
      split <;> exact is_full
  | _ => exact is_full

/-- A call of `execute` keeps the tasks that it has spawned. -/
theorem spawned_spawnNext {position handle : Nat} (index : Nat)
    (spawned : ∃ execution ∈ executor.executions[position]?, handle ∈ execution.handles) :
    ∃ execution ∈ (executor.spawnNext index).executions[position]?,
      handle ∈ execution.handles := by
  obtain ⟨execution, known, member⟩ := spawned
  unfold spawnNext
  split
  · exact ⟨execution, known, member⟩
  · rename_i other found
    split
    · exact ⟨execution, known, member⟩
    · by_cases here : index = position
      · subst here
        rw [known] at found
        cases found
        have inside := (List.getElem?_eq_some_iff.mp known).1
        split
        · exact ⟨_, List.getElem?_set_self inside, member⟩
        · exact ⟨_, List.getElem?_set_self inside, List.mem_append_left _ member⟩
      · split
        · exact ⟨execution, (List.getElem?_set_ne here).trans known, member⟩
        · exact ⟨execution, (List.getElem?_set_ne here).trans known, member⟩

theorem Blocked.act {position handle : Nat} (blocked : Blocked position handle executor)
    {action : Action Event} (not_read : unread action = true) :
    Blocked position handle (executor.act config transferFn action) := by
  obtain ⟨retrier, found, retrying⟩ := blocked.retrying
  cases action with
  | execute plan =>
      obtain ⟨execution, known, member⟩ := blocked.spawned
      refine ⟨blocked.is_full, ⟨execution, ?_, member⟩, blocked.retrying⟩
      have inside := (List.getElem?_eq_some_iff.mp known).1
      exact (List.getElem?_append_left inside).trans known
  | spawn index =>
      have spawned := spawned_spawnNext index blocked.spawned
      rcases executor.spawnNext_cases index with same | ⟨_, _, _, -, -, same | grown⟩
      · rw [Executor.act, same]
        exact blocked
      · refine ⟨?_, spawned, ?_⟩
        · rw [Executor.act, same]
          exact blocked.is_full
        · rw [Executor.act, same]
          exact blocked.retrying
      · refine ⟨?_, spawned, ?_⟩
        · rw [Executor.act, grown]
          exact blocked.is_full
        · have inside := (List.getElem?_eq_some_iff.mp found).1
          rw [Executor.act, grown, Pool.spawn]
          exact ⟨retrier, (List.getElem?_append_left inside).trans found, retrying⟩
  | task index move =>
      by_cases cannot : ∀ process, executor.pool.processes[index]? = some process →
          executeTask config transferFn executor.pool.shared process move = none
      · simp only [Executor.act, Pool.move_of_none cannot]
        exact blocked
      · push Not at cannot
        obtain ⟨process, here, can⟩ := cannot
        obtain ⟨⟨shared, moved⟩, stepped⟩ := Option.ne_none_iff_exists'.mp can
        have elsewhere : index ≠ handle := by
          rintro rfl
          rw [Option.mem_def.mp found] at here
          cases here
          exact can (cannot_move_of_retries blocked.is_full retrying move)
        simp only [Executor.act, Pool.move_of_step here stepped]
        refine ⟨full_of_step (taskStep_of_executeTask stepped).2 blocked.is_full,
          blocked.spawned, retrier, ?_, retrying⟩
        exact (List.getElem?_set_ne elsewhere).trans found
  | shutdown | background _ => exact ⟨blocked.is_full, blocked.spawned, blocked.retrying⟩
  | receive | closeReceiver => cases not_read

/-- A call of `execute` with a blocked task does not return as long as nobody reads. -/
theorem Blocked.not_returned {position handle : Nat} (blocked : Blocked position handle executor)
    (later : List (Action Event)) (not_read : ∀ action ∈ later, unread action = true) :
    ∃ execution ∈ (runAll (Executor.act config transferFn) executor later).executions[position]?,
      ¬ (runAll (Executor.act config transferFn) executor later).returned execution := by
  have keeps : ∀ (executor : Executor World Call) (action : Action Event),
      Blocked position handle executor → unread action = true →
        Blocked position handle (executor.act config transferFn action) :=
    fun _ _ blocked not_read => blocked.act not_read
  have stays := (everyState_of_everyStep keeps blocked
    (everyStep_of_forall (fun action member _ => not_read action member) executor)).last
  obtain ⟨execution, known, member⟩ := stays.spawned
  obtain ⟨retrier, found, retrying⟩ := stays.retrying
  refine ⟨execution, known, fun returned => ?_⟩
  obtain ⟨result, phase_eq⟩ := phase_of_ended (returned.2 handle member retrier found)
  rw [retries, phase_eq] at retrying
  cases retrying

end Unread

namespace TimeOuts

/-- The plan with seventeen tasks is regular, and its call of `execute` never returns as long as the
receiver of the channel takes no message. -/
theorem seventeen_tasks_never_returned :
    EveryStep (Observed.observe (daemonConfig 4) noTransfer) (Regular noTransfer)
        (.start (withProgress (daemonConfig 4) ())) (actions 17) ∧
      ∀ later : List (Action Unit), (∀ action ∈ later, unread action = true) →
        ∃ execution ∈
          (runAll (act (daemonConfig 4) noTransfer) (withProgress (daemonConfig 4) ())
            (actions 17 ++ later)).executions[0]?,
          ¬ (runAll (act (daemonConfig 4) noTransfer) (withProgress (daemonConfig 4) ())
            (actions 17 ++ later)).returned execution := by
  refine ⟨by decide +kernel, fun later not_read => ?_⟩
  have blocked : Blocked 0 16 (runAll (act (daemonConfig 4) noTransfer)
      (withProgress (daemonConfig 4) ()) (actions 17)) :=
    ⟨by decide +kernel, by decide +kernel, by decide +kernel⟩
  rw [runAll_append]
  exact blocked.not_returned later not_read

end TimeOuts

end CyxCloud.Rebalancer.Executor
