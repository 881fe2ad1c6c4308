import CyxCloud.Node.TruncatedStreams

/-!
# Terminal states

The states in which a run and a loader are left.  The loader falls through to its common exit after
a stream that could not be opened, and does not see a stream that failed; the run returns early from
its first phases, and takes a stop for a failure or for the end of the training.
-/

namespace CyxCloud.Node

open CyxCloud.Core hiding Chunk
open Library Metadata Gateway

/-! ## The loader -/

/-- A task that ended because of a stream has left the loader in the error state. -/
def FailureTold (loader : DataLoader) : Prop :=
  loader.stage = .done → loader.failed = true → loader.state = .error

/-- A failing stream has passed its last batch on, or nobody receives any more. -/
def failsAfterLast {μ : Type} (loader : DataLoader) : Except String (Option μ) → Bool
  | .ok _ => true
  | .error status => endsAfterLast loader (.error status : Except String (Option μ))

/-- If the loader opens a stream, it succeeds. -/
def opensWell (loader : DataLoader) (opened : Except DataStreamError Unit) : Bool :=
  match loader.stage with
  | .opening => opened.isOk
  | _ => true

/-- The task has failed, and is about to end or at its end. -/
def LoaderStage.failing : LoaderStage → Bool
  | .sendingError _ | .done => true
  | .epochLimit | .opening | .openFailed _ | .receiving | .held _ | .sleeping _ | .unpaused _
  | .sending _ _ | .epochEnd | .finish => false

/-- A failed loader is about to end in the error state. -/
structure ErrorInv (loader : DataLoader) : Prop where
  client_failed : ∀ status, loader.client = .ended (.failed status) →
    loader.stream.dropped = true ∨ hasLast loader.stream.sent = true
  failed_error : loader.failed = true → loader.state = .error ∧ loader.stage.failing = true

section Loader

variable {loader after : DataLoader}

theorem ErrorInv.started (config : DataLoaderConfig) : ErrorInv (.started config) := ⟨nofun, nofun⟩

theorem ErrorInv.failureTold (kept : ErrorInv loader) : FailureTold loader :=
  fun _ failed => (kept.failed_error failed).1

/-- A loader that goes on has not failed. -/
theorem ErrorInv.not_failed (kept : ErrorInv loader) (going : loader.stage.failing = false) :
    loader.failed = false := by
  rw [← Bool.not_eq_true]
  intro failed
  have failing := (kept.failed_error failed).2
  rw [going] at failing
  cases failing

/-- What leaves the client alone, and loses nothing of the stream. -/
theorem ErrorInv.of_client_eq (kept : ErrorInv loader) (client_eq : after.client = loader.client)
    (dropped : loader.stream.dropped = true → after.stream.dropped = true)
    (sent_eq : after.stream.sent = loader.stream.sent)
    (failed_error : after.failed = true → after.state = .error ∧ after.stage.failing = true) :
    ErrorInv after where
  client_failed status failed := by
    rw [sent_eq]
    exact (kept.client_failed status (client_eq.symm.trans failed)).imp_left dropped
  failed_error := failed_error

/-- What a loader that goes on may do, short of failing. -/
theorem ErrorInv.of_going (kept : ErrorInv loader) (going : loader.stage.failing = false)
    (failed_eq : after.failed = loader.failed) (client_eq : after.client = loader.client)
    (dropped : loader.stream.dropped = true → after.stream.dropped = true)
    (sent_eq : after.stream.sent = loader.stream.sent) : ErrorInv after := by
  refine kept.of_client_eq client_eq dropped sent_eq fun failed => ?_
  rw [failed_eq, kept.not_failed going] at failed
  cases failed

theorem ErrorInv.message {μ : Type} (verify : μ → StreamResult) (kept : ErrorInv loader)
    {outcome : Except String (Option μ)} (fails : failsAfterLast loader outcome = true) :
    ErrorInv (loader.message verify outcome) := by
  unfold DataLoader.message
  split
  · rename_i receiving
    split
    · exact ⟨nofun, kept.failed_error⟩
    · exact ⟨nofun, kept.failed_error⟩
    · rw [failsAfterLast, endsAfterLast, receiving, Bool.or_eq_true] at fails
      exact ⟨fun _ _ => fails, kept.failed_error⟩
  · exact kept
  · exact kept

theorem ErrorInv.clientSend (kept : ErrorInv loader) : ErrorInv loader.clientSend := by
  unfold DataLoader.clientSend
  split
  · split
    · exact kept
    · exact ⟨nofun, kept.failed_error⟩
    · split <;> exact ⟨nofun, kept.failed_error⟩
  · exact kept
  · exact kept

theorem ErrorInv.receive (kept : ErrorInv loader) : ErrorInv loader.receive := by
  unfold DataLoader.receive
  split
  · exact kept
  · exact kept.of_client_eq rfl id rfl kept.failed_error

/-- The client of a stream that ends for the loader before its last batch has not failed. -/
theorem ErrorInv.client_of_ended (kept : ErrorInv loader) {passed : List VerifiedBatch}
    {counted : Nat} (inEpoch : InEpoch loader passed [] counted)
    (all : loader.stream.taken = loader.stream.sent) (status : String) :
    loader.client ≠ .ended (.failed status) := by
  intro failed
  rcases kept.client_failed status failed with dropped | last
  · rw [inEpoch.kept] at dropped
    cases dropped
  · obtain ⟨batch, member, is_last⟩ := hasLast_iff.mp last
    rw [← all, inEpoch.taken_eq, epochBatches_append inEpoch.none_last, epochBatches,
      List.append_nil] at member
    rw [inEpoch.none_last batch member] at is_last
    cases is_last

theorem ErrorInv.step (kept : ErrorInv loader) (inv : LoaderInv loader)
    {opened : Except DataStreamError Unit} (opens : opensWell loader opened = true) :
    ErrorInv (loader.step opened) := by
  have stage_inv := inv.stage_inv
  have going : loader.stage.failing = false → loader.failed = true → False := fun going failed => by
    rw [kept.not_failed going] at failed
    cases failed
  have of_going := fun after => @ErrorInv.of_going loader after kept
  revert stage_inv going of_going
  unfold opensWell at opens
  unfold DataLoader.step
  cases stage_eq : loader.stage with
  | epochLimit =>
      intro _ _ of_going
      dsimp only
      split
      · exact of_going _ rfl rfl rfl id rfl
      · split <;> exact of_going _ rfl rfl rfl id rfl
  | opening =>
      intro _ going _
      rw [stage_eq] at opens
      cases opened with
      | error error => cases opens
      | ok _ => exact ⟨nofun, fun failed => (going rfl failed).elim⟩
  | openFailed error =>
      intro _ _ of_going
      dsimp only
      split
      · exact kept
      · exact of_going _ rfl rfl rfl id rfl
      · exact of_going _ rfl rfl rfl id rfl
  | receiving =>
      rintro ⟨passed, -, inEpoch⟩ going of_going
      have dropped_eq := loader.stream.dropped_receive
      have sent_eq := loader.stream.sent_receive
      dsimp only
      split
      · exact kept
      · rename_i ended
        obtain ⟨-, all, -⟩ := Channel.receive_eq_ended ended
        refine kept.of_client_eq rfl id rfl fun failed => ?_
        rcases Bool.or_eq_true_iff.mp failed with failed | client_failed
        · exact (going rfl failed).elim
        · split at client_failed
          · rename_i status client_eq
            exact absurd client_eq (kept.client_of_ended inEpoch all status)
          · cases client_failed
      · rename_i received
        rw [received] at dropped_eq sent_eq
        exact of_going _ rfl rfl rfl dropped_eq.trans sent_eq
  | held result =>
      intro _ _ of_going
      dsimp only
      split <;> exact of_going _ rfl rfl rfl id rfl
  | sleeping result =>
      intro _ _ of_going
      exact of_going _ rfl rfl rfl id rfl
  | unpaused result =>
      intro _ _ of_going
      dsimp only
      split
      · exact of_going _ rfl rfl rfl id rfl
      · cases result with
        | ok batch => exact of_going _ rfl rfl rfl id rfl
        | error error => exact kept.of_client_eq rfl id rfl fun _ => ⟨rfl, rfl⟩
  | sending batch isLast =>
      intro _ _ of_going
      dsimp only
      split
      · exact kept
      · exact of_going _ rfl rfl rfl (fun _ => rfl) rfl
      · exact of_going _ rfl rfl rfl id rfl
  | sendingError error =>
      intro _ _ _
      have told : loader.failed = true → loader.state = .error ∧ LoaderStage.done.failing = true :=
        fun failed => ⟨(kept.failed_error failed).1, rfl⟩
      dsimp only
      split
      · exact kept
      · exact kept.of_client_eq rfl (fun _ => rfl) rfl told
      · exact kept.of_client_eq rfl (fun _ => rfl) rfl told
  | epochEnd =>
      intro _ going of_going
      dsimp only
      split
      · exact of_going _ rfl rfl rfl (fun _ => rfl) rfl
      · exact ⟨nofun, fun failed => (going rfl failed).elim⟩
  | finish =>
      intro _ _ of_going
      exact of_going _ rfl rfl rfl id rfl
  | done => exact fun _ _ _ => kept

/-- No stream fails to open, or fails before its last batch. -/
def streamsSucceed {μ : Type} (loader : DataLoader) : LoaderOp μ → Bool
  | .message outcome => failsAfterLast loader outcome
  | .step opened => opensWell loader opened
  | .pause | .resume | .stop | .clientSend | .receive | .dropReceiver => true

theorem ErrorInv.applyLoaderOp {μ : Type} (verify : μ → StreamResult) (inv : LoaderInv loader)
    (kept : ErrorInv loader) {op : LoaderOp μ} (succeed : streamsSucceed loader op = true) :
    ErrorInv (applyLoaderOp verify loader op) := by
  cases op with
  | pause | resume | stop | dropReceiver => exact kept.of_client_eq rfl id rfl kept.failed_error
  | message outcome => exact kept.message verify succeed
  | clientSend => exact kept.clientSend
  | step opened => exact kept.step inv succeed
  | receive => exact kept.receive

end Loader

/-! ## The run -/

/-- A returned run and its loader are left in the states that say how they ended. -/
structure StatesTold (executor : TrainingExecutor) : Prop where
  stopped : ∀ result, executor.stage = .returned result → executor.endedByStop = true →
    executor.state = .stopped
  failed : ∀ error, executor.stage = .returned (.error error) → executor.endedByStop = false →
    executor.state = .failed ∧ executor.status.error = some error.message
  completed : ∀ result, executor.stage = .returned result → executor.state = .completed →
    (∃ status, result = .ok status) ∧ Trained executor
  loader : ∀ loader, executor.loader = some loader → FailureTold loader

/-- The run does not fail before its training, and no stop ends its training. -/
def trainsUnstopped (executor : TrainingExecutor) (env : TrainingEnv) : Bool :=
  match executor.stage with
  | .verifying => env.verification.isOk
  | .initializing => env.connect.isOk
  | .sleeping _ | .unpaused _ => !executor.shouldStop
  | _ => endsUnstopped executor

/-- What the state says of the result, by where the run is. -/
def StateTold (executor : TrainingExecutor) : TrainingStage → Prop
  | .returned (.ok status) =>
      executor.endedByStop = true ∧ executor.state = .stopped ∨
        executor.endedByStop = false ∧ executor.state = .completed ∧ status.state = .completed
  | .returned (.error error) =>
      executor.endedByStop = false ∧ executor.state = .failed ∧
        executor.status.error = some error.message
  | _ => executor.endedByStop = false

section Run

variable {executor after : TrainingExecutor}

theorem StateTold.next (running : executor.endedByStop = false)
    (stage_eq : executor.stage = .receiving) (unstopped : endsUnstopped executor = true)
    {loader : DataLoader} (found : executor.loader = some loader) :
    StateTold (executor.next loader) (executor.next loader).stage := by
  unfold TrainingExecutor.next
  split
  · rwa [stage_eq]
  · rename_i ended
    simp only [endsUnstopped, stage_eq, found, ended, Bool.not_eq_true'] at unstopped
    exact unstopped
  · exact running

theorem StateTold.step (told : StateTold executor executor.stage) {env : TrainingEnv}
    (unstopped : trainsUnstopped executor env = true) :
    StateTold (executor.step env) (executor.step env).stage := by
  revert told
  unfold trainsUnstopped at unstopped
  unfold TrainingExecutor.step
  cases stage_eq : executor.stage with
  | verifying =>
      intro running
      rw [stage_eq] at unstopped
      dsimp only
      split
      · rename_i cause failed
        rw [failed] at unstopped
        cases unstopped
      · exact running
  | verified =>
      intro running
      dsimp only
      split
      · exact .inl ⟨rfl, rfl⟩
      · exact running
  | initializing =>
      intro running
      rw [stage_eq] at unstopped
      dsimp only
      split
      · rename_i error failed
        unfold DataLoader.start at failed
        split at failed
        · rename_i refused
          rw [refused] at unstopped
          cases unstopped
        · split at failed <;> cases failed
      · exact running
      · exact running
  | started => exact id
  | receiving =>
      intro running
      rw [stage_eq] at unstopped
      dsimp only
      split
      · rwa [stage_eq]
      · rename_i loader found
        exact StateTold.next running stage_eq unstopped found
  | held result =>
      intro running
      dsimp only
      split <;> exact running
  | sleeping result =>
      intro running
      rw [stage_eq, Bool.not_eq_true'] at unstopped
      dsimp only
      rwa [unstopped, if_neg Bool.false_ne_true]
  | unpaused result =>
      intro running
      rw [stage_eq, Bool.not_eq_true'] at unstopped
      dsimp only
      rw [unstopped, if_neg Bool.false_ne_true]
      cases result with
      | error error => exact running
      | ok batch =>
          dsimp only
          unfold TrainingExecutor.process
          split <;> exact running
  | leaving result => exact id
  | concluding result =>
      intro running
      cases result with
      | ok _ => exact .inr ⟨running, rfl, rfl⟩
      | error error => exact ⟨running, rfl, rfl⟩
  | returned _ | panicked =>
      intro told
      rwa [stage_eq]

theorem SameRun.stateTold (same : SameRun executor after)
    (told : StateTold executor executor.stage) : StateTold after after.stage := by
  rw [same.stage_eq]
  revert told
  cases executor.stage with
  | returned result =>
      cases result <;>
        simp only [StateTold, same.ended_eq, same.state_eq, same.status_eq] <;> exact id
  | verifying | verified | initializing | started | receiving | held _ | sleeping _ | unpaused _
  | leaving _ | concluding _ | panicked => exact same.ended_eq.trans

/-- The invariant of a run that neither fails early nor is stopped in its training. -/
structure ToldInv (executor : TrainingExecutor) : Prop where
  inv : TrainingInv executor
  loader : ∀ loader, executor.loader = some loader → ErrorInv loader
  told : StateTold executor executor.stage

theorem ToldInv.begin (executor : TrainingExecutor) : ToldInv executor.begin where
  inv := .begin executor
  loader := forall_loader_begin
  told := by
    unfold TrainingExecutor.begin
    dsimp only
    split <;> exact rfl

/-- No stream fails unseen, the run does not fail before its training, and no stop ends its
training. -/
def runTold {μ : Type} (executor : TrainingExecutor) : TrainingOp μ → Bool
  | .message outcome => executor.loader.all fun loader => failsAfterLast loader outcome
  | .loader opened => executor.loader.all fun loader => opensWell loader opened
  | .step env => trainsUnstopped executor env
  | .pause | .resume | .stop | .clientSend => true

theorem ToldInv.applyTrainingOp {μ : Type} (verify : μ → StreamResult) (inv : ToldInv executor)
    {op : TrainingOp μ} (told : runTold executor op = true) :
    ToldInv (applyTrainingOp verify executor op) := by
  have kept := inv.loader
  refine ⟨inv.inv.applyTrainingOp verify op, ?_, ?_⟩
  · cases op with
    | pause | resume | stop =>
        exact forall_onAttached (fun _ kept => kept.of_client_eq rfl id rfl kept.failed_error) kept
    | message outcome =>
        refine forall_onLoader fun loader found => ?_
        rw [runTold, found, Option.all_some] at told
        exact (kept loader found).message verify told
    | clientSend => exact forall_onLoader fun loader found => (kept loader found).clientSend
    | loader opened =>
        refine forall_onLoader fun loader found => ?_
        rw [runTold, found, Option.all_some] at told
        exact (kept loader found).step (inv.inv.loader_inv loader found) told
    | step env =>
        exact (loaderStep executor env).forall
          (fun _ kept => kept.of_client_eq rfl id rfl kept.failed_error)
          (fun _ kept => kept.receive)
          (fun _ kept => kept.of_client_eq rfl id rfl kept.failed_error) (.started _) kept
  · cases op with
    | step env => exact inv.told.step told
    | pause | resume | stop | message _ | clientSend | loader _ =>
        exact (sameRun_applyTrainingOp verify fun _ same => by cases same).stateTold inv.told

/-- Such a run is left in the states that say how it ended. -/
theorem ToldInv.statesTold (inv : ToldInv executor) : StatesTold executor := by
  have told := inv.told
  have run_inv := inv.inv.run_inv
  refine
    { stopped := fun result returned ended => ?_
      failed := fun error returned running => ?_
      completed := fun result returned completed => ?_
      loader := fun loader found => (inv.loader loader found).failureTold }
  · rw [returned] at told
    cases result with
    | ok status =>
        rcases told with ⟨-, stopped⟩ | ⟨running, -⟩
        · exact stopped
        · rw [ended] at running
          cases running
    | error error =>
        obtain ⟨running, -⟩ := told
        rw [ended] at running
        cases running
  · rw [returned] at told
    exact told.2
  · rw [returned] at told run_inv
    cases result with
    | ok status =>
        refine ⟨⟨status, rfl⟩, ?_⟩
        rcases told with ⟨-, stopped⟩ | ⟨-, -, status_completed⟩
        · rw [completed] at stopped
          cases stopped
        · exact run_inv status_completed
    | error error =>
        obtain ⟨-, failed, -⟩ := told
        rw [completed] at failed
        cases failed

end Run

/-- Where no stream fails to open or before its last batch, a loader whose task ended because of a
stream is left in the error state; where the run does not fail before its training either, and no
stop ends its training, the run is left in the state that says how it ended. -/
theorem terminal_states_told {μ : Type} (verify : μ → StreamResult) :
    (∀ (config : DataLoaderConfig) (ops : List (LoaderOp μ)),
      EveryStep (applyLoaderOp verify) (fun loader op => streamsSucceed loader op = true)
        (.started config) ops →
          EveryState (applyLoaderOp verify) FailureTold (.started config) ops) ∧
    ∀ (executor : TrainingExecutor) (ops : List (TrainingOp μ)),
      EveryStep (applyTrainingOp verify) (fun executor op => runTold executor op = true)
        executor.begin ops →
          EveryState (applyTrainingOp verify) StatesTold executor.begin ops := by
  constructor
  · intro config ops succeed
    have keeps : ∀ (loader : DataLoader) (op : LoaderOp μ), LoaderInv loader ∧ ErrorInv loader →
        streamsSucceed loader op = true → LoaderInv (applyLoaderOp verify loader op) ∧
          ErrorInv (applyLoaderOp verify loader op) :=
      fun loader op both succeed =>
        ⟨both.1.applyLoaderOp verify op, both.2.applyLoaderOp verify both.1 succeed⟩
    exact (everyState_of_everyStep keeps ⟨.started config, .started config⟩ succeed).mono
      fun _ both => both.2.failureTold
  · intro executor ops told
    exact (everyState_of_everyStep (fun _ _ inv told => inv.applyTrainingOp verify told)
      (ToldInv.begin executor) told).mono fun _ inv => inv.statesTold

namespace OneEpoch

/-- The run with a whole stream, which is left completed. -/
theorem wholeRun_told :
    EveryState (applyTrainingOp (verifyMessage Reference.hash)) StatesTold
        (TrainingExecutor.new job).begin wholeRun ∧
      (runAll (applyTrainingOp (verifyMessage Reference.hash)) (TrainingExecutor.new job).begin
        wholeRun).state = .completed := by
  refine ⟨(terminal_states_told (verifyMessage Reference.hash)).2 (.new job) wholeRun ?_, ?_⟩ <;>
    decide

/-- The job with a verification. -/
def verifiedJob : TrainingJobConfig := { job with verifyBeforeTraining := true }

/-- A run whose verification fails is left verifying, without an error in its status. -/
theorem failedVerification_not_told :
    ¬ EveryState (applyTrainingOp (verifyMessage Reference.hash)) StatesTold
      (TrainingExecutor.new verifiedJob).begin [.step env] := by
  intro told
  obtain ⟨failed, -⟩ := told.last.failed _ rfl rfl
  cases failed

end OneEpoch

end CyxCloud.Node
