import CyxCloud.Node.DeliveryOrder
import CyxCloud.Node.TrainingExecutor

/-!
# Runs of the training executor

What a run has processed are the results that it took from its loader, one after the other.  A
training loop that returns regularly has processed all that its loader had to give, unless the loader
was stopped.
-/

namespace CyxCloud.Node

open CyxCloud.Core hiding Chunk
open Library Metadata Gateway

/-! ## The loader of a run -/

/-- What events outside the run itself keep of a loader. -/
structure KeepsLoader (loader after : DataLoader) : Prop where
  config_eq : after.config = loader.config
  taken_eq : after.output.taken = loader.output.taken
  dropped_eq : after.output.dropped = loader.output.dropped
  done : loader.stage = .done → after.stage = .done ∧ after.epoch = loader.epoch ∧
    after.completed = loader.completed

section Loader

variable {loader after : DataLoader}

/-- The other tasks keep a loader as long as they leave its output alone. -/
theorem Extends.keepsLoader (extended : Extends loader after)
    (output_eq : after.output = loader.output) : KeepsLoader loader after where
  config_eq := extended.config_eq
  taken_eq := by rw [output_eq]
  dropped_eq := by rw [output_eq]
  done done := ⟨extended.stage_eq.trans done, extended.epoch_eq, extended.completed_eq⟩

theorem keepsLoader_message {μ : Type} (verify : μ → StreamResult)
    (outcome : Except String (Option μ)) : KeepsLoader loader (loader.message verify outcome) := by
  refine (extends_message verify outcome).keepsLoader ?_
  unfold DataLoader.message
  split
  · split <;> rfl
  · rfl
  · rfl

theorem keepsLoader_clientSend (inv : LoaderInv loader) : KeepsLoader loader loader.clientSend := by
  refine (extends_clientSend inv).keepsLoader ?_
  unfold DataLoader.clientSend
  split
  · split
    · rfl
    · rfl
    · split <;> rfl
  · rfl
  · rfl

theorem keepsLoader_step (opened : Except DataStreamError Unit) :
    KeepsLoader loader (loader.step opened) := by
  have frame := stepFrame loader opened
  refine ⟨frame.config_eq, frame.output_taken, frame.output_dropped, fun done => ?_⟩
  rw [step_of_done done]
  exact ⟨done, rfl, rfl⟩

end Loader

/-! ## The invariant -/

/-- The executor has taken the results that it processed, and the rest. -/
def Took (executor : TrainingExecutor) (rest : List LoaderResult) : Prop :=
  ∃ loader, executor.loader = some loader ∧ loader.output.dropped = false ∧
    loader.output.taken = executor.processed.map .ok ++ rest

/-- The loader has ended, and all that it had to give was processed unless it was stopped. -/
def Trained (executor : TrainingExecutor) : Prop :=
  ∃ loader, executor.loader = some loader ∧ loader.stage = .done ∧
    (executor.endedByStop = false →
      executor.processed = loader.numberedBatches [] ∧ loader.limitReached = true)

/-- What a run has done, by where it is. -/
def RunInv (executor : TrainingExecutor) : TrainingStage → Prop
  | .verifying | .verified | .initializing =>
      executor.loader = none ∧ executor.processed = [] ∧ executor.endedByStop = false
  | .started | .receiving => Took executor [] ∧ executor.endedByStop = false
  | .held result | .sleeping result | .unpaused result =>
      Took executor [result] ∧ executor.endedByStop = false
  | .leaving (.ok _) | .concluding (.ok _) => Trained executor
  | .returned (.ok status) => status.state = .completed → Trained executor
  | .leaving (.error _) | .concluding (.error _) | .returned (.error _) | .panicked => True

/-- The invariant of a run. -/
structure TrainingInv (executor : TrainingExecutor) : Prop where
  loader_inv : ∀ loader, executor.loader = some loader → LoaderInv loader
  epochs_eq : ∀ loader, executor.loader = some loader →
    loader.config.numEpochs = some executor.config.epochs
  run_inv : RunInv executor executor.stage

/-- A run begins without a loader. -/
theorem forall_loader_begin {executor : TrainingExecutor} {property : DataLoader → Prop} :
    ∀ loader, executor.begin.loader = some loader → property loader := by
  have no_loader : executor.begin.loader = none := by
    unfold TrainingExecutor.begin
    dsimp only
    split <;> rfl
  intro loader found
  rw [no_loader] at found
  cases found

theorem TrainingInv.begin (executor : TrainingExecutor) : TrainingInv executor.begin where
  loader_inv := forall_loader_begin
  epochs_eq := forall_loader_begin
  run_inv := by
    unfold TrainingExecutor.begin
    dsimp only
    split <;> exact ⟨rfl, rfl, rfl⟩

section Steps

variable {executor after : TrainingExecutor}

/-! ## Events outside the run -/

/-- A run keeps its invariant while its loader takes a step. -/
theorem RunInv.onLoader {change : DataLoader → DataLoader} {stage : TrainingStage}
    (keeps : ∀ loader, executor.loader = some loader → KeepsLoader loader (change loader))
    (kept : RunInv executor stage) : RunInv (executor.onLoader change) stage := by
  have took {rest : List LoaderResult} (took : Took executor rest) :
      Took (executor.onLoader change) rest := by
    obtain ⟨loader, found, dropped, taken⟩ := took
    have kept := keeps loader found
    exact ⟨change loader, congrArg (Option.map change) found, kept.dropped_eq.trans dropped,
      kept.taken_eq.trans taken⟩
  have trained (trained : Trained executor) : Trained (executor.onLoader change) := by
    obtain ⟨loader, found, done, whole⟩ := trained
    have kept := keeps loader found
    obtain ⟨still_done, epoch_eq, completed_eq⟩ := kept.done done
    refine ⟨change loader, congrArg (Option.map change) found, still_done, ?_⟩
    rwa [DataLoader.numberedBatches, completed_eq, DataLoader.limitReached, kept.config_eq,
      epoch_eq]
  cases stage with
  | verifying | verified | initializing =>
      obtain ⟨no_loader, processed, running⟩ := kept
      exact ⟨congrArg (Option.map change) no_loader, processed, running⟩
  | started | receiving | held _ | sleeping _ | unpaused _ => exact ⟨took kept.1, kept.2⟩
  | leaving result | concluding result =>
      cases result with
      | ok _ => exact trained kept
      | error _ => trivial
  | returned result =>
      cases result with
      | ok status => exact fun completed => trained (kept completed)
      | error _ => trivial
  | panicked => trivial

theorem TrainingInv.onLoader (inv : TrainingInv executor) {change : DataLoader → DataLoader}
    (loader_inv : ∀ loader, LoaderInv loader → LoaderInv (change loader))
    (keeps : ∀ loader, LoaderInv loader → KeepsLoader loader (change loader)) :
    TrainingInv (executor.onLoader change) where
  loader_inv loader found := by
    obtain ⟨before, before_found, rfl⟩ := Option.map_eq_some_iff.mp found
    exact loader_inv before (inv.loader_inv before before_found)
  epochs_eq loader found := by
    obtain ⟨before, before_found, rfl⟩ := Option.map_eq_some_iff.mp found
    rw [(keeps before (inv.loader_inv before before_found)).config_eq]
    exact inv.epochs_eq before before_found
  run_inv := inv.run_inv.onLoader fun loader found => keeps loader (inv.loader_inv loader found)

/-- What a run has done depends on its loader and its history alone. -/
theorem RunInv.of_eq {stage : TrainingStage} (kept : RunInv executor stage)
    (loader_eq : after.loader = executor.loader)
    (processed_eq : after.processed = executor.processed)
    (ended_eq : after.endedByStop = executor.endedByStop) : RunInv after stage := by
  have took {rest : List LoaderResult} : Took after rest ↔ Took executor rest := by
    rw [Took, Took, loader_eq, processed_eq]
  have trained : Trained after ↔ Trained executor := by
    rw [Trained, Trained, loader_eq, processed_eq, ended_eq]
  cases stage with
  | verifying | verified | initializing =>
      rwa [RunInv, loader_eq, processed_eq, ended_eq]
  | started | receiving | held _ | sleeping _ | unpaused _ => rwa [RunInv, took, ended_eq]
  | leaving result | concluding result =>
      cases result with
      | ok _ => exact trained.mpr kept
      | error _ => trivial
  | returned result =>
      cases result with
      | ok status => exact fun completed => trained.mpr (kept completed)
      | error _ => trivial
  | panicked => trivial

theorem TrainingInv.setPaused (inv : TrainingInv executor) (isPaused : Bool) :
    TrainingInv { executor with isPaused } :=
  ⟨inv.loader_inv, inv.epochs_eq, inv.run_inv.of_eq rfl rfl rfl⟩

theorem TrainingInv.onAttached (inv : TrainingInv executor) {change : DataLoader → DataLoader}
    (extended : ∀ loader, Extends loader (change loader))
    (output_eq : ∀ loader, (change loader).output = loader.output)
    (client_ended : ∀ loader, LoaderInv loader → (change loader).stream.closed = true →
      ∃ reason, (change loader).client = .ended reason) :
    TrainingInv (executor.onAttached change) := by
  unfold TrainingExecutor.onAttached
  split
  · exact inv.onLoader (fun loader kept => kept.extend (extended loader) (client_ended loader kept))
      fun loader _ => (extended loader).keepsLoader (output_eq loader)
  · exact inv

theorem TrainingInv.pause (inv : TrainingInv executor) : TrainingInv executor.pause :=
  (inv.setPaused true).onAttached (fun _ => extends_pause) (fun _ => rfl)
    fun _ kept => kept.client_ended

theorem TrainingInv.resume (inv : TrainingInv executor) : TrainingInv executor.resume :=
  (inv.setPaused false).onAttached (fun _ => extends_resume) (fun _ => rfl)
    fun _ kept => kept.client_ended

theorem TrainingInv.stop (inv : TrainingInv executor) : TrainingInv executor.stop := by
  have flagged : TrainingInv
      { executor with
        shouldStop := true
        isPaused := false } :=
    ⟨inv.loader_inv, inv.epochs_eq, inv.run_inv.of_eq rfl rfl rfl⟩
  exact flagged.onAttached (fun _ => extends_stop) (fun _ => rfl) fun _ kept => kept.client_ended

/-- Events outside the run keep its stage, its state and its history. -/
structure SameRun (executor after : TrainingExecutor) : Prop where
  stage_eq : after.stage = executor.stage
  state_eq : after.state = executor.state
  status_eq : after.status = executor.status
  ended_eq : after.endedByStop = executor.endedByStop

theorem sameRun_onAttached (executor : TrainingExecutor) (change : DataLoader → DataLoader) :
    SameRun executor (executor.onAttached change) := by
  unfold TrainingExecutor.onAttached
  split <;> exact ⟨rfl, rfl, rfl, rfl⟩

theorem sameRun_applyTrainingOp {μ : Type} (verify : μ → StreamResult) {op : TrainingOp μ}
    (outside : ∀ env, op ≠ .step env) : SameRun executor (applyTrainingOp verify executor op) := by
  cases op with
  | pause | resume | stop =>
      obtain ⟨stage_eq, state_eq, status_eq, ended_eq⟩ := sameRun_onAttached _ _
      exact ⟨stage_eq, state_eq, status_eq, ended_eq⟩
  | message outcome | clientSend | loader opened => exact ⟨rfl, rfl, rfl, rfl⟩
  | step env => exact absurd rfl (outside env)

/-- What all uses of a loader keep holds of the loader that the executor controls. -/
theorem forall_onLoader {property : DataLoader → Prop} {change : DataLoader → DataLoader}
    (keeps : ∀ loader, executor.loader = some loader → property (change loader)) :
    ∀ loader, (executor.onLoader change).loader = some loader → property loader := by
  intro loader found
  obtain ⟨before, before_found, rfl⟩ := Option.map_eq_some_iff.mp found
  exact keeps before before_found

theorem forall_onAttached {property : DataLoader → Prop} {change : DataLoader → DataLoader}
    (keeps : ∀ loader, property loader → property (change loader))
    (kept : ∀ loader, executor.loader = some loader → property loader) :
    ∀ loader, (executor.onAttached change).loader = some loader → property loader := by
  unfold TrainingExecutor.onAttached
  split
  · exact forall_onLoader fun loader found => keeps loader (kept loader found)
  · exact kept

/-! ## What a step of the run does to its loader -/

/-- A step leaves the loader alone, uses it in one way, or starts it. -/
inductive LoaderStep (executor : TrainingExecutor) : Option DataLoader → Prop
  | same : LoaderStep executor executor.loader
  | dropReceiver : LoaderStep executor (executor.loader.map .dropReceiver)
  | receive : LoaderStep executor (executor.loader.map .receive)
  | stop : LoaderStep executor (executor.loader.map .stop)
  | started : LoaderStep executor (some (.started executor.config.createLoader))

theorem start_eq_started {config : DataLoaderConfig} {connect : Except DataStreamError Unit}
    {loader : DataLoader} (start_eq : DataLoader.start config connect = .started loader) :
    loader = .started config := by
  unfold DataLoader.start at start_eq
  split at start_eq
  · cases start_eq
  · split at start_eq
    · cases start_eq
    · exact (LoaderStart.started.inj start_eq).symm

theorem loaderStep (executor : TrainingExecutor) (env : TrainingEnv) :
    LoaderStep executor (executor.step env).loader := by
  unfold TrainingExecutor.step
  cases executor.stage with
  | verifying | verified | held _ =>
      dsimp only
      split <;> exact .same
  | initializing =>
      dsimp only
      split
      · exact .same
      · exact .same
      · rename_i loader start_eq
        rw [start_eq_started start_eq]
        exact .started
  | receiving =>
      dsimp only
      split
      · exact .same
      · unfold TrainingExecutor.next
        split
        · exact .same
        · exact .dropReceiver
        · exact .receive
  | sleeping _ =>
      dsimp only
      split
      · exact .dropReceiver
      · exact .same
  | unpaused result =>
      dsimp only
      split
      · exact .dropReceiver
      · cases result with
        | error _ => exact .dropReceiver
        | ok batch =>
            dsimp only
            unfold TrainingExecutor.process
            split
            · exact .dropReceiver
            · exact .same
  | leaving _ => exact .stop
  | concluding result => cases result <;> exact .same
  | started | returned _ | panicked => exact .same

/-- What all these uses of a loader keep holds of the loader after a step. -/
theorem LoaderStep.forall {property : DataLoader → Prop} {reached : Option DataLoader}
    (step : LoaderStep executor reached)
    (dropReceiver : ∀ loader, property loader → property loader.dropReceiver)
    (receive : ∀ loader, property loader → property loader.receive)
    (stop : ∀ loader, property loader → property loader.stop)
    (started : property (.started executor.config.createLoader))
    (kept : ∀ loader, executor.loader = some loader → property loader) :
    ∀ loader, reached = some loader → property loader := by
  cases step with
  | same => exact kept
  | dropReceiver => exact forall_onLoader fun loader found => dropReceiver loader (kept loader found)
  | receive => exact forall_onLoader fun loader found => receive loader (kept loader found)
  | stop => exact forall_onLoader fun loader found => stop loader (kept loader found)
  | started =>
      intro loader found
      rwa [← Option.some.inj found]

/-! ## Steps of the run -/

/-- A step that leaves the loader alone. -/
theorem TrainingInv.of_loader_eq (inv : TrainingInv executor)
    (loader_eq : after.loader = executor.loader) (config_eq : after.config = executor.config)
    (run_inv : RunInv after after.stage) : TrainingInv after where
  loader_inv := by
    rw [loader_eq]
    exact inv.loader_inv
  epochs_eq := by
    rw [loader_eq, config_eq]
    exact inv.epochs_eq
  run_inv := run_inv

/-- A step that changes the loader. -/
theorem TrainingInv.of_change (inv : TrainingInv executor) {change : DataLoader → DataLoader}
    (loader_eq : after.loader = executor.loader.map change)
    (config_eq : after.config = executor.config)
    (loader_inv : ∀ loader, LoaderInv loader → LoaderInv (change loader))
    (loader_config_eq : ∀ loader, (change loader).config = loader.config)
    (run_inv : RunInv after after.stage) : TrainingInv after where
  loader_inv loader found := by
    rw [loader_eq] at found
    obtain ⟨before, before_found, rfl⟩ := Option.map_eq_some_iff.mp found
    exact loader_inv before (inv.loader_inv before before_found)
  epochs_eq loader found := by
    rw [loader_eq] at found
    obtain ⟨before, before_found, rfl⟩ := Option.map_eq_some_iff.mp found
    rw [loader_config_eq, config_eq]
    exact inv.epochs_eq before before_found
  run_inv := run_inv

theorem TrainingInv.leave (inv : TrainingInv executor) (error : TrainingError)
    (endedByStop : Bool) :
    TrainingInv { executor.leave (.error error) with endedByStop } :=
  inv.of_change rfl rfl (fun _ kept => kept.extend extends_dropReceiver kept.client_ended)
    (fun _ => rfl) trivial

/-- A loader without more results has given all that it had, unless it was stopped. -/
theorem TrainingInv.trained (inv : TrainingInv executor) (took : Took executor [])
    {loader : DataLoader} (found : executor.loader = some loader)
    {output : Channel LoaderResult} (ended : loader.output.receive = (.ended, output)) :
    Trained { executor.leave (.ok ()) with endedByStop := loader.stopped } := by
  obtain ⟨other, other_found, kept, taken⟩ := took
  obtain rfl : loader = other := Option.some.inj (found.symm.trans other_found)
  have loader_inv := inv.loader_inv loader found
  obtain ⟨closed, all, -⟩ := Channel.receive_eq_ended ended
  have done := loader_inv.output_closed closed
  have delivered : loader.delivered = executor.processed := by
    rw [DataLoader.delivered, taken]
    exact filterMap_toOption executor.processed []
  have no_error : ∀ error, .error error ∉ loader.output.taken := by
    intro error member
    rw [taken, List.append_nil] at member
    obtain ⟨batch, -, differ⟩ := List.mem_map.mp member
    cases differ
  refine ⟨loader.dropReceiver, congrArg (Option.map _) found, done, fun running => ?_⟩
  obtain ⟨whole, -, limit⟩ := loader_inv.delivered_whole done all running kept no_error
  exact ⟨delivered.symm.trans whole, limit⟩

theorem TrainingInv.next (inv : TrainingInv executor) (stage_eq : executor.stage = .receiving)
    {loader : DataLoader} (found : executor.loader = some loader) :
    TrainingInv (executor.next loader) := by
  have run_inv := inv.run_inv
  rw [stage_eq] at run_inv
  obtain ⟨took, running⟩ := run_inv
  unfold TrainingExecutor.next
  split
  · exact inv
  · rename_i ended
    exact inv.of_change rfl rfl (fun _ kept => kept.extend extends_dropReceiver kept.client_ended)
      (fun _ => rfl) (inv.trained took found ended)
  · rename_i result output received
    have config_eq : ∀ loader : DataLoader, loader.receive.config = loader.config := fun _ =>
      extends_receive.config_eq
    refine inv.of_change rfl rfl (fun _ kept => kept.receive) config_eq ⟨?_, running⟩
    obtain ⟨other, other_found, kept, taken⟩ := took
    obtain rfl : loader = other := Option.some.inj (found.symm.trans other_found)
    obtain ⟨-, -, received_taken⟩ := Channel.receive_eq_item received
    have received_eq : loader.receive.output = output := by
      rw [DataLoader.receive, if_neg (by simp [kept]), received]
    refine ⟨loader.receive, congrArg (Option.map _) found, ?_, ?_⟩
    · have dropped := loader.output.dropped_receive
      rw [received] at dropped
      rw [received_eq, dropped, kept]
    · rw [received_eq, received_taken, taken, List.append_nil]
      rfl

theorem TrainingInv.process (inv : TrainingInv executor) (env : TrainingEnv)
    {batch : TrainingBatch} (took : Took executor [.ok batch])
    (running : executor.endedByStop = false) : TrainingInv (executor.process env batch) := by
  unfold TrainingExecutor.process
  split
  · exact inv.leave _ executor.endedByStop
  · refine inv.of_loader_eq rfl rfl ⟨?_, running⟩
    obtain ⟨loader, found, kept, taken⟩ := took
    refine ⟨loader, found, kept, ?_⟩
    rw [taken, List.append_nil, List.map_append]
    rfl

theorem TrainingInv.step (inv : TrainingInv executor) (env : TrainingEnv) :
    TrainingInv (executor.step env) := by
  have run_inv := inv.run_inv
  revert run_inv
  unfold TrainingExecutor.step
  cases stage_eq : executor.stage with
  | verifying =>
      rintro ⟨no_loader, processed, running⟩
      dsimp only
      split
      · exact inv.of_loader_eq rfl rfl trivial
      · exact inv.of_loader_eq rfl rfl ⟨no_loader, processed, running⟩
  | verified =>
      rintro ⟨no_loader, processed, running⟩
      dsimp only
      split
      · exact inv.of_loader_eq rfl rfl nofun
      · exact inv.of_loader_eq rfl rfl ⟨no_loader, processed, running⟩
  | initializing =>
      rintro ⟨no_loader, processed, running⟩
      dsimp only
      split
      · exact inv.of_loader_eq rfl rfl trivial
      · exact inv.of_loader_eq rfl rfl trivial
      · rename_i loader start_eq
        have started := start_eq_started start_eq
        refine
          { loader_inv := fun other found => ?_
            epochs_eq := fun other found => ?_
            run_inv := ⟨⟨loader, rfl, ?_, ?_⟩, running⟩ }
        · rw [← Option.some.inj found, started]
          exact .started _
        · rw [← Option.some.inj found, started]
          rfl
        · rw [started]
          rfl
        · rw [started, processed]
          rfl
  | started =>
      rintro ⟨took, running⟩
      exact inv.of_loader_eq rfl rfl ⟨took, running⟩
  | receiving =>
      rintro -
      dsimp only
      split
      · exact inv
      · rename_i loader found
        exact inv.next stage_eq found
  | held result =>
      rintro ⟨took, running⟩
      dsimp only
      split <;> exact inv.of_loader_eq rfl rfl ⟨took, running⟩
  | sleeping result =>
      rintro ⟨took, running⟩
      dsimp only
      split
      · exact inv.leave _ true
      · exact inv.of_loader_eq rfl rfl ⟨took, running⟩
  | unpaused result =>
      rintro ⟨took, running⟩
      have training : TrainingInv (executor.updateState .training) :=
        inv.of_loader_eq rfl rfl (inv.run_inv.of_eq rfl rfl rfl)
      dsimp only
      split
      · exact inv.leave _ true
      · cases result with
        | error error => exact training.leave _ executor.endedByStop
        | ok batch => exact training.process env took running
  | leaving result =>
      intro run_inv
      refine inv.of_change rfl rfl (fun _ kept => kept.extend extends_stop kept.client_ended)
        (fun _ => rfl) ?_
      have kept : RunInv executor (.concluding result) := by
        cases result <;> exact run_inv
      exact kept.onLoader fun loader _ => extends_stop.keepsLoader rfl
  | concluding result =>
      intro run_inv
      cases result with
      | ok _ => exact inv.of_loader_eq rfl rfl fun _ => run_inv
      | error error => exact inv.of_loader_eq rfl rfl trivial
  | returned _ | panicked => exact fun _ => inv

theorem TrainingInv.applyTrainingOp {μ : Type} (verify : μ → StreamResult)
    (inv : TrainingInv executor) (op : TrainingOp μ) :
    TrainingInv (applyTrainingOp verify executor op) := by
  cases op with
  | pause => exact inv.pause
  | resume => exact inv.resume
  | stop => exact inv.stop
  | message outcome =>
      exact inv.onLoader (fun _ kept => kept.message verify outcome)
        fun _ _ => keepsLoader_message verify outcome
  | clientSend =>
      exact inv.onLoader (fun _ kept => kept.clientSend) fun _ kept => keepsLoader_clientSend kept
  | loader opened =>
      exact inv.onLoader (fun _ kept => kept.step opened) fun _ _ => keepsLoader_step opened
  | step env => exact inv.step env

end Steps

end CyxCloud.Node
