import CyxCloud.Node.DataLoader

/-!
# The training executor

`TrainingExecutor` of `cyxcloud-node/src/training_executor.rs`: a run verifies the dataset, starts a
loader and passes its batches to a callback, while other tasks pause, resume and stop it.  The tasks
of the loader take their steps in between.  Times are left out; whether the status is due is a
parameter of a step.
-/

namespace CyxCloud.Node

open CyxCloud.Core hiding Chunk
open Library Metadata Gateway

/-! ## Errors -/

/-- Failures of a verification. -/
inductive VerificationError where
  | hashMismatch (expected actual : String)
  | insufficientTrust (required actual : Int)
  | verificationFailed (message : String)
  | registryCheckFailed (message : String)
  | dataStreamError (message : String)
  deriving DecidableEq, Repr

/-- The text of a failed verification. -/
def VerificationError.message : VerificationError → String
  | .hashMismatch expected actual => "Hash mismatch: expected " ++ expected ++ ", got " ++ actual
  | .insufficientTrust required actual =>
      "Trust level insufficient: required " ++ toString required ++ ", got " ++ toString actual
  | .verificationFailed message => "Dataset verification failed: " ++ message
  | .registryCheckFailed message => "Public registry check failed: " ++ message
  | .dataStreamError message => "Data stream error: " ++ message

/-- Failures of a training job. -/
inductive TrainingError where
  | verificationFailed (cause : VerificationError)
  | loadingError (message : String)
  | interrupted
  | configError (message : String)
  | callbackError (message : String)
  deriving DecidableEq, Repr

/-- The text of a failed training job. -/
def TrainingError.message : TrainingError → String
  | .verificationFailed cause => "Dataset verification failed: " ++ cause.message
  | .loadingError message => "Data loading error: " ++ message
  | .interrupted => "Training interrupted"
  | .configError message => "Configuration error: " ++ message
  | .callbackError message => "Callback error: " ++ message

/-! ## The executor -/

/-- Configuration of a training job. -/
structure TrainingJobConfig where
  datasetId : String
  batchSize : Int
  epochs : Nat
  shuffle : Bool
  verifyBeforeTraining : Bool
  prefetchBatches : Int
  accessToken : Option String
  /-- The largest trust level that the trust requirement accepts. -/
  maxTrustLevel : Int
  deriving DecidableEq, Repr

/-- The configuration of the loader of a job; it has no seed. -/
def TrainingJobConfig.createLoader (config : TrainingJobConfig) : DataLoaderConfig :=
  { datasetId := config.datasetId
    batchSize := config.batchSize
    prefetchBatches := config.prefetchBatches
    shuffle := config.shuffle
    seed := none
    numEpochs := some config.epochs
    streamConfig :=
      { accessToken := some (config.accessToken.getD "")
        batchSize := 32
        prefetchBatches := 4
        maxTrustLevel := config.maxTrustLevel } }

/-- The result of the verification of a dataset. -/
structure DatasetVerification where
  passed : Bool
  trustLevel : Int
  isPublicDataset : Bool
  publicDatasetName : Option String
  publicDatasetVersion : Option String
  manifestVerified : Bool
  filesVerified : Nat
  filesFailed : Nat
  messages : List String
  deriving DecidableEq, Repr

/-- States of a training job. -/
inductive TrainingState where
  | idle
  | verifying
  | initializing
  | training
  | paused
  | completed
  | failed
  | stopped
  deriving DecidableEq, Repr

/-- Status of a training job. -/
structure TrainingStatus where
  state : TrainingState
  epoch : Nat
  totalEpochs : Nat
  epochBatches : Nat
  totalBatches : Nat
  globalBatches : Nat
  itemsProcessed : Nat
  verification : Option DatasetVerification
  error : Option String
  deriving DecidableEq, Repr

/-- Where a run is. -/
inductive TrainingStage where
  /-- The dataset is verified. -/
  | verifying
  /-- The verification is over, and the stop is checked. -/
  | verified
  /-- The loader is started. -/
  | initializing
  /-- The loader runs, and the executor does not have it yet. -/
  | started
  | receiving
  /-- A result was received, and the pause is checked. -/
  | held (result : LoaderResult)
  | sleeping (result : LoaderResult)
  /-- There is no pause, and the stop is checked. -/
  | unpaused (result : LoaderResult)
  /-- The training loop has returned. -/
  | leaving (result : Except TrainingError Unit)
  /-- The loader has been stopped. -/
  | concluding (result : Except TrainingError Unit)
  | returned (result : Except TrainingError TrainingStatus)
  /-- The loader could not make a channel. -/
  | panicked

/-- An executor in a run, with its loader and its history. -/
structure TrainingExecutor where
  config : TrainingJobConfig
  state : TrainingState
  status : TrainingStatus
  verification : Option DatasetVerification
  shouldStop : Bool
  isPaused : Bool
  batchesProcessed : Nat
  itemsProcessed : Nat
  stage : TrainingStage
  /-- The loader of the run. -/
  loader : Option DataLoader
  /-- The executor has the loader, and controls it. -/
  attached : Bool
  /-- The batches that the callback has accepted. -/
  processed : List TrainingBatch
  /-- The run ends because of a stop. -/
  endedByStop : Bool

/-- An executor before its first run. -/
def TrainingExecutor.new (config : TrainingJobConfig) : TrainingExecutor :=
  { config
    state := .idle
    status :=
      { state := .idle
        epoch := 0
        totalEpochs := config.epochs
        epochBatches := 0
        totalBatches := 0
        globalBatches := 0
        itemsProcessed := 0
        verification := none
        error := none }
    verification := none
    shouldStop := false
    isPaused := false
    batchesProcessed := 0
    itemsProcessed := 0
    stage := .verified
    loader := none
    attached := false
    processed := []
    endedByStop := false }

/-- What a step of a run meets. -/
structure TrainingEnv where
  verification : Except VerificationError DatasetVerification
  /-- The connection of the loader. -/
  connect : Except DataStreamError Unit
  /-- The answer of the callback. -/
  callback : Except String Unit
  /-- The last status is older than the interval. -/
  statusDue : Bool

namespace TrainingExecutor

variable (executor : TrainingExecutor)

def updateState (state : TrainingState) : TrainingExecutor :=
  { executor with
    state
    status := { executor.status with state } }

/-- Change the loader, if there is one. -/
def onLoader (change : DataLoader → DataLoader) : TrainingExecutor :=
  { executor with loader := executor.loader.map change }

/-- Change the loader that the executor has. -/
def onAttached (change : DataLoader → DataLoader) : TrainingExecutor :=
  if executor.attached then executor.onLoader change else executor

/-! ## Controls -/

def pause : TrainingExecutor := { executor with isPaused := true }.onAttached .pause

def resume : TrainingExecutor := { executor with isPaused := false }.onAttached .resume

def stop : TrainingExecutor :=
  { executor with
    shouldStop := true
    isPaused := false }.onAttached .stop

/-! ## The run -/

/-- Begin a run: flags and counters are reset, and the loader of an earlier run is of no account. -/
def begin : TrainingExecutor :=
  let reset : TrainingExecutor :=
    { executor with
      shouldStop := false
      isPaused := false
      batchesProcessed := 0
      itemsProcessed := 0
      stage := .verified
      loader := none
      attached := false
      processed := []
      endedByStop := false }
  if executor.config.verifyBeforeTraining then
    { reset.updateState .verifying with stage := .verifying }
  else
    reset

/-- Leave the training loop, whose receiver is dropped. -/
def leave (result : Except TrainingError Unit) : TrainingExecutor :=
  { executor.onLoader .dropReceiver with stage := .leaving result }

/-- Pass a batch to the callback and count it. -/
def process (env : TrainingEnv) (batch : TrainingBatch) : TrainingExecutor :=
  match env.callback with
  | .error message => executor.leave (.error (.callbackError message))
  | .ok () =>
      let globalBatches := executor.batchesProcessed + 1
      let items := executor.itemsProcessed + batch.items.length
      { executor with
        batchesProcessed := globalBatches
        itemsProcessed := items
        status :=
          if env.statusDue then
            { executor.status with
              epoch := batch.epoch
              epochBatches := batch.epochIndex + 1
              totalBatches := batch.totalBatches
              globalBatches
              itemsProcessed := items }
          else
            executor.status
        processed := executor.processed ++ [batch]
        stage := .receiving }

/-- The next result of the loader. -/
def next (loader : DataLoader) : TrainingExecutor :=
  match loader.output.receive with
  | (.waiting, _) => executor
  | (.ended, _) => { executor.leave (.ok ()) with endedByStop := loader.stopped }
  | (.item result, _) => { executor.onLoader .receive with stage := .held result }

/-- One step of a run. -/
def step (env : TrainingEnv) : TrainingExecutor :=
  match executor.stage with
  | .verifying =>
      match env.verification with
      | .error cause => { executor with stage := .returned (.error (.verificationFailed cause)) }
      | .ok verification =>
          { executor with
            verification := some verification
            status := { executor.status with verification := some verification }
            stage := .verified }
  | .verified =>
      if executor.shouldStop then
        let stopped := executor.updateState .stopped
        { stopped with
          stage := .returned (.ok stopped.status)
          endedByStop := true }
      else
        { executor.updateState .initializing with stage := .initializing }
  | .initializing =>
      match DataLoader.start executor.config.createLoader env.connect with
      | .failed error =>
          { executor with
            stage :=
              .returned (.error (.loadingError ("Failed to start loader: " ++ error.message))) }
      | .panicked => { executor with stage := .panicked }
      | .started loader =>
          { executor with
            loader := some loader
            stage := .started }
  | .started =>
      { executor.updateState .training with
        attached := true
        stage := .receiving }
  | .receiving =>
      match executor.loader with
      | none => executor
      | some loader => executor.next loader
  | .held result =>
      if executor.isPaused then
        { executor.updateState .paused with stage := .sleeping result }
      else
        { executor with stage := .unpaused result }
  | .sleeping result =>
      if executor.shouldStop then
        { executor.leave (.error .interrupted) with endedByStop := true }
      else
        { executor with stage := .held result }
  | .unpaused result =>
      if executor.shouldStop then
        { executor.leave (.error .interrupted) with endedByStop := true }
      else
        match result with
        | .error error =>
            (executor.updateState .training).leave
              (.error (.loadingError ("Batch loading failed: " ++ error.message)))
        | .ok batch => (executor.updateState .training).process env batch
  | .leaving result => { executor.onLoader .stop with stage := .concluding result }
  | .concluding (.ok ()) =>
      let completed := executor.updateState .completed
      { completed with stage := .returned (.ok completed.status) }
  | .concluding (.error error) =>
      let failed := executor.updateState .failed
      { failed with
        status := { failed.status with error := some error.message }
        stage := .returned (.error error) }
  | .returned _ | .panicked => executor

end TrainingExecutor

/-! ## Runs -/

/-- What may happen during a run. -/
inductive TrainingOp (μ : Type) where
  | pause
  | resume
  | stop
  | message (outcome : Except String (Option μ))
  | clientSend
  | loader (opened : Except DataStreamError Unit)
  | step (env : TrainingEnv)

/-- The executor after an event. -/
def applyTrainingOp {μ : Type} (verify : μ → StreamResult) (executor : TrainingExecutor) :
    TrainingOp μ → TrainingExecutor
  | .pause => executor.pause
  | .resume => executor.resume
  | .stop => executor.stop
  | .message outcome => executor.onLoader fun loader => loader.message verify outcome
  | .clientSend => executor.onLoader .clientSend
  | .loader opened => executor.onLoader fun loader => loader.step opened
  | .step env => executor.step env

end CyxCloud.Node
