import CyxCloud.Library.Channels
import CyxCloud.Library.Runs
import CyxCloud.Node.DataStreamClient

/-!
# The data loader

`stream_batches` of `cyxcloud-node/src/datastream_client.rs` and `DataLoader` of `data_loader.rs`.
Two tasks pass batches on, each through a bounded channel: the client verifies what the gateway
sends, and the loader numbers what the client verified, epoch by epoch, while other tasks set its
flags.  A step runs a task from one point where it may wait to the next, and outcomes of requests are
parameters of the steps.  Indices and counters stay below their widths.
-/

namespace CyxCloud.Node

open CyxCloud.Core hiding Chunk
open Library Metadata Gateway

/-! ## Errors -/

/-- Failures of the data stream. -/
inductive DataStreamError where
  | connectionFailed (message : String)
  | grpcError (status : String)
  | transport (message : String)
  | datasetNotFound (datasetId : String)
  | accessDenied
  | tokenExpired
  | hashMismatch (expected actual : String)
  | trustLevelExceeded (actual max : Int)
  | streamEnded
  deriving DecidableEq, Repr

/-- The text of a failure. -/
def DataStreamError.message : DataStreamError → String
  | .connectionFailed message => "Connection failed: " ++ message
  | .grpcError status => "gRPC error: " ++ status
  | .transport message => "Transport error: " ++ message
  | .datasetNotFound datasetId => "Dataset not found: " ++ datasetId
  | .accessDenied => "Access denied"
  | .tokenExpired => "Token expired"
  | .hashMismatch expected actual =>
      "Hash verification failed: expected " ++ expected ++ ", got " ++ actual
  | .trustLevelExceeded actual max =>
      "Trust level " ++ toString actual ++ " exceeds maximum allowed " ++ toString max
  | .streamEnded => "Stream ended unexpectedly"

/-- Verify a message of the gateway. -/
def verifyMessage (blake3 : Bytes → Bytes) (batch : BatchResponse) :
    Except DataStreamError VerifiedBatch :=
  match verifyBatch blake3 batch with
  | .ok verified => .ok verified
  | .error mismatch => .error (.hashMismatch mismatch.expected mismatch.actual)

/-! ## Configurations and requests -/

/-- Configuration of the client. -/
structure DataStreamConfig where
  accessToken : Option String
  batchSize : Int
  prefetchBatches : Int
  maxTrustLevel : Int
  deriving DecidableEq, Repr

/-- The request for a stream of batches as it is sent. -/
structure StreamBatchesMessage where
  datasetId : String
  accessToken : String
  batchSize : Int
  startIndex : Int
  prefetchBatches : Int
  maxTrustLevel : Int
  shuffle : Bool
  seed : Int64
  deriving DecidableEq, Repr

/-- The request of the client; no seed is sent as zero. -/
def DataStreamConfig.message (config : DataStreamConfig) (datasetId : String) (startIndex : Int)
    (shuffle : Bool) (seed : Option Int64) : StreamBatchesMessage :=
  { datasetId
    accessToken := config.accessToken.getD ""
    batchSize := config.batchSize
    startIndex
    prefetchBatches := config.prefetchBatches
    maxTrustLevel := config.maxTrustLevel
    shuffle
    seed := seed.getD 0 }

/-- Configuration of the loader. -/
structure DataLoaderConfig where
  datasetId : String
  batchSize : Int
  prefetchBatches : Int
  shuffle : Bool
  seed : Option Int64
  /-- No number of epochs stands for no end. -/
  numEpochs : Option Nat
  streamConfig : DataStreamConfig
  deriving DecidableEq, Repr

/-- The configuration of a new loader: the client takes the sizes of the loader. -/
def DataLoaderConfig.new (config : DataLoaderConfig) : DataLoaderConfig :=
  { config with
    streamConfig :=
      { config.streamConfig with
        batchSize := config.batchSize
        prefetchBatches := config.prefetchBatches } }

/-- The seed of an epoch. -/
def DataLoaderConfig.epochSeed (config : DataLoaderConfig) (epoch : Nat) : Option Int64 :=
  config.seed.map fun seed => seed + Int64.ofNat epoch

/-- The request for the stream of an epoch. -/
def DataLoaderConfig.request (config : DataLoaderConfig) (epoch : Nat) : StreamBatchesMessage :=
  config.streamConfig.message config.datasetId 0 config.shuffle (config.epochSeed epoch)

/-! ## The loader and its tasks -/

/-- States of a loader. -/
inductive LoaderState where
  | idle
  | loading
  | paused
  | epochComplete
  | error
  | stopped
  deriving DecidableEq, Repr

/-- A numbered batch. -/
structure TrainingBatch where
  items : List Bytes
  /-- Its number among the batches of all epochs. -/
  globalIndex : Nat
  /-- Its number in its epoch. -/
  epochIndex : Nat
  epoch : Nat
  totalBatches : Nat
  isEpochEnd : Bool
  deriving DecidableEq, Repr

/-- Statistics of a loader. -/
structure LoaderStats where
  batchesLoaded : Nat
  itemsLoaded : Nat
  bytesLoaded : Nat
  currentEpoch : Nat
  epochBatches : Nat
  deriving DecidableEq, Repr

/-- No statistics yet. -/
def LoaderStats.zero : LoaderStats :=
  { batchesLoaded := 0
    itemsLoaded := 0
    bytesLoaded := 0
    currentEpoch := 0
    epochBatches := 0 }

/-- What the client passes on. -/
abbrev StreamResult := Except DataStreamError VerifiedBatch

/-- What the loader passes on. -/
abbrev LoaderResult := Except DataStreamError TrainingBatch

/-- Why the task of the client has ended. -/
inductive StreamEnd where
  /-- The gateway closed the stream. -/
  | closed
  /-- The stream failed. -/
  | failed (status : String)
  /-- A batch was rejected. -/
  | rejected
  /-- The receiver was gone. -/
  | abandoned
  deriving DecidableEq, Repr

/-- Where the task of the client is. -/
inductive ClientStage where
  | receiving
  | sending (result : StreamResult)
  | ended (reason : StreamEnd)

/-- Where the task of the loader is. -/
inductive LoaderStage where
  /-- Before the checks of a new epoch. -/
  | epochLimit
  /-- The stream of the epoch is requested. -/
  | opening
  | openFailed (error : DataStreamError)
  | receiving
  /-- A result was received, and the pause is checked. -/
  | held (result : StreamResult)
  | sleeping (result : StreamResult)
  /-- There is no pause, and the stop is checked. -/
  | unpaused (result : StreamResult)
  | sending (batch : TrainingBatch) (isLast : Bool)
  | sendingError (error : DataStreamError)
  /-- The epoch has no more batches. -/
  | epochEnd
  /-- The loop is left. -/
  | finish
  | done

/-- A started loader with its tasks and its history. -/
structure DataLoader where
  config : DataLoaderConfig
  state : LoaderState
  stats : LoaderStats
  currentEpoch : Nat
  globalBatchCount : Nat
  shouldStop : Bool
  isPaused : Bool
  stage : LoaderStage
  /-- A word of 32 bits in the source.  A limit is one too and stops the loader before the word
  runs out; without a limit it does so only after `2 ^ 32` epochs. -/
  epoch : Nat
  epochBatchCount : Nat
  client : ClientStage
  /-- From the client to the loader, in the epoch that is not complete. -/
  stream : Channel StreamResult
  /-- From the loader to its receiver. -/
  output : Channel LoaderResult
  /-- The requests that were made. -/
  requested : List StreamBatchesMessage
  /-- What the client passed on in the complete epochs. -/
  completed : List (List StreamResult)
  /-- A stream could not be started, or has failed as far as the loader got. -/
  failed : Bool
  /-- The task left its loop because of a stop. -/
  stopped : Bool

/-- No stream. -/
def noStream : Channel StreamResult := (Channel.fresh 0).drop

/-- A loader that has just been started. -/
def DataLoader.started (config : DataLoaderConfig) : DataLoader :=
  { config := config.new
    state := .loading
    stats := .zero
    currentEpoch := 0
    globalBatchCount := 0
    shouldStop := false
    isPaused := false
    stage := .epochLimit
    epoch := 0
    epochBatchCount := 0
    client := .ended .abandoned
    stream := noStream
    output := .fresh config.prefetchBatches.toNat
    requested := []
    completed := []
    failed := false
    stopped := false }

/-- The outcomes of a start; a channel without room panics. -/
inductive LoaderStart where
  | failed (error : DataStreamError)
  | panicked
  | started (loader : DataLoader)

/-- Connect, and start the task of the loader. -/
def DataLoader.start (config : DataLoaderConfig) (connect : Except DataStreamError Unit) :
    LoaderStart :=
  match connect with
  | .error error => .failed error
  | .ok () => if config.prefetchBatches ≤ 0 then .panicked else .started (.started config)

namespace DataLoader

variable (loader : DataLoader)

/-! ## Flags -/

def pause : DataLoader := { loader with isPaused := true }

def resume : DataLoader := { loader with isPaused := false }

def stop : DataLoader :=
  { loader with
    shouldStop := true
    isPaused := false }

/-! ## The task of the client -/

/-- A message arrives, or the stream ends or fails.  The loop goes on only for a message. -/
def message {μ : Type} (verify : μ → StreamResult) (outcome : Except String (Option μ)) :
    DataLoader :=
  match loader.client with
  | .receiving =>
      match outcome with
      | .ok (some batch) => { loader with client := .sending (verify batch) }
      | .ok none =>
          { loader with
            client := .ended .closed
            stream := loader.stream.close }
      | .error status =>
          { loader with
            client := .ended (.failed status)
            stream := loader.stream.close }
  | .sending _ | .ended _ => loader

/-- Pass a result on.  A rejected batch ends the task, as does a receiver that is gone. -/
def clientSend : DataLoader :=
  match loader.client with
  | .sending result =>
      match loader.stream.send result with
      | (.waiting, _) => loader
      | (.refused, stream) =>
          { loader with
            client := .ended .abandoned
            stream := stream.close }
      | (.accepted, stream) =>
          match result with
          | .ok _ =>
              { loader with
                client := .receiving
                stream }
          | .error _ =>
              { loader with
                client := .ended .rejected
                stream := stream.close }
  | .receiving | .ended _ => loader

/-! ## The task of the loader -/

/-- Number a verified batch. -/
def numbered (batch : VerifiedBatch) : TrainingBatch :=
  { items := batch.items
    globalIndex := loader.globalBatchCount
    epochIndex := loader.epochBatchCount
    epoch := loader.epoch
    totalBatches := batch.totalBatches
    isEpochEnd := batch.isLast }

/-- Count a verified batch, and turn to sending it. -/
def load (batch : VerifiedBatch) : DataLoader :=
  { loader with
    state := .loading
    globalBatchCount := loader.globalBatchCount + 1
    epochBatchCount := loader.epochBatchCount + 1
    stats :=
      { batchesLoaded := loader.stats.batchesLoaded + 1
        itemsLoaded := loader.stats.itemsLoaded + batch.itemCount
        bytesLoaded := loader.stats.bytesLoaded + (batch.items.map List.length).sum
        currentEpoch := loader.epoch
        epochBatches := loader.epochBatchCount + 1 }
    stage := .sending (loader.numbered batch) batch.isLast }

/-- One step of the task; `opened` is the answer to the request for a stream. -/
def step (opened : Except DataStreamError Unit) : DataLoader :=
  match loader.stage with
  | .epochLimit =>
      if loader.config.numEpochs.any fun max => decide (max ≤ loader.epoch) then
        { loader with stage := .finish }
      else if loader.shouldStop then
        { loader with
          stage := .finish
          stopped := true }
      else
        { loader with
          currentEpoch := loader.epoch
          stage := .opening }
  | .opening =>
      match opened with
      | .error error =>
          { loader with
            state := .error
            requested := loader.requested ++ [loader.config.request loader.epoch]
            failed := true
            stage := .openFailed error }
      | .ok () =>
          { loader with
            requested := loader.requested ++ [loader.config.request loader.epoch]
            client := .receiving
            stream := .fresh loader.config.prefetchBatches.toNat
            epochBatchCount := 0
            stage := .receiving }
  | .openFailed error =>
      match loader.output.send (.error error) with
      | (.waiting, _) => loader
      | (.refused, output) | (.accepted, output) =>
          { loader with
            output
            stage := .finish }
  | .receiving =>
      match loader.stream.receive with
      | (.waiting, _) => loader
      | (.ended, _) =>
          { loader with
            failed := loader.failed ||
              match loader.client with
              | .ended (.failed _) => true
              | _ => false
            stage := .epochEnd }
      | (.item result, stream) =>
          { loader with
            stream
            stage := .held result }
  | .held result =>
      if loader.isPaused then
        { loader with
          state := .paused
          stage := .sleeping result }
      else
        { loader with stage := .unpaused result }
  | .sleeping result =>
      { loader with stage := if loader.shouldStop then .unpaused result else .held result }
  | .unpaused result =>
      if loader.shouldStop then
        { loader with stage := .epochEnd }
      else
        match result with
        | .ok batch => loader.load batch
        | .error error =>
            { loader with
              state := .error
              failed := true
              stage := .sendingError error }
  | .sending batch isLast =>
      match loader.output.send (.ok batch) with
      | (.waiting, _) => loader
      | (.refused, output) =>
          { loader with
            state := .stopped
            stream := loader.stream.drop
            output := output.close
            stage := .done }
      | (.accepted, output) =>
          { loader with
            output
            stage := if isLast then .epochEnd else .receiving }
  | .sendingError error =>
      match loader.output.send (.error error) with
      | (.waiting, _) => loader
      | (.refused, output) | (.accepted, output) =>
          { loader with
            stream := loader.stream.drop
            output := output.close
            stage := .done }
  | .epochEnd =>
      if loader.shouldStop then
        { loader with
          stream := loader.stream.drop
          stopped := true
          stage := .finish }
      else
        -- The task of the client meets a dropped receiver, whatever it does from here on.
        { loader with
          state := .epochComplete
          epoch := loader.epoch + 1
          client := .ended .abandoned
          stream := noStream
          completed := loader.completed ++ [loader.stream.sent]
          stage := .epochLimit }
  | .finish =>
      { loader with
        state := .stopped
        output := loader.output.close
        stage := .done }
  | .done => loader

/-! ## The receiver -/

/-- Take the next result, if there is one. -/
def receive : DataLoader :=
  if loader.output.dropped then loader else { loader with output := loader.output.receive.2 }

def dropReceiver : DataLoader := { loader with output := loader.output.drop }

end DataLoader

/-! ## Runs -/

/-- What may happen to a started loader. -/
inductive LoaderOp (μ : Type) where
  | pause
  | resume
  | stop
  | message (outcome : Except String (Option μ))
  | clientSend
  | step (opened : Except DataStreamError Unit)
  | receive
  | dropReceiver

/-- The loader after an event. -/
def applyLoaderOp {μ : Type} (verify : μ → StreamResult) (loader : DataLoader) :
    LoaderOp μ → DataLoader
  | .pause => loader.pause
  | .resume => loader.resume
  | .stop => loader.stop
  | .message outcome => loader.message verify outcome
  | .clientSend => loader.clientSend
  | .step opened => loader.step opened
  | .receive => loader.receive
  | .dropReceiver => loader.dropReceiver

end CyxCloud.Node
