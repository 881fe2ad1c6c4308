import CyxCloud.Gateway.IndexedFiles
import CyxCloud.Node.DataLoader

/-!
# Shuffled epochs

The loader asks for the stream of an epoch with the seed of the run moved by the number of the
epoch.  The request has no room for the absence of a seed, which is sent as zero, and the gateway
shuffles with the generator of the thread where it receives a zero.
-/

namespace CyxCloud.Node

open CyxCloud.Core hiding Chunk
open Library Metadata Gateway

/-! ## Requests of a run -/

/-- The requests made by some point of the task: one for each epoch begun. -/
def RequestsMade (epoch count : Nat) : LoaderStage → Prop
  | .epochLimit | .opening => count = epoch
  | .receiving | .held _ | .sleeping _ | .unpaused _ | .sending _ _ | .epochEnd => count = epoch + 1
  | .openFailed _ | .sendingError _ | .finish | .done => True

/-- The requests of a loader are those of the first epochs in order. -/
structure EpochsRequested (config : DataLoaderConfig) (loader : DataLoader) : Prop where
  config_eq : loader.config = config.new
  requested_eq : loader.requested = (List.range loader.requested.length).map config.new.request
  made : RequestsMade loader.epoch loader.requested.length loader.stage

section Requests

variable {config : DataLoaderConfig} {loader after : DataLoader}

theorem EpochsRequested.started (config : DataLoaderConfig) :
    EpochsRequested config (.started config) := ⟨rfl, rfl, rfl⟩

theorem EpochsRequested.of_eq (kept : EpochsRequested config loader)
    (config_eq : after.config = loader.config) (requested_eq : after.requested = loader.requested)
    (made : RequestsMade after.epoch loader.requested.length after.stage) :
    EpochsRequested config after where
  config_eq := config_eq.trans kept.config_eq
  requested_eq := by
    rw [requested_eq]
    exact kept.requested_eq
  made := by rwa [requested_eq]

/-- The stream of the next epoch is requested. -/
theorem EpochsRequested.request (kept : EpochsRequested config loader)
    (config_eq : after.config = loader.config) (count : loader.requested.length = loader.epoch)
    (requested_eq : after.requested =
      loader.requested ++ [loader.config.request loader.epoch])
    (made : RequestsMade after.epoch (loader.epoch + 1) after.stage) :
    EpochsRequested config after := by
  have length_eq : after.requested.length = loader.epoch + 1 := by
    rw [requested_eq, List.length_append, List.length_singleton, count]
  refine ⟨config_eq.trans kept.config_eq, ?_, by rwa [length_eq]⟩
  rw [length_eq, List.range_succ, List.map_append, List.map_singleton, requested_eq, kept.config_eq,
    kept.requested_eq, count]

theorem EpochsRequested.step (kept : EpochsRequested config loader)
    (opened : Except DataStreamError Unit) : EpochsRequested config (loader.step opened) := by
  have made := kept.made
  revert made
  unfold DataLoader.step
  cases loader.stage with
  | epochLimit =>
      intro made
      dsimp only
      split
      · exact kept.of_eq rfl rfl trivial
      · split
        · exact kept.of_eq rfl rfl trivial
        · exact kept.of_eq rfl rfl made
  | opening =>
      intro made
      cases opened with
      | error error => exact kept.request rfl made rfl trivial
      | ok _ => exact kept.request rfl made rfl rfl
  | receiving =>
      intro made
      dsimp only
      split
      · exact kept
      · exact kept.of_eq rfl rfl made
      · exact kept.of_eq rfl rfl made
  | held result =>
      intro made
      dsimp only
      split <;> exact kept.of_eq rfl rfl made
  | sleeping result =>
      intro made
      refine kept.of_eq rfl rfl ?_
      dsimp only
      split <;> exact made
  | unpaused result =>
      intro made
      dsimp only
      split
      · exact kept.of_eq rfl rfl made
      · cases result with
        | ok batch => exact kept.of_eq rfl rfl made
        | error error => exact kept.of_eq rfl rfl trivial
  | sending batch isLast =>
      intro made
      dsimp only
      split
      · exact kept
      · exact kept.of_eq rfl rfl trivial
      · refine kept.of_eq rfl rfl ?_
        dsimp only
        split <;> exact made
  | openFailed error | sendingError error =>
      rintro -
      dsimp only
      split
      · exact kept
      · exact kept.of_eq rfl rfl trivial
      · exact kept.of_eq rfl rfl trivial
  | epochEnd =>
      intro made
      dsimp only
      split
      · exact kept.of_eq rfl rfl trivial
      · exact kept.of_eq rfl rfl made
  | finish => exact fun _ => kept.of_eq rfl rfl trivial
  | done => exact fun _ => kept

theorem EpochsRequested.applyLoaderOp {μ : Type} (verify : μ → StreamResult)
    (kept : EpochsRequested config loader) (op : LoaderOp μ) :
    EpochsRequested config (applyLoaderOp verify loader op) := by
  cases op with
  | pause | resume | stop | dropReceiver => exact kept.of_eq rfl rfl kept.made
  | message outcome =>
      change EpochsRequested config (loader.message verify outcome)
      unfold DataLoader.message
      split
      · split <;> exact kept.of_eq rfl rfl kept.made
      · exact kept
      · exact kept
  | clientSend =>
      change EpochsRequested config loader.clientSend
      unfold DataLoader.clientSend
      split
      · split
        · exact kept
        · exact kept.of_eq rfl rfl kept.made
        · split <;> exact kept.of_eq rfl rfl kept.made
      · exact kept
      · exact kept
  | step opened => exact kept.step opened
  | receive =>
      change EpochsRequested config loader.receive
      unfold DataLoader.receive
      split
      · exact kept
      · exact kept.of_eq rfl rfl kept.made

/-- In every run, the requests are those of the first epochs in order. -/
theorem requested_runAll {μ : Type} (verify : μ → StreamResult) (config : DataLoaderConfig)
    (ops : List (LoaderOp μ)) :
    EpochsRequested config (runAll (applyLoaderOp verify) (.started config) ops) :=
  (everyState_of_keeps (fun _ op kept => kept.applyLoaderOp verify op) (.started config) ops).last

end Requests

/-! ## Runs through the epochs -/

/-- The stream of an epoch is opened, and the gateway closes it. -/
def emptyEpoch {μ : Type} : List (LoaderOp μ) :=
  [.step (.ok ()), .step (.ok ()), .message (.ok none), .step (.ok ()), .step (.ok ())]

/-- A loader that is about to begin an epoch. -/
structure Begins (config : DataLoaderConfig) (epoch : Nat) (loader : DataLoader) : Prop where
  config_eq : loader.config = config.new
  stage_eq : loader.stage = .epochLimit
  epoch_eq : loader.epoch = epoch
  running : loader.shouldStop = false

theorem Begins.emptyEpoch {μ : Type} (verify : μ → StreamResult) {config : DataLoaderConfig}
    {epoch : Nat} {loader : DataLoader} (begins : Begins config epoch loader)
    (configured : config.numEpochs.all fun max => decide (epoch < max)) :
    Begins config (epoch + 1) (runAll (applyLoaderOp verify) loader emptyEpoch) := by
  obtain ⟨config_eq, stage_eq, epoch_eq, running⟩ := begins
  have below : (loader.config.numEpochs.any fun max => decide (max ≤ loader.epoch)) = false := by
    rw [config_eq, epoch_eq, DataLoaderConfig.new]
    cases limit : config.numEpochs with
    | none => rfl
    | some max =>
        rw [limit, Option.all_some, decide_eq_true_eq] at configured
        exact decide_eq_false (by omega)
  have checked : loader.step (.ok ()) =
      { loader with
        currentEpoch := loader.epoch
        stage := .opening } := by
    simp [DataLoader.step, stage_eq, below, running]
  rw [Node.emptyEpoch, runAll_cons, applyLoaderOp, checked]
  -- The stream that is opened and closed in between ends the epoch.
  simp only [running, runAll_cons, runAll_nil, applyLoaderOp, DataLoader.step, DataLoader.message,
    Channel.fresh, Channel.close, Channel.receive, List.length_nil, lt_self_iff_false, ↓reduceDIte,
    ↓reduceIte, Bool.or_false, Bool.false_eq_true]
  exact ⟨config_eq, rfl, congrArg (· + 1) epoch_eq, rfl⟩

/-- Every configured epoch is requested in some run. -/
theorem exists_requested {μ : Type} (verify : μ → StreamResult) {config : DataLoaderConfig}
    {epoch : Nat} (configured : config.numEpochs.all fun max => decide (epoch < max)) :
    ∃ ops : List (LoaderOp μ),
      (runAll (applyLoaderOp verify) (.started config) ops).requested[epoch]? =
        some (config.new.request epoch) := by
  have reaches : ∀ count ≤ epoch + 1, ∃ ops : List (LoaderOp μ),
      Begins config count (runAll (applyLoaderOp verify) (.started config) ops) := by
    intro count
    induction count with
    | zero => exact fun _ => ⟨[], rfl, rfl, rfl, rfl⟩
    | succ count induction =>
        intro bound
        obtain ⟨ops, begins⟩ := induction (by omega)
        refine ⟨ops ++ emptyEpoch, ?_⟩
        rw [runAll, List.foldl_append]
        refine begins.emptyEpoch verify ?_
        cases limit : config.numEpochs with
        | none => rfl
        | some max =>
            rw [limit, Option.all_some, decide_eq_true_eq] at configured
            exact decide_eq_true (by omega)
  obtain ⟨ops, begins⟩ := reaches (epoch + 1) (Nat.le_refl _)
  have requested := requested_runAll verify config ops
  have count := requested.made
  rw [begins.stage_eq, begins.epoch_eq] at count
  refine ⟨ops, ?_⟩
  rw [requested.requested_eq, show _ = epoch + 1 from count, List.getElem?_map,
    List.getElem?_range (Nat.lt_succ_self epoch), Option.map_some]

/-! ## The shuffle of a stream -/

/-- The shuffle for a seed: the generator of the thread stands in where the seed is zero. -/
def gatewayShuffle (stdRng : UInt64 → RowOrder Nat) (threadRng : RowOrder Nat) (seed : Int64) :
    RowOrder Nat :=
  if seed ≠ 0 then stdRng seed.toUInt64 else threadRng

/-- What two runs over the same dataset need not share. -/
structure StreamChoices where
  /-- The order of rows with the same index. -/
  fileOrder : RowOrder DatasetFile
  /-- The shuffle that the generator of the thread makes. -/
  threadRng : RowOrder Nat

/-- The request as the gateway reads it. -/
def StreamBatchesMessage.received (message : StreamBatchesMessage) (datasetId : Uuid) :
    StreamBatchesRequest :=
  { datasetId
    batchSize := message.batchSize
    maxTrustLevel := message.maxTrustLevel
    shuffle := message.shuffle
    seed := message.seed.toInt }

/-- What runs over the same dataset share. -/
structure SharedDataset where
  /-- The standard generator, which shuffles in the same way for the same seed. -/
  stdRng : UInt64 → RowOrder Nat
  /-- The identifier that a text stands for. -/
  parseUuid : String → Option Uuid
  /-- The availability of the files. -/
  streams : StreamBatchesEnv
  db : DatasetTables

/-- The files of a dataset. -/
def SharedDataset.files (shared : SharedDataset) (datasetId : Uuid) : List DatasetFile :=
  (filesOf shared.db datasetId).map DatasetFileRecord.toDatasetFile

/-- The stream that a run meets. -/
def SharedDataset.env (shared : SharedDataset) (choices : StreamChoices) : StreamBatchesEnv :=
  { shared.streams with
    fileOrder := choices.fileOrder
    shuffled := fun seed => gatewayShuffle shared.stdRng choices.threadRng (Int64.ofInt seed) }

/-- The files of an epoch in the order in which the gateway streams them, if a stream for it was
requested. -/
def DataLoader.epochFiles (loader : DataLoader) (shared : SharedDataset) (choices : StreamChoices)
    (epoch : Nat) : Option (List DatasetFile) :=
  match loader.requested[epoch]? with
  | none => none
  | some message =>
      (shared.parseUuid message.datasetId).map fun datasetId =>
        filesInOrder (shared.env choices) (message.received datasetId)
          (shared.db.toDatasetDatabase.getDatasetFiles choices.fileOrder datasetId)

/-- Two runs over the same dataset stream the files of an epoch in the same order, each file
once. -/
def EpochReproducible {μ : Type} (verify : μ → StreamResult) (shared : SharedDataset)
    (config : DataLoaderConfig) (datasetId : Uuid) (epoch : Nat) : Prop :=
  ∀ (firstOps secondOps : List (LoaderOp μ)) (first second : StreamChoices)
    (files others : List DatasetFile),
      (runAll (applyLoaderOp verify) (.started config) firstOps).epochFiles shared first epoch =
          some files →
        (runAll (applyLoaderOp verify) (.started config) secondOps).epochFiles shared second epoch =
            some others →
          files = others ∧ files.Perm (shared.files datasetId)

section Streams

variable {shared : SharedDataset} {config : DataLoaderConfig} {datasetId : Uuid} {epoch : Nat}

/-- The order in which a run meets the files of an epoch. -/
def SharedDataset.inOrder (shared : SharedDataset) (config : DataLoaderConfig) (datasetId : Uuid)
    (epoch : Nat) (choices : StreamChoices) : List DatasetFile :=
  filesInOrder (shared.env choices) ((config.new.request epoch).received datasetId)
    (shared.files datasetId)

/-- Whatever the run, the files of an epoch come in the order that its request and its choices
make. -/
theorem epochFiles_eq {μ : Type} (verify : μ → StreamResult) (indexed : FilesIndexed shared.db)
    (parsed : shared.parseUuid config.datasetId = some datasetId) {ops : List (LoaderOp μ)}
    {choices : StreamChoices} {files : List DatasetFile}
    (streamed : (runAll (applyLoaderOp verify) (.started config) ops).epochFiles shared choices
      epoch = some files) : files = shared.inOrder config datasetId epoch choices := by
  have requested := (requested_runAll verify config ops).requested_eq
  unfold DataLoader.epochFiles at streamed
  split at streamed
  · cases streamed
  · rename_i message found
    rw [requested, List.getElem?_map] at found
    obtain ⟨position, position_eq, rfl⟩ := Option.map_eq_some_iff.mp found
    obtain rfl : epoch = position := (List.getElem?_eq_some_iff.mp position_eq).2 ▸ by simp
    have id_eq : (config.new.request epoch).datasetId = config.datasetId := rfl
    rw [id_eq, parsed, Option.map_some, indexed.getDatasetFiles_eq] at streamed
    exact (Option.some.inj streamed).symm

/-- In some run, the files of a configured epoch are streamed. -/
theorem exists_epochFiles {μ : Type} (verify : μ → StreamResult) (indexed : FilesIndexed shared.db)
    (parsed : shared.parseUuid config.datasetId = some datasetId)
    (configured : config.numEpochs.all fun max => decide (epoch < max)) :
    ∃ ops : List (LoaderOp μ), ∀ choices : StreamChoices,
      (runAll (applyLoaderOp verify) (.started config) ops).epochFiles shared choices epoch =
        some (shared.inOrder config datasetId epoch choices) := by
  obtain ⟨ops, requested⟩ := exists_requested verify configured
  refine ⟨ops, fun choices => ?_⟩
  have id_eq : (config.new.request epoch).datasetId = config.datasetId := rfl
  rw [DataLoader.epochFiles, requested]
  dsimp only
  rw [id_eq, parsed, Option.map_some, indexed.getDatasetFiles_eq]
  rfl

theorem inOrder_perm_files (choices : StreamChoices) :
    (shared.inOrder config datasetId epoch choices).Perm (shared.files datasetId) :=
  inOrder_perm _ _ _

/-- The shuffle of an epoch, by the seed of the run. -/
theorem inOrder_eq {seed : Int64} (seeded : config.seed = some seed)
    (shuffled : config.shuffle = true) (choices : StreamChoices) :
    shared.inOrder config datasetId epoch choices =
      ((gatewayShuffle shared.stdRng choices.threadRng (seed + Int64.ofNat epoch)).arrange
        (List.range (shared.files datasetId).length)).filterMap fun position =>
          (shared.files datasetId)[position]? := by
  have seed_eq : (config.new.request epoch).seed = seed + Int64.ofNat epoch := by
    rw [DataLoaderConfig.request, DataStreamConfig.message, DataLoaderConfig.epochSeed,
      DataLoaderConfig.new, seeded]
    rfl
  have shuffle_eq : (config.new.request epoch).shuffle = true := shuffled
  rw [SharedDataset.inOrder, filesInOrder, StreamBatchesMessage.received, shuffle_eq, seed_eq,
    streamOrder, if_pos rfl, SharedDataset.env]
  dsimp only
  rw [Int64.ofInt_toInt]

/-- Fewer than two entries have one order only. -/
theorem eq_of_perm_of_short {α : Type} {entries others : List α} (perm : others.Perm entries)
    (short : entries.length < 2) : others = entries := by
  cases entries with
  | nil => exact List.perm_nil.mp perm
  | cons first rest =>
      obtain rfl : rest = [] := List.length_eq_zero_iff.mp (by
        rw [List.length_cons] at short
        omega)
      exact List.perm_singleton.mp perm

/-- Two files or more with ascending indices come in another order when they are reversed. -/
theorem reverse_ne (indexed : FilesIndexed shared.db)
    (several : 2 ≤ (shared.files datasetId).length) :
    (shared.files datasetId).reverse ≠ shared.files datasetId := by
  intro same
  have ascending : (shared.files datasetId).Pairwise
      fun left right => left.fileIndex < right.fileIndex :=
    List.pairwise_map.mpr (indexed.ascending datasetId)
  have descending := ascending
  rw [← same, List.pairwise_reverse] at descending
  generalize shared.files datasetId = files at several ascending descending
  match files, several with
  | first :: second :: rest, _ =>
      have before := List.rel_of_pairwise_cons ascending List.mem_cons_self
      have behind := List.rel_of_pairwise_cons descending List.mem_cons_self
      omega

/-- Where the gateway receives a zero, two runs may shuffle two files or more in different ways. -/
theorem not_epochReproducible {μ : Type} (verify : μ → StreamResult)
    (indexed : FilesIndexed shared.db) {seed : Int64} (seeded : config.seed = some seed)
    (shuffled : config.shuffle = true)
    (parsed : shared.parseUuid config.datasetId = some datasetId)
    (configured : config.numEpochs.all fun max => decide (epoch < max))
    (zero : seed + Int64.ofNat epoch = 0) (several : 2 ≤ (shared.files datasetId).length) :
    ¬ EpochReproducible verify shared config datasetId epoch := by
  intro reproducible
  obtain ⟨ops, streamed⟩ := exists_epochFiles verify indexed parsed configured
  have shuffle_zero (choices : StreamChoices) :
      gatewayShuffle shared.stdRng choices.threadRng (seed + Int64.ofNat epoch) =
        choices.threadRng := by
    rw [zero, gatewayShuffle, if_neg (not_not.mpr rfl)]
  -- Two runs in which the generator of the thread makes opposite shuffles.
  have same := (reproducible ops ops ⟨.insertion, .insertion⟩ ⟨.insertion, .reversed⟩ _ _
    (streamed _) (streamed _)).1
  rw [inOrder_eq seeded shuffled, inOrder_eq seeded shuffled, shuffle_zero, shuffle_zero] at same
  dsimp only [RowOrder.insertion, RowOrder.reversed] at same
  rw [List.filterMap_reverse, filterMap_range] at same
  exact reverse_ne indexed several same.symm

/-- Two runs over the same dataset stream the files of an epoch in the same order exactly if the
seed of the run moved by the number of the epoch is not zero, or the dataset has fewer than two
files. -/
theorem epoch_reproducible_iff {μ : Type} (verify : μ → StreamResult) {blake3 : Bytes → Bytes}
    (reached : TablesReached blake3 shared.db) {seed : Int64} (seeded : config.seed = some seed)
    (shuffled : config.shuffle = true)
    (parsed : shared.parseUuid config.datasetId = some datasetId)
    (configured : config.numEpochs.all fun max => decide (epoch < max)) :
    EpochReproducible verify shared config datasetId epoch ↔
      seed + Int64.ofNat epoch ≠ 0 ∨ (shared.files datasetId).length < 2 := by
  have indexed := reached.indexed
  constructor
  · intro reproducible
    by_contra unseeded
    rw [not_or, ne_eq, not_not, Nat.not_lt] at unseeded
    exact not_epochReproducible verify indexed seeded shuffled parsed configured unseeded.1
      unseeded.2 reproducible
  · intro enough firstOps secondOps first second files others files_eq others_eq
    rw [epochFiles_eq verify indexed parsed files_eq, epochFiles_eq verify indexed parsed others_eq]
    refine ⟨?_, inOrder_perm_files first⟩
    rcases enough with nonzero | few
    · rw [inOrder_eq seeded shuffled, inOrder_eq seeded shuffled, gatewayShuffle, gatewayShuffle,
        if_pos nonzero, if_pos nonzero]
    · rw [eq_of_perm_of_short (inOrder_perm_files first) few,
        eq_of_perm_of_short (inOrder_perm_files second) few]

end Streams

namespace TwoPhotos

/-- The tables with two files and without datasets. -/
def tables : DatasetTables :=
  { OneFile.tables with
    files := [OneFile.file, { OneFile.file with
      id := 3
      name := "dog"
      path := "photos/dog" }] }

/-- A dataset of the two files. -/
def created : DatasetTables :=
  (createDataset Reference.hash
    { OneFile.env with
      parseUuid := fun text => if text = "2" then some 2 else if text = "3" then some 3 else none }
    tables 7 { OneFile.request with fileIds := ["2", "3"] }).1

theorem reached : TablesReached Reference.hash created := .createDataset (.start rfl) _ _ _

/-- The standard generator reverses for odd seeds, and all files can be retrieved. -/
def shared : SharedDataset :=
  { stdRng := fun seed => if seed % 2 = 0 then .insertion else .reversed
    parseUuid := fun text => if text = "9" then some 9 else none
    streams := TwoFiles.env 2
    db := created }

/-- Two shuffled epochs with a seed. -/
def config (seed : Int64) : DataLoaderConfig :=
  { datasetId := "9"
    batchSize := 1
    prefetchBatches := 4
    shuffle := true
    seed := some seed
    numEpochs := some 2
    streamConfig :=
      { accessToken := none
        batchSize := 32
        prefetchBatches := 4
        maxTrustLevel := 2 } }

/-- With the seed 41, all runs stream the two files of the second epoch in the same order. -/
theorem second_epoch_reproducible :
    EpochReproducible (verifyMessage Reference.hash) shared (config 41) 9 1 ∧
      (shared.files 9).length = 2 :=
  ⟨(epoch_reproducible_iff (verifyMessage Reference.hash) reached rfl rfl rfl rfl).mpr
    (.inl (by decide)), rfl⟩

/-- With the seed 0, they need not in the first epoch. -/
theorem first_epoch_not_reproducible :
    ¬ EpochReproducible (verifyMessage Reference.hash) shared (config 0) 9 0 :=
  not_epochReproducible (verifyMessage Reference.hash) reached.indexed rfl rfl rfl rfl (by decide)
    (Nat.le_refl 2)

end TwoPhotos

end CyxCloud.Node
