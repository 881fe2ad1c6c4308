import CyxCloud.Gateway.StreamedFiles
import CyxCloud.Node.ShuffledEpochs

/-!
# Resumed streams

The request for a stream names a file to start from, `start_index` of
`cyxcloud-protocol/proto/datastream.proto`, and `stream_batches` of
`cyxcloud-gateway/src/datastream.rs` does not read it.
-/

namespace CyxCloud.Node

open CyxCloud.Core hiding Chunk
open Library Metadata Gateway

/-! ## Streams for messages -/

/-- The stream for a message whose identifier is one. -/
def SharedDataset.stream (blake3 : Bytes → Bytes) (shared : SharedDataset) (choices : StreamChoices)
    (message : StreamBatchesMessage) : Option (Except StreamStatus (List BatchResponse)) :=
  (shared.parseUuid message.datasetId).map fun datasetId =>
    streamBatches blake3 (shared.env choices) shared.db.toDatasetDatabase
      (message.received datasetId)

/-- The data of a file, each chunk as it is stored. -/
def fileData (stored : Bytes → Bytes) (db : Database) (fileId : Uuid) : Bytes :=
  ((db.getFileChunks fileId).map fun row => stored row.chunkId).flatten

/-- Every chunk of a file is retrieved as it is stored. -/
structure FileRetrieved (stored : Bytes → Bytes) (reads : FileReads) (db : Database)
    (fileId : Uuid) : Prop where
  fileQuery : reads.fileQuery = true
  chunksQuery : reads.chunksQuery = true
  registered : (db.getFile fileId).isSome = true
  chunks : ∀ row ∈ db.getFileChunks fileId,
    streamedChunk reads.toChunkReads db row = some (stored row.chunkId)

/-- The files of a dataset as the database gives them. -/
def SharedDataset.rows (shared : SharedDataset) (choices : StreamChoices) (datasetId : Uuid) :
    List DatasetFile :=
  shared.db.toDatasetDatabase.getDatasetFiles choices.fileOrder datasetId

/-- A stream of all files of a dataset, to a client that takes every message. -/
structure CompleteStream (blake3 : Bytes → Bytes) (stored : Bytes → Bytes)
    (shared : SharedDataset) (choices : StreamChoices) (message : StreamBatchesMessage)
    (datasetId : Uuid) (messages : List BatchResponse) : Prop where
  parsed : shared.parseUuid message.datasetId = some datasetId
  connected : ∀ number, shared.streams.accepts number = true
  retrieved : ∀ entry ∈ (filesInOrder (shared.env choices) (message.received datasetId)
      (shared.rows choices datasetId)).zipIdx,
    FileRetrieved stored (shared.streams.reads entry.2) shared.db.toDatabase entry.1.fileId
  ok : shared.stream blake3 choices message = some (.ok messages)

/-- Shuffles are the same: there is none, or it is that of a seed. -/
def FixedOrder (message : StreamBatchesMessage) : Prop :=
  message.shuffle = false ∨ message.seed ≠ 0

/-! ## What is sent -/

/-- What is sent for a file with some data. -/
def sentItem (data : Bytes) : Option Bytes := if data.isEmpty then none else some data

section

variable {blake3 stored : Bytes → Bytes} {shared : SharedDataset} {choices : StreamChoices}
  {message : StreamBatchesMessage} {datasetId : Uuid} {messages : List BatchResponse}

theorem FileRetrieved.streamedFile_eq {reads : FileReads} {db : Database} {fileId : Uuid}
    (retrieved : FileRetrieved stored reads db fileId) :
    streamedFile reads db fileId = sentItem (fileData stored db fileId) := by
  have chunks_eq : (db.getFileChunks fileId).filterMap (streamedChunk reads.toChunkReads db) =
      (db.getFileChunks fileId).map fun row => stored row.chunkId := by
    rw [List.filterMap_congr retrieved.chunks, List.filterMap_eq_map']
  rw [streamedFile, retrieved.fileQuery, retrieved.chunksQuery, retrieved.registered, assembleFile,
    chunks_eq]
  rfl

/-- The data of all files is sent, in their order. -/
theorem CompleteStream.items_eq
    (complete : CompleteStream blake3 stored shared choices message datasetId messages) :
    messages.flatMap BatchResponse.items =
      ((filesInOrder (shared.env choices) (message.received datasetId)
        (shared.rows choices datasetId)).map fun file =>
          sentItem (fileData stored shared.db.toDatabase file.fileId)).reduceOption := by
  have ok := complete.ok
  rw [SharedDataset.stream, complete.parsed, Option.map_some, Option.some_inj] at ok
  have connected : ∀ number, (shared.env choices).accepts number = true := complete.connected
  rw [flatMap_items connected ok]
  refine congrArg List.reduceOption ?_
  let files := filesInOrder (shared.env choices) (message.received datasetId)
    (shared.rows choices datasetId)
  let item (file : DatasetFile) := sentItem (fileData stored shared.db.toDatabase file.fileId)
  calc
    files.zipIdx.map _ = files.zipIdx.map (item ∘ Prod.fst) :=
      List.map_congr_left fun entry member => (complete.retrieved entry member).streamedFile_eq
    _ = files.map item := by rw [← List.map_map, List.zipIdx_map_fst]

/-- Requests that name different files to start from are read alike. -/
theorem received_startIndex (start : Int) :
    ({ message with startIndex := start } : StreamBatchesMessage).received datasetId =
      message.received datasetId := rfl

/-- Without a shuffle, or with the shuffle of a seed, the choices of a run do not show in the order of
the files. -/
theorem FixedOrder.filesInOrder_eq (fixed : FixedOrder message) (streams : StreamBatchesEnv)
    (resumedChoices : StreamChoices) (files : List DatasetFile) :
    filesInOrder (({ shared with streams } : SharedDataset).env resumedChoices)
        (message.received datasetId) files =
      filesInOrder (shared.env choices) (message.received datasetId) files := by
  have shuffle_eq : (message.received datasetId).shuffle = message.shuffle := rfl
  rw [filesInOrder, filesInOrder, shuffle_eq]
  rcases fixed with unshuffled | seeded
  · rw [unshuffled]
    rfl
  · have seed_eq : Int64.ofInt (message.received datasetId).seed = message.seed :=
      Int64.ofInt_toInt message.seed
    simp only [SharedDataset.env, seed_eq, gatewayShuffle, if_pos seeded]

theorem reduceOption_sentItem_eq_nil_iff {files : List DatasetFile} {data : Uuid → Bytes} :
    (files.map fun file => sentItem (data file.fileId)).reduceOption = [] ↔
      ∀ file ∈ files, data file.fileId = [] := by
  induction files with
  | nil => simp [List.reduceOption]
  | cons file files induction =>
      rw [List.map_cons, reduceOption_cons, List.append_eq_nil_iff, induction,
        List.forall_mem_cons]
      refine and_congr ?_ Iff.rfl
      cases empty : data file.fileId <;> simp [sentItem]

/-- A list without its first items is the list if none are left out or there are none. -/
theorem eq_drop_self_iff {α : Type} {items : List α} {start : Nat} :
    items = items.drop start ↔ start = 0 ∨ items = [] := by
  constructor
  · intro same
    have lengths := congrArg List.length same
    rw [List.length_drop] at lengths
    cases items with
    | nil => exact .inr rfl
    | cons item rest =>
        rw [List.length_cons] at lengths
        exact .inl (by omega)
  · rintro (rfl | rfl)
    · rfl
    · exact List.drop_nil.symm

end

/-! ## Where they start -/

section

variable {blake3 stored : Bytes → Bytes} {shared : SharedDataset} {streams : StreamBatchesEnv}
  {choices resumedChoices : StreamChoices} {message : StreamBatchesMessage} {datasetId : Uuid}
  {messages resumed : List BatchResponse} {start : Nat}

/-- Whichever file a stream is to start from, all files are sent. -/
theorem items_resumed_eq (fixed : FixedOrder message)
    (sameRows : resumedChoices.fileOrder = choices.fileOrder)
    (first : CompleteStream blake3 stored shared choices { message with startIndex := 0 } datasetId
      messages)
    (later : CompleteStream blake3 stored { shared with streams } resumedChoices
      { message with startIndex := start } datasetId resumed) :
    resumed.flatMap BatchResponse.items = messages.flatMap BatchResponse.items := by
  have rows_eq : ({ shared with streams } : SharedDataset).rows resumedChoices datasetId =
      shared.rows choices datasetId := by
    rw [SharedDataset.rows, SharedDataset.rows, sameRows]
  rw [later.items_eq, first.items_eq, received_startIndex, received_startIndex, rows_eq,
    @FixedOrder.filesInOrder_eq shared choices message datasetId fixed]
  rfl

/-- A stream that is to start from a file leaves out the files before it exactly if there are none
or no file has data. -/
theorem resumes_iff (fixed : FixedOrder message)
    (sameRows : resumedChoices.fileOrder = choices.fileOrder)
    (first : CompleteStream blake3 stored shared choices { message with startIndex := 0 } datasetId
      messages)
    (later : CompleteStream blake3 stored { shared with streams } resumedChoices
      { message with startIndex := start } datasetId resumed) :
    resumed.flatMap BatchResponse.items = (messages.flatMap BatchResponse.items).drop start ↔
      start = 0 ∨ ∀ file ∈ shared.rows choices datasetId,
        fileData stored shared.db.toDatabase file.fileId = [] := by
  rw [items_resumed_eq fixed sameRows first later, eq_drop_self_iff, first.items_eq,
    reduceOption_sentItem_eq_nil_iff]
  refine or_congr Iff.rfl (forall_congr' fun file => imp_congr_left ?_)
  exact (inOrder_perm _ _ _).mem_iff

end

namespace ResumedPair

/-- The dataset of two files of a byte each. -/
def dataset : DatasetRecord :=
  { id := 9
    trustLevel := 0
    name := "pair"
    ownerId := 7
    description := none
    contentHash := []
    totalSizeBytes := 2
    fileCount := 2
    schema := none
    signature := none
    verifiedAt := none
    version := 1 }

/-- The row of a file of the dataset. -/
def row (fileId : Uuid) (fileIndex : Nat) : DatasetFileRecord :=
  { datasetId := 9
    fileId
    fileIndex
    pathInDataset := "training/sample"
    contentHash := [UInt8.ofNat fileId]
    sizeBytes := 1 }

/-- The tables with the dataset. -/
def tables : DatasetTables :=
  { TwoFiles.db.toDatabase with
    datasets := [dataset]
    datasetFiles := [row 1 0, row 2 1]
    publicDatasets := []
    datasetShares := []
    dataAccessTokens := [] }

/-- Nothing is shuffled, and all files can be retrieved. -/
def shared : SharedDataset :=
  { stdRng := fun _ => .insertion
    parseUuid := fun text => if text = "9" then some 9 else none
    streams := TwoFiles.env 2
    db := tables }

/-- Rows come as they were inserted. -/
def choices : StreamChoices := ⟨.insertion, .insertion⟩

/-- A request for one file in a batch. -/
def message (start : Nat) : StreamBatchesMessage :=
  { datasetId := "9"
    accessToken := ""
    batchSize := 1
    startIndex := start
    prefetchBatches := 1
    maxTrustLevel := 0
    shuffle := false
    seed := 0 }

/-- The messages of a stream. -/
def messages : List BatchResponse :=
  [batchMessage id 2 false 0 [[1]], batchMessage id 2 true 1 [[2]]]

theorem stream_eq (start : Nat) :
    shared.stream id choices (message start) = some (.ok messages) := by
  have shuffled_eq : (fun seed => gatewayShuffle shared.stdRng choices.threadRng
      (Int64.ofInt seed)) = fun _ => .insertion := funext fun seed => ite_self _
  have env_eq : shared.env choices = TwoFiles.env 2 := by
    rw [SharedDataset.env, shuffled_eq]
    rfl
  have request_eq : (message start).received 9 = TwoFiles.request := rfl
  have tables_eq : shared.db.toDatasetDatabase = TwoFiles.db := rfl
  have parsed : shared.parseUuid (message start).datasetId = some 9 := rfl
  rw [SharedDataset.stream, parsed, Option.map_some, env_eq, request_eq, tables_eq,
    TwoFiles.streamBatches_all]
  rfl

theorem rows_eq : shared.rows choices 9 = TwoFiles.files := TwoFiles.getDatasetFiles_eq 2

theorem complete (start : Nat) :
    CompleteStream id id shared choices (message start) 9 messages := by
  refine ⟨rfl, fun _ => rfl, ?_, stream_eq start⟩
  have files_eq : filesInOrder (shared.env choices) ((message start).received 9)
      TwoFiles.files = TwoFiles.files := rfl
  rw [rows_eq, files_eq]
  have registered : ∀ fileId ∈ [1, 2], (shared.db.getFile fileId).isSome = true := by decide
  have chunks : ∀ fileId ∈ [1, 2], ∀ row ∈ shared.db.getFileChunks fileId,
      streamedChunk TwoFiles.chunkReads shared.db.toDatabase row = some (id row.chunkId) := by
    decide +kernel
  intro entry member
  have inside := List.snd_lt_of_mem_zipIdx member
  have position_lt : entry.2 < 2 := by simpa [TwoFiles.files] using inside
  have query : (entry.2 != 2) = true := by simpa using Nat.ne_of_lt position_lt
  have listed : entry.1.fileId ∈ TwoFiles.files.map DatasetFile.fileId :=
    List.mem_map_of_mem (List.fst_mem_of_mem_zipIdx member)
  exact ⟨query, rfl, registered _ listed, chunks _ listed⟩

/-- The files have data, so the stream from the second one on is not the rest of the whole one. -/
theorem second_not_resumed :
    messages.flatMap BatchResponse.items ≠ (messages.flatMap BatchResponse.items).drop 1 := by
  intro same
  rcases (@resumes_iff id id shared shared.streams choices choices (message 0) 9 messages messages 1
    (.inl rfl) rfl (complete 0) (complete 1)).mp same with start_zero | without_data
  · exact absurd start_zero Nat.one_ne_zero
  · rw [rows_eq] at without_data
    exact absurd (without_data _ List.mem_cons_self) (by decide +kernel)

/-- The first file is sent to a client that asked for the second one. -/
theorem resumes_refuted :
    ¬ ∀ (blake3 stored : Bytes → Bytes) (shared : SharedDataset) (streams : StreamBatchesEnv)
      (choices resumedChoices : StreamChoices) (message : StreamBatchesMessage) (datasetId : Uuid)
      (messages resumed : List BatchResponse) (start : Nat),
      1 ≤ message.batchSize → FixedOrder message →
        resumedChoices.fileOrder = choices.fileOrder →
          start ≤ (shared.rows choices datasetId).length →
            CompleteStream blake3 stored shared choices { message with startIndex := 0 } datasetId
              messages →
              CompleteStream blake3 stored { shared with streams } resumedChoices
                { message with startIndex := start } datasetId resumed →
                resumed.flatMap BatchResponse.items =
                  (messages.flatMap BatchResponse.items).drop start := by
  intro resumes
  have two : 1 ≤ (shared.rows choices 9).length := by
    rw [rows_eq]
    decide
  have same := resumes id id shared shared.streams choices choices (message 0) 9 messages messages 1
    (by decide) (.inl rfl) rfl two (complete 0) (complete 1)
  exact absurd same (by decide)

end ResumedPair

end CyxCloud.Node
