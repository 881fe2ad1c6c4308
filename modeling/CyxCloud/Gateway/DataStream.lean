import CyxCloud.Gateway.Cluster

/-!
# Data streams

The two streams of the gateway: `stream_batches` of `cyxcloud-gateway/src/datastream.rs`, which
sends the files of a dataset in batches of files, and `stream_data` of `grpc_api.rs`, which sends
the chunks of one file in batches of bytes.  Both skip what they cannot retrieve.  The order of a
shuffle and the outcomes of queries and requests are parameters.
-/

namespace CyxCloud.Metadata

open CyxCloud.Core Library

/-! ## Datasets -/

/-- Trust levels, from the highest trust to the lowest. -/
inductive TrustLevel where
  | selfUploaded
  | signed
  | verified
  | attested
  | untrusted
  deriving DecidableEq, Repr

/-- The number of a trust level. -/
def TrustLevel.asI32 : TrustLevel → Int
  | .selfUploaded => 0
  | .signed => 1
  | .verified => 2
  | .attested => 3
  | .untrusted => 4

/-- A row of `datasets`. -/
structure Dataset where
  id : Uuid
  trustLevel : Int
  deriving DecidableEq, Repr

/-- A row of `dataset_files`. -/
structure DatasetFile where
  datasetId : Uuid
  fileId : Uuid
  fileIndex : Int
  deriving DecidableEq, Repr

/-- The database with the tables of datasets. -/
structure DatasetDatabase extends Database where
  datasets : List Dataset
  datasetFiles : List DatasetFile

namespace DatasetDatabase

variable (db : DatasetDatabase)

/-- Look a dataset up. -/
def getDataset (id : Uuid) : Option Dataset := db.datasets.find? fun dataset => dataset.id == id

/-- The files of a dataset by index; ties come in any order. -/
def getDatasetFiles (order : RowOrder DatasetFile) (datasetId : Uuid) : List DatasetFile :=
  (order.arrange (db.datasetFiles.filter fun row => row.datasetId == datasetId)).mergeSort
    fun left right => decide (left.fileIndex ≤ right.fileIndex)

end DatasetDatabase

namespace Database

variable (db : Database)

/-- Addresses of the online nodes that hold a stored location of a chunk, in any order. -/
def getChunkNodeAddresses (order : RowOrder String) (chunkId : Bytes) : List String :=
  order.arrange ((db.chunkLocations.filter fun row =>
      row.chunkId == chunkId && row.status == .stored).flatMap fun row =>
    (db.nodes.filter fun node => node.id == row.nodeId && node.status == .online).map
      Node.grpcAddress)

end Database

end CyxCloud.Metadata

namespace CyxCloud.Gateway

open CyxCloud.Core hiding Chunk
open Library Metadata

/-! ## Retrieval -/

/-- The outcomes that the retrieval of a chunk meets. -/
structure ChunkReads where
  /-- The addresses that the cache has for a chunk. -/
  cached : Bytes → Option (List String)
  /-- The database answers the query for the addresses of a chunk. -/
  locationsQuery : Bytes → Bool
  addressOrder : RowOrder String
  /-- The answer to the request for a chunk made at a position of its address list. -/
  reply : Bytes → Nat → String → Option Bytes

/-- The addresses of a chunk, from the cache or from the database; a failed query counts as
none. -/
def getChunkLocations (reads : ChunkReads) (db : Database) (chunkId : Bytes) : List String :=
  match reads.cached chunkId with
  | some addresses => addresses
  | none =>
      if reads.locationsQuery chunkId then db.getChunkNodeAddresses reads.addressOrder chunkId
      else []

/-- The contents of a chunk, if a node answers. -/
def streamedChunk (reads : ChunkReads) (db : Database) (row : Metadata.Chunk) : Option Bytes :=
  getChunkFromAny (reads.reply row.chunkId) (getChunkLocations reads db row.chunkId)

/-- The outcomes that the retrieval of a file meets. -/
structure FileReads extends ChunkReads where
  /-- The database answers the query for the file. -/
  fileQuery : Bool
  /-- The database answers the query for the chunks of the file. -/
  chunksQuery : Bool

/-- The chunks of a file that can be retrieved, one after the other. -/
def assembleFile (reads : ChunkReads) (db : Database) (fileId : Uuid) : Bytes :=
  ((db.getFileChunks fileId).filterMap (streamedChunk reads db)).flatten

/-- The item sent for a file; a file without data is skipped. -/
def streamedFile (reads : FileReads) (db : Database) (fileId : Uuid) : Option Bytes :=
  if reads.fileQuery && (db.getFile fileId).isSome && reads.chunksQuery then
    let fileData := assembleFile reads.toChunkReads db fileId
    if fileData.isEmpty then none else some fileData
  else
    none

/-- Failures of a request for a stream. -/
inductive StreamStatus where
  | internal (cause : DbError)
  | notFound (message : String)
  | permissionDenied (trustLevel maxTrust : Int)
  deriving DecidableEq, Repr

/-- The order in which positions are sent. -/
def streamOrder (shuffle : Bool) (shuffled : RowOrder Nat) (count : Nat) : List Nat :=
  if shuffle then shuffled.arrange (List.range count) else List.range count

/-! ## Batches of files -/

/-- A request for the batches of a dataset. -/
structure StreamBatchesRequest where
  datasetId : Uuid
  batchSize : Int
  maxTrustLevel : Int
  shuffle : Bool
  /-- Zero stands for a seed of the system. -/
  seed : Int
  deriving DecidableEq, Repr

/-- A message with a batch of files. -/
structure BatchResponse where
  batchIndex : Nat
  items : List Bytes
  itemHashes : List Bytes
  batchHash : Bytes
  totalBatches : Nat
  isLast : Bool
  deriving DecidableEq, Repr

/-- The outcomes and choices that a stream of batches meets. -/
structure StreamBatchesEnv where
  /-- The database answers the query for the dataset. -/
  datasetQuery : Bool
  /-- The database answers the query for the files of the dataset. -/
  filesQuery : Bool
  fileOrder : RowOrder DatasetFile
  /-- The shuffle that a seed makes. -/
  shuffled : Int → RowOrder Nat
  /-- The outcomes for the file at a position of the stream. -/
  reads : Nat → FileReads
  /-- The client takes the message with an index. -/
  accepts : Nat → Bool

/-- The batch that is being filled. -/
structure CurrentBatch where
  batchIndex : Nat
  items : List Bytes
  itemHashes : List Bytes

/-- The first batch, without items. -/
def CurrentBatch.first : CurrentBatch :=
  { batchIndex := 0
    items := []
    itemHashes := [] }

section Batches

variable (blake3 : Bytes → Bytes)

/-- Add the next file, if it was retrieved. -/
def CurrentBatch.push (current : CurrentBatch) : Option Bytes → CurrentBatch
  | none => current
  | some fileData =>
      { current with
        items := current.items ++ [fileData]
        itemHashes := current.itemHashes ++ [blake3 fileData] }

/-- The message for a batch. -/
def CurrentBatch.response (current : CurrentBatch) (totalBatches : Nat) (isLast : Bool) :
    BatchResponse :=
  { batchIndex := current.batchIndex
    items := current.items
    itemHashes := current.itemHashes
    batchHash := blake3 current.itemHashes.flatten
    totalBatches
    isLast }

/-- Fill batches with the files as they were retrieved, and send each when it is full or at the
end. -/
def sendBatches (accepts : Nat → Bool) (batchSize totalBatches : Nat) :
    CurrentBatch → List (Option Bytes) → List BatchResponse
  | _, [] => []
  | previous, retrieved :: rest =>
      let current := previous.push blake3 retrieved
      if (decide (batchSize ≤ current.items.length) || rest.isEmpty) && !current.items.isEmpty then
        if accepts current.batchIndex then
          current.response blake3 totalBatches rest.isEmpty ::
            sendBatches accepts batchSize totalBatches
              { batchIndex := current.batchIndex + 1
                items := []
                itemHashes := [] } rest
        else
          []
      else
        sendBatches accepts batchSize totalBatches current rest

/-- The number of files in a batch. -/
def StreamBatchesRequest.size (request : StreamBatchesRequest) : Nat :=
  (max request.batchSize 1).toNat

/-- The largest trust level that is sent. -/
def StreamBatchesRequest.maxTrust (request : StreamBatchesRequest) : Int :=
  if 0 < request.maxTrustLevel then request.maxTrustLevel else TrustLevel.verified.asI32

/-- The files of a dataset in the order in which they are sent. -/
def filesInOrder (env : StreamBatchesEnv) (request : StreamBatchesRequest)
    (files : List DatasetFile) : List DatasetFile :=
  (streamOrder request.shuffle (env.shuffled request.seed) files.length).filterMap fun position =>
    files[position]?

/-- What is retrieved for the files, one after the other. -/
def retrievedFiles (env : StreamBatchesEnv) (request : StreamBatchesRequest) (db : Database)
    (files : List DatasetFile) : List (Option Bytes) :=
  (filesInOrder env request files).zipIdx.map fun (file, position) =>
    streamedFile (env.reads position) db file.fileId

/-- Stream the batches of a dataset: the messages that reach the client. -/
def streamBatches (env : StreamBatchesEnv) (db : DatasetDatabase)
    (request : StreamBatchesRequest) : Except StreamStatus (List BatchResponse) :=
  if env.datasetQuery = false then
    .error (.internal .unavailable)
  else
    match db.getDataset request.datasetId with
    | none => .error (.notFound "Dataset not found")
    | some dataset =>
        if request.maxTrust < dataset.trustLevel then
          .error (.permissionDenied dataset.trustLevel request.maxTrust)
        else if env.filesQuery = false then
          .error (.internal .unavailable)
        else
          match db.getDatasetFiles env.fileOrder request.datasetId with
          | [] => .error (.notFound "Dataset has no files")
          | file :: files =>
              .ok (sendBatches blake3 env.accepts request.size
                (divCeil (file :: files).length request.size) .first
                (retrievedFiles env request db.toDatabase (file :: files)))

end Batches

/-! ## Batches of bytes -/

/-- A request for the chunks of a file. -/
structure StreamDataRequest where
  fileId : Uuid
  batchSize : Int
  shuffle : Bool
  deriving DecidableEq, Repr

/-- A message with a batch of bytes. -/
structure DataChunk where
  batchIndex : Nat
  data : Bytes
  isLast : Bool
  deriving DecidableEq, Repr

/-- The outcomes and choices that a stream of chunks meets. -/
structure StreamDataEnv where
  /-- The database answers the query for the chunks. -/
  chunksQuery : Bool
  shuffled : RowOrder Nat
  /-- The outcomes for the chunk at a position of the stream. -/
  reads : Nat → ChunkReads
  /-- The client takes the message with an index. -/
  accepts : Nat → Bool

/-- Fill batches with the chunks as they were retrieved, and send each when it is large enough or
at the last chunk; what remains is sent afterwards. -/
def sendData (accepts : Nat → Bool) (threshold : Nat) :
    Nat → Bytes → List (Option Bytes) → List DataChunk
  | batchIndex, batchData, [] =>
      if !batchData.isEmpty && accepts batchIndex then
        [{ batchIndex, data := batchData, isLast := true }]
      else
        []
  | batchIndex, batchData, none :: rest => sendData accepts threshold batchIndex batchData rest
  | batchIndex, batchData, some data :: rest =>
      let extended := batchData ++ data
      if decide (threshold ≤ extended.length) || rest.isEmpty then
        if accepts batchIndex then
          { batchIndex, data := extended, isLast := rest.isEmpty } ::
            sendData accepts threshold (batchIndex + 1) [] rest
        else
          []
      else
        sendData accepts threshold batchIndex extended rest

/-- What is retrieved for the chunks, one after the other. -/
def retrievedChunks (env : StreamDataEnv) (request : StreamDataRequest) (db : Database)
    (chunks : List Metadata.Chunk) : List (Option Bytes) :=
  ((streamOrder request.shuffle env.shuffled chunks.length).filterMap fun position =>
    chunks[position]?).zipIdx.map fun (chunk, position) =>
      streamedChunk (env.reads position) db chunk

/-- Stream the chunks of a file: the messages that reach the client.  For a negative batch size the
capacity of the buffer overflows, and the task that sends ends before its first message. -/
def streamData (env : StreamDataEnv) (db : Database) (request : StreamDataRequest) :
    Except StreamStatus (List DataChunk) :=
  if env.chunksQuery = false then
    .error (.internal .unavailable)
  else
    match db.getFileChunks request.fileId with
    | [] => .error (.notFound "Dataset has no chunks")
    | chunk :: chunks =>
        if request.batchSize < 0 then
          .ok []
        else
          .ok (sendData env.accepts (request.batchSize.toNat * 1024) 0 []
            (retrievedChunks env request db (chunk :: chunks)))

end CyxCloud.Gateway
