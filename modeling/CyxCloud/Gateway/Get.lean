import CyxCloud.Gateway.Cluster

/-!
# Reading, listing and deleting objects

The other object operations of `cyxcloud-gateway/src/state.rs` in metadata mode.  The queries of
these operations are answered, in an order that a `ReadEnv` fixes together with the answers of the
storage nodes.
-/

namespace CyxCloud.Gateway

open CyxCloud.Core hiding Chunk
open Library Metadata

/-- The choices that a read meets. -/
structure ReadEnv where
  /-- The order of the live files with a path. -/
  fileOrder : RowOrder File
  /-- The order of the addresses that hold a chunk. -/
  addressOrder : RowOrder String
  /-- The answer to the request for a chunk made at a position of its address list. -/
  reply : Bytes → Nat → String → Option Bytes

/-! ## Retrieving one chunk -/

/-- What the loop over the shards of a chunk carries along. -/
structure Gathered where
  slots : List (Option ShardData)
  retrievedCount : Nat

/-- No shard retrieved. -/
def Gathered.start : Gathered :=
  { slots := List.replicate TOTAL_SHARDS none
    retrievedCount := 0 }

section

variable (env : ReadEnv) (db : Database)

/-- Contents of a shard from the first node that answers, if one does. -/
def fetchShard (row : Metadata.Chunk) : Option Bytes :=
  getChunkFromAny (env.reply row.chunkId)
    (db.getFileChunkLocations env.addressOrder row.fileId row.chunkId)

/-- Retrieve the next shard unless there are enough. -/
def gatherShard (gathered : Gathered) (row : Metadata.Chunk) : Gathered :=
  if gathered.retrievedCount ≥ DATA_SHARDS then gathered
  else if row.shardIndex ≥ TOTAL_SHARDS then gathered
  else
    match fetchShard env db row with
    | none => gathered
    | some data =>
        { slots := gathered.slots.set row.shardIndex
            (some
              { index := UInt8.ofNat row.shardIndex
                data
                isParity := row.isParity })
          retrievedCount := gathered.retrievedCount + 1 }

/-- The original size of a chunk; the last one has the remaining bytes. -/
def originalChunkSize (file : File) (chunkIndex : Nat) : Nat :=
  if chunkIndex + 1 = file.chunkCount then
    file.sizeBytes - (file.chunkCount - 1) * file.chunkSize
  else
    file.chunkSize

/-- Retrieve and decode one chunk. -/
def decodeChunk (decoder : ErasureEncoder) (file : File) (shardRecords : List Metadata.Chunk)
    (chunkIndex : Nat) : Except InternalError Bytes :=
  match shardRecords.filter fun row => row.chunkIndex == chunkIndex with
  | [] => .error (.noShardsForChunk chunkIndex)
  | shards =>
      let gathered := shards.foldl (gatherShard env db) .start
      if gathered.retrievedCount < DATA_SHARDS then
        .error (.insufficientShards chunkIndex gathered.retrievedCount DATA_SHARDS)
      else
        match decoder.decode gathered.slots (originalChunkSize file chunkIndex) with
        | .error cause => .error (.decoding chunkIndex cause)
        | .ok decoded => .ok decoded

/-- Retrieve the object of a file. -/
def getFileData (ext : Externals) (file : File) : Except InternalError Bytes :=
  match db.getFileChunks file.id with
  | [] => .error .noShards
  | shardRecords =>
      match ErasureEncoder.new ext.reedSolomon with
      | .error cause => .error (.encoderUnavailable cause)
      | .ok decoder =>
          match (List.range file.chunkCount).mapM (decodeChunk env db decoder file shardRecords) with
          | .error cause => .error cause
          | .ok decodedChunks => .ok (decodedChunks.flatten.take file.sizeBytes)

end

/-! ## Objects -/

/-- Get an object. -/
def getObject (ext : Externals) (env : ReadEnv) (db : Database) (bucket key : String) :
    Except S3Error Bytes :=
  match db.getFileByPath env.fileOrder (objectPath bucket key) with
  | none => .error (.noSuchKey key)
  | some file => (getFileData env db ext file).mapError .internal

/-- Get an object whose content hash must be the expected one. -/
def getObjectVerified (ext : Externals) (env : ReadEnv) (db : Database) (bucket key : String)
    (expectedHash : Bytes) : Except S3Error Bytes :=
  match getObject ext env db bucket key with
  | .error cause => .error cause
  | .ok data =>
      if ext.blake3 data ≠ expectedHash then
        .error (.internal (.hashMismatch bucket key expectedHash (ext.blake3 data)))
      else
        .ok data

/-- Delete an object; deleting a missing one succeeds. -/
def deleteObject (fileOrder : RowOrder File) (now : Time) (cluster : Cluster)
    (bucket key : String) : Cluster :=
  match cluster.db.getFileByPath fileOrder (objectPath bucket key) with
  | none => cluster
  | some file => { cluster with db := cluster.db.deleteFile file.id now }

/-- Metadata of an object. -/
structure ObjectMetadata where
  key : String
  size : Nat
  contentType : String
  etag : String
  lastModified : Time
  deriving DecidableEq, Repr

/-- Get the metadata of an object, if it exists. -/
def getObjectMetadata (fileOrder : RowOrder File) (db : Database) (bucket key : String) :
    Option ObjectMetadata :=
  (db.getFileByPath fileOrder (objectPath bucket key)).map fun file =>
    { key
      size := file.sizeBytes
      contentType := file.contentType.getD "application/octet-stream"
      etag := hexEncode file.contentHash
      lastModified := file.updatedAt }

/-- An entry of a listing. -/
structure ObjectInfo where
  key : String
  lastModified : Time
  etag : String
  size : Nat
  storageClass : String
  deriving DecidableEq, Repr

/-- List the objects of a bucket; the flag tells that the listing may be cut short. -/
def listObjects (fileOrder : RowOrder File) (db : Database) (bucket pathPrefix : String)
    (maxKeys : Int) : Except S3Error (List ObjectInfo × Bool) :=
  match db.listFilesInBucket fileOrder bucket pathPrefix maxKeys with
  | .error cause => .error (.internal (.database cause))
  | .ok files =>
      let objects := files.map fun file =>
        { key := file.path
          lastModified := file.createdAt
          etag := hexEncode file.contentHash
          size := file.sizeBytes
          storageClass := "STANDARD" }
      .ok (objects, decide (objects.length ≥ maxKeys.toNat))

end CyxCloud.Gateway
