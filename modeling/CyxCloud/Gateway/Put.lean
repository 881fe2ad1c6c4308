import CyxCloud.Gateway.Cluster

/-!
# Storing an object

`put_object` of `cyxcloud-gateway/src/state.rs` in metadata mode.  Every database statement and
every request to a node may fail on its own: a `PutEnv` fixes these outcomes and the other choices
that are not the program's.
-/

namespace CyxCloud.Gateway

open CyxCloud.Core hiding Chunk
open Library Metadata
open Database (LocationStatements)

/-- The outcomes and choices that a call of `put_object` meets. -/
structure PutEnv where
  /-- The generated file identifier. -/
  fileId : Uuid
  now : Time
  /-- The order in which the tasks of the parallel encoder finish. -/
  schedule : Schedule
  /-- The cached list of online nodes, if the cache has one. -/
  cachedNodes : Option (List Node)
  nodeOrder : RowOrder Node
  /-- The database answers the bucket query. -/
  bucketQuery : Bool
  /-- The database answers the node query. -/
  nodesQuery : Bool
  /-- Outcome of the insertion of the file. -/
  fileInsert : StoreReply
  /-- Outcome of an attempt to store a shard of a chunk: attempt 0 is the selected node, attempt
  `i + 1` the node at position `i` of the list. -/
  storeReply : Nat → Nat → Nat → StoreReply
  /-- The database answers the insertion of the row of a shard of a chunk. -/
  registerChunk : Nat → Nat → Bool
  /-- The statements that record the location of a shard of a chunk. -/
  recordLocation : Nat → Nat → LocationStatements

/-- Online nodes, from the cache or from the database. -/
def getOnlineNodes (env : PutEnv) (db : Database) : Except DbError (List Node) :=
  match env.cachedNodes with
  | some nodes => .ok nodes
  | none => if env.nodesQuery then .ok (db.getOnlineNodes env.nodeOrder) else .error .unavailable

/-- What the loops of `put_object` carry along. -/
structure PutState where
  cluster : Cluster
  shardsStored : Nat
  failedShards : Nat

/-- Try the nodes of the list in turn, apart from those at the address that failed already. -/
def storeOnBackup (reply : Nat → StoreReply) (request : String → StoredShard)
    (targetAddress : String) :
    List (PlacementNode × Nat) → List StoredShard → List StoredShard × Option String
  | [], kept => (kept, none)
  | (node, position) :: rest, kept =>
      if node.grpcAddress = targetAddress then
        storeOnBackup reply request targetAddress rest kept
      else
        let keptNow := (reply (position + 1)).keep (request node.grpcAddress) kept
        if reply (position + 1) = .stored then
          (keptNow, some node.grpcAddress)
        else
          storeOnBackup reply request targetAddress rest keptNow

/-- Store a shard on the selected node, or on another one; the address tells which one
acknowledged it. -/
def storeOnNodes (reply : Nat → StoreReply) (request : String → StoredShard)
    (placementNodes : List PlacementNode) (targetAddress : String) (kept : List StoredShard) :
    List StoredShard × Option String :=
  let keptNow := (reply 0).keep (request targetAddress) kept
  if reply 0 = .stored then
    (keptNow, some targetAddress)
  else
    storeOnBackup reply request targetAddress placementNodes.zipIdx keptNow

section

variable (ext : Externals) (env : PutEnv) (nodes : List Node)

/-- The request that stores a shard of a chunk at an address. -/
def shardRequest (chunk : Core.Chunk) (shard : ShardData) (address : String) : StoredShard :=
  { address
    chunkId := ext.blake3 shard.data
    data := shard.data
    metadata :=
      { size := shard.data.length
        index := chunk.metadata.index
        totalChunks := chunk.metadata.totalChunks
        parentId := chunk.metadata.parentId
        createdAt := chunk.metadata.createdAt
        encrypted := chunk.metadata.encrypted
        shardIndex := some shard.index.toNat } }

/-- The row that registers a shard of a chunk. -/
def shardRow (chunk : Core.Chunk) (shard : ShardData) : CreateChunk :=
  { chunkId := ext.blake3 shard.data
    fileId := env.fileId
    chunkIndex := chunk.metadata.index
    shardIndex := shard.index.toNat
    isParity := shard.isParity
    sizeBytes := shard.data.length
    replicationFactor := 3 }

/-- Register a shard that a node has acknowledged, and record its location.  Failures are only
logged. -/
def commitShard (chunk : Core.Chunk) (shard : ShardData) (address : String) (db : Database) :
    Database :=
  let index := chunk.metadata.index
  let shardIndex := shard.index.toNat
  let registered :=
    if env.registerChunk index shardIndex then
      (db.createChunk (shardRow ext env chunk shard)).1
    else
      db
  match nodes.find? fun node => node.grpcAddress == address with
  | none => registered
  | some node =>
      (registered.addChunkLocation (env.recordLocation index shardIndex) (ext.blake3 shard.data)
        node.id).1

/-- Store one shard according to its placement decision. -/
def storeShard (chunk : Core.Chunk) (state : PutState) (placed : ShardData × PlacementDecision) :
    PutState :=
  let (shard, decision) := placed
  match decision.nodes with
  | [] => { state with failedShards := state.failedShards + 1 }
  | target :: _ =>
      match storeOnNodes (env.storeReply chunk.metadata.index shard.index.toNat)
          (shardRequest ext chunk shard) (nodes.map PlacementNode.fromNode) target.grpcAddress
          state.cluster.kept with
      | (kept, none) =>
          { state with
            cluster := { state.cluster with kept }
            failedShards := state.failedShards + 1 }
      | (kept, some address) =>
          { state with
            cluster :=
              { db := commitShard ext env nodes chunk shard address state.cluster.db
                kept }
            shardsStored := state.shardsStored + 1 }

/-- The placement engine of the gateway. -/
def placementEngine : PlacementEngine :=
  { config := .default
    distanceKm := ext.distanceKm }

/-- Encode a chunk, in parallel if it is larger than a mebibyte. -/
def encodeChunk (encoder : ErasureEncoder) (chunk : Core.Chunk) :
    Except CyxCloudError (List ShardData) :=
  if chunk.data.length > 1024 * 1024 then
    encoder.encodeParallel env.schedule chunk.data
  else
    encoder.encode chunk.data

/-- Encode the chunks one after the other and store their shards. -/
def storeChunks (encoder : ErasureEncoder) :
    List Core.Chunk → PutState → PutState × Except InternalError Unit
  | [], state => (state, .ok ())
  | chunk :: chunks, state =>
      match encodeChunk env encoder chunk with
      | .error cause => (state, .error (.encoding cause))
      | .ok shards =>
          let decisions := (placementEngine ext).selectNodes (nodes.map PlacementNode.fromNode)
            shards.length 1 none
          storeChunks encoder chunks
            ((shards.zip decisions).foldl (storeShard ext env nodes chunk) state)

end

/-- The record of a file to be stored. -/
def fileRecord (ext : Externals) (env : PutEnv) (userId : Uuid) (bucket key : String)
    (data : Bytes) (contentType : String) (chunkCount : Nat) : CreateFile :=
  { id := some env.fileId
    name := ((key.splitOn "/").getLast?).getD key
    path := objectPath bucket key
    contentHash := ext.blake3 data
    sizeBytes := data.length
    chunkCount
    dataShards := DATA_SHARDS
    parityShards := PARITY_SHARDS
    chunkSize := DEFAULT_CHUNK_SIZE
    ownerId := some userId
    bucket := some bucket
    contentType := some contentType }

/-- Store the chunks of an object whose file is registered, and judge the outcome. -/
def storeObject (ext : Externals) (env : PutEnv) (nodes : List Node) (encoder : ErasureEncoder)
    (chunks : List Core.Chunk) (data : Bytes) (cluster : Cluster) :
    Cluster × Except S3Error String :=
  match storeChunks ext env nodes encoder chunks { cluster, shardsStored := 0, failedShards := 0 }
  with
  | (state, .error cause) => (state.cluster, .error (.internal cause))
  | (state, .ok ()) =>
      if state.shardsStored < chunks.length * DATA_SHARDS then
        (state.cluster,
          .error (.internal
            (.insufficientStored state.shardsStored (chunks.length * DATA_SHARDS))))
      else
        (state.cluster, .ok (hexEncode (ext.blake3 data)))

/-- Register the file of an object that has been split, and store its chunks. -/
def registerAndStore (ext : Externals) (env : PutEnv) (cluster : Cluster) (userId : Uuid)
    (bucket key : String) (data : Bytes) (contentType : String) (nodes : List Node)
    (encoder : ErasureEncoder) :
    Except CyxCloudError (List Core.Chunk) → Cluster × Except S3Error String
  | .error cause => (cluster, .error (.internal (.chunking cause)))
  | .ok chunks =>
      -- name and bucket of the record are parts of its path
      if !(Database.isText (objectPath bucket key) && Database.isText contentType) then
        (cluster, .error (.internal (.database .invalidText)))
      else if env.fileInsert = .refused then
        (cluster, .error (.internal (.database .unavailable)))
      else
        match cluster.db.createFile env.fileId env.now
            (fileRecord ext env userId bucket key data contentType chunks.length) with
        | (_, .error cause) => (cluster, .error (.internal (.database cause)))
        | (db, .ok _) =>
            if env.fileInsert = .lost then
              ({ cluster with db }, .error (.internal (.database .unavailable)))
            else
              storeObject ext env nodes encoder chunks data { cluster with db }

/-- Put an object and return its entity tag. -/
def putObject (ext : Externals) (env : PutEnv) (cluster : Cluster) (userId : Uuid)
    (bucket key : String) (data : Bytes) (contentType : String) :
    Cluster × Except S3Error String :=
  if env.bucketQuery = false then
    (cluster, .error (.internal (.database .unavailable)))
  else
    match cluster.db.getBucket bucket with
    | none => (cluster, .error (.noSuchBucket bucket))
    | some _ =>
        match getOnlineNodes env cluster.db with
        | .error cause => (cluster, .error (.internal (.database cause)))
        | .ok [] => (cluster, .error (.internal .noStorageNodes))
        | .ok nodes =>
            match ErasureEncoder.new ext.reedSolomon with
            | .error cause => (cluster, .error (.internal (.encoderUnavailable cause)))
            | .ok encoder =>
                registerAndStore ext env cluster userId bucket key data contentType nodes encoder
                  (splitIntoChunks ext.blake3 env.now data DEFAULT_CHUNK_SIZE (some env.fileId))

end CyxCloud.Gateway
