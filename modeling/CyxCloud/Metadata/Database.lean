import CyxCloud.Metadata.Models

/-!
# Database operations

The statements of `cyxcloud-metadata/src/postgres.rs` on files, chunks, chunk locations and nodes,
over the tables declared in the migrations.  A mutating operation returns the database it leaves
behind together with its result: operations made of several statements are not transactions, so a
failure keeps the effect of the statements before it.
-/

namespace CyxCloud.Metadata

open CyxCloud.Core Library

/-- The tables. -/
structure Database where
  /-- Buckets. -/
  buckets : List Bucket
  /-- Storage nodes. -/
  nodes : List Node
  /-- Files, soft-deleted ones included. -/
  files : List File
  /-- Chunk rows. -/
  chunks : List Chunk
  /-- Chunk locations. -/
  chunkLocations : List ChunkLocation
  /-- Repair jobs. -/
  repairJobs : List RepairJob

namespace Database

/-! ## Keys -/

/-- A node row has the identifier. -/
def hasNode (db : Database) (nodeId : Uuid) : Bool := db.nodes.any fun node => node.id == nodeId

/-- A file row has the identifier. -/
def hasFile (db : Database) (fileId : Uuid) : Bool := db.files.any fun file => file.id == fileId

/-- A chunk row has the identifier. -/
def hasChunk (db : Database) (chunkId : Bytes) : Bool :=
  db.chunks.any fun chunk => chunk.chunkId == chunkId

/-- A location row has the key. -/
def hasLocation (db : Database) (chunkId : Bytes) (nodeId : Uuid) : Bool :=
  db.chunkLocations.any fun row => row.chunkId == chunkId && row.nodeId == nodeId

/-- A repair job refers to the node. -/
def hasRepairJob (db : Database) (nodeId : Uuid) : Bool :=
  db.repairJobs.any fun job => job.sourceNodeId == some nodeId || job.targetNodeId == nodeId

/-! ## Nodes -/

/-- Apply an update to the rows that satisfy a condition. -/
def updateNodes (db : Database) (condition : Node → Bool) (update : Node → Node) : Database :=
  { db with nodes := db.nodes.map fun node => if condition node then update node else node }

/-- Register a node, or refresh the registration of a known peer. -/
def createNode (db : Database) (id : Uuid) (now : Time) (node : CreateNode) : Database :=
  if db.nodes.any fun row => row.peerId == node.peerId then
    db.updateNodes (fun row => row.peerId == node.peerId) fun row =>
      { row with
        grpcAddress := node.grpcAddress
        storageTotal := node.storageTotal
        storageReserved := node.storageReserved
        bandwidthMbps := node.bandwidthMbps
        datacenter := node.datacenter
        region := node.region
        version := node.version
        walletAddress := node.walletAddress.or row.walletAddress
        publicKey := node.publicKey.or row.publicKey
        status := .online
        lastHeartbeat := some now
        firstOfflineAt := none }
  else
    { db with
      nodes := db.nodes ++
        [{ id
           peerId := node.peerId
           grpcAddress := node.grpcAddress
           storageTotal := node.storageTotal
           storageReserved := node.storageReserved
           storageUsed := 0
           bandwidthMbps := node.bandwidthMbps
           datacenter := node.datacenter
           rack := some 0
           region := node.region
           latitude := none
           longitude := none
           status := .online
           lastHeartbeat := none
           failureCount := 0
           firstOfflineAt := none
           statusChangedAt := some now
           version := node.version
           walletAddress := node.walletAddress
           publicKey := node.publicKey
           createdAt := now }] }

/-- Look a node up by its identifier. -/
def getNode (db : Database) (id : Uuid) : Option Node := db.nodes.find? fun node => node.id == id

/-- Look a node up by its peer identifier. -/
def getNodeByPeerId (db : Database) (peerId : String) : Option Node :=
  db.nodes.find? fun node => node.peerId == peerId

/-- Online nodes by increasing use of storage; ties come in any order. -/
def getOnlineNodes (db : Database) (order : RowOrder Node) : List Node :=
  (order.arrange (db.nodes.filter fun node => node.status == .online)).mergeSort
    fun left right => decide (left.storageUsed ≤ right.storageUsed)

/-- All nodes by registration time; ties come in any order. -/
def getAllNodes (db : Database) (order : RowOrder Node) : List Node :=
  (order.arrange db.nodes).mergeSort fun left right => decide (left.createdAt ≤ right.createdAt)

/-- Heartbeat that puts the node online at once. -/
def updateNodeHeartbeat (db : Database) (nodeId : Uuid) (now : Time) : Database :=
  db.updateNodes (fun node => node.id == nodeId) fun node =>
    { node with lastHeartbeat := some now, status := .online, failureCount := 0 }

/-- Overwrite the status of a node. -/
def updateNodeStatus (db : Database) (nodeId : Uuid) (status : NodeStatus) : Database :=
  db.updateNodes (fun node => node.id == nodeId) fun node => { node with status }

/-- Mark a node offline and keep the start of its outage. -/
def markNodeOffline (db : Database) (nodeId : Uuid) (now : Time) : Database :=
  db.updateNodes (fun node => node.id == nodeId) fun node =>
    { node with
      status := .offline
      statusChangedAt := some now
      firstOfflineAt := node.firstOfflineAt.or (some now) }

/-- Put a node into recovery quarantine. -/
def markNodeRecovering (db : Database) (nodeId : Uuid) (now : Time) : Database :=
  db.updateNodes (fun node => node.id == nodeId) fun node =>
    { node with
      status := .recovering
      statusChangedAt := some now
      lastHeartbeat := some now
      failureCount := 0 }

/-- End the quarantine of a node. -/
def markNodeOnline (db : Database) (nodeId : Uuid) (now : Time) : Database :=
  db.updateNodes (fun node => node.id == nodeId) fun node =>
    { node with
      status := .online
      statusChangedAt := some now
      firstOfflineAt := none
      lastHeartbeat := some now
      failureCount := 0 }

/-- Begin the evacuation of a node. -/
def markNodeDraining (db : Database) (nodeId : Uuid) (now : Time) : Database :=
  db.updateNodes (fun node => node.id == nodeId) fun node =>
    { node with status := .draining, statusChangedAt := some now }

/-- What a heartbeat does to the row of a node whose status was read as `status`. -/
def heartbeatRow (status : NodeStatus) (now : Time) (node : Node) : Node :=
  match status with
  | .online | .recovering => { node with lastHeartbeat := some now, failureCount := 0 }
  | .offline | .draining =>
      { node with
        status := .recovering
        statusChangedAt := some now
        lastHeartbeat := some now
        failureCount := 0 }
  | .maintenance => { node with lastHeartbeat := some now }

/-- The status reported back to a node whose status was read as `status`. -/
def heartbeatReply : NodeStatus → NodeStatus
  | .online => .online
  | .recovering | .offline | .draining => .recovering
  | .maintenance => .maintenance

/-- Heartbeat that sends a returning node through quarantine. -/
def updateNodeHeartbeatWithRecovery (db : Database) (nodeId : Uuid) (now : Time) :
    Database × Except DbError NodeStatus :=
  match db.getNode nodeId with
  | none => (db, .error (.notFound "Node not found"))
  | some node =>
      (db.updateNodes (fun row => row.id == nodeId) (heartbeatRow node.status now),
        .ok (heartbeatReply node.status))

/-- The same heartbeat, addressed by peer identifier. -/
def updateNodeHeartbeatByPeerId (db : Database) (peerId : String) (now : Time) :
    Database × Except DbError NodeStatus :=
  match db.getNodeByPeerId peerId with
  | none => (db, .error (.notFound "Node with peer_id not found"))
  | some node =>
      (db.updateNodes (fun row => row.peerId == peerId) (heartbeatRow node.status now),
        .ok (heartbeatReply node.status))

/-- Delete a node.  Its chunk locations go with it; a repair job that refers to it blocks the
deletion. -/
def deleteNode (db : Database) (nodeId : Uuid) : Database × Except DbError Unit :=
  if db.hasRepairJob nodeId then
    (db, .error .foreignKeyViolation)
  else
    ({ db with
       nodes := db.nodes.filter fun node => node.id != nodeId
       chunkLocations := db.chunkLocations.filter fun location => location.nodeId != nodeId },
      .ok ())

/-! ## Files -/

/-- Look a bucket up by name. -/
def getBucket (db : Database) (name : String) : Option Bucket :=
  db.buckets.find? fun bucket => bucket.name == name

/-- Insert a file record. -/
def createFile (db : Database) (generated : Uuid) (now : Time) (file : CreateFile) :
    Database × Except DbError File :=
  let row : File :=
    { id := file.id.getD generated
      name := file.name
      path := file.path
      contentHash := file.contentHash
      sizeBytes := file.sizeBytes
      chunkCount := file.chunkCount
      dataShards := file.dataShards
      parityShards := file.parityShards
      chunkSize := file.chunkSize
      ownerId := file.ownerId
      bucket := file.bucket
      status := .pending
      contentType := file.contentType
      createdAt := now
      updatedAt := now
      deletedAt := none }
  if db.hasFile row.id then
    (db, .error .uniqueViolation)
  else
    ({ db with files := db.files ++ [row] }, .ok row)

/-- Look a live file up. -/
def getFile (db : Database) (id : Uuid) : Option File :=
  db.files.find? fun file => file.id == id && file.isLive

/-- Live files with a path. -/
def liveFilesAt (db : Database) (path : String) : List File :=
  db.files.filter fun file => file.path == path && file.isLive

/-- A live file with a path: the first one the query delivers. -/
def getFileByPath (db : Database) (order : RowOrder File) (path : String) : Option File :=
  order.fetchOptional (db.liveFilesAt path)

/-- SQL `LIKE` with the default escape character. -/
def sqlLike : List Char → List Char → Bool
  | [] => fun text => text.isEmpty
  | '%' :: pattern => fun text => text.tails.any (sqlLike pattern)
  | '_' :: pattern => fun
      | [] => false
      | _ :: text => sqlLike pattern text
  | '\\' :: literal :: pattern => fun
      | [] => false
      | head :: text => head == literal && sqlLike pattern text
  | literal :: pattern => fun
      | [] => false
      | head :: text => head == literal && sqlLike pattern text

/-- Texts of the database have no null character. -/
def isText (text : String) : Bool := !text.toList.contains '\u0000'

/-- Live files of a bucket whose path matches a prefix, by path. -/
def matchingFiles (db : Database) (order : RowOrder File) (bucket pathPrefix : String)
    (limit : Nat) : List File :=
  ((order.arrange (db.files.filter fun file =>
    file.bucket == some bucket && sqlLike (pathPrefix.toList ++ ['%']) file.path.toList &&
      file.isLive)).mergeSort fun left right => decide (left.path ≤ right.path)).take limit

/-- List the live files of a bucket whose path matches a prefix.  What is no text, and a negative
limit, the database refuses. -/
def listFilesInBucket (db : Database) (order : RowOrder File) (bucket pathPrefix : String)
    (limit : Int) : Except DbError (List File) :=
  if !(isText bucket && isText pathPrefix) then
    .error .invalidText
  else if limit < 0 then
    .error .negativeLimit
  else
    .ok (db.matchingFiles order bucket pathPrefix limit.toNat)

/-- Update the status of a file. -/
def updateFileStatus (db : Database) (fileId : Uuid) (status : FileStatus) (now : Time) :
    Database :=
  { db with
    files := db.files.map fun file =>
      if file.id == fileId then { file with status, updatedAt := now } else file }

/-- Soft-delete a file. -/
def deleteFile (db : Database) (fileId : Uuid) (now : Time) : Database :=
  { db with
    files := db.files.map fun file =>
      if file.id == fileId then
        { file with deletedAt := some now, status := .deleted, updatedAt := now }
      else
        file }

/-! ## Chunks -/

/-- Insert a chunk row.  The identifier is unique and the file must exist. -/
def createChunk (db : Database) (chunk : CreateChunk) : Database × Except DbError Chunk :=
  let row : Chunk :=
    { chunkId := chunk.chunkId
      fileId := chunk.fileId
      chunkIndex := chunk.chunkIndex
      shardIndex := chunk.shardIndex
      isParity := chunk.isParity
      sizeBytes := chunk.sizeBytes
      replicationFactor := chunk.replicationFactor
      currentReplicas := 0
      status := .pending }
  if db.hasChunk chunk.chunkId then
    (db, .error .uniqueViolation)
  else if db.hasFile chunk.fileId then
    ({ db with chunks := db.chunks ++ [row] }, .ok row)
  else
    (db, .error .foreignKeyViolation)

/-- Look a chunk row up by its identifier. -/
def getChunkById (db : Database) (chunkId : Bytes) : Option Chunk :=
  db.chunks.find? fun chunk => chunk.chunkId == chunkId

/-- Chunk rows of a file by chunk and shard index. -/
def getFileChunks (db : Database) (fileId : Uuid) : List Chunk :=
  (db.chunks.filter fun chunk => chunk.fileId == fileId).mergeSort fun left right =>
    decide (left.chunkIndex < right.chunkIndex ∨
      (left.chunkIndex = right.chunkIndex ∧ left.shardIndex ≤ right.shardIndex))

/-- Overwrite the status of a chunk row. -/
def updateChunkStatus (db : Database) (chunkId : Bytes) (status : ChunkStatus) : Database :=
  { db with
    chunks := db.chunks.map fun chunk =>
      if chunk.chunkId == chunkId then { chunk with status } else chunk }

/-- Count one more replica of a chunk and return the new count. -/
def incrementChunkReplicas (db : Database) (chunkId : Bytes) : Database × Except DbError Nat :=
  match db.getChunkById chunkId with
  | none => (db, .error .rowNotFound)
  | some chunk =>
      ({ db with
         chunks := db.chunks.map fun row =>
           if row.chunkId == chunkId then
             { row with currentReplicas := row.currentReplicas + 1 }
           else
             row },
        .ok (chunk.currentReplicas + 1))

/-- The view `chunk_replication_status`. -/
def chunkReplicationStatus (db : Database) : List ChunkReplicationStatus :=
  (db.chunks.filter fun chunk => chunk.status != .pending).map fun chunk =>
    { chunkId := chunk.chunkId
      fileId := chunk.fileId
      replicationFactor := chunk.replicationFactor
      currentReplicas := chunk.currentReplicas
      replicasNeeded := (chunk.replicationFactor : Int) - chunk.currentReplicas
      healthStatus :=
        if chunk.currentReplicas ≥ chunk.replicationFactor then .healthy
        else if chunk.currentReplicas > 0 then .underReplicated
        else .missing }

/-- Rows of the view that need replicas, the neediest first; ties come in any order.  A negative
limit is an error. -/
def getUnderReplicatedChunks (db : Database) (order : RowOrder ChunkReplicationStatus)
    (limit : Int) : Except DbError (List ChunkReplicationStatus) :=
  if limit < 0 then
    .error .negativeLimit
  else
    .ok (((order.arrange (db.chunkReplicationStatus.filter fun row =>
      decide (row.replicasNeeded > 0))).mergeSort fun left right =>
        decide (right.replicasNeeded ≤ left.replicasNeeded)).take limit.toNat)

/-! ## Chunk locations -/

/-- Which of the three statements of `add_chunk_location` reach the database. -/
structure LocationStatements where
  /-- The upsert of the location. -/
  upsert : Bool
  /-- The increment of the replica counter. -/
  increment : Bool
  /-- The activation of the chunk row. -/
  activate : Bool
  deriving DecidableEq, Repr

/-- The database answers all three statements. -/
def LocationStatements.up : LocationStatements :=
  { upsert := true
    increment := true
    activate := true }

/-- Insert a location, or mark the existing one as stored. -/
def upsertLocation (db : Database) (chunkId : Bytes) (nodeId : Uuid) : Database :=
  if db.hasLocation chunkId nodeId then
    { db with
      chunkLocations := db.chunkLocations.map fun row =>
        if row.chunkId == chunkId && row.nodeId == nodeId then
          { row with status := .stored }
        else
          row }
  else
    { db with
      chunkLocations := db.chunkLocations ++
        [{ chunkId
           nodeId
           status := .stored
           lastVerified := none
           verificationFailures := 0 }] }

/-- Record that a node holds a chunk: upsert the location, count the replica, activate the chunk
on its first replica. -/
def addChunkLocation (db : Database) (statements : LocationStatements) (chunkId : Bytes)
    (nodeId : Uuid) : Database × Except DbError Unit :=
  if statements.upsert = false then
    (db, .error .unavailable)
  else if db.hasNode nodeId then
    let located := db.upsertLocation chunkId nodeId
    if statements.increment = false then
      (located, .error .unavailable)
    else
      match located.incrementChunkReplicas chunkId with
      | (counted, .error cause) => (counted, .error cause)
      | (counted, .ok newCount) =>
          if newCount = 1 then
            if statements.activate = false then
              (counted, .error .unavailable)
            else
              (counted.updateChunkStatus chunkId .active, .ok ())
          else
            (counted, .ok ())
  else
    (db, .error .foreignKeyViolation)

/-- Locations of a chunk that are marked as stored, in any order. -/
def getChunkLocations (db : Database) (order : RowOrder ChunkLocation) (chunkId : Bytes) :
    List ChunkLocation :=
  order.arrange
    (db.chunkLocations.filter fun row => row.chunkId == chunkId && row.status == .stored)

/-- Addresses of the online nodes that hold a stored location of a chunk of the file, by chunk
identifier; within one chunk they come in any order. -/
def getFileChunkLocations (db : Database) (order : RowOrder String) (fileId : Uuid)
    (chunkId : Bytes) : List String :=
  order.arrange ((db.chunkLocations.filter fun row =>
      row.chunkId == chunkId && row.status == .stored &&
        db.chunks.any fun chunk => chunk.chunkId == chunkId && chunk.fileId == fileId).flatMap
    fun row => (db.nodes.filter fun node =>
      node.id == row.nodeId && node.status == .online).map Node.grpcAddress)

/-- Forget that a node holds a chunk. -/
def removeChunkLocation (db : Database) (chunkId : Bytes) (nodeId : Uuid) : Database :=
  { db with
    chunkLocations := db.chunkLocations.filter fun row =>
      !(row.chunkId == chunkId && row.nodeId == nodeId) }

/-- Record the outcome of a verification; the third failure in a row marks the location. -/
def updateChunkVerification (db : Database) (chunkId : Bytes) (nodeId : Uuid) (valid : Bool)
    (now : Time) : Database :=
  { db with
    chunkLocations := db.chunkLocations.map fun row =>
      if row.chunkId == chunkId && row.nodeId == nodeId then
        if valid then
          { row with lastVerified := some now, status := .verified, verificationFailures := 0 }
        else
          { row with
            verificationFailures := row.verificationFailures + 1
            status := if row.verificationFailures ≥ 2 then .failed else row.status }
      else
        row }

/-! ## Repair jobs -/

/-- Insert a repair job; both nodes must exist. -/
def createRepairJob (db : Database) (job : RepairJob) : Database × Except DbError RepairJob :=
  if db.hasNode job.targetNodeId && job.sourceNodeId.all db.hasNode then
    ({ db with repairJobs := db.repairJobs ++ [job] }, .ok job)
  else
    (db, .error .foreignKeyViolation)

/-! ## Lookups -/

theorem getNode_eq_some {db : Database} {id : Uuid} {node : Node}
    (found : db.getNode id = some node) : node ∈ db.nodes ∧ node.id = id := by
  have matched := List.find?_some found
  exact ⟨List.mem_of_find?_eq_some found, beq_iff_eq.mp matched⟩

/-! ## Rows that an operation leaves alone -/

@[simp]
theorem createNode_chunks (db : Database) (id : Uuid) (now : Time) (node : CreateNode) :
    (db.createNode id now node).chunks = db.chunks := by
  unfold createNode
  split <;> rfl

@[simp]
theorem updateNodeHeartbeatWithRecovery_chunks (db : Database) (nodeId : Uuid) (now : Time) :
    (db.updateNodeHeartbeatWithRecovery nodeId now).1.chunks = db.chunks := by
  unfold updateNodeHeartbeatWithRecovery
  split <;> rfl

@[simp]
theorem updateNodeHeartbeatByPeerId_chunks (db : Database) (peerId : String) (now : Time) :
    (db.updateNodeHeartbeatByPeerId peerId now).1.chunks = db.chunks := by
  unfold updateNodeHeartbeatByPeerId
  split <;> rfl

@[simp]
theorem deleteNode_chunks (db : Database) (nodeId : Uuid) :
    (db.deleteNode nodeId).1.chunks = db.chunks := by
  unfold deleteNode
  split <;> rfl

@[simp]
theorem createFile_chunks (db : Database) (generated : Uuid) (now : Time) (file : CreateFile) :
    (db.createFile generated now file).1.chunks = db.chunks := by
  unfold createFile
  simp only
  split <;> rfl

@[simp]
theorem createRepairJob_chunks (db : Database) (job : RepairJob) :
    (db.createRepairJob job).1.chunks = db.chunks := by
  unfold createRepairJob
  split <;> rfl

@[simp]
theorem upsertLocation_chunks (db : Database) (chunkId : Bytes) (nodeId : Uuid) :
    (db.upsertLocation chunkId nodeId).chunks = db.chunks := by
  unfold upsertLocation
  split <;> rfl

end Database
end CyxCloud.Metadata
