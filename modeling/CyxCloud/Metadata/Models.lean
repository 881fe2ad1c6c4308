import CyxCloud.Core.Chunk

/-!
# Database rows

The rows of `cyxcloud-metadata/src/models.rs` with the columns that the modelled operations read
or write.  Status columns are text in PostgreSQL; the texts the program writes are the
constructors here.
-/

namespace CyxCloud.Metadata

open CyxCloud.Core

/-- Status of a storage node. -/
inductive NodeStatus where
  | online
  | offline
  | recovering
  | draining
  | maintenance
  deriving DecidableEq, Repr

/-- Status of a file. -/
inductive FileStatus where
  | pending
  | uploading
  | complete
  | failed
  | deleted
  deriving DecidableEq, Repr

/-- Status of a chunk row; `active` is the text that `add_chunk_location` writes. -/
inductive ChunkStatus where
  | pending
  | active
  | stored
  | verified
  | corrupted
  deriving DecidableEq, Repr

/-- Status of a chunk location. -/
inductive LocationStatus where
  | pending
  | stored
  | verified
  | failed
  deriving DecidableEq, Repr

/-- A row of `nodes`. -/
structure Node where
  id : Uuid
  /-- Identifier chosen by the node, unique. -/
  peerId : String
  grpcAddress : String
  storageTotal : Int
  /-- Bytes reserved for the gateway. -/
  storageReserved : Int
  storageUsed : Int
  bandwidthMbps : Int
  datacenter : Option String
  /-- Rack within the datacenter; the column defaults to 0. -/
  rack : Option Int
  region : Option String
  latitude : Option ℚ
  longitude : Option ℚ
  status : NodeStatus
  lastHeartbeat : Option Time
  failureCount : Nat
  /-- Start of the current outage. -/
  firstOfflineAt : Option Time
  statusChangedAt : Option Time
  version : Option String
  walletAddress : Option String
  publicKey : Option String
  createdAt : Time
  deriving DecidableEq

/-- Unreserved, unused bytes. -/
def Node.storageAvailable (node : Node) : Int :=
  max (node.storageTotal - node.storageReserved - node.storageUsed) 0

/-- Parameters of a registration. -/
structure CreateNode where
  peerId : String
  grpcAddress : String
  storageTotal : Int
  /-- Bytes reserved for the gateway. -/
  storageReserved : Int
  bandwidthMbps : Int
  datacenter : Option String
  region : Option String
  version : Option String
  walletAddress : Option String
  publicKey : Option String
  deriving DecidableEq

/-- A row of `files`. -/
structure File where
  id : Uuid
  name : String
  /-- Bucket and key, joined by a slash. -/
  path : String
  contentHash : Bytes
  sizeBytes : Nat
  chunkCount : Nat
  dataShards : Nat
  parityShards : Nat
  /-- Bytes of every chunk but the last. -/
  chunkSize : Nat
  ownerId : Option Uuid
  bucket : Option String
  status : FileStatus
  contentType : Option String
  createdAt : Time
  updatedAt : Time
  deletedAt : Option Time
  deriving DecidableEq, Repr

/-- The file has not been deleted. -/
def File.isLive (file : File) : Bool := file.deletedAt.isNone

/-- Parameters of a file record. -/
structure CreateFile where
  /-- Identifier; one is generated if absent. -/
  id : Option Uuid
  name : String
  /-- Bucket and key, joined by a slash. -/
  path : String
  contentHash : Bytes
  sizeBytes : Nat
  chunkCount : Nat
  dataShards : Nat
  parityShards : Nat
  /-- Bytes of every chunk but the last. -/
  chunkSize : Nat
  ownerId : Option Uuid
  bucket : Option String
  contentType : Option String
  deriving DecidableEq, Repr

/-- A row of `chunks`: one shard of one chunk of a file. -/
structure Chunk where
  /-- Content hash of the shard, unique. -/
  chunkId : Bytes
  fileId : Uuid
  chunkIndex : Nat
  shardIndex : Nat
  isParity : Bool
  sizeBytes : Nat
  replicationFactor : Nat
  /-- Counted number of replicas. -/
  currentReplicas : Nat
  status : ChunkStatus
  deriving DecidableEq, Repr

/-- Parameters of a chunk record. -/
structure CreateChunk where
  chunkId : Bytes
  fileId : Uuid
  chunkIndex : Nat
  shardIndex : Nat
  isParity : Bool
  sizeBytes : Nat
  replicationFactor : Nat
  deriving DecidableEq, Repr

/-- A row of `chunk_locations`. -/
structure ChunkLocation where
  chunkId : Bytes
  nodeId : Uuid
  status : LocationStatus
  lastVerified : Option Time
  /-- Failed verifications since then. -/
  verificationFailures : Nat
  deriving DecidableEq, Repr

/-- A row of `buckets`. -/
structure Bucket where
  name : String
  ownerId : Uuid
  deriving DecidableEq, Repr

/-- A row of `repair_jobs`. -/
structure RepairJob where
  chunkId : Bytes
  sourceNodeId : Option Uuid
  targetNodeId : Uuid
  priority : Int
  deriving DecidableEq, Repr

/-- The column `health_status` of the view `chunk_replication_status`. -/
inductive ReplicationHealth where
  | healthy
  | underReplicated
  | missing
  deriving DecidableEq, Repr

/-- A row of the view `chunk_replication_status`. -/
structure ChunkReplicationStatus where
  chunkId : Bytes
  fileId : Uuid
  replicationFactor : Nat
  /-- Counted number of replicas. -/
  currentReplicas : Nat
  /-- Wanted minus counted. -/
  replicasNeeded : Int
  healthStatus : ReplicationHealth
  deriving DecidableEq, Repr

/-- A 64-bit unsigned value read as a signed one. -/
def asI64 (value : Nat) : Int := (value : Int).bmod (2 ^ 64)

/-- Failures of a database operation. -/
inductive DbError where
  | unavailable
  | uniqueViolation
  | foreignKeyViolation
  | rowNotFound
  | negativeLimit
  | invalidText
  | notFound (message : String)
  deriving DecidableEq, Repr

end CyxCloud.Metadata
