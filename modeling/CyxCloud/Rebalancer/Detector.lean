import CyxCloud.Metadata.Replicas

/-!
# Chunk detector

The scan of `cyxcloud-rebalancer/src/detector.rs` over its two clients: the metadata client of
`metadata_client.rs`, which reads the database, and the network client of `network_client.rs`,
which reads node statuses and probes the online ones.  Instants and durations are left out.
-/

namespace CyxCloud.Rebalancer

open CyxCloud.Core Library Metadata

/-! ## Data -/

/-- Detector errors. -/
inductive DetectorError where
  | metadata (cause : DbError)
  | network (cause : DbError)
  deriving DecidableEq, Repr

/-- Chunk health status. -/
inductive ChunkHealth where
  | healthy
  | underReplicated (current target : Nat)
  | overReplicated (current target : Nat)
  | critical
  | orphaned
  | corrupt (nodeIds : List String)
  deriving DecidableEq, Repr

/-- A chunk that needs attention. -/
structure ChunkIssue where
  chunkId : Bytes
  health : ChunkHealth
  currentNodes : List String
  fileId : Option Uuid
  priority : UInt32
  deriving DecidableEq, Repr

/-- Priority of a health status.  The subtraction is a machine word's. -/
def ChunkIssue.calculatePriority : ChunkHealth → UInt32
  | .critical => 1000
  | .underReplicated current target =>
      if current = 0 then 900
      else if current = 1 then 800
      else 500 + (UInt64.ofNat target - UInt64.ofNat current).toUInt32 * 100
  | .corrupt _ => 700
  | .overReplicated _ _ => 100
  | .orphaned => 50
  | .healthy => 0

/-- The settings that a scan reads. -/
structure DetectorConfig where
  replicationFactor : Nat
  batchSize : Nat
  deriving DecidableEq, Repr

/-- The default settings. -/
def DetectorConfig.default : DetectorConfig :=
  { replicationFactor := 3
    batchSize := 1000 }

/-- Scan results. -/
structure ScanResult where
  totalScanned : Nat
  underReplicated : List ChunkIssue
  overReplicated : List ChunkIssue
  orphaned : List ChunkIssue
  corrupt : List ChunkIssue
  deriving DecidableEq, Repr

/-- All issues by decreasing priority. -/
def ScanResult.allIssues (result : ScanResult) : List ChunkIssue :=
  (result.underReplicated ++ result.overReplicated ++ result.orphaned ++ result.corrupt).mergeSort
    fun left right => decide (right.priority ≤ left.priority)

/-- Node availability. -/
inductive NodeAvailability where
  | online
  | recovering
  | unavailable
  deriving DecidableEq, Repr

/-- Chunk information from the metadata. -/
structure ChunkInfo where
  chunkId : Bytes
  nodeIds : List String
  fileId : Option Uuid
  size : Nat
  deriving DecidableEq, Repr

/-! ## Clients -/

/-- What a scan asks of the metadata. -/
structure MetadataClient where
  getUnderReplicatedChunks : Nat → Except DbError (List ChunkInfo)

/-- What a scan asks of the network. -/
structure NetworkClient where
  getAllNodes : Except DbError (List String)
  checkNodeAvailability : String → Except DbError NodeAvailability

/-- The orders in which the queries of a scan deliver their rows. -/
structure ScanOrders where
  candidates : RowOrder ChunkReplicationStatus
  locations : RowOrder ChunkLocation
  nodes : RowOrder Node

/-- The information collected about one candidate. -/
def candidateInfo (db : Database) (orders : ScanOrders) (row : ChunkReplicationStatus) :
    ChunkInfo :=
  { chunkId := row.chunkId
    nodeIds := (db.getChunkLocations orders.locations row.chunkId).filterMap fun location =>
      (db.getNode location.nodeId).map Node.peerId
    fileId := some row.fileId
    size := ((db.getChunkById row.chunkId).map Chunk.sizeBytes).getD 0 }

/-- The metadata client over the database. -/
def postgresMetadataClient (db : Database) (orders : ScanOrders) : MetadataClient where
  getUnderReplicatedChunks limit :=
    (db.getUnderReplicatedChunks orders.candidates (asI64 limit)).map fun rows =>
      rows.map (candidateInfo db orders)

/-- The network client over the database and the addresses that answer a probe. -/
def grpcNetworkClient (db : Database) (orders : ScanOrders) (isReachable : String → Bool) :
    NetworkClient where
  getAllNodes := .ok ((db.getAllNodes orders.nodes).map Node.peerId)
  checkNodeAvailability nodeId :=
    match db.getNodeByPeerId nodeId with
    | some node =>
        match node.status with
        | .online =>
            if isReachable node.grpcAddress then .ok .online else .ok .unavailable
        | .recovering => .ok .recovering
        | _ => .ok .unavailable
    | none => .ok .unavailable

/-! ## Scan -/

/-- The detector with its cache of availabilities. -/
structure Detector where
  config : DetectorConfig
  nodeAvailability : String → Option NodeAvailability

namespace Detector

/-- A detector without cached availabilities. -/
def new (config : DetectorConfig) : Detector :=
  { config
    nodeAvailability := fun _ => none }

/-- Availability found for a peer; a failed check counts as unavailable. -/
def availability (client : NetworkClient) (nodeId : String) : NodeAvailability :=
  match client.checkNodeAvailability nodeId with
  | .ok found => found
  | .error _ => .unavailable

/-- Peers that can serve reads, with the cache updated. -/
def getHealthyNodes (detector : Detector) (client : NetworkClient) :
    Except DetectorError (Detector × List String) :=
  match client.getAllNodes with
  | .error cause => .error (.network cause)
  | .ok allNodes =>
      .ok
        ({ detector with
           nodeAvailability := allNodes.foldl
             (fun cache nodeId => Function.update cache nodeId (some (availability client nodeId)))
             detector.nodeAvailability },
          allNodes.filter fun nodeId =>
            availability client nodeId == .online || availability client nodeId == .recovering)

/-- The issue raised for a candidate. -/
def issueOf (config : DetectorConfig) (healthyNodes : List String) (chunk : ChunkInfo) :
    ChunkIssue :=
  let availableNodes := chunk.nodeIds.filter fun nodeId => healthyNodes.contains nodeId
  let health : ChunkHealth :=
    if availableNodes.isEmpty then .critical
    else .underReplicated availableNodes.length config.replicationFactor
  { chunkId := chunk.chunkId
    health
    currentNodes := availableNodes
    fileId := chunk.fileId
    priority := ChunkIssue.calculatePriority health }

/-- Scan for chunk issues. -/
def scan (detector : Detector) (metadataClient : MetadataClient) (networkClient : NetworkClient) :
    Except DetectorError (Detector × ScanResult) :=
  match detector.getHealthyNodes networkClient with
  | .error cause => .error cause
  | .ok (cached, healthyNodes) =>
      match metadataClient.getUnderReplicatedChunks detector.config.batchSize with
      | .error cause => .error (.metadata cause)
      | .ok candidates =>
          let underReplicated := candidates.map (issueOf detector.config healthyNodes)
          .ok
            (cached,
              { totalScanned := underReplicated.length
                underReplicated
                overReplicated := []
                orphaned := []
                corrupt := [] })

end Detector

end CyxCloud.Rebalancer
