import CyxCloud.Metadata.Catalog
import CyxCloud.Rebalancer.Completeness
import CyxCloud.Rebalancer.RepairPlans

/-!
# A round of the rebalancer

The scan and the plan of `run_scan_cycle` in `cyxcloud-gateway/src/rebalancer_daemon.rs`, with the
node information that the network client gives to the planner.  For the issues of a scan it matters
which peers it counts for a chunk: those with a stored location that are reachable or recovering.
-/

namespace CyxCloud.Rebalancer

open CyxCloud.Core Library Metadata Planner

/-! ## Rounds -/

/-- Free bytes of a node as a machine word. -/
def freeBytes (node : Node) : UInt64 := UInt64.ofNat node.storageAvailable.toNat

/-- The information about the nodes that the network client gives to the planner. -/
def getNodeInfo {Load : Type*} (noLoad : Load) (db : Database) (order : RowOrder Node) :
    List (NodeInfo Load) :=
  (db.getAllNodes order).map fun node =>
    { id := node.peerId
      availableStorage := freeBytes node
      load := noLoad
      datacenter := node.datacenter
      isHealthy := node.status == .online || node.status == .recovering }

/-- The orders and probes that a round meets. -/
structure RoundEnv where
  orders : ScanOrders
  infoOrder : RowOrder Node
  isReachable : String → Bool

/-- Failures of a round. -/
inductive CycleError where
  | scan (cause : DetectorError)
  | plan (cause : PlanFailure)
  deriving DecidableEq

section Cycle

variable {Load Score : Type*} [Preorder Load] [DecidableLE Load] [DecidableLT Load]
  [Preorder Score] [DecidableLE Score]

/-- Plan the repair of the issues that a scan found, if there are any. -/
def planScan (arithmetic : LoadArithmetic Load Score) (planner : Planner Load)
    (nodes : List (NodeInfo Load)) :
    Except DetectorError (Detector × ScanResult) → Except CycleError (Option RepairPlan)
  | .error cause => .error (.scan cause)
  | .ok (_, scanResult) =>
      if scanResult.allIssues.isEmpty then
        .ok none
      else
        match (planner.createPlan arithmetic scanResult.allIssues nodes).2 with
        | .error cause => .error (.plan cause)
        | .ok plan => .ok (some plan)

/-- Scan, and plan the repair of the issues. -/
def scanAndPlan (arithmetic : LoadArithmetic Load Score) (noLoad : Load) (env : RoundEnv)
    (db : Database) (detector : Detector) (planner : Planner Load) :
    Except CycleError (Option RepairPlan) :=
  planScan arithmetic planner (getNodeInfo noLoad db env.infoOrder)
    (detector.scan (postgresMetadataClient db env.orders)
      (grpcNetworkClient db env.orders env.isReachable))

theorem planScan_eq_some_iff {arithmetic : LoadArithmetic Load Score} {planner : Planner Load}
    {nodes : List (NodeInfo Load)} {scanned : Except DetectorError (Detector × ScanResult)}
    {plan : RepairPlan} :
    planScan arithmetic planner nodes scanned = .ok (some plan) ↔
      ∃ cached result, scanned = .ok (cached, result) ∧ result.allIssues ≠ [] ∧
        (planner.createPlan arithmetic result.allIssues nodes).2 = .ok plan := by
  cases scanned with
  | error cause => simp [planScan]
  | ok found =>
      obtain ⟨cached, result⟩ := found
      rw [planScan]
      constructor
      · intro planned
        split at planned
        · cases planned
        · rename_i some_issue
          split at planned
          · cases planned
          · rename_i made made_eq
            obtain rfl := Option.some.inj (Except.ok.inj planned)
            exact ⟨cached, result, rfl, by simpa using some_issue, made_eq⟩
      · rintro ⟨_, _, same, some_issue, made_eq⟩
        obtain ⟨rfl, rfl⟩ := Prod.mk.inj (Except.ok.inj same)
        rw [if_neg (by simpa using some_issue), made_eq]

end Cycle

/-! ## The issues of a scan -/

section Issues

variable {db : Database} {env : RoundEnv}

/-- Peers that a scan counts as healthy. -/
def healthyPeers (db : Database) (env : RoundEnv) : List String :=
  ((db.getAllNodes env.orders.nodes).map Node.peerId).filter fun nodeId =>
    Detector.availability (grpcNetworkClient db env.orders env.isReachable) nodeId == .online ||
      Detector.availability (grpcNetworkClient db env.orders env.isReachable) nodeId == .recovering

/-- Peers that a scan counts for a chunk. -/
def availablePeers (db : Database) (env : RoundEnv) (chunkId : Bytes) : List String :=
  ((db.getChunkLocations env.orders.locations chunkId).filterMap fun location =>
    (db.getNode location.nodeId).map Node.peerId).filter fun nodeId =>
      (healthyPeers db env).contains nodeId

/-- The issue that a scan raises for a candidate. -/
def scanIssue (config : DetectorConfig) (db : Database) (env : RoundEnv)
    (row : ChunkReplicationStatus) : ChunkIssue :=
  Detector.issueOf config (healthyPeers db env) (candidateInfo db env.orders row)

@[simp]
theorem scanIssue_chunkId (config : DetectorConfig) (row : ChunkReplicationStatus) :
    (scanIssue config db env row).chunkId = row.chunkId := rfl

@[simp]
theorem scanIssue_currentNodes (config : DetectorConfig) (row : ChunkReplicationStatus) :
    (scanIssue config db env row).currentNodes = availablePeers db env row.chunkId := rfl

theorem scanIssue_health (config : DetectorConfig) (row : ChunkReplicationStatus)
    (counted : availablePeers db env row.chunkId ≠ []) :
    (scanIssue config db env row).health =
      .underReplicated (availablePeers db env row.chunkId).length config.replicationFactor := by
  have some_available : (availablePeers db env row.chunkId).isEmpty = false := by
    simpa using counted
  change (if (availablePeers db env row.chunkId).isEmpty then ChunkHealth.critical
    else .underReplicated (availablePeers db env row.chunkId).length config.replicationFactor) = _
  rw [some_available]
  rfl

/-- A scan raises one issue for each candidate. -/
theorem Detector.scan_ok {detector cached : Detector} {metadataClient : MetadataClient}
    {networkClient : NetworkClient} {result : ScanResult}
    (scanned : detector.scan metadataClient networkClient = .ok (cached, result)) :
    ∃ allNodes candidates, networkClient.getAllNodes = .ok allNodes ∧
      metadataClient.getUnderReplicatedChunks detector.config.batchSize = .ok candidates ∧
      result.allIssues.Perm (candidates.map (issueOf detector.config
        (allNodes.filter fun nodeId => availability networkClient nodeId == .online ||
          availability networkClient nodeId == .recovering))) := by
  rw [scan, getHealthyNodes] at scanned
  cases nodes_eq : networkClient.getAllNodes with
  | error cause =>
      rw [nodes_eq] at scanned
      cases scanned
  | ok allNodes =>
      rw [nodes_eq] at scanned
      cases candidates_eq : metadataClient.getUnderReplicatedChunks detector.config.batchSize with
      | error cause =>
          simp only [candidates_eq] at scanned
          cases scanned
      | ok candidates =>
          refine ⟨allNodes, candidates, rfl, rfl, ?_⟩
          simp only [candidates_eq, Except.ok.injEq, Prod.mk.injEq] at scanned
          obtain ⟨-, rfl⟩ := scanned
          rw [ScanResult.allIssues, List.append_nil, List.append_nil, List.append_nil]
          exact List.mergeSort_perm _ _

/-- A scan raises the issues of the rows that the query delivers. -/
theorem scan_issues {detector cached : Detector} {result : ScanResult}
    (scanned : detector.scan (postgresMetadataClient db env.orders)
      (grpcNetworkClient db env.orders env.isReachable) = .ok (cached, result)) :
    ∃ rows, db.getUnderReplicatedChunks env.orders.candidates (asI64 detector.config.batchSize) =
        .ok rows ∧
      result.allIssues.Perm (rows.map (scanIssue detector.config db env)) := by
  obtain ⟨allNodes, candidates, nodes_eq, candidates_eq, issues_eq⟩ := Detector.scan_ok scanned
  obtain rfl := Except.ok.inj nodes_eq
  simp only [postgresMetadataClient] at candidates_eq
  generalize asI64 detector.config.batchSize = limit at candidates_eq ⊢
  cases delivered : db.getUnderReplicatedChunks env.orders.candidates limit with
  | error cause =>
      rw [delivered] at candidates_eq
      cases candidates_eq
  | ok rows =>
      rw [delivered] at candidates_eq
      obtain rfl := Except.ok.inj candidates_eq
      refine ⟨rows, rfl, ?_⟩
      rw [List.map_map] at issues_eq
      exact issues_eq

/-- The rows of the query are those of stored chunks that lack replicas. -/
theorem mem_delivered {limit : Int} {order : RowOrder ChunkReplicationStatus}
    {rows : List ChunkReplicationStatus}
    (delivered : db.getUnderReplicatedChunks order limit = .ok rows)
    {row : ChunkReplicationStatus} (member : row ∈ rows) :
    ∃ chunk ∈ db.chunks, chunk.chunkId = row.chunkId ∧ chunk.status ≠ .pending ∧
      chunk.currentReplicas < chunk.replicationFactor := by
  rw [Database.getUnderReplicatedChunks] at delivered
  split at delivered
  · cases delivered
  · obtain rfl := Except.ok.inj delivered
    have listed := List.mem_of_mem_take member
    rw [List.mem_mergeSort, RowOrder.mem_arrange, List.mem_filter] at listed
    obtain ⟨viewed, lacking⟩ := listed
    obtain ⟨chunk, kept, rfl⟩ := List.mem_map.mp viewed
    obtain ⟨chunk_mem, stored⟩ := List.mem_filter.mp kept
    refine ⟨chunk, chunk_mem, rfl, by simpa using stored, ?_⟩
    simp only [decide_eq_true_eq] at lacking
    omega

/-! ## Peers -/

section Unique

variable (ids_unique : (db.nodes.map Node.id).Nodup)
  (peers_unique : (db.nodes.map Node.peerId).Nodup)

include ids_unique in
theorem getNode_eq_some_iff {nodeId : Uuid} {node : Node} :
    db.getNode nodeId = some node ↔ node ∈ db.nodes ∧ node.id = nodeId := by
  constructor
  · intro found
    exact ⟨List.mem_of_find?_eq_some found, by simpa using List.find?_some found⟩
  · rintro ⟨member, rfl⟩
    cases found : db.getNode node.id with
    | none =>
        have missing := List.find?_eq_none.mp found node member
        simp at missing
    | some other =>
        have other_id : other.id = node.id := by simpa using List.find?_some found
        rw [List.inj_on_of_nodup_map ids_unique (List.mem_of_find?_eq_some found) member other_id]

include peers_unique in
theorem getNodeByPeerId_of_mem {node : Node} (member : node ∈ db.nodes) :
    db.getNodeByPeerId node.peerId = some node := by
  cases found : db.getNodeByPeerId node.peerId with
  | none =>
      have missing := List.find?_eq_none.mp found node member
      simp at missing
  | some other =>
      have other_peer : other.peerId = node.peerId := by simpa using List.find?_some found
      rw [List.inj_on_of_nodup_map peers_unique (List.mem_of_find?_eq_some found) member other_peer]

/-- A scan counts a node: it is online and answers the probe, or it is recovering. -/
def countedNode (env : RoundEnv) (node : Node) : Bool :=
  (node.status == .online && env.isReachable node.grpcAddress) || node.status == .recovering

theorem mem_getAllNodes {order : RowOrder Node} {node : Node} :
    node ∈ db.getAllNodes order ↔ node ∈ db.nodes := by
  rw [Database.getAllNodes, List.mem_mergeSort, RowOrder.mem_arrange]

include peers_unique in
theorem mem_healthyPeers {node : Node} (member : node ∈ db.nodes) :
    node.peerId ∈ healthyPeers db env ↔ countedNode env node = true := by
  have listed : node.peerId ∈ (db.getAllNodes env.orders.nodes).map Node.peerId :=
    List.mem_map_of_mem (mem_getAllNodes.mpr member)
  rw [healthyPeers, List.mem_filter, and_iff_right listed, Detector.availability,
    grpcNetworkClient, countedNode]
  simp only [getNodeByPeerId_of_mem peers_unique member]
  cases node.status with
  | online => cases env.isReachable node.grpcAddress <;> simp
  | offline => simp
  | recovering => simp
  | draining => simp
  | maintenance => simp

include ids_unique peers_unique in
/-- The peers counted for a chunk are those of counted nodes with a stored location. -/
theorem mem_availablePeers {chunkId : Bytes} {peer : String} :
    peer ∈ availablePeers db env chunkId ↔
      ∃ node ∈ db.nodes, node.peerId = peer ∧ countedNode env node = true ∧
        db.storedOn chunkId node.id := by
  rw [availablePeers, List.mem_filter, List.mem_filterMap, List.contains_iff_mem]
  constructor
  · rintro ⟨⟨location, listed, found⟩, healthy⟩
    obtain ⟨node, known, rfl⟩ := Option.map_eq_some_iff.mp found
    obtain ⟨node_mem, id_eq⟩ := (getNode_eq_some_iff ids_unique).mp known
    obtain ⟨location_mem, selected⟩ := List.mem_filter.mp ((RowOrder.mem_arrange _).mp listed)
    simp only [Bool.and_eq_true, beq_iff_eq] at selected
    exact ⟨node, node_mem, rfl, (mem_healthyPeers peers_unique node_mem).mp healthy, location,
      location_mem, selected.1, id_eq.symm, selected.2⟩
  · rintro ⟨node, node_mem, rfl, counted, location, location_mem, chunk_eq, node_eq, stored⟩
    refine ⟨⟨location, (RowOrder.mem_arrange _).mpr (List.mem_filter.mpr ⟨location_mem, ?_⟩), ?_⟩,
      (mem_healthyPeers peers_unique node_mem).mpr counted⟩
    · simp [chunk_eq, stored]
    · rw [node_eq, (getNode_eq_some_iff ids_unique).mpr ⟨node_mem, rfl⟩]
      rfl

end Unique

end Issues

end CyxCloud.Rebalancer
