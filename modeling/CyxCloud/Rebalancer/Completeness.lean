import CyxCloud.Rebalancer.Detector

/-!
# Completeness of the detector

The scan takes its candidates from the stored replica counters, while the replicas it should count
are the locations on healthy nodes.  A scan is complete exactly in the states where no chunk is
counted as replicated without being so, and the operations that leave these states are those that
take healthy locations away, or count a location that is not a new healthy one, without the
counter showing it.
-/

namespace CyxCloud.Rebalancer

open CyxCloud.Core Library Metadata Database

/-! ## Operations -/

/-- The calls that change nodes, files, chunks and chunk locations. -/
inductive MetadataOp where
  | replica (op : ReplicaOp)
  | createNode (id : Uuid) (now : Time) (node : CreateNode)
  | updateNodeHeartbeat (nodeId : Uuid) (now : Time)
  | updateNodeHeartbeatWithRecovery (nodeId : Uuid) (now : Time)
  | updateNodeHeartbeatByPeerId (peerId : String) (now : Time)
  | updateNodeStatus (nodeId : Uuid) (status : NodeStatus)
  | markNodeOffline (nodeId : Uuid) (now : Time)
  | markNodeRecovering (nodeId : Uuid) (now : Time)
  | markNodeOnline (nodeId : Uuid) (now : Time)
  | markNodeDraining (nodeId : Uuid) (now : Time)
  | createFile (generated : Uuid) (now : Time) (file : CreateFile)
  | deleteFile (fileId : Uuid) (now : Time)
  | createRepairJob (job : RepairJob)

/-- The database a call leaves behind. -/
def MetadataOp.apply (db : Database) : MetadataOp → Database
  | .replica op => op.apply db
  | .createNode id now node => db.createNode id now node
  | .updateNodeHeartbeat nodeId now => db.updateNodeHeartbeat nodeId now
  | .updateNodeHeartbeatWithRecovery nodeId now =>
      (db.updateNodeHeartbeatWithRecovery nodeId now).1
  | .updateNodeHeartbeatByPeerId peerId now => (db.updateNodeHeartbeatByPeerId peerId now).1
  | .updateNodeStatus nodeId status => db.updateNodeStatus nodeId status
  | .markNodeOffline nodeId now => db.markNodeOffline nodeId now
  | .markNodeRecovering nodeId now => db.markNodeRecovering nodeId now
  | .markNodeOnline nodeId now => db.markNodeOnline nodeId now
  | .markNodeDraining nodeId now => db.markNodeDraining nodeId now
  | .createFile generated now file => (db.createFile generated now file).1
  | .deleteFile fileId now => db.deleteFile fileId now
  | .createRepairJob job => (db.createRepairJob job).1

/-! ## Healthy locations -/

/-- Online and recovering nodes can serve reads. -/
def isHealthyStatus (status : NodeStatus) : Bool := status == .online || status == .recovering

/-- A node is registered and can serve reads. -/
def isHealthyNode (db : Database) (nodeId : Uuid) : Bool :=
  db.nodes.any fun node => node.id == nodeId && isHealthyStatus node.status

/-- Locations of a chunk on healthy nodes, apart from some that are lost. -/
def healthyLocationsWithout (db : Database) (lost : ChunkLocation → Bool) (chunkId : Bytes) : Nat :=
  db.chunkLocations.countP fun row =>
    row.chunkId == chunkId && isHealthyNode db row.nodeId && !lost row

/-- Locations of a chunk on healthy nodes. -/
def healthyLocations (db : Database) (chunkId : Bytes) : Nat :=
  healthyLocationsWithout db (fun _ => false) chunkId

/-- Chunk identifiers are unique. -/
def UniqueChunks (db : Database) : Prop := (db.chunks.map Chunk.chunkId).Nodup

/-- Every chunk that is counted as fully replicated stays so without some locations. -/
def Spares (db : Database) (lost : ChunkLocation → Bool) : Prop :=
  ∀ chunk ∈ db.chunks, chunk.status ≠ .pending →
    chunk.replicationFactor ≤ chunk.currentReplicas →
      chunk.replicationFactor ≤ healthyLocationsWithout db lost chunk.chunkId

/-- Every chunk that is counted as fully replicated has enough healthy locations. -/
def Detectable (db : Database) : Prop := Spares db fun _ => false

/-- The state before a call lets the call keep every lack of replicas visible. -/
def MetadataOp.KeepsDetectable (db : Database) : MetadataOp → Prop
  | .replica (.addChunkLocation statements chunkId nodeId) =>
      statements.upsert = false ∨ db.hasNode nodeId = false ∨ statements.increment = false ∨
        ∀ chunk ∈ db.chunks, chunk.chunkId = chunkId →
          chunk.status ≠ .pending ∨ (chunk.currentReplicas = 0 ∧ statements.activate) →
            chunk.replicationFactor ≤ chunk.currentReplicas + 1 →
              chunk.replicationFactor ≤ healthyLocations db chunkId +
                if db.hasLocation chunkId nodeId = false ∧ isHealthyNode db nodeId then 1 else 0
  | .replica (.removeChunkLocation chunkId nodeId) =>
      Spares db fun row => row.chunkId == chunkId && row.nodeId == nodeId
  | .replica (.deleteNode nodeId) =>
      db.hasRepairJob nodeId ∨ Spares db fun row => row.nodeId == nodeId
  | .updateNodeStatus nodeId status =>
      isHealthyStatus status ∨ Spares db fun row => row.nodeId == nodeId
  | .markNodeOffline nodeId _ | .markNodeDraining nodeId _ =>
      Spares db fun row => row.nodeId == nodeId
  | _ => True

instance (db : Database) : Decidable (UniqueChunks db) :=
  inferInstanceAs (Decidable (List.Nodup _))

instance (db : Database) (lost : ChunkLocation → Bool) : Decidable (Spares db lost) :=
  inferInstanceAs (Decidable (∀ chunk ∈ db.chunks, _ → _ → _))

instance (db : Database) : Decidable (Detectable db) :=
  inferInstanceAs (Decidable (Spares db _))

instance MetadataOp.decidableKeepsDetectable (db : Database) : DecidablePred (KeepsDetectable db)
  | .replica (.addChunkLocation _ _ _) =>
      inferInstanceAs (Decidable (_ ∨ _ ∨ _ ∨ ∀ chunk ∈ db.chunks, _ → _ → _ → _))
  | .replica (.removeChunkLocation _ _) => inferInstanceAs (Decidable (Spares db _))
  | .replica (.deleteNode _) => inferInstanceAs (Decidable (_ ∨ Spares db _))
  | .updateNodeStatus _ _ => inferInstanceAs (Decidable (_ ∨ Spares db _))
  | .markNodeOffline _ _ => inferInstanceAs (Decidable (Spares db _))
  | .markNodeDraining _ _ => inferInstanceAs (Decidable (Spares db _))
  | .replica (.createChunk _) => inferInstanceAs (Decidable True)
  | .replica (.updateChunkVerification _ _ _ _) => inferInstanceAs (Decidable True)
  | .createNode _ _ _ => inferInstanceAs (Decidable True)
  | .updateNodeHeartbeat _ _ => inferInstanceAs (Decidable True)
  | .updateNodeHeartbeatWithRecovery _ _ => inferInstanceAs (Decidable True)
  | .updateNodeHeartbeatByPeerId _ _ => inferInstanceAs (Decidable True)
  | .markNodeRecovering _ _ => inferInstanceAs (Decidable True)
  | .markNodeOnline _ _ => inferInstanceAs (Decidable True)
  | .createFile _ _ _ => inferInstanceAs (Decidable True)
  | .deleteFile _ _ => inferInstanceAs (Decidable True)
  | .createRepairJob _ => inferInstanceAs (Decidable True)

/-! ## What a scan finds -/

/-- Identifiers of the chunks a scan raises an issue for. -/
def ScanResult.chunkIds (result : ScanResult) : List Bytes :=
  result.allIssues.map ChunkIssue.chunkId

/-- A scan succeeds and raises an issue for every stored chunk that lacks healthy locations. -/
def ScanFinds (detector : Detector) (db : Database) (orders : ScanOrders)
    (isReachable : String → Bool) : Prop :=
  ∃ scanned result,
    detector.scan (postgresMetadataClient db orders) (grpcNetworkClient db orders isReachable) =
      .ok (scanned, result) ∧
    ∀ chunk ∈ db.chunks, chunk.status ≠ .pending →
      healthyLocations db chunk.chunkId < chunk.replicationFactor →
        chunk.replicationFactor = detector.config.replicationFactor →
          chunk.chunkId ∈ result.chunkIds

theorem asI64_of_lt {value : Nat} (fits : value < 2 ^ 63) : asI64 value = value := by
  unfold asI64
  rw [Int.bmod_eq_of_le] <;> omega

theorem mem_getUnderReplicatedChunks (db : Database) (order : RowOrder ChunkReplicationStatus)
    {limit : Nat} (enough : db.chunks.length < limit) :
    ∃ rows, db.getUnderReplicatedChunks order limit = .ok rows ∧
      ∀ chunkId, chunkId ∈ rows.map ChunkReplicationStatus.chunkId ↔
        ∃ chunk ∈ db.chunks, chunk.chunkId = chunkId ∧ chunk.status ≠ .pending ∧
          chunk.currentReplicas < chunk.replicationFactor := by
  refine ⟨_, if_neg (by omega), fun chunkId => ?_⟩
  rw [List.take_of_length_le]
  · simp only [List.mem_map, List.mem_mergeSort, RowOrder.mem_arrange, List.mem_filter,
      chunkReplicationStatus]
    grind
  · rw [List.length_mergeSort, (order.arrange_perm _).length_eq, Int.toNat_natCast]
    calc
      _ ≤ db.chunkReplicationStatus.length := List.length_filter_le _ _
      _ = (db.chunks.filter fun chunk => chunk.status != .pending).length := List.length_map _
      _ ≤ db.chunks.length := List.length_filter_le _ _
      _ ≤ limit := enough.le

theorem Detector.scan_candidates (detector : Detector) {metadataClient : MetadataClient}
    {networkClient : NetworkClient} {allNodes : List String} {candidates : List ChunkInfo}
    (nodes_ok : networkClient.getAllNodes = .ok allNodes)
    (candidates_ok :
      metadataClient.getUnderReplicatedChunks detector.config.batchSize = .ok candidates) :
    ∃ scanned result, detector.scan metadataClient networkClient = .ok (scanned, result) ∧
      ∀ chunkId, chunkId ∈ result.chunkIds ↔ chunkId ∈ candidates.map ChunkInfo.chunkId := by
  simp only [scan, getHealthyNodes, nodes_ok, candidates_ok]
  refine ⟨_, _, rfl, fun chunkId => ?_⟩
  simp [ScanResult.chunkIds, ScanResult.allIssues, issueOf]

/-- A scan with room for all chunks raises an issue for exactly the stored chunks whose counter is
below their replication factor. -/
theorem scan_chunkIds (detector : Detector) (db : Database) (orders : ScanOrders)
    (isReachable : String → Bool) (enough : db.chunks.length < detector.config.batchSize)
    (fits : detector.config.batchSize < 2 ^ 63) :
    ∃ scanned result,
      detector.scan (postgresMetadataClient db orders) (grpcNetworkClient db orders isReachable) =
        .ok (scanned, result) ∧
      ∀ chunkId, chunkId ∈ result.chunkIds ↔
        ∃ chunk ∈ db.chunks, chunk.chunkId = chunkId ∧ chunk.status ≠ .pending ∧
          chunk.currentReplicas < chunk.replicationFactor := by
  obtain ⟨rows, delivered, mem_rows⟩ :=
    mem_getUnderReplicatedChunks db orders.candidates enough
  have candidates_ok : (postgresMetadataClient db orders).getUnderReplicatedChunks
      detector.config.batchSize = .ok (rows.map (candidateInfo db orders)) := by
    simp only [postgresMetadataClient, asI64_of_lt fits, delivered]
    rfl
  have nodes_ok : (grpcNetworkClient db orders isReachable).getAllNodes =
      .ok ((db.getAllNodes orders.nodes).map Node.peerId) := rfl
  obtain ⟨scanned, result, scan_ok, mem_result⟩ :=
    detector.scan_candidates nodes_ok candidates_ok
  refine ⟨scanned, result, scan_ok, fun chunkId => ?_⟩
  rw [mem_result, ← mem_rows, List.map_map]
  rfl

/-- In a detectable state every scan with room for all chunks is complete. -/
theorem Detectable.scanFinds {db : Database} (detectable : Detectable db) (detector : Detector)
    (orders : ScanOrders) (isReachable : String → Bool)
    (enough : db.chunks.length < detector.config.batchSize)
    (fits : detector.config.batchSize < 2 ^ 63) :
    ScanFinds detector db orders isReachable := by
  obtain ⟨scanned, result, scan_ok, mem_result⟩ :=
    scan_chunkIds detector db orders isReachable enough fits
  refine ⟨scanned, result, scan_ok, fun chunk member stored lacking _ => ?_⟩
  refine (mem_result chunk.chunkId).mpr ⟨chunk, member, rfl, stored, ?_⟩
  by_contra counted
  exact absurd (detectable chunk member stored (Nat.le_of_not_lt counted))
    (Nat.not_le_of_lt lacking)

/-- Conversely, a scan for each target that is complete shows the state to be detectable. -/
theorem detectable_of_scanFinds {db : Database} (unique : UniqueChunks db)
    {batchSize : Nat} (orders : ScanOrders) (isReachable : String → Bool)
    (enough : db.chunks.length < batchSize) (fits : batchSize < 2 ^ 63)
    (finds : ∀ replicationFactor,
      ScanFinds (.new { replicationFactor, batchSize }) db orders isReachable) :
    Detectable db := by
  intro chunk member stored counted
  by_contra lacking
  obtain ⟨scanned, result, scan_ok, found⟩ := finds chunk.replicationFactor
  obtain ⟨scanned', result', scan_ok', mem_result⟩ :=
    scan_chunkIds (.new { replicationFactor := chunk.replicationFactor, batchSize }) db orders
      isReachable enough fits
  obtain ⟨-, rfl⟩ : scanned = scanned' ∧ result = result' := by
    simpa [scan_ok] using scan_ok'
  obtain ⟨same, same_mem, same_id, -, below⟩ :=
    (mem_result chunk.chunkId).mp
      (found chunk member stored (Nat.lt_of_not_le lacking) rfl)
  have : same = chunk := List.inj_on_of_nodup_map unique same_mem member same_id
  subst this
  exact absurd counted (Nat.not_le_of_lt below)

/-! ## One call -/

/-- When locations are lost and the chunk rows stay, detectability is what the loss spares. -/
theorem detectable_lost_iff {db next : Database} {lost : ChunkLocation → Bool}
    (chunks_eq : next.chunks = db.chunks)
    (healthy_eq : ∀ chunkId, healthyLocations next chunkId = healthyLocationsWithout db lost chunkId) :
    Detectable next ↔ Spares db lost := by
  unfold Detectable Spares
  rw [chunks_eq]
  exact forall₂_congr fun chunk _ => by rw [← healthy_eq]; rfl

/-- Operations that only add pending chunks and healthy locations keep a state detectable. -/
theorem Detectable.gain {db next : Database} (detectable : Detectable db)
    (chunks_old : ∀ chunk ∈ next.chunks, chunk ∈ db.chunks ∨ chunk.status = .pending)
    (healthy_le : ∀ chunkId, healthyLocations db chunkId ≤ healthyLocations next chunkId) :
    Detectable next := by
  intro chunk member stored counted
  rcases chunks_old chunk member with old | pending
  · exact (detectable chunk old stored counted).trans (healthy_le chunk.chunkId)
  · exact absurd pending stored

theorem healthyLocations_mono {db next : Database}
    (locations_eq : next.chunkLocations = db.chunkLocations)
    (healthy : ∀ nodeId, isHealthyNode db nodeId → isHealthyNode next nodeId) (chunkId : Bytes) :
    healthyLocations db chunkId ≤ healthyLocations next chunkId := by
  unfold healthyLocations healthyLocationsWithout
  rw [locations_eq]
  refine List.countP_mono_left fun row _ counted => ?_
  simp only [Bool.and_eq_true, Bool.not_false, and_true] at counted ⊢
  exact ⟨counted.1, healthy _ counted.2⟩

/-- A node that becomes unhealthy takes its locations with it. -/
theorem detectable_updateNodes_iff (db : Database) {update : Node → Node} (nodeId : Uuid)
    (unhealthy : ∀ node, isHealthyStatus (update node).status = false) :
    Detectable (db.updateNodes (fun node => node.id == nodeId) update) ↔
      Spares db fun row => row.nodeId == nodeId := by
  have healthy_eq : ∀ other, isHealthyNode (db.updateNodes (fun node => node.id == nodeId) update)
      other = (isHealthyNode db other && !(other == nodeId)) := by
    intro other
    rw [Bool.eq_iff_iff]
    simp only [isHealthyNode, Database.updateNodes, List.any_map, List.any_eq_true,
      Function.comp_apply, Bool.and_eq_true]
    grind
  refine detectable_lost_iff rfl fun chunkId => ?_
  unfold healthyLocations healthyLocationsWithout
  simp only [healthy_eq]
  congr 1
  funext row
  simp [Bool.and_assoc]

section Updates

variable {db : Database} {condition : Node → Bool} {update : Node → Node}
  (id_eq : ∀ node, (update node).id = node.id)

include id_eq

theorem isHealthyNode_updateNodes
    (keeps : ∀ node, isHealthyStatus node.status → isHealthyStatus (update node).status)
    (nodeId : Uuid) (healthy : isHealthyNode db nodeId) :
    isHealthyNode (db.updateNodes condition update) nodeId := by
  obtain ⟨node, member, holds⟩ := List.any_eq_true.mp healthy
  simp only [Bool.and_eq_true] at holds
  refine List.any_eq_true.mpr ⟨_, List.mem_map_of_mem member, ?_⟩
  simp only [Bool.and_eq_true]
  split
  · exact ⟨by rw [id_eq]; exact holds.1, keeps node holds.2⟩
  · exact holds

/-- Node updates that leave no node less healthy keep a state detectable. -/
theorem Detectable.updateNodes (detectable : Detectable db)
    (keeps : ∀ node, isHealthyStatus node.status → isHealthyStatus (update node).status) :
    Detectable (db.updateNodes condition update) :=
  detectable.gain (fun _ member => .inl member)
    (healthyLocations_mono rfl (isHealthyNode_updateNodes id_eq keeps))

end Updates

theorem detectable_removeChunkLocation_iff (db : Database) (chunkId : Bytes) (nodeId : Uuid) :
    Detectable (db.removeChunkLocation chunkId nodeId) ↔
      Spares db fun row => row.chunkId == chunkId && row.nodeId == nodeId := by
  refine detectable_lost_iff rfl fun counted => ?_
  unfold healthyLocations healthyLocationsWithout
  rw [removeChunkLocation, List.countP_filter]
  simp [isHealthyNode]

theorem detectable_deleteNode_iff {db : Database} (detectable : Detectable db) (nodeId : Uuid) :
    Detectable (db.deleteNode nodeId).1 ↔
      db.hasRepairJob nodeId ∨ Spares db fun row => row.nodeId == nodeId := by
  unfold deleteNode
  cases blocked : db.hasRepairJob nodeId with
  | true => simp [detectable]
  | false =>
      simp only [Bool.false_eq_true, if_false, false_or]
      refine detectable_lost_iff rfl fun counted => ?_
      unfold healthyLocations healthyLocationsWithout
      rw [List.countP_filter]
      refine List.countP_congr fun row _ => ?_
      simp only [isHealthyNode, List.any_filter, Bool.and_eq_true, List.any_eq_true]
      grind

theorem healthyLocations_upsertLocation (db : Database) (chunkId : Bytes) (nodeId : Uuid)
    (counted : Bytes) :
    healthyLocations (db.upsertLocation chunkId nodeId) counted =
      healthyLocations db counted +
        if chunkId = counted ∧ db.hasLocation chunkId nodeId = false ∧ isHealthyNode db nodeId then
          1 else 0 := by
  unfold upsertLocation healthyLocations healthyLocationsWithout
  cases located : db.hasLocation chunkId nodeId with
  | true =>
      simp only [if_true, List.countP_map, Bool.true_eq_false, and_false, false_and, if_false,
        Nat.add_zero]
      refine List.countP_congr fun row _ => ?_
      simp only [Function.comp_apply]
      split <;> rfl
  | false =>
      simp only [Bool.false_eq_true, if_false, List.countP_append, List.countP_singleton]
      simp [isHealthyNode]

theorem detectable_addChunkLocation_iff {db : Database}
    (unique : UniqueChunks db) (detectable : Detectable db)
    (statements : LocationStatements) (chunkId : Bytes) (nodeId : Uuid) :
    Detectable (db.addChunkLocation statements chunkId nodeId).1 ↔
      MetadataOp.KeepsDetectable db (.replica (.addChunkLocation statements chunkId nodeId)) := by
  simp only [MetadataOp.KeepsDetectable]
  rcases db.addChunkLocation_effect statements chunkId nodeId with
    ⟨blocked, unchanged⟩ | ⟨upserted, known, effect⟩
  · rw [unchanged]
    tauto
  · have healthy_eq : ∀ counted,
        healthyLocations (db.addChunkLocation statements chunkId nodeId).1 counted =
          healthyLocations (db.upsertLocation chunkId nodeId) counted := by
      intro counted
      rw [effect]
      rfl
    simp only [upserted, known, Bool.true_eq_false, false_or]
    cases counts : statements.increment with
    | false =>
        refine iff_of_true (detectable.gain ?_ fun counted => ?_) (.inl rfl)
        · rw [effect, counts]
          exact fun chunk member => .inl member
        · rw [healthy_eq, healthyLocations_upsertLocation]
          exact Nat.le_add_right _ _
    | true =>
        simp only [Bool.true_eq_false, false_or]
        have rows_eq : Detectable (db.addChunkLocation statements chunkId nodeId).1 ↔
            ∀ chunk ∈ db.chunks, (countReplica (db.activates statements chunkId) chunkId
                chunk).status ≠ .pending →
              chunk.replicationFactor ≤
                chunk.currentReplicas + (if chunk.chunkId = chunkId then 1 else 0) →
                chunk.replicationFactor ≤
                  healthyLocations (db.upsertLocation chunkId nodeId) chunk.chunkId := by
          have unfolded : Detectable (db.addChunkLocation statements chunkId nodeId).1 ↔
              ∀ chunk ∈ (db.addChunkLocation statements chunkId nodeId).1.chunks,
                chunk.status ≠ .pending → chunk.replicationFactor ≤ chunk.currentReplicas →
                  chunk.replicationFactor ≤ healthyLocations
                    (db.addChunkLocation statements chunkId nodeId).1 chunk.chunkId := Iff.rfl
          simp only [unfolded, healthy_eq]
          rw [effect, counts]
          simp
        rw [rows_eq]
        refine forall₂_congr fun chunk member => ?_
        rw [healthyLocations_upsertLocation]
        by_cases same : chunk.chunkId = chunkId
        · subst same
          have found : db.getChunkById chunk.chunkId = some chunk :=
            getChunkById_of_mem unique member
          have activation : (countReplica (db.activates statements chunk.chunkId) chunk.chunkId
              chunk).status ≠ .pending ↔
                chunk.status ≠ .pending ∨ chunk.currentReplicas = 0 ∧ statements.activate := by
            simp only [countReplica, activates, found, BEq.rfl, if_true, Option.any_some]
            split_ifs <;> grind
          simp [activation]
        · simp only [countReplica, same, beq_eq_false_iff_ne.mpr, ne_eq, not_false_eq_true,
            Bool.false_eq_true, if_false, Nat.add_zero, false_imp_iff, iff_true]
          intro stored counted
          exact (detectable chunk member stored counted).trans (Nat.le_add_right _ _)

theorem Detectable.createChunk {db : Database} (detectable : Detectable db) (chunk : CreateChunk) :
    Detectable (db.createChunk chunk).1 := by
  unfold Database.createChunk
  simp only
  split_ifs
  · exact detectable
  · refine detectable.gain (fun row member => ?_) fun _ => le_rfl
    rcases List.mem_append.mp member with old | new
    · exact .inl old
    · exact .inr (by rw [List.mem_singleton.mp new])
  · exact detectable

theorem Detectable.updateChunkVerification {db : Database} (detectable : Detectable db)
    (chunkId : Bytes) (nodeId : Uuid) (valid : Bool) (now : Time) :
    Detectable (db.updateChunkVerification chunkId nodeId valid now) := by
  refine detectable.gain (fun _ member => .inl member) fun counted => ?_
  unfold healthyLocations healthyLocationsWithout Database.updateChunkVerification
  rw [List.countP_map]
  refine List.countP_mono_left fun row _ holds => ?_
  simp only [Function.comp_apply]
  split_ifs <;> exact holds

theorem Detectable.createNode {db : Database} (detectable : Detectable db) (id : Uuid) (now : Time)
    (node : CreateNode) : Detectable (db.createNode id now node) := by
  unfold Database.createNode
  split
  · exact detectable.updateNodes (fun _ => rfl) fun _ _ => rfl
  · refine detectable.gain (fun _ member => .inl member) (healthyLocations_mono rfl ?_)
    intro nodeId healthy
    simp only [isHealthyNode, List.any_append, Bool.or_eq_true]
    exact .inl healthy

theorem isHealthyStatus_heartbeatRow (status : NodeStatus) (now : Time) (node : Node)
    (healthy : isHealthyStatus node.status) :
    isHealthyStatus (heartbeatRow status now node).status := by
  cases status with
  | online | recovering | maintenance => exact healthy
  | offline | draining => rfl

theorem heartbeatRow_id (status : NodeStatus) (now : Time) (node : Node) :
    (heartbeatRow status now node).id = node.id := by
  cases status <;> rfl

theorem Detectable.updateNodeHeartbeatWithRecovery {db : Database} (detectable : Detectable db)
    (nodeId : Uuid) (now : Time) : Detectable (db.updateNodeHeartbeatWithRecovery nodeId now).1 := by
  unfold Database.updateNodeHeartbeatWithRecovery
  split
  · exact detectable
  · exact detectable.updateNodes (heartbeatRow_id _ now) (isHealthyStatus_heartbeatRow _ now)

theorem Detectable.updateNodeHeartbeatByPeerId {db : Database} (detectable : Detectable db)
    (peerId : String) (now : Time) : Detectable (db.updateNodeHeartbeatByPeerId peerId now).1 := by
  unfold Database.updateNodeHeartbeatByPeerId
  split
  · exact detectable
  · exact detectable.updateNodes (heartbeatRow_id _ now) (isHealthyStatus_heartbeatRow _ now)

theorem Detectable.createFile {db : Database} (detectable : Detectable db) (generated : Uuid)
    (now : Time) (file : CreateFile) : Detectable (db.createFile generated now file).1 := by
  unfold Database.createFile
  simp only
  split <;> exact detectable

theorem Detectable.createRepairJob {db : Database} (detectable : Detectable db) (job : RepairJob) :
    Detectable (db.createRepairJob job).1 := by
  unfold Database.createRepairJob
  split <;> exact detectable

/-- A call keeps a detectable state detectable exactly under its condition. -/
theorem detectable_apply_iff (db : Database) (op : MetadataOp)
    (unique : UniqueChunks db) (detectable : Detectable db) :
    Detectable (op.apply db) ↔ op.KeepsDetectable db := by
  cases op with
  | replica op =>
      cases op with
      | createChunk chunk => exact iff_of_true (detectable.createChunk chunk) trivial
      | addChunkLocation statements chunkId nodeId =>
          exact detectable_addChunkLocation_iff unique detectable statements chunkId nodeId
      | removeChunkLocation chunkId nodeId =>
          exact detectable_removeChunkLocation_iff db chunkId nodeId
      | updateChunkVerification chunkId nodeId valid now =>
          exact iff_of_true (detectable.updateChunkVerification chunkId nodeId valid now) trivial
      | deleteNode nodeId => exact detectable_deleteNode_iff detectable nodeId
  | createNode id now node => exact iff_of_true (detectable.createNode id now node) trivial
  | updateNodeHeartbeat nodeId now =>
      exact iff_of_true (detectable.updateNodes (fun _ => rfl) fun _ _ => rfl) trivial
  | updateNodeHeartbeatWithRecovery nodeId now =>
      exact iff_of_true (detectable.updateNodeHeartbeatWithRecovery nodeId now) trivial
  | updateNodeHeartbeatByPeerId peerId now =>
      exact iff_of_true (detectable.updateNodeHeartbeatByPeerId peerId now) trivial
  | updateNodeStatus nodeId status =>
      simp only [MetadataOp.KeepsDetectable]
      cases healthy : isHealthyStatus status with
      | true =>
          exact iff_of_true (detectable.updateNodes (fun _ => rfl) fun _ _ => healthy) (.inl rfl)
      | false =>
          simp only [Bool.false_eq_true, false_or]
          exact detectable_updateNodes_iff db nodeId fun _ => healthy
  | markNodeOffline nodeId now => exact detectable_updateNodes_iff db nodeId fun _ => rfl
  | markNodeRecovering nodeId now =>
      exact iff_of_true (detectable.updateNodes (fun _ => rfl) fun _ _ => rfl) trivial
  | markNodeOnline nodeId now =>
      exact iff_of_true (detectable.updateNodes (fun _ => rfl) fun _ _ => rfl) trivial
  | markNodeDraining nodeId now => exact detectable_updateNodes_iff db nodeId fun _ => rfl
  | createFile generated now file =>
      exact iff_of_true (detectable.createFile generated now file) trivial
  | deleteFile fileId now => exact iff_of_true detectable trivial
  | createRepairJob job => exact iff_of_true (detectable.createRepairJob job) trivial

/-! ## Runs -/

theorem UniqueChunks.createChunk {db : Database} (unique : UniqueChunks db) (chunk : CreateChunk) :
    UniqueChunks (db.createChunk chunk).1 := by
  unfold Database.createChunk
  simp only
  split_ifs with present known
  · exact unique
  · have fresh : chunk.chunkId ∉ db.chunks.map Chunk.chunkId := by
      simpa [hasChunk] using present
    rw [UniqueChunks, List.map_append]
    exact List.nodup_append.mpr ⟨unique, List.nodup_singleton _, by grind⟩
  · exact unique

theorem UniqueChunks.addChunkLocation {db : Database} (unique : UniqueChunks db)
    (statements : LocationStatements) (chunkId : Bytes) (nodeId : Uuid) :
    UniqueChunks (db.addChunkLocation statements chunkId nodeId).1 := by
  rcases db.addChunkLocation_effect statements chunkId nodeId with ⟨-, effect⟩ | ⟨-, -, effect⟩
  · rwa [effect]
  · rw [effect]
    have kept : (Chunk.chunkId ∘ countReplica (db.activates statements chunkId) chunkId) =
        Chunk.chunkId := funext fun row => countReplica_chunkId _ _ row
    unfold UniqueChunks
    split
    · rwa [List.map_map, kept]
    · exact unique

/-- Chunk identifiers stay unique. -/
theorem unique_apply (db : Database) (op : MetadataOp)
    (unique : UniqueChunks db) :
    UniqueChunks (op.apply db) := by
  cases op with
  | replica op =>
      cases op with
      | createChunk chunk => exact unique.createChunk chunk
      | addChunkLocation statements chunkId nodeId =>
          exact unique.addChunkLocation statements chunkId nodeId
      | removeChunkLocation chunkId nodeId => exact unique
      | updateChunkVerification chunkId nodeId valid now => exact unique
      | deleteNode nodeId =>
          rwa [UniqueChunks, MetadataOp.apply, ReplicaOp.apply, deleteNode_chunks]
  | createNode id now node => rwa [UniqueChunks, MetadataOp.apply, createNode_chunks]
  | updateNodeHeartbeatWithRecovery nodeId now =>
      rwa [UniqueChunks, MetadataOp.apply, updateNodeHeartbeatWithRecovery_chunks]
  | updateNodeHeartbeatByPeerId peerId now =>
      rwa [UniqueChunks, MetadataOp.apply, updateNodeHeartbeatByPeerId_chunks]
  | createFile generated now file => rwa [UniqueChunks, MetadataOp.apply, createFile_chunks]
  | createRepairJob job => rwa [UniqueChunks, MetadataOp.apply, createRepairJob_chunks]
  | updateNodeHeartbeat _ _ | updateNodeStatus _ _ | markNodeOffline _ _ | markNodeRecovering _ _
  | markNodeOnline _ _ | markNodeDraining _ _ | deleteFile _ _ => exact unique

/-- From a database without chunk rows, a run stays in detectable states exactly when each call
meets its condition in the state it finds. -/
theorem everyState_detectable_iff (db : Database) (no_chunks : db.chunks = [])
    (ops : List MetadataOp) :
    EveryState MetadataOp.apply Detectable db ops ↔
      EveryStep MetadataOp.apply MetadataOp.KeepsDetectable db ops := by
  refine everyState_iff_everyStep UniqueChunks unique_apply detectable_apply_iff ?_ ?_ ops
  · rw [UniqueChunks, no_chunks]
    exact List.nodup_nil
  · intro chunk member
    rw [no_chunks] at member
    cases member

/-- Every scan with room for all chunks is complete. -/
def ScansComplete (db : Database) : Prop :=
  ∀ (detector : Detector) (orders : ScanOrders) (isReachable : String → Bool),
    db.chunks.length < detector.config.batchSize → detector.config.batchSize < 2 ^ 63 →
      ScanFinds detector db orders isReachable

/-- From a database without chunk rows, scans are complete in every state of a run whose calls
meet their conditions. -/
theorem detection_complete (db : Database) (no_chunks : db.chunks = []) (ops : List MetadataOp)
    (careful : EveryStep MetadataOp.apply MetadataOp.KeepsDetectable db ops) :
    EveryState MetadataOp.apply ScansComplete db ops := by
  refine ((everyState_detectable_iff db no_chunks ops).mpr careful).mono ?_
  intro reached detectable detector orders isReachable enough fits
  exact detectable.scanFinds detector orders isReachable enough fits

/-- Store a shard on three nodes. -/
def storeThrice : List MetadataOp :=
  [.replica (.createChunk firstShard), .replica (.addChunkLocation .up [5] 1),
    .replica (.addChunkLocation .up [5] 2), .replica (.addChunkLocation .up [5] 3)]

/-- Scans stay complete while the shard is stored, verified once in vain, and one of its nodes
goes through quarantine. -/
theorem detection_complete_three_locations :
    EveryState MetadataOp.apply ScansComplete threeNodes
      (storeThrice ++
        [.replica (.updateChunkVerification [5] 1 false 2), .markNodeRecovering 2 5]) :=
  detection_complete threeNodes rfl _ (by decide)

/-- A shard stored on three nodes of which one leaves for good hides its lack of a replica. -/
theorem detection_misses_offline_node :
    ¬ ∀ db : Database, db.chunks = [] → ∀ ops : List MetadataOp,
      EveryState MetadataOp.apply ScansComplete db ops := by
  intro complete
  have last := (complete threeNodes rfl (storeThrice ++ [.markNodeOffline 3 9])).last
  have detectable : Detectable (runAll MetadataOp.apply threeNodes
      (storeThrice ++ [.markNodeOffline 3 9])) := by
    refine detectable_of_scanFinds (by decide) ⟨.insertion, .insertion, .insertion⟩ (fun _ => true)
      (show _ < 1000 by decide) (by decide) ?_
    intro replicationFactor
    exact last _ _ _ (show _ < 1000 by decide) (show 1000 < 2 ^ 63 by decide)
  exact absurd detectable (by decide)

end CyxCloud.Rebalancer
