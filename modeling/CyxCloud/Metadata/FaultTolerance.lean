import CyxCloud.Metadata.Database

/-!
# Node lifecycle

The fault tolerance operations of `cyxcloud-metadata/src/postgres.rs`: the queries by which the
node monitor selects nodes, and what each call that writes the lifecycle columns of `nodes` does to
a single row.  Thresholds are in seconds, the clock counts microseconds.
-/

namespace CyxCloud.Metadata

open CyxCloud.Core Library

/-- Fault tolerance thresholds, in seconds. -/
structure FaultToleranceConfig where
  /-- Mark a node offline after no heartbeat for this long. -/
  offlineThreshold : Nat
  /-- Drain a node that has been offline for this long. -/
  drainThreshold : Nat
  /-- Remove a node that has been offline for this long. -/
  removeThreshold : Nat
  /-- Keep a returning node in quarantine for this long. -/
  recoveryQuarantine : Nat
  deriving DecidableEq, Repr

/-- Five minutes, four hours, seven days, and five minutes. -/
def FaultToleranceConfig.default : FaultToleranceConfig :=
  { offlineThreshold := 5 * 60
    drainThreshold := 4 * 60 * 60
    removeThreshold := 7 * 24 * 60 * 60
    recoveryQuarantine := 5 * 60 }

/-- The node is out of service. -/
def NodeStatus.isOut : NodeStatus → Bool
  | .offline | .draining => true
  | .online | .recovering | .maintenance => false

/-- An instant lies more than some seconds back. -/
def olderThan (seconds : Nat) (now instant : Time) : Bool :=
  decide (instant + seconds * 1000000 < now)

/-- An instant lies at least some seconds back. -/
def atLeast (seconds : Nat) (now instant : Time) : Prop := instant + seconds * 1000000 ≤ now

instance (seconds : Nat) (now instant : Time) : Decidable (atLeast seconds now instant) :=
  inferInstanceAs (Decidable (_ ≤ _))

/-- An instant lies at most some seconds back. -/
def atMost (seconds : Nat) (now instant : Time) : Prop := now ≤ instant + seconds * 1000000

instance (seconds : Nat) (now instant : Time) : Decidable (atMost seconds now instant) :=
  inferInstanceAs (Decidable (_ ≤ _))

theorem olderThan_mono {seconds : Nat} {now later instant : Time} (passed : now ≤ later)
    (older : olderThan seconds now instant = true) : olderThan seconds later instant = true := by
  rw [olderThan, decide_eq_true_eq] at *
  exact lt_of_lt_of_le older passed

theorem any_olderThan_mono {seconds : Nat} {now later : Time} {instant : Option Time}
    (passed : now ≤ later) (older : instant.any (olderThan seconds now) = true) :
    instant.any (olderThan seconds later) = true := by
  rw [Option.any_eq_true] at *
  obtain ⟨since, is_since, lies_back⟩ := older
  exact ⟨since, is_since, olderThan_mono passed lies_back⟩

/-- A registration. -/
def firstRegistration : CreateNode :=
  { peerId := "peer-1"
    grpcAddress := "http://node-1:50051"
    storageTotal := 1000
    storageReserved := 0
    bandwidthMbps := 100
    datacenter := none
    region := none
    version := none
    walletAddress := none
    publicKey := none }

namespace Node

variable (node : Node)

/-- The node is online, and has sent no heartbeat for as long as the threshold. -/
def isStale (threshold : Nat) (now : Time) : Bool :=
  node.status == .online && node.lastHeartbeat.all (olderThan threshold now)

/-- The node has been offline beyond the threshold. -/
def awaitsDraining (threshold : Nat) (now : Time) : Bool :=
  node.status == .offline && node.firstOfflineAt.any (olderThan threshold now)

/-- The node has been offline or draining beyond the threshold. -/
def awaitsRemoval (threshold : Nat) (now : Time) : Bool :=
  (node.status == .offline || node.status == .draining) &&
    node.firstOfflineAt.any (olderThan threshold now)

/-- The node has been recovering beyond the quarantine. -/
def isRecovered (quarantine : Nat) (now : Time) : Bool :=
  node.status == .recovering && node.statusChangedAt.any (olderThan quarantine now)

/-- The row once a known peer registers again. -/
def refresh (node : Node) (registration : CreateNode) (now : Time) : Node :=
  { node with
    grpcAddress := registration.grpcAddress
    storageTotal := registration.storageTotal
    storageReserved := registration.storageReserved
    bandwidthMbps := registration.bandwidthMbps
    datacenter := registration.datacenter
    region := registration.region
    version := registration.version
    walletAddress := registration.walletAddress.or node.walletAddress
    publicKey := registration.publicKey.or node.publicKey
    status := .online
    lastHeartbeat := some now
    firstOfflineAt := none }

/-- The row of a new peer. -/
def register (id : Uuid) (registration : CreateNode) (now : Time) : Node :=
  { id
    peerId := registration.peerId
    grpcAddress := registration.grpcAddress
    storageTotal := registration.storageTotal
    storageReserved := registration.storageReserved
    storageUsed := 0
    bandwidthMbps := registration.bandwidthMbps
    datacenter := registration.datacenter
    rack := some 0
    region := registration.region
    latitude := none
    longitude := none
    status := .online
    lastHeartbeat := none
    failureCount := 0
    firstOfflineAt := none
    statusChangedAt := some now
    version := registration.version
    walletAddress := registration.walletAddress
    publicKey := registration.publicKey
    createdAt := now }

end Node

namespace Database

/-- Tables without rows. -/
def empty : Database :=
  { buckets := []
    nodes := []
    files := []
    chunks := []
    chunkLocations := []
    repairJobs := [] }

variable (db : Database)

/-! ## Queries -/

/-- Online nodes without a heartbeat within the threshold, in any order. -/
def getStaleOnlineNodes (order : RowOrder Node) (threshold : Nat) (now : Time) : List Node :=
  order.arrange (db.nodes.filter fun node => node.isStale threshold now)

/-- Offline nodes that should start draining, in any order. -/
def getNodesForDraining (order : RowOrder Node) (threshold : Nat) (now : Time) : List Node :=
  order.arrange (db.nodes.filter fun node => node.awaitsDraining threshold now)

/-- Nodes that should be removed, in any order. -/
def getNodesForRemoval (order : RowOrder Node) (threshold : Nat) (now : Time) : List Node :=
  order.arrange (db.nodes.filter fun node => node.awaitsRemoval threshold now)

/-- Recovering nodes that have completed their quarantine, in any order. -/
def getRecoveredNodes (order : RowOrder Node) (quarantine : Nat) (now : Time) : List Node :=
  order.arrange (db.nodes.filter fun node => node.isRecovered quarantine now)

/-- Stored locations on a node, in any order. -/
def getChunksOnNode (order : RowOrder ChunkLocation) (nodeId : Uuid) : List ChunkLocation :=
  order.arrange (db.chunkLocations.filter fun row => row.nodeId == nodeId && row.status == .stored)

/-! ## Unique rows -/

/-- The unique columns of `nodes`. -/
structure UniqueNodes : Prop where
  ids : (db.nodes.map Node.id).Nodup
  peerIds : (db.nodes.map Node.peerId).Nodup

/-- A peer is registered. -/
def hasPeer (peerId : String) : Bool := db.nodes.any fun node => node.peerId == peerId

/-- Register a node; a generated identifier that is taken is refused. -/
def tryCreateNode (id : Uuid) (now : Time) (node : CreateNode) : Database :=
  if !db.hasPeer node.peerId && db.hasNode id then db else db.createNode id now node

variable {db}

theorem UniqueNodes.eq_of_id (unique : db.UniqueNodes) {left right : Node}
    (left_mem : left ∈ db.nodes) (right_mem : right ∈ db.nodes) (same : left.id = right.id) :
    left = right :=
  List.inj_on_of_nodup_map unique.ids left_mem right_mem same

theorem UniqueNodes.eq_of_peerId (unique : db.UniqueNodes) {left right : Node}
    (left_mem : left ∈ db.nodes) (right_mem : right ∈ db.nodes)
    (same : left.peerId = right.peerId) : left = right :=
  List.inj_on_of_nodup_map unique.peerIds left_mem right_mem same

theorem getNodeByPeerId_eq_some {peerId : String} {node : Node}
    (found : db.getNodeByPeerId peerId = some node) : node ∈ db.nodes ∧ node.peerId = peerId := by
  have matched := List.find?_some found
  exact ⟨List.mem_of_find?_eq_some found, beq_iff_eq.mp matched⟩

theorem UniqueNodes.getNode_eq (unique : db.UniqueNodes) {node : Node} (member : node ∈ db.nodes) :
    db.getNode node.id = some node := by
  cases found : db.getNode node.id with
  | none => exact absurd (List.find?_eq_none.mp found node member) (by simp)
  | some row =>
      obtain ⟨row_mem, id_eq⟩ := getNode_eq_some found
      rw [unique.eq_of_id row_mem member id_eq]

/-- A known peer is refreshed. -/
theorem createNode_of_hasPeer {registration : CreateNode}
    (known : db.hasPeer registration.peerId = true) (id : Uuid) (now : Time) :
    db.createNode id now registration =
      db.updateNodes (fun row => row.peerId == registration.peerId) fun row =>
        row.refresh registration now :=
  if_pos known

/-- A new peer gets a row. -/
theorem createNode_of_not_hasPeer {registration : CreateNode}
    (unknown : db.hasPeer registration.peerId = false) (id : Uuid) (now : Time) :
    db.createNode id now registration =
      { db with nodes := db.nodes ++ [Node.register id registration now] } :=
  if_neg fun known => Bool.false_ne_true (unknown.symm.trans known)

end Database

/-! ## Calls -/

/-- The calls that write the lifecycle columns of a node. -/
inductive NodeOp where
  | createNode (id : Uuid) (node : CreateNode)
  | updateNodeHeartbeat (nodeId : Uuid)
  | updateNodeHeartbeatWithRecovery (nodeId : Uuid)
  | updateNodeHeartbeatByPeerId (peerId : String)
  | updateNodeStatus (nodeId : Uuid) (status : NodeStatus)
  | markNodeOffline (nodeId : Uuid)
  | markNodeRecovering (nodeId : Uuid)
  | markNodeOnline (nodeId : Uuid)
  | markNodeDraining (nodeId : Uuid)

namespace NodeOp

/-- The database a call leaves behind. -/
def apply (db : Database) (now : Time) : NodeOp → Database
  | .createNode id node => db.tryCreateNode id now node
  | .updateNodeHeartbeat nodeId => db.updateNodeHeartbeat nodeId now
  | .updateNodeHeartbeatWithRecovery nodeId => (db.updateNodeHeartbeatWithRecovery nodeId now).1
  | .updateNodeHeartbeatByPeerId peerId => (db.updateNodeHeartbeatByPeerId peerId now).1
  | .updateNodeStatus nodeId status => db.updateNodeStatus nodeId status
  | .markNodeOffline nodeId => db.markNodeOffline nodeId now
  | .markNodeRecovering nodeId => db.markNodeRecovering nodeId now
  | .markNodeOnline nodeId => db.markNodeOnline nodeId now
  | .markNodeDraining nodeId => db.markNodeDraining nodeId now

/-- A call addresses a row. -/
def addresses (node : Node) : NodeOp → Bool
  | .createNode _ registration => node.peerId == registration.peerId
  | .updateNodeHeartbeatByPeerId peerId => node.peerId == peerId
  | .updateNodeHeartbeat nodeId | .updateNodeHeartbeatWithRecovery nodeId
  | .updateNodeStatus nodeId _ | .markNodeOffline nodeId | .markNodeRecovering nodeId
  | .markNodeOnline nodeId | .markNodeDraining nodeId => node.id == nodeId

/-- What a call writes to the row it addresses. -/
def write (now : Time) (node : Node) : NodeOp → Node
  | .createNode _ registration => node.refresh registration now
  | .updateNodeHeartbeat _ =>
      { node with lastHeartbeat := some now, status := .online, failureCount := 0 }
  | .updateNodeHeartbeatWithRecovery _ | .updateNodeHeartbeatByPeerId _ =>
      Database.heartbeatRow node.status now node
  | .updateNodeStatus _ status => { node with status }
  | .markNodeOffline _ =>
      { node with
        status := .offline
        statusChangedAt := some now
        firstOfflineAt := node.firstOfflineAt.or (some now) }
  | .markNodeRecovering _ =>
      { node with
        status := .recovering
        statusChangedAt := some now
        lastHeartbeat := some now
        failureCount := 0 }
  | .markNodeOnline _ =>
      { node with
        status := .online
        statusChangedAt := some now
        firstOfflineAt := none
        lastHeartbeat := some now
        failureCount := 0 }
  | .markNodeDraining _ => { node with status := .draining, statusChangedAt := some now }

/-- A row after a call. -/
def rowAfter (now : Time) (op : NodeOp) (node : Node) : Node :=
  if op.addresses node then op.write now node else node

/-- The row that a call adds. -/
def newRows (db : Database) (now : Time) : NodeOp → List Node
  | .createNode id registration =>
      if db.hasPeer registration.peerId || db.hasNode id then []
      else [Node.register id registration now]
  | _ => []

theorem write_id (now : Time) (node : Node) (op : NodeOp) : (op.write now node).id = node.id := by
  cases op with
  | updateNodeHeartbeatWithRecovery nodeId | updateNodeHeartbeatByPeerId peerId =>
      simp only [write]
      cases node.status <;> rfl
  | _ => rfl

theorem write_peerId (now : Time) (node : Node) (op : NodeOp) :
    (op.write now node).peerId = node.peerId := by
  cases op with
  | updateNodeHeartbeatWithRecovery nodeId | updateNodeHeartbeatByPeerId peerId =>
      simp only [write]
      cases node.status <;> rfl
  | _ => rfl

@[simp]
theorem rowAfter_id (now : Time) (op : NodeOp) (node : Node) :
    (op.rowAfter now node).id = node.id := by
  rw [rowAfter]
  split
  · exact write_id now node op
  · rfl

@[simp]
theorem rowAfter_peerId (now : Time) (op : NodeOp) (node : Node) :
    (op.rowAfter now node).peerId = node.peerId := by
  rw [rowAfter]
  split
  · exact write_peerId now node op
  · rfl

/-- A call without a row to address writes nothing. -/
theorem map_rowAfter_eq_self {op : NodeOp} {rows : List Node} (now : Time)
    (missing : ∀ node ∈ rows, ¬ op.addresses node = true) :
    rows.map (op.rowAfter now) = rows := by
  have kept : ∀ node ∈ rows, op.rowAfter now node = id node := by
    intro node member
    rw [rowAfter, if_neg (missing node member)]
    rfl
  rw [List.map_congr_left kept, List.map_id]

/-- The rows after a call. -/
theorem apply_nodes {db : Database} (unique : db.UniqueNodes) (now : Time) (op : NodeOp) :
    (op.apply db now).nodes = db.nodes.map (op.rowAfter now) ++ op.newRows db now := by
  cases op with
  | createNode id registration =>
      change (db.tryCreateNode id now registration).nodes =
        _ ++ if db.hasPeer registration.peerId || db.hasNode id then []
          else [Node.register id registration now]
      rw [Database.tryCreateNode]
      cases known : db.hasPeer registration.peerId with
      | true =>
          simp only [Bool.not_true, Bool.false_and, Bool.true_or, if_true, List.append_nil,
            Bool.false_eq_true, if_false]
          rw [Database.createNode_of_hasPeer known]
          rfl
      | false =>
          have missing : ∀ node ∈ db.nodes,
              ¬ (NodeOp.createNode id registration).addresses node = true :=
            List.any_eq_false.mp known
          rw [map_rowAfter_eq_self now missing]
          cases taken : db.hasNode id with
          | true => simp
          | false =>
              simp only [Bool.and_false, Bool.false_or, Bool.false_eq_true, if_false]
              rw [Database.createNode_of_not_hasPeer known]
  | updateNodeHeartbeatWithRecovery nodeId =>
      change (db.updateNodeHeartbeatWithRecovery nodeId now).1.nodes = _ ++ []
      rw [List.append_nil, Database.updateNodeHeartbeatWithRecovery]
      cases found : db.getNode nodeId with
      | none =>
          have missing : ∀ node ∈ db.nodes,
              ¬ (NodeOp.updateNodeHeartbeatWithRecovery nodeId).addresses node = true :=
            List.find?_eq_none.mp found
          exact (map_rowAfter_eq_self now missing).symm
      | some node =>
          obtain ⟨node_mem, rfl⟩ := Database.getNode_eq_some found
          refine List.map_congr_left fun row member => ?_
          rw [rowAfter, addresses, write]
          split
          · rename_i same
            rw [unique.eq_of_id member node_mem (beq_iff_eq.mp same)]
          · rfl
  | updateNodeHeartbeatByPeerId peerId =>
      change (db.updateNodeHeartbeatByPeerId peerId now).1.nodes = _ ++ []
      rw [List.append_nil, Database.updateNodeHeartbeatByPeerId]
      cases found : db.getNodeByPeerId peerId with
      | none =>
          have missing : ∀ node ∈ db.nodes,
              ¬ (NodeOp.updateNodeHeartbeatByPeerId peerId).addresses node = true :=
            List.find?_eq_none.mp found
          exact (map_rowAfter_eq_self now missing).symm
      | some node =>
          obtain ⟨node_mem, rfl⟩ := Database.getNodeByPeerId_eq_some found
          refine List.map_congr_left fun row member => ?_
          rw [rowAfter, addresses, write]
          split
          · rename_i same
            rw [unique.eq_of_peerId member node_mem (beq_iff_eq.mp same)]
          · rfl
  | _ => exact (List.append_nil _).symm

theorem newRows_eq_register {db : Database} {now : Time} {op : NodeOp} {row : Node}
    (added : row ∈ op.newRows db now) :
    db.hasPeer row.peerId = false ∧ db.hasNode row.id = false ∧
      ∃ registration, row = Node.register row.id registration now := by
  cases op with
  | createNode id registration =>
      rw [newRows] at added
      split at added
      · cases added
      · rename_i free
        obtain rfl := List.mem_singleton.mp added
        obtain ⟨peer_free, id_free⟩ : db.hasPeer registration.peerId = false ∧
            db.hasNode id = false := by simpa using free
        exact ⟨peer_free, id_free, registration, rfl⟩
  | _ => cases added

/-- A call adds one row at most. -/
theorem newRows_cases (db : Database) (now : Time) (op : NodeOp) :
    op.newRows db now = [] ∨ ∃ row, op.newRows db now = [row] := by
  cases op with
  | createNode id registration =>
      rw [newRows]
      split
      · exact .inl rfl
      · exact .inr ⟨_, rfl⟩
  | _ => exact .inl rfl

/-- Calls keep the unique columns. -/
theorem uniqueNodes_apply {db : Database} (unique : db.UniqueNodes) (now : Time) (op : NodeOp) :
    (op.apply db now).UniqueNodes := by
  have ids_eq : (db.nodes.map (op.rowAfter now)).map Node.id = db.nodes.map Node.id := by
    rw [List.map_map]
    exact List.map_congr_left fun node _ => rowAfter_id now op node
  have peers_eq : (db.nodes.map (op.rowAfter now)).map Node.peerId = db.nodes.map Node.peerId := by
    rw [List.map_map]
    exact List.map_congr_left fun node _ => rowAfter_peerId now op node
  have nodes_eq := apply_nodes unique now op
  rcases newRows_cases db now op with none_added | ⟨row, one_added⟩
  · rw [none_added, List.append_nil] at nodes_eq
    exact
      { ids := by
          rw [nodes_eq, ids_eq]
          exact unique.ids
        peerIds := by
          rw [nodes_eq, peers_eq]
          exact unique.peerIds }
  · obtain ⟨peer_free, id_free, -⟩ :=
      newRows_eq_register (one_added ▸ List.mem_singleton_self row)
    rw [one_added] at nodes_eq
    refine { ids := ?_, peerIds := ?_ }
    · rw [nodes_eq, List.map_append, ids_eq]
      refine nodup_append_fresh unique.ids fun taken => ?_
      obtain ⟨node, member, same⟩ := List.mem_map.mp taken
      exact List.any_eq_false.mp id_free node member (beq_iff_eq.mpr same)
    · rw [nodes_eq, List.map_append, peers_eq]
      refine nodup_append_fresh unique.peerIds fun taken => ?_
      obtain ⟨node, member, same⟩ := List.mem_map.mp taken
      exact List.any_eq_false.mp peer_free node member (beq_iff_eq.mpr same)

end NodeOp

end CyxCloud.Metadata
