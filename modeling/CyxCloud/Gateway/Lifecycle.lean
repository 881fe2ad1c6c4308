import CyxCloud.Gateway.NodeMonitor
import CyxCloud.Metadata.Catalog

/-!
# Nodes, clients and monitor

The node monitor runs beside the registrations and heartbeats of the nodes and beside the clients
that store chunks.  A step is a single SQL statement: the two statements of a heartbeat that knows
about recovery, and those of a check cycle, can have any statements of others between them.
-/

namespace CyxCloud.Gateway

open CyxCloud.Core hiding Chunk
open Library Metadata

/-! ## Steps -/

/-- How a heartbeat names its node. -/
inductive HeartbeatAddress where
  | byId (nodeId : Uuid)
  | byPeerId (peerId : String)
  deriving DecidableEq

/-- The row of the node. -/
def HeartbeatAddress.selects (node : Node) : HeartbeatAddress → Bool
  | .byId nodeId => node.id == nodeId
  | .byPeerId peerId => node.peerId == peerId

/-- A heartbeat that has read the status of its node and not written yet. -/
structure Heartbeat where
  address : HeartbeatAddress
  status : NodeStatus
  deriving DecidableEq

/-- The calls on files, chunks, locations and repair jobs. -/
inductive StorageOp where
  | createFile (generated : Uuid) (file : CreateFile)
  | deleteFile (fileId : Uuid)
  | createChunk (chunk : CreateChunk)
  | addChunkLocation (statements : Database.LocationStatements) (chunkId : Bytes) (nodeId : Uuid)
  | removeChunkLocation (chunkId : Bytes) (nodeId : Uuid)
  | updateChunkVerification (chunkId : Bytes) (nodeId : Uuid) (valid : Bool)
  | createRepairJob (job : RepairJob)

/-- The database a call leaves behind. -/
def StorageOp.apply (db : Database) (now : Time) : StorageOp → Database
  | .createFile generated file => (db.createFile generated now file).1
  | .deleteFile fileId => db.deleteFile fileId now
  | .createChunk chunk => (db.createChunk chunk).1
  | .addChunkLocation statements chunkId nodeId => (db.addChunkLocation statements chunkId nodeId).1
  | .removeChunkLocation chunkId nodeId => db.removeChunkLocation chunkId nodeId
  | .updateChunkVerification chunkId nodeId valid =>
      db.updateChunkVerification chunkId nodeId valid now
  | .createRepairJob job => (db.createRepairJob job).1

/-- The database, its clock, the monitor, and the heartbeats between their two statements. -/
structure Lifecycle where
  db : Database
  now : Time
  monitor : MonitorState
  heartbeats : List Heartbeat

/-- What happens next. -/
inductive LifecycleStep where
  | wait (elapsed : Nat)
  | createNode (id : Uuid) (node : CreateNode)
  | updateNodeHeartbeat (nodeId : Uuid)
  | readHeartbeat (address : HeartbeatAddress)
  | writeHeartbeat (heartbeat : Heartbeat)
  | startCycle
  | monitor (event : MonitorState.Event)
  | storage (op : StorageOp)

namespace Lifecycle

/-- Tables without nodes, and nothing under way. -/
def start (db : Database) (now : Time) : Lifecycle :=
  { db
    now
    monitor := .idle
    heartbeats := [] }

/-- One step. -/
def apply (config : FaultToleranceConfig) (state : Lifecycle) : LifecycleStep → Lifecycle
  | .wait elapsed => { state with now := state.now + elapsed }
  | .createNode id node => { state with db := state.db.tryCreateNode id state.now node }
  | .updateNodeHeartbeat nodeId =>
      { state with db := state.db.updateNodeHeartbeat nodeId state.now }
  | .readHeartbeat address =>
      match state.db.nodes.find? fun node => address.selects node with
      | none => state
      | some node =>
          { state with heartbeats := { address, status := node.status } :: state.heartbeats }
  | .writeHeartbeat heartbeat =>
      if heartbeat ∈ state.heartbeats then
        { state with
          db := state.db.updateNodes (fun node => heartbeat.address.selects node)
            (Database.heartbeatRow heartbeat.status state.now)
          heartbeats := state.heartbeats.erase heartbeat }
      else
        state
  | .startCycle =>
      { state with monitor := if state.monitor = .idle then .findStale else state.monitor }
  | .monitor event =>
      let (db, monitor) := MonitorState.step config (state.db, state.monitor) (state.now, event)
      { state with db, monitor }
  | .storage op => { state with db := op.apply state.db state.now }

end Lifecycle

/-! ## What a step does to a row -/

namespace MonitorState

/-- What the statement of the monitor does to a row that it keeps. -/
def rowAfter (now : Time) (node : Node) : MonitorState → Node
  | .markOffline nodeId _ => (NodeOp.markNodeOffline nodeId).rowAfter now node
  | .markDraining nodeId _ => (NodeOp.markNodeDraining nodeId).rowAfter now node
  | .markOnline nodeId _ => (NodeOp.markNodeOnline nodeId).rowAfter now node
  | _ => node

/-- The statement of the monitor keeps a row. -/
def keepsRow (db : Database) (node : Node) : MonitorState → Bool
  | .deleteNode nodeId _ => db.hasRepairJob nodeId || node.id != nodeId
  | _ => true

theorem write_nodes (db : Database) (now : Time) (monitor : MonitorState) :
    (monitor.write db now).nodes =
      (db.nodes.filter fun node => monitor.keepsRow db node).map fun node =>
        monitor.rowAfter now node := by
  cases monitor with
  | markOffline nodeId rest | markDraining nodeId rest | markOnline nodeId rest =>
      rw [write]
      simp only [keepsRow, List.filter_true]
      rfl
  | createJob job jobs rest =>
      simp only [write, keepsRow, rowAfter, List.filter_true, List.map_id_fun', id_eq]
      unfold Database.createRepairJob
      split <;> rfl
  | deleteNode nodeId rest =>
      simp only [write, keepsRow, rowAfter, List.map_id_fun', id_eq]
      unfold Database.deleteNode
      cases db.hasRepairJob nodeId with
      | true => simp
      | false => simp
  | _ => simp [write, keepsRow, rowAfter]

@[simp]
theorem rowAfter_id (now : Time) (node : Node) (monitor : MonitorState) :
    (monitor.rowAfter now node).id = node.id := by
  cases monitor with
  | markOffline nodeId rest | markDraining nodeId rest | markOnline nodeId rest =>
      exact NodeOp.rowAfter_id ..
  | _ => rfl

@[simp]
theorem rowAfter_peerId (now : Time) (node : Node) (monitor : MonitorState) :
    (monitor.rowAfter now node).peerId = node.peerId := by
  cases monitor with
  | markOffline nodeId rest | markDraining nodeId rest | markOnline nodeId rest =>
      exact NodeOp.rowAfter_peerId ..
  | _ => rfl

/-- The node whose row the statement of the monitor writes or deletes. -/
def addressee : MonitorState → Option Uuid
  | .markOffline nodeId _ | .markDraining nodeId _ | .deleteNode nodeId _ | .markOnline nodeId _ =>
      some nodeId
  | _ => none

/-- The statement of the monitor leaves the rows of other nodes alone. -/
theorem rowAfter_of_ne_addressee {node : Node} {monitor : MonitorState}
    (other : monitor.addressee ≠ some node.id) (db : Database) (now : Time) :
    monitor.keepsRow db node = true ∧ monitor.rowAfter now node = node := by
  cases monitor with
  | markOffline nodeId rest | markDraining nodeId rest | markOnline nodeId rest =>
      refine ⟨rfl, if_neg fun same => other ?_⟩
      rw [beq_iff_eq.mp same]
      rfl
  | deleteNode nodeId rest =>
      refine ⟨?_, rfl⟩
      have ne : node.id ≠ nodeId := fun same => other (same ▸ rfl)
      simp [keepsRow, ne]
  | _ => exact ⟨rfl, rfl⟩

/-- The rows of other nodes after a statement of the monitor. -/
theorem mem_write_iff {db : Database} {now : Time} {monitor : MonitorState} {row : Node}
    (other : monitor.addressee ≠ some row.id) :
    row ∈ (monitor.write db now).nodes ↔ row ∈ db.nodes := by
  rw [write_nodes, List.mem_map]
  constructor
  · rintro ⟨node, found, rfl⟩
    rw [rowAfter_id] at other
    rw [(rowAfter_of_ne_addressee other db now).2]
    exact (List.mem_filter.mp found).1
  · intro known
    obtain ⟨kept, same⟩ := rowAfter_of_ne_addressee other db now
    exact ⟨row, List.mem_filter.mpr ⟨known, kept⟩, same⟩

end MonitorState

namespace StorageOp

@[simp]
theorem apply_nodes (db : Database) (now : Time) (op : StorageOp) :
    (op.apply db now).nodes = db.nodes := by
  cases op with
  | createFile generated file =>
      simp only [apply, Database.createFile]
      split <;> rfl
  | deleteFile fileId => rfl
  | createChunk chunk =>
      simp only [apply, Database.createChunk]
      split
      · rfl
      · split <;> rfl
  | addChunkLocation statements chunkId nodeId =>
      exact (db.addChunkLocation_extends statements chunkId nodeId).nodes_eq
  | removeChunkLocation chunkId nodeId => rfl
  | updateChunkVerification chunkId nodeId valid => rfl
  | createRepairJob job =>
      simp only [apply, Database.createRepairJob]
      split <;> rfl

end StorageOp

namespace Lifecycle

/-- What a step does to a row that it keeps. -/
def rowAfter (state : Lifecycle) (node : Node) : LifecycleStep → Node
  | .createNode id registration => (NodeOp.createNode id registration).rowAfter state.now node
  | .updateNodeHeartbeat nodeId => (NodeOp.updateNodeHeartbeat nodeId).rowAfter state.now node
  | .writeHeartbeat heartbeat =>
      if heartbeat ∈ state.heartbeats ∧ heartbeat.address.selects node then
        Database.heartbeatRow heartbeat.status state.now node
      else
        node
  | .monitor event =>
      if event.outcome.applied then state.monitor.rowAfter state.now node else node
  | .wait _ | .readHeartbeat _ | .startCycle | .storage _ => node

/-- A step keeps a row. -/
def keepsRow (state : Lifecycle) (node : Node) : LifecycleStep → Bool
  | .monitor event => !event.outcome.applied || state.monitor.keepsRow state.db node
  | _ => true

/-- The row that a step adds. -/
def newRows (state : Lifecycle) : LifecycleStep → List Node
  | .createNode id registration => (NodeOp.createNode id registration).newRows state.db state.now
  | _ => []

variable {config : FaultToleranceConfig} {state : Lifecycle}

/-- The clock does not run backwards. -/
theorem now_le_apply (step : LifecycleStep) : state.now ≤ (state.apply config step).now := by
  cases step with
  | wait elapsed => exact Nat.le_add_right _ _
  | readHeartbeat address | writeHeartbeat heartbeat =>
      rw [apply]
      split <;> exact Nat.le_refl _
  | _ => exact Nat.le_refl _

/-- The first statement of a heartbeat leaves clock and monitor alone. -/
theorem readHeartbeat_keeps (config : FaultToleranceConfig) (state : Lifecycle)
    (address : HeartbeatAddress) :
    (state.apply config (.readHeartbeat address)).now = state.now ∧
      (state.apply config (.readHeartbeat address)).monitor = state.monitor := by
  rw [apply]
  split <;> exact ⟨rfl, rfl⟩

/-- The second statement of a heartbeat leaves clock and monitor alone. -/
theorem writeHeartbeat_keeps (config : FaultToleranceConfig) (state : Lifecycle)
    (heartbeat : Heartbeat) :
    (state.apply config (.writeHeartbeat heartbeat)).now = state.now ∧
      (state.apply config (.writeHeartbeat heartbeat)).monitor = state.monitor := by
  rw [apply]
  split <;> exact ⟨rfl, rfl⟩

/-- The rows after a step. -/
theorem apply_nodes (unique : state.db.UniqueNodes) (step : LifecycleStep) :
    (state.apply config step).db.nodes =
      ((state.db.nodes.filter fun node => state.keepsRow node step).map fun node =>
        state.rowAfter node step) ++ state.newRows step := by
  cases step with
  | createNode id registration =>
      simp only [keepsRow, List.filter_true]
      exact NodeOp.apply_nodes unique state.now (.createNode id registration)
  | updateNodeHeartbeat nodeId =>
      simp only [keepsRow, List.filter_true]
      exact NodeOp.apply_nodes unique state.now (.updateNodeHeartbeat nodeId)
  | readHeartbeat address =>
      simp only [apply, keepsRow, rowAfter, newRows, List.filter_true, List.map_id_fun', id_eq,
        List.append_nil]
      split <;> rfl
  | writeHeartbeat heartbeat =>
      simp only [apply, keepsRow, rowAfter, newRows, List.filter_true, List.append_nil]
      split
      · rename_i pending
        simp [Database.updateNodes, pending]
      · rename_i missing
        simp [missing]
  | monitor event =>
      simp only [apply, MonitorState.step, keepsRow, rowAfter, newRows, List.append_nil]
      cases event.outcome.applied with
      | true => simpa using MonitorState.write_nodes state.db state.now state.monitor
      | false => simp
  | wait elapsed | startCycle | storage op => simp [apply, keepsRow, rowAfter, newRows]

/-- A row after a step is an old row after the step, or new. -/
theorem mem_apply_nodes (unique : state.db.UniqueNodes) {step : LifecycleStep} {row : Node} :
    row ∈ (state.apply config step).db.nodes ↔
      (∃ node ∈ state.db.nodes, state.keepsRow node step = true ∧
        state.rowAfter node step = row) ∨ row ∈ state.newRows step := by
  rw [apply_nodes unique, List.mem_append, List.mem_map]
  simp only [List.mem_filter, and_assoc]

theorem heartbeatRow_id (status : NodeStatus) (now : Time) (node : Node) :
    (Database.heartbeatRow status now node).id = node.id := by
  cases status <;> rfl

theorem heartbeatRow_peerId (status : NodeStatus) (now : Time) (node : Node) :
    (Database.heartbeatRow status now node).peerId = node.peerId := by
  cases status <;> rfl

@[simp]
theorem rowAfter_id (node : Node) (step : LifecycleStep) :
    (state.rowAfter node step).id = node.id := by
  cases step with
  | createNode id registration | updateNodeHeartbeat nodeId => exact NodeOp.rowAfter_id ..
  | writeHeartbeat heartbeat =>
      rw [rowAfter]
      split
      · exact heartbeatRow_id ..
      · rfl
  | monitor event =>
      rw [rowAfter]
      split
      · exact MonitorState.rowAfter_id ..
      · rfl
  | _ => rfl

@[simp]
theorem rowAfter_peerId (node : Node) (step : LifecycleStep) :
    (state.rowAfter node step).peerId = node.peerId := by
  cases step with
  | createNode id registration | updateNodeHeartbeat nodeId => exact NodeOp.rowAfter_peerId ..
  | writeHeartbeat heartbeat =>
      rw [rowAfter]
      split
      · exact heartbeatRow_peerId ..
      · rfl
  | monitor event =>
      rw [rowAfter]
      split
      · exact MonitorState.rowAfter_peerId ..
      · rfl
  | _ => rfl

/-- Rows that a step neither writes nor deletes stay as they are. -/
theorem mem_apply_iff_of_quiet (unique : state.db.UniqueNodes) {step : LifecycleStep}
    {concerns : Uuid → Prop}
    (quiet : ∀ node ∈ state.db.nodes, concerns node.id →
      state.keepsRow node step = true ∧ state.rowAfter node step = node)
    (fresh : ∀ row ∈ state.newRows step, ¬ concerns row.id) {row : Node}
    (concerned : concerns row.id) :
    row ∈ (state.apply config step).db.nodes ↔ row ∈ state.db.nodes := by
  rw [mem_apply_nodes unique]
  constructor
  · rintro (⟨node, known, -, rfl⟩ | added)
    · rw [rowAfter_id] at concerned
      rwa [(quiet node known concerned).2]
    · exact absurd concerned (fresh row added)
  · intro known
    exact .inl ⟨row, known, quiet row known concerned⟩

/-- A new row is a registration. -/
theorem newRows_eq_register {step : LifecycleStep} {row : Node} (added : row ∈ state.newRows step) :
    ∃ id registration, step = .createNode id registration ∧
      row ∈ (NodeOp.createNode id registration).newRows state.db state.now := by
  cases step with
  | createNode id registration => exact ⟨id, registration, rfl, added⟩
  | _ => cases added

/-- Steps keep the unique columns. -/
theorem uniqueNodes_apply (unique : state.db.UniqueNodes) (step : LifecycleStep) :
    (state.apply config step).db.UniqueNodes := by
  by_cases registers : ∃ id registration, step = .createNode id registration
  · obtain ⟨id, registration, rfl⟩ := registers
    exact NodeOp.uniqueNodes_apply unique state.now (.createNode id registration)
  · have none_added : state.newRows step = [] := by
      refine List.eq_nil_iff_forall_not_mem.mpr fun row added => registers ?_
      obtain ⟨id, registration, step_eq, -⟩ := newRows_eq_register added
      exact ⟨id, registration, step_eq⟩
    have nodes_eq : (state.apply config step).db.nodes = _ := apply_nodes unique step
    rw [none_added, List.append_nil] at nodes_eq
    refine { ids := ?_, peerIds := ?_ }
    · rw [nodes_eq, List.map_map]
      have ids_eq : (Node.id ∘ fun node => state.rowAfter node step) = Node.id :=
        funext fun node => rowAfter_id node step
      rw [ids_eq]
      exact unique.ids.sublist (List.filter_sublist.map _)
    · rw [nodes_eq, List.map_map]
      have peers_eq : (Node.peerId ∘ fun node => state.rowAfter node step) = Node.peerId :=
        funext fun node => rowAfter_peerId node step
      rw [peers_eq]
      exact unique.peerIds.sublist (List.filter_sublist.map _)

end Lifecycle

/-! ## Rows of a batch -/

/-- A batch of nodes, each of which has a row that is what the batch was selected for. -/
structure BatchOf (db : Database) (batch : List Uuid) (selects : Node → Bool) : Prop where
  nodup : batch.Nodup
  known : ∀ nodeId ∈ batch, ∃ node ∈ db.nodes, node.id = nodeId
  selected : ∀ node ∈ db.nodes, node.id ∈ batch → selects node = true

namespace BatchOf

variable {db reached : Database} {batch rest : List Uuid} {selects : Node → Bool}

theorem nil (db : Database) (selects : Node → Bool) : BatchOf db [] selects :=
  { nodup := List.nodup_nil
    known := fun _ member => absurd member List.not_mem_nil
    selected := fun _ _ member => absurd member List.not_mem_nil }

/-- The rows of a query are a batch. -/
theorem query (unique : db.UniqueNodes) (order : RowOrder Node) (selects : Node → Bool) :
    BatchOf db ((order.arrange (db.nodes.filter selects)).map Node.id) selects := by
  have perm := (order.arrange_perm (db.nodes.filter selects)).map Node.id
  refine { nodup := ?_, known := ?_, selected := ?_ }
  · exact perm.nodup_iff.mpr (unique.ids.sublist (List.filter_sublist.map _))
  · intro nodeId member
    obtain ⟨node, found, rfl⟩ := List.mem_map.mp (perm.subset member)
    exact ⟨node, (List.mem_filter.mp found).1, rfl⟩
  · intro node known member
    obtain ⟨found, found_mem, same⟩ := List.mem_map.mp (perm.subset member)
    obtain ⟨found_known, holds⟩ := List.mem_filter.mp found_mem
    rwa [← unique.eq_of_id found_known known same]

/-- What is left of a batch is one again if each of its rows comes from a row of the batch. -/
theorem move {wanted : Node → Bool} (part : BatchOf db batch selects)
    (sublist : rest.Sublist batch)
    (kept : ∀ node ∈ db.nodes, node.id ∈ rest → ∃ row ∈ reached.nodes, row.id = node.id)
    (rows : ∀ row ∈ reached.nodes, row.id ∈ rest → ∃ node ∈ db.nodes, node.id = row.id ∧
      (selects node = true → wanted row = true)) :
    BatchOf reached rest wanted := by
  refine { nodup := part.nodup.sublist sublist, known := ?_, selected := ?_ }
  · intro nodeId member
    obtain ⟨node, known, rfl⟩ := part.known nodeId (sublist.subset member)
    exact kept node known member
  · intro row reached_mem member
    obtain ⟨node, known, same, carries⟩ := rows row reached_mem member
    exact carries (part.selected node known (same ▸ sublist.subset member))

/-- What is left of a batch stays one while its rows stay as they are. -/
theorem transfer (part : BatchOf db batch selects) (sublist : rest.Sublist batch)
    (same : ∀ row : Node, row.id ∈ rest → (row ∈ reached.nodes ↔ row ∈ db.nodes)) :
    BatchOf reached rest selects :=
  part.move sublist (fun node known member => ⟨node, (same node member).mpr known, rfl⟩)
    fun row reached_mem member => ⟨row, (same row member).mp reached_mem, rfl, id⟩

theorem mono {weaker : Node → Bool} (part : BatchOf db batch selects)
    (weaken : ∀ node ∈ db.nodes, selects node = true → weaker node = true) :
    BatchOf db batch weaker :=
  { part with
    selected := fun node known member => weaken node known (part.selected node known member) }

end BatchOf

end CyxCloud.Gateway
