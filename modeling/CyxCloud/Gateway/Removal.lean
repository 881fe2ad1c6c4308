import CyxCloud.Gateway.Evacuation
import CyxCloud.Metadata.Ledger

/-!
# Removal of nodes

What a cycle of the node monitor leaves behind when the database answers every statement.  The
deletion of a node that a repair job refers to is refused, and the cycle only logs it; the jobs of
an evacuation refer to the very node that is to be removed.
-/

namespace CyxCloud.Gateway

open CyxCloud.Core hiding Chunk
open Library Metadata

/-! ## Answered statements -/

/-- The database answers every statement of a cycle. -/
structure CycleEnv.Answered (env : CycleEnv) : Prop where
  stale : env.stale.outcome = .done
  markOffline : ∀ nodeId, (env.markOffline nodeId).outcome = .done
  draining : env.draining.outcome = .done
  markDraining : ∀ nodeId, (env.markDraining nodeId).outcome = .done
  chunks : ∀ nodeId, env.chunks nodeId = .done
  targets : ∀ nodeId, env.targets nodeId = .done
  createJob : ∀ job, env.createJob job = .done
  removal : env.removal.outcome = .done
  deleteNode : ∀ nodeId, env.deleteNode nodeId = .done
  recovered : env.recovered.outcome = .done
  markOnline : ∀ nodeId, (env.markOnline nodeId).outcome = .done

/-- No node is offline or draining beyond the threshold. -/
def NoneOverdue (config : FaultToleranceConfig) (now : Time) (db : Database) : Prop :=
  ∀ node ∈ db.nodes, node.awaitsRemoval config.removeThreshold now = false

instance (config : FaultToleranceConfig) (now : Time) (db : Database) :
    Decidable (NoneOverdue config now db) :=
  inferInstanceAs (Decidable (∀ node ∈ db.nodes, _))

section Rows

variable (config : FaultToleranceConfig) (env : CycleEnv)

/-- Since when the node is out of service once the cycle has looked for stale nodes. -/
def offlineSince (node : Node) : Option Time :=
  if node.isStale config.offlineThreshold env.stale.now then
    node.firstOfflineAt.or (some (env.markOffline node.id).now)
  else
    node.firstOfflineAt

/-- The node is among those that the cycle drains. -/
def getsDrained (node : Node) : Bool :=
  (node.isStale config.offlineThreshold env.stale.now || node.status == .offline) &&
    (offlineSince config env node).any (olderThan config.drainThreshold env.draining.now)

/-- The node is among those that the cycle is to remove. -/
def getsOverdue (node : Node) : Bool :=
  (node.isStale config.offlineThreshold env.stale.now || node.status == .offline ||
      node.status == .draining) &&
    (offlineSince config env node).any (olderThan config.removeThreshold env.removal.now)

/-- Some other node is online and not stale. -/
def hasRefuge (db : Database) (nodeId : Uuid) : Bool :=
  db.nodes.any fun other => other.id != nodeId && other.status == .online &&
    !other.isStale config.offlineThreshold env.stale.now

/-- No node to remove is referred to by a repair job, nor has chunks to evacuate in the cycle. -/
def Removable (db : Database) : Prop :=
  ∀ node ∈ db.nodes, getsOverdue config env node = true →
    db.hasRepairJob node.id = false ∧
      (getsDrained config env node && DrainedLifecycle.holdsStored db node.id &&
        hasRefuge config env db node.id) = false

instance (db : Database) : Decidable (Removable config env db) :=
  inferInstanceAs (Decidable (∀ node ∈ db.nodes, _))

end Rows

/-! ## Running a cycle -/

section Running

variable {σ ι : Type*}

/-- A loop over programs that run to their end. -/
theorem each_run_eq {program : ι → Effect σ Unit} {change : ι → σ → σ}
    (runs : ∀ element state, program element state = (change element state, .ok ()))
    (elements : List ι) (state : σ) :
    Effect.each elements program state =
      (elements.foldl (fun state element => change element state) state, .ok ()) := by
  induction elements generalizing state with
  | nil => rfl
  | cons element rest induction =>
      rw [Effect.each, Effect.bind_run_ok (runs element state), induction]
      rfl

end Running

/-- The database after an accepted or refused statement. -/
def settle (run : Database → Except DbError (Database × Unit)) (db : Database) : Database :=
  match run db with
  | .ok (reached, ()) => reached
  | .error _ => db

theorem attempt_statement_done (run : Database → Except DbError (Database × Unit))
    (db : Database) :
    Effect.attempt (.statement .done run) db = (settle run db, .ok ()) := by
  unfold Effect.attempt Effect.statement settle
  cases run db with
  | ok result => rfl
  | error cause => rfl

theorem settle_insertJob (job : RepairJob) (db : Database) :
    settle (insertJob job) db = (db.createRepairJob job).1 := by
  unfold settle insertJob Database.createRepairJob
  cases (db.hasNode job.targetNodeId && job.sourceNodeId.all db.hasNode) <;> rfl

theorem settle_removeNode (nodeId : Uuid) (db : Database) :
    settle (removeNode nodeId) db = (db.deleteNode nodeId).1 := by
  unfold settle removeNode Database.deleteNode
  cases db.hasRepairJob nodeId <;> rfl

/-- The database after the jobs of an evacuation. -/
def jobsCreated (jobs : List RepairJob) (db : Database) : Database :=
  jobs.foldl (fun db job => (db.createRepairJob job).1) db

/-- The database after a node is drained. -/
def drained (env : CycleEnv) (nodeId : Uuid) (db : Database) : Database :=
  let marked := db.markNodeDraining nodeId (env.markDraining nodeId).now
  jobsCreated
    (evacuationJobs nodeId (marked.getChunksOnNode (env.chunkOrder nodeId) nodeId)
      (evacuationTargets marked (env.targetOrder nodeId) nodeId)) marked

section Answered

variable {env : CycleEnv} (answered : env.Answered)
include answered

theorem createJobs_run (jobs : List RepairJob) (db : Database) :
    createJobs env jobs db = (jobsCreated jobs db, .ok ()) := by
  refine each_run_eq (fun job db => ?_) jobs db
  rw [answered.createJob, attempt_statement_done, settle_insertJob]

theorem evacuateChunks_run (nodeId : Uuid) (chunks : List ChunkLocation) (db : Database) :
    evacuateChunks env nodeId chunks db =
      (jobsCreated (evacuationJobs nodeId chunks
        (evacuationTargets db (env.targetOrder nodeId) nodeId)) db, .ok ()) := by
  cases chunks with
  | nil => rfl
  | cons location locations =>
      rw [evacuateChunks, if_neg (by simp), answered.targets]
      rw [Effect.bind_run_ok (Effect.query_done _ db)]
      exact createJobs_run answered _ db

theorem drainNode_run (nodeId : Uuid) (db : Database) :
    Effect.attempt (drainNode env nodeId) db = (drained env nodeId db, .ok ()) := by
  have ran : drainNode env nodeId db = (drained env nodeId db, .ok ()) := by
    rw [drainNode, answered.markDraining, Effect.bind_run_ok (Effect.update_done _ db),
      triggerChunkEvacuation, answered.chunks, Effect.bind_run_ok (Effect.query_done _ _)]
    exact evacuateChunks_run answered nodeId _ _
  exact Effect.attempt_ok ran

end Answered

section Phases

variable (env : CycleEnv) (config : FaultToleranceConfig)

/-- The database after the first step. -/
def staleMarked (db : Database) : Database :=
  (db.getStaleOnlineNodes env.staleOrder config.offlineThreshold env.stale.now).foldl
    (fun db node => db.markNodeOffline node.id (env.markOffline node.id).now) db

/-- The database after the second step. -/
def allDrained (db : Database) : Database :=
  (db.getNodesForDraining env.drainingOrder config.drainThreshold env.draining.now).foldl
    (fun db node => drained env node.id db) db

/-- The database after the third step. -/
def allRemoved (db : Database) : Database :=
  (db.getNodesForRemoval env.removalOrder config.removeThreshold env.removal.now).foldl
    (fun db node => (db.deleteNode node.id).1) db

/-- The database after the fourth step. -/
def allPromoted (db : Database) : Database :=
  (db.getRecoveredNodes env.recoveredOrder config.recoveryQuarantine env.recovered.now).foldl
    (fun db node => db.markNodeOnline node.id (env.markOnline node.id).now) db

variable {env} {config}

/-- A cycle whose statements are answered runs through its four steps. -/
theorem runCheckCycle_run (answered : env.Answered) (db : Database) :
    runCheckCycle env config db =
      (allPromoted env config (allRemoved env config (allDrained env config
        (staleMarked env config db))), .ok ()) := by
  have marks : ∀ db, markStaleNodes env config db = (staleMarked env config db, .ok ()) := by
    intro db
    rw [markStaleNodes, answered.stale, Effect.bind_run_ok (Effect.query_done _ db)]
    refine each_run_eq (fun node db => ?_) _ db
    rw [answered.markOffline]
    rfl
  have drains : ∀ db, drainNodes env config db = (allDrained env config db, .ok ()) := by
    intro db
    rw [drainNodes, answered.draining, Effect.bind_run_ok (Effect.query_done _ db)]
    exact each_run_eq (fun (node : Node) db => drainNode_run answered node.id db) _ db
  have removes : ∀ db, removeNodes env config db = (allRemoved env config db, .ok ()) := by
    intro db
    rw [removeNodes, answered.removal, Effect.bind_run_ok (Effect.query_done _ db)]
    refine each_run_eq (fun node db => ?_) _ db
    rw [answered.deleteNode, attempt_statement_done, settle_removeNode]
  have promotes : ∀ db, promoteNodes env config db = (allPromoted env config db, .ok ()) := by
    intro db
    rw [promoteNodes, answered.recovered, Effect.bind_run_ok (Effect.query_done _ db)]
    refine each_run_eq (fun node db => ?_) _ db
    rw [answered.markOnline]
    rfl
  rw [runCheckCycle, Effect.bind_run_ok (marks db), Effect.bind_run_ok (drains _),
    Effect.bind_run_ok (removes _), promotes]

end Phases

/-! ## Rows after a batch of statements -/

section Batches

variable {db : Database} {step : Database → Node → Database} {batch : List Node}

/-- A batch of statements, each on the row of its node, writes to the rows of the batch. -/
theorem foldl_nodes {write : Node → Node} (keeps : ∀ row, (write row).id = row.id)
    (writes : ∀ db node, (step db node).nodes =
      db.nodes.map fun row => if row.id = node.id then write row else row)
    (distinct : (batch.map Node.id).Nodup) :
    (batch.foldl step db).nodes =
      db.nodes.map fun row => if row.id ∈ batch.map Node.id then write row else row := by
  induction batch generalizing db with
  | nil => simp
  | cons node rest induction =>
      obtain ⟨fresh, distinct_rest⟩ := List.nodup_cons.mp distinct
      rw [List.foldl_cons, induction distinct_rest, writes, List.map_map]
      refine List.map_congr_left fun row _ => ?_
      by_cases same : row.id = node.id
      · have later : (write row).id ∉ rest.map Node.id := by rwa [keeps, same]
        simp only [Function.comp_apply, same, if_true, if_neg later, List.map_cons,
          List.mem_cons_self]
      · simp only [Function.comp_apply, same, if_false, List.map_cons, List.mem_cons, false_or]

/-- What each statement of a batch leaves alone, the batch leaves alone. -/
theorem foldl_view {β : Type*} {view : Database → β}
    (keeps : ∀ db node, view (step db node) = view db) : view (batch.foldl step db) = view db := by
  induction batch generalizing db with
  | nil => rfl
  | cons node rest induction => rw [List.foldl_cons, induction, keeps]

end Batches

/-- A query delivers a row exactly when it selects it. -/
theorem mem_query_iff {db : Database} (unique : db.UniqueNodes) (order : RowOrder Node)
    (selects : Node → Bool) {node : Node} (known : node ∈ db.nodes) :
    node.id ∈ (order.arrange (db.nodes.filter selects)).map Node.id ↔ selects node = true := by
  constructor
  · exact (BatchOf.query unique order selects).selected node known
  · intro selected
    exact List.mem_map_of_mem (order.mem_arrange.mpr (List.mem_filter.mpr ⟨known, selected⟩))

/-- An update of the row of a node, as a function of the row alone. -/
theorem updateNodes_nodes (db : Database) (nodeId : Uuid) (write : Uuid → Node → Node) :
    (db.updateNodes (fun row => row.id == nodeId) (write nodeId)).nodes =
      db.nodes.map fun row => if row.id = nodeId then write row.id row else row := by
  refine List.map_congr_left fun row _ => ?_
  by_cases same : row.id = nodeId
  · rw [if_pos (beq_iff_eq.mpr same), if_pos same, same]
  · rw [if_neg (fun equal => same (beq_iff_eq.mp equal)), if_neg same]

/-- A batch of statements on the rows of a query writes to the rows that the query selects. -/
theorem foldl_query_nodes {db : Database} (unique : db.UniqueNodes) (order : RowOrder Node)
    (selects : Node → Bool) {step : Database → Node → Database} (write : Uuid → Node → Node)
    (keeps : ∀ nodeId row, (write nodeId row).id = row.id)
    (writes : ∀ db node, (step db node).nodes =
      (db.updateNodes (fun row => row.id == node.id) (write node.id)).nodes) :
    ((order.arrange (db.nodes.filter selects)).foldl step db).nodes =
      db.nodes.map fun row => if selects row = true then write row.id row else row := by
  have writes_row : ∀ db (node : Node), (step db node).nodes =
      db.nodes.map fun row => if row.id = node.id then write row.id row else row :=
    fun db node => (writes db node).trans (updateNodes_nodes db node.id write)
  rw [foldl_nodes (fun row => keeps row.id row) writes_row (BatchOf.query unique order selects).nodup]
  refine List.map_congr_left fun row known => ?_
  simp only [mem_query_iff unique order selects known]

/-- Rows that keep their unique columns, some of them deleted, are unique. -/
theorem uniqueNodes_of_sublist {db reached : Database} (unique : db.UniqueNodes)
    {change : Node → Node} (rows : reached.nodes.Sublist (db.nodes.map change))
    (ids : ∀ row, (change row).id = row.id) (peerIds : ∀ row, (change row).peerId = row.peerId) :
    reached.UniqueNodes := by
  have ids_eq : (db.nodes.map change).map Node.id = db.nodes.map Node.id := by
    rw [List.map_map]
    exact List.map_congr_left fun row _ => ids row
  have peers_eq : (db.nodes.map change).map Node.peerId = db.nodes.map Node.peerId := by
    rw [List.map_map]
    exact List.map_congr_left fun row _ => peerIds row
  exact
    { ids := (ids_eq ▸ unique.ids).sublist (rows.map Node.id)
      peerIds := (peers_eq ▸ unique.peerIds).sublist (rows.map Node.peerId) }

/-! ## Step 1 -/

section Steps

variable {env : CycleEnv} {config : FaultToleranceConfig} {db : Database}

/-- A row after the first step of the cycle. -/
def rowMarked (env : CycleEnv) (config : FaultToleranceConfig) (node : Node) : Node :=
  if node.isStale config.offlineThreshold env.stale.now = true then
    (NodeOp.markNodeOffline node.id).write (env.markOffline node.id).now node
  else
    node

@[simp]
theorem rowMarked_id (node : Node) : (rowMarked env config node).id = node.id := by
  rw [rowMarked]
  split <;> rfl

@[simp]
theorem rowMarked_peerId (node : Node) : (rowMarked env config node).peerId = node.peerId := by
  rw [rowMarked]
  split <;> rfl

theorem staleMarked_nodes (unique : db.UniqueNodes) :
    (staleMarked env config db).nodes = db.nodes.map (rowMarked env config) :=
  foldl_query_nodes unique env.staleOrder _
    (fun nodeId row => (NodeOp.markNodeOffline nodeId).write (env.markOffline nodeId).now row)
    (fun _ _ => rfl) fun _ _ => rfl

theorem rowMarked_awaitsDraining (node : Node) :
    (rowMarked env config node).awaitsDraining config.drainThreshold env.draining.now =
      getsDrained config env node := by
  rw [rowMarked, getsDrained, offlineSince, Node.awaitsDraining]
  split
  · rename_i stale
    rw [stale]
    rfl
  · rename_i fresh
    rw [Bool.eq_false_iff.mpr fresh, Bool.false_or]

theorem rowMarked_awaitsRemoval (node : Node) :
    (rowMarked env config node).awaitsRemoval config.removeThreshold env.removal.now =
      getsOverdue config env node := by
  rw [rowMarked, getsOverdue, offlineSince, Node.awaitsRemoval]
  split
  · rename_i stale
    rw [stale]
    rfl
  · rename_i fresh
    rw [Bool.eq_false_iff.mpr fresh, Bool.false_or]

/-- The nodes that are online after the first step. -/
theorem rowMarked_online_iff (node : Node) :
    (rowMarked env config node).status = .online ↔
      node.status = .online ∧ node.isStale config.offlineThreshold env.stale.now = false := by
  rw [rowMarked]
  split
  · rename_i stale
    simp [stale, NodeOp.write]
  · rename_i fresh
    simp [fresh]

theorem staleMarked_tables :
    (staleMarked env config db).chunkLocations = db.chunkLocations ∧
      (staleMarked env config db).repairJobs = db.repairJobs :=
  ⟨foldl_view fun _ _ => rfl, foldl_view fun _ _ => rfl⟩

/-! ## Step 2 -/

/-- Jobs whose nodes are all known are all created. -/
theorem jobsCreated_eq {jobs : List RepairJob}
    (known : ∀ job ∈ jobs, (db.hasNode job.targetNodeId && job.sourceNodeId.all db.hasNode) = true) :
    jobsCreated jobs db = { db with repairJobs := db.repairJobs ++ jobs } := by
  induction jobs generalizing db with
  | nil => simp [jobsCreated]
  | cons job rest induction =>
      have created : (db.createRepairJob job).1 =
          { db with repairJobs := db.repairJobs ++ [job] } := by
        rw [Database.createRepairJob, if_pos (known job List.mem_cons_self)]
      change jobsCreated rest (db.createRepairJob job).1 = _
      have known_rest : ∀ later ∈ rest,
          (db.hasNode later.targetNodeId && later.sourceNodeId.all db.hasNode) = true :=
        fun later member => known later (List.mem_cons_of_mem job member)
      have created_rest := @induction { db with repairJobs := db.repairJobs ++ [job] } known_rest
      rw [created, created_rest]
      simp

theorem hasStatus_iff {nodeId : Uuid} {status : NodeStatus} :
    hasStatus db nodeId status = true ↔
      ∃ node ∈ db.nodes, node.id = nodeId ∧ node.status = status := by
  simp [hasStatus]

theorem hasNode_markNodeDraining (nodeId : Uuid) (now : Time) (other : Uuid) :
    (db.markNodeDraining nodeId now).hasNode other = db.hasNode other := by
  rw [Database.hasNode, Database.hasNode]
  change (db.nodes.map _).any _ = _
  rw [List.any_map]
  congr 1
  funext node
  rw [Function.comp_apply]
  split <;> rfl

/-- The jobs of the evacuation of a known node are all created. -/
theorem drained_eq {nodeId : Uuid} (known : db.hasNode nodeId = true) :
    let marked := db.markNodeDraining nodeId (env.markDraining nodeId).now
    drained env nodeId db =
      { marked with
        repairJobs := db.repairJobs ++
          evacuationJobs nodeId (marked.getChunksOnNode (env.chunkOrder nodeId) nodeId)
            (evacuationTargets marked (env.targetOrder nodeId) nodeId) } := by
  intro marked
  refine jobsCreated_eq fun job listed => ?_
  obtain ⟨source_eq, target, target_mem, target_eq⟩ := mem_evacuationJobs listed
  have target_known : marked.hasNode job.targetNodeId = true :=
    List.any_eq_true.mpr ⟨target, (mem_evacuationTargets.mp target_mem).1, by simp [target_eq]⟩
  have source_known : marked.hasNode nodeId = true :=
    (hasNode_markNodeDraining nodeId _ nodeId).trans known
  rw [target_known, source_eq]
  exact source_known

/-- A row that is online once a node is marked as draining is one of another node. -/
theorem mem_markNodeDraining_online_iff {nodeId : Uuid} {now : Time} {row : Node}
    (online : row.status = .online) :
    row ∈ (db.markNodeDraining nodeId now).nodes ↔ row ∈ db.nodes ∧ row.id ≠ nodeId := by
  constructor
  · intro member
    obtain ⟨node, node_mem, rfl⟩ := List.mem_map.mp member
    by_cases same : (node.id == nodeId) = true
    · rw [if_pos same] at online
      cases online
    · rw [if_neg same]
      exact ⟨node_mem, fun equal => same (beq_iff_eq.mpr equal)⟩
  · rintro ⟨member, apart⟩
    refine List.mem_map.mpr ⟨row, member, if_neg ?_⟩
    exact fun same => apart (beq_iff_eq.mp same)

/-- Draining a node that is not online changes nothing about who is. -/
theorem hasStatus_online_drained {nodeId : Uuid} (known : db.hasNode nodeId = true)
    (out : hasStatus db nodeId .online = false) (other : Uuid) :
    hasStatus (drained env nodeId db) other .online = hasStatus db other .online := by
  rw [drained_eq known]
  refine Bool.eq_iff_iff.mpr ?_
  rw [hasStatus_iff, hasStatus_iff]
  constructor
  · rintro ⟨row, member, same, online⟩
    exact ⟨row, ((mem_markNodeDraining_online_iff online).mp member).1, same, online⟩
  · rintro ⟨row, member, same, online⟩
    refine ⟨row, (mem_markNodeDraining_online_iff online).mpr ⟨member, ?_⟩, same, online⟩
    intro equal
    refine Bool.false_ne_true (out.symm.trans ?_)
    exact hasStatus_iff.mpr ⟨row, member, equal, online⟩

/-- Some other node is online. -/
def OnlineBeside (db : Database) (nodeId : Uuid) : Prop :=
  ∃ other, other ≠ nodeId ∧ hasStatus db other .online = true

theorem evacuationTargets_ne_nil_iff (order : RowOrder Node) (nodeId : Uuid) (now : Time) :
    evacuationTargets (db.markNodeDraining nodeId now) order nodeId ≠ [] ↔
      OnlineBeside db nodeId := by
  constructor
  · intro targets
    obtain ⟨target, target_mem⟩ := List.exists_mem_of_ne_nil _ targets
    obtain ⟨member, online, apart⟩ := mem_evacuationTargets.mp target_mem
    have node_mem := ((mem_markNodeDraining_online_iff online).mp member).1
    exact ⟨target.id, apart, hasStatus_iff.mpr ⟨target, node_mem, rfl, online⟩⟩
  · rintro ⟨other, apart, other_online⟩
    obtain ⟨node, node_mem, rfl, online⟩ := hasStatus_iff.mp other_online
    refine List.ne_nil_of_mem (mem_evacuationTargets.mpr ⟨?_, online, apart⟩)
    exact (mem_markNodeDraining_online_iff online).mpr ⟨node_mem, apart⟩

theorem getChunksOnNode_ne_nil_iff (order : RowOrder ChunkLocation) {nodeId : Uuid} :
    db.getChunksOnNode order nodeId ≠ [] ↔ DrainedLifecycle.holdsStored db nodeId = true := by
  rw [Database.getChunksOnNode, Ne, order.arrange_eq_nil_iff, DrainedLifecycle.holdsStored,
    List.any_eq_true, List.filter_eq_nil_iff]
  simp

/-- Draining a node adds repair jobs of that node only, and some exactly if it has a chunk and
another node is online. -/
theorem hasRepairJob_drained {nodeId other : Uuid} (known : db.hasNode nodeId = true)
    (out : hasStatus db other .online = false) :
    (drained env nodeId db).hasRepairJob other = true ↔
      db.hasRepairJob other = true ∨
        other = nodeId ∧ DrainedLifecycle.holdsStored db nodeId = true ∧
          OnlineBeside db nodeId := by
  rw [drained_eq known, Database.hasRepairJob, Database.hasRepairJob, List.any_append,
    Bool.or_eq_true]
  refine or_congr_right ?_
  rw [← evacuationTargets_ne_nil_iff (env.targetOrder nodeId) nodeId (env.markDraining nodeId).now,
    ← getChunksOnNode_ne_nil_iff (env.chunkOrder nodeId)]
  constructor
  · intro referred
    obtain ⟨job, listed, refers⟩ := List.any_eq_true.mp referred
    obtain ⟨source_eq, target, target_mem, target_eq⟩ := mem_evacuationJobs listed
    refine ⟨?_, ?_, List.ne_nil_of_mem target_mem⟩
    · rcases Bool.or_eq_true_iff.mp refers with source | is_target
      · rw [source_eq] at source
        exact (Option.some.inj (beq_iff_eq.mp source)).symm
      · -- A target is online, so it is not the other node.
        exfalso
        obtain ⟨member, online, -⟩ := mem_evacuationTargets.mp target_mem
        have target_known := ((mem_markNodeDraining_online_iff online).mp member).1
        refine Bool.false_ne_true (out.symm.trans (hasStatus_iff.mpr ⟨target, target_known, ?_⟩))
        exact ⟨target_eq.symm.trans (beq_iff_eq.mp is_target), online⟩
    · rintro no_chunk
      change job ∈ evacuationJobs nodeId (db.getChunksOnNode (env.chunkOrder nodeId) nodeId) _
        at listed
      rw [no_chunk] at listed
      exact absurd listed List.not_mem_nil
  · rintro ⟨rfl, chunks, targets⟩
    obtain ⟨job, listed⟩ :=
      List.exists_mem_of_ne_nil _ (evacuationJobs_ne_nil other chunks targets)
    refine List.any_eq_true.mpr ⟨job, listed, ?_⟩
    rw [(mem_evacuationJobs listed).1, BEq.rfl, Bool.true_or]

/-- The repair jobs of a node after a batch of nodes has been drained. -/
theorem hasRepairJob_foldl_drained {batch : List Node}
    (known : ∀ node ∈ batch, db.hasNode node.id = true)
    (out : ∀ node ∈ batch, hasStatus db node.id .online = false) {nodeId : Uuid}
    (not_online : hasStatus db nodeId .online = false) :
    (batch.foldl (fun db node => drained env node.id db) db).hasRepairJob nodeId = true ↔
      db.hasRepairJob nodeId = true ∨
        nodeId ∈ batch.map Node.id ∧ DrainedLifecycle.holdsStored db nodeId = true ∧
          OnlineBeside db nodeId := by
  induction batch generalizing db with
  | nil => simp
  | cons node rest induction =>
      have node_known := known node List.mem_cons_self
      have node_out := out node List.mem_cons_self
      have online_eq : ∀ other,
          hasStatus (drained env node.id db) other .online = hasStatus db other .online :=
        hasStatus_online_drained node_known node_out
      have known_eq : ∀ other, (drained env node.id db).hasNode other = db.hasNode other := by
        intro other
        rw [drained_eq node_known]
        exact hasNode_markNodeDraining node.id _ other
      have holds_eq : DrainedLifecycle.holdsStored (drained env node.id db) nodeId =
          DrainedLifecycle.holdsStored db nodeId := by
        rw [drained_eq node_known]
        rfl
      have beside_iff : OnlineBeside (drained env node.id db) nodeId ↔ OnlineBeside db nodeId := by
        simp only [OnlineBeside, online_eq]
      have later := @induction (drained env node.id db)
        (fun row member => (known_eq row.id).trans (known row (List.mem_cons_of_mem node member)))
        (fun row member => (online_eq row.id).trans (out row (List.mem_cons_of_mem node member)))
        ((online_eq nodeId).trans not_online)
      rw [List.foldl_cons, later, hasRepairJob_drained node_known not_online, holds_eq, beside_iff,
        List.map_cons, List.mem_cons, or_assoc, or_and_right]
      refine or_congr_right (or_congr_left ?_)
      refine and_congr_right fun is_node => ?_
      rw [is_node]

theorem drained_nodes (nodeId : Uuid) (db : Database) :
    (drained env nodeId db).nodes =
      (db.markNodeDraining nodeId (env.markDraining nodeId).now).nodes := by
  have keeps : ∀ (jobs : List RepairJob) (db : Database), (jobsCreated jobs db).nodes = db.nodes := by
    intro jobs db
    induction jobs generalizing db with
    | nil => rfl
    | cons job rest induction =>
        refine (induction (db.createRepairJob job).1).trans ?_
        rw [Database.createRepairJob]
        split <;> rfl
  exact keeps _ _

/-- A row after the second step of the cycle. -/
def rowDrained (env : CycleEnv) (config : FaultToleranceConfig) (node : Node) : Node :=
  if node.awaitsDraining config.drainThreshold env.draining.now = true then
    (NodeOp.markNodeDraining node.id).write (env.markDraining node.id).now node
  else
    node

theorem allDrained_nodes (unique : db.UniqueNodes) :
    (allDrained env config db).nodes = db.nodes.map (rowDrained env config) :=
  foldl_query_nodes unique env.drainingOrder _
    (fun nodeId row => (NodeOp.markNodeDraining nodeId).write (env.markDraining nodeId).now row)
    (fun _ _ => rfl) fun db node => drained_nodes node.id db

@[simp]
theorem rowDrained_id (node : Node) : (rowDrained env config node).id = node.id := by
  rw [rowDrained]
  split <;> rfl

@[simp]
theorem rowDrained_peerId (node : Node) : (rowDrained env config node).peerId = node.peerId := by
  rw [rowDrained]
  split <;> rfl

/-- A node that is drained stays out of service. -/
theorem rowDrained_awaitsRemoval (threshold : Nat) (now : Time) (node : Node) :
    (rowDrained env config node).awaitsRemoval threshold now =
      node.awaitsRemoval threshold now := by
  rw [rowDrained]
  split
  · rename_i awaits
    rw [Node.awaitsDraining, Bool.and_eq_true, beq_iff_eq] at awaits
    rw [Node.awaitsRemoval, Node.awaitsRemoval, awaits.1]
    rfl
  · rfl

theorem not_online_of_out {node : Node} (unique : db.UniqueNodes) (known : node ∈ db.nodes)
    (out : node.status ≠ .online) : hasStatus db node.id .online = false := by
  refine Bool.eq_false_iff.mpr fun online => ?_
  obtain ⟨row, row_mem, same, row_online⟩ := hasStatus_iff.mp online
  rw [unique.eq_of_id row_mem known same] at row_online
  exact out row_online

/-- The repair jobs of a node that is out of service, after the second step. -/
theorem hasRepairJob_allDrained (unique : db.UniqueNodes) {node : Node} (known : node ∈ db.nodes)
    (out : node.status ≠ .online) :
    (allDrained env config db).hasRepairJob node.id = true ↔
      db.hasRepairJob node.id = true ∨
        node.awaitsDraining config.drainThreshold env.draining.now = true ∧
          DrainedLifecycle.holdsStored db node.id = true ∧ OnlineBeside db node.id := by
  have batch_of : ∀ row ∈ db.getNodesForDraining env.drainingOrder config.drainThreshold
      env.draining.now, row ∈ db.nodes ∧ row.status = .offline := by
    intro row member
    obtain ⟨row_mem, awaits⟩ := List.mem_filter.mp (env.drainingOrder.mem_arrange.mp member)
    rw [Node.awaitsDraining, Bool.and_eq_true, beq_iff_eq] at awaits
    exact ⟨row_mem, awaits.1⟩
  rw [allDrained, hasRepairJob_foldl_drained]
  · rw [Database.getNodesForDraining, mem_query_iff unique _ _ known]
  · exact fun row member =>
      List.any_eq_true.mpr ⟨row, (batch_of row member).1, beq_self_eq_true row.id⟩
  · intro row member
    obtain ⟨row_mem, offline⟩ := batch_of row member
    exact not_online_of_out unique row_mem (by rw [offline]; decide)
  · exact not_online_of_out unique known out

/-! ## Steps 3 and 4 -/

/-- The deletions take the rows without a repair job. -/
theorem foldl_deleteNode_nodes (batch : List Node) (db : Database) :
    (batch.foldl (fun db node => (db.deleteNode node.id).1) db).nodes =
      db.nodes.filter fun row =>
        !(decide (row.id ∈ batch.map Node.id) && !db.hasRepairJob row.id) := by
  induction batch generalizing db with
  | nil => simp
  | cons node rest induction =>
      rw [List.foldl_cons, induction, Database.deleteNode]
      cases blocked : db.hasRepairJob node.id with
      | true =>
          simp only [if_true]
          refine List.filter_congr fun row _ => ?_
          by_cases same : row.id = node.id
          · simp [same, blocked]
          · simp [same]
      | false =>
          simp only [Bool.false_eq_true, if_false, List.filter_filter]
          refine List.filter_congr fun row _ => ?_
          by_cases same : row.id = node.id
          · simp [same, blocked]
          · simp only [List.map_cons, List.mem_cons, same, false_or, bne_iff_ne.mpr same,
              Bool.and_true]
            rfl

/-- The third step leaves an overdue node exactly if a repair job refers to it. -/
theorem noneOverdue_allRemoved_iff :
    NoneOverdue config env.removal.now (allRemoved env config db) ↔
      ∀ node ∈ db.nodes, node.awaitsRemoval config.removeThreshold env.removal.now = true →
        db.hasRepairJob node.id = false := by
  rw [NoneOverdue, allRemoved, foldl_deleteNode_nodes]
  constructor
  · intro none_left node known overdue
    have selected : node.id ∈ (db.getNodesForRemoval env.removalOrder config.removeThreshold
        env.removal.now).map Node.id :=
      List.mem_map_of_mem (env.removalOrder.mem_arrange.mpr (List.mem_filter.mpr ⟨known, overdue⟩))
    refine Bool.eq_false_iff.mpr fun blocked => ?_
    have kept := none_left node (List.mem_filter.mpr ⟨known, by simp [blocked]⟩)
    exact Bool.false_ne_true (kept.symm.trans overdue)
  · intro free node left
    obtain ⟨known, kept⟩ := List.mem_filter.mp left
    refine Bool.eq_false_iff.mpr fun overdue => ?_
    have selected : node.id ∈ (db.getNodesForRemoval env.removalOrder config.removeThreshold
        env.removal.now).map Node.id :=
      List.mem_map_of_mem (env.removalOrder.mem_arrange.mpr (List.mem_filter.mpr ⟨known, overdue⟩))
    simp [selected, free node known overdue] at kept

/-- The fourth step makes no node overdue, and none that was overdue ceases to be. -/
theorem noneOverdue_allPromoted_iff (unique : db.UniqueNodes) (now : Time) :
    NoneOverdue config now (allPromoted env config db) ↔ NoneOverdue config now db := by
  have nodes_eq : (allPromoted env config db).nodes = db.nodes.map fun row =>
      if row.isRecovered config.recoveryQuarantine env.recovered.now = true then
        (NodeOp.markNodeOnline row.id).write (env.markOnline row.id).now row
      else row :=
    foldl_query_nodes unique env.recoveredOrder _
      (fun nodeId row => (NodeOp.markNodeOnline nodeId).write (env.markOnline nodeId).now row)
      (fun _ _ => rfl) fun _ _ => rfl
  rw [NoneOverdue, NoneOverdue, nodes_eq, List.forall_mem_map]
  refine forall₂_congr fun row _ => ?_
  split
  · rename_i recovered
    rw [Node.isRecovered, Bool.and_eq_true, beq_iff_eq] at recovered
    rw [Node.awaitsRemoval, Node.awaitsRemoval, recovered.1]
    exact iff_of_true rfl rfl
  · exact Iff.rfl

/-! ## The cycle -/

theorem uniqueNodes_staleMarked (unique : db.UniqueNodes) :
    (staleMarked env config db).UniqueNodes := by
  have rows := List.Sublist.refl (staleMarked env config db).nodes
  nth_rewrite 2 [staleMarked_nodes unique] at rows
  exact uniqueNodes_of_sublist unique rows rowMarked_id rowMarked_peerId

theorem uniqueNodes_allDrained (unique : db.UniqueNodes) :
    (allDrained env config db).UniqueNodes := by
  have rows := List.Sublist.refl (allDrained env config db).nodes
  nth_rewrite 2 [allDrained_nodes unique] at rows
  exact uniqueNodes_of_sublist unique rows rowDrained_id rowDrained_peerId

theorem uniqueNodes_allRemoved (unique : db.UniqueNodes) :
    (allRemoved env config db).UniqueNodes := by
  have rows : (allRemoved env config db).nodes.Sublist (db.nodes.map id) := by
    rw [List.map_id, allRemoved, foldl_deleteNode_nodes]
    exact List.filter_sublist
  exact uniqueNodes_of_sublist unique rows (fun _ => rfl) (fun _ => rfl)

theorem onlineBeside_staleMarked_iff (unique : db.UniqueNodes) (nodeId : Uuid) :
    OnlineBeside (staleMarked env config db) nodeId ↔ hasRefuge config env db nodeId = true := by
  rw [hasRefuge, List.any_eq_true]
  constructor
  · rintro ⟨other, apart, online⟩
    obtain ⟨row, row_mem, rfl, row_online⟩ := hasStatus_iff.mp online
    rw [staleMarked_nodes unique] at row_mem
    obtain ⟨node, known, rfl⟩ := List.mem_map.mp row_mem
    obtain ⟨node_online, fresh⟩ := (rowMarked_online_iff node).mp row_online
    rw [rowMarked_id] at apart
    exact ⟨node, known, by simp [apart, node_online, fresh]⟩
  · rintro ⟨node, known, refuge⟩
    simp only [Bool.and_eq_true, bne_iff_ne, beq_iff_eq, Bool.not_eq_true'] at refuge
    obtain ⟨⟨apart, node_online⟩, fresh⟩ := refuge
    refine ⟨node.id, apart, hasStatus_iff.mpr ⟨rowMarked env config node, ?_, ?_⟩⟩
    · rw [staleMarked_nodes unique]
      exact List.mem_map_of_mem known
    · exact ⟨rowMarked_id node, (rowMarked_online_iff node).mpr ⟨node_online, fresh⟩⟩

/-- The repair jobs of a node that is out of service once stale nodes are marked, after the second
step. -/
theorem hasRepairJob_before_removal (unique : db.UniqueNodes) {node : Node}
    (known : node ∈ db.nodes) (overdue : getsOverdue config env node = true) :
    (allDrained env config (staleMarked env config db)).hasRepairJob node.id = true ↔
      db.hasRepairJob node.id = true ∨
        (getsDrained config env node && DrainedLifecycle.holdsStored db node.id &&
          hasRefuge config env db node.id) = true := by
  have row_mem : rowMarked env config node ∈ (staleMarked env config db).nodes := by
    rw [staleMarked_nodes unique]
    exact List.mem_map_of_mem known
  have out : (rowMarked env config node).status ≠ .online := by
    intro online
    rw [← rowMarked_awaitsRemoval, Node.awaitsRemoval, online] at overdue
    exact Bool.false_ne_true overdue
  have jobs := @hasRepairJob_allDrained env config _ (uniqueNodes_staleMarked unique) _ row_mem out
  have holds_eq : DrainedLifecycle.holdsStored (staleMarked env config db) node.id =
      DrainedLifecycle.holdsStored db node.id := by
    rw [DrainedLifecycle.holdsStored, staleMarked_tables.1]
    rfl
  have blocked_eq : (staleMarked env config db).hasRepairJob node.id =
      db.hasRepairJob node.id := by
    rw [Database.hasRepairJob, staleMarked_tables.2]
    rfl
  rw [rowMarked_id, rowMarked_awaitsDraining, onlineBeside_staleMarked_iff unique, holds_eq,
    blocked_eq] at jobs
  rw [jobs, Bool.and_eq_true, Bool.and_eq_true, and_assoc]

/-- A cycle that the database answers leaves no overdue node exactly if no node to remove is
referred to by a repair job, nor has chunks to evacuate in that cycle. -/
theorem removal_takes_effect_iff (config : FaultToleranceConfig) (env : CycleEnv)
    (answered : env.Answered) (ledger : Ledger) (unique : ledger.toDatabase.UniqueNodes) :
    NoneOverdue config env.removal.now
        (ledger.withDatabase (runCheckCycle env config ledger.toDatabase).1).toDatabase ↔
      Removable config env ledger.toDatabase := by
  rw [runCheckCycle_run answered]
  have marked_unique := @uniqueNodes_staleMarked env config _ unique
  have drained_unique := @uniqueNodes_allDrained env config _ marked_unique
  refine (noneOverdue_allPromoted_iff (uniqueNodes_allRemoved drained_unique) _).trans ?_
  rw [noneOverdue_allRemoved_iff, allDrained_nodes marked_unique, staleMarked_nodes unique,
    List.forall_mem_map, List.forall_mem_map]
  refine forall₂_congr fun node known => ?_
  rw [rowDrained_awaitsRemoval, rowMarked_awaitsRemoval, rowDrained_id, rowMarked_id]
  refine imp_congr_right fun overdue => ?_
  rw [Bool.eq_false_iff, Ne, hasRepairJob_before_removal unique known overdue, not_or,
    Bool.not_eq_true, Bool.not_eq_true]

end Steps

namespace LastCopy

/-- A cycle without failures at some instant. -/
def answeredCycle (now : Time) : CycleEnv :=
  { stale := ⟨.done, now⟩
    staleOrder := .insertion
    markOffline := fun _ => ⟨.done, now⟩
    draining := ⟨.done, now⟩
    drainingOrder := .insertion
    markDraining := fun _ => ⟨.done, now⟩
    chunks := fun _ => .done
    chunkOrder := fun _ => .insertion
    targets := fun _ => .done
    targetOrder := fun _ => .insertion
    createJob := fun _ => .done
    removal := ⟨.done, now⟩
    removalOrder := .insertion
    deleteNode := fun _ => .done
    recovered := ⟨.done, now⟩
    recoveredOrder := .insertion
    markOnline := fun _ => ⟨.done, now⟩ }

theorem answeredCycle_answered (now : Time) : (answeredCycle now).Answered :=
  { stale := rfl
    markOffline := fun _ => rfl
    draining := rfl
    markDraining := fun _ => rfl
    chunks := fun _ => rfl
    targets := fun _ => rfl
    createJob := fun _ => rfl
    removal := rfl
    deleteNode := fun _ => rfl
    recovered := rfl
    markOnline := fun _ => rfl }

/-- The tables after a run, with a row of uptime and a slashing event of the first node. -/
def ledgerAfter (steps : List LifecycleStep) : Ledger :=
  { (runAll (Lifecycle.apply .default) (.start .empty 0) steps).db with
    nodeEpochUptime := [.new 1 0 0]
    nodeSlashingEvents :=
      [{ nodeId := 1
         epoch := 0
         reason := .extendedDowntime
         slashPercent := 5
         slashAmount := none
         txSignature := none
         details := none }]
    paymentEpochs := [] }

/-- A cycle two weeks after the start. -/
def twoWeeksLater : CycleEnv := answeredCycle (14 * 24 * 60 * 60 * 1000000)

/-- A node without chunks is removed. -/
theorem removal_of_empty_node :
    NoneOverdue .default twoWeeksLater.removal.now
      ((ledgerAfter [.createNode 1 firstRegistration, .startCycle, .monitor .answered,
        .monitor .answered]).withDatabase (runCheckCycle twoWeeksLater .default
          (ledgerAfter [.createNode 1 firstRegistration, .startCycle, .monitor .answered,
            .monitor .answered]).toDatabase).1).toDatabase :=
  (removal_takes_effect_iff .default twoWeeksLater (answeredCycle_answered _) _
    { ids := by decide, peerIds := by decide }).mpr (by decide)

/-- The repair job of its evacuation keeps a node that is overdue. -/
theorem removal_refused_after_evacuation :
    ¬ ∀ (config : FaultToleranceConfig) (steps : List LifecycleStep) (env : CycleEnv)
      (ledger : Ledger), env.Answered →
        ledger.toDatabase = (runAll (Lifecycle.apply config) (.start .empty 0) steps).db →
          NoneOverdue config env.removal.now
            (ledger.withDatabase (runCheckCycle env config ledger.toDatabase).1).toDatabase := by
  intro removes
  have none_left := removes .default (untilDraining ++ answered 5) twoWeeksLater
    (ledgerAfter (untilDraining ++ answered 5)) (answeredCycle_answered _) rfl
  exact absurd none_left (by decide +kernel)

end LastCopy

end CyxCloud.Gateway
