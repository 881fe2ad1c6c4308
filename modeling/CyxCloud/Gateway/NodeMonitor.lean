import CyxCloud.Library.Statements
import CyxCloud.Metadata.FaultTolerance

/-!
# The node monitor

`run_check_cycle` and `trigger_chunk_evacuation` of `cyxcloud-gateway/src/node_monitor.rs`, first
as a program over the database, then cut into its statements, between which other clients of the
database may run.  Metrics are left out.
-/

namespace CyxCloud.Gateway

open CyxCloud.Core hiding Chunk
open Library Metadata

/-! ## The cycle as a program -/

/-- The outcome of a statement and the instant at which the database runs it. -/
structure Reply where
  outcome : Outcome
  now : Time
  deriving DecidableEq, Repr

/-- The outcomes and choices that a cycle meets.  Statements about a node are named by its
identifier, those about a repair job by the job. -/
structure CycleEnv where
  stale : Reply
  staleOrder : RowOrder Node
  markOffline : Uuid → Reply
  draining : Reply
  drainingOrder : RowOrder Node
  markDraining : Uuid → Reply
  chunks : Uuid → Outcome
  chunkOrder : Uuid → RowOrder ChunkLocation
  targets : Uuid → Outcome
  targetOrder : Uuid → RowOrder Node
  createJob : RepairJob → Outcome
  removal : Reply
  removalOrder : RowOrder Node
  deleteNode : Uuid → Outcome
  recovered : Reply
  recoveredOrder : RowOrder Node
  markOnline : Uuid → Reply

/-- The repair jobs of an evacuation: one for each chunk, with the targets in turn. -/
def evacuationJobs (nodeId : Uuid) (chunks : List ChunkLocation) (onlineNodes : List Node) :
    List RepairJob :=
  chunks.zipIdx.filterMap fun (location, index) =>
    onlineNodes[index % onlineNodes.length]?.map fun target =>
      { chunkId := location.chunkId
        sourceNodeId := some nodeId
        targetNodeId := target.id
        priority := 100 }

theorem mem_evacuationJobs {nodeId : Uuid} {chunks : List ChunkLocation} {onlineNodes : List Node}
    {job : RepairJob} (listed : job ∈ evacuationJobs nodeId chunks onlineNodes) :
    job.sourceNodeId = some nodeId ∧ ∃ target ∈ onlineNodes, job.targetNodeId = target.id := by
  obtain ⟨⟨location, index⟩, -, made⟩ := List.mem_filterMap.mp listed
  obtain ⟨target, found, rfl⟩ := Option.map_eq_some_iff.mp made
  exact ⟨rfl, target, List.mem_of_getElem? found, rfl⟩

/-- There is a job as soon as there are a chunk and a target. -/
theorem evacuationJobs_ne_nil (nodeId : Uuid) {chunks : List ChunkLocation}
    {onlineNodes : List Node} (chunks_ne : chunks ≠ []) (targets_ne : onlineNodes ≠ []) :
    evacuationJobs nodeId chunks onlineNodes ≠ [] := by
  cases chunks with
  | nil => exact absurd rfl chunks_ne
  | cons location locations =>
      cases onlineNodes with
      | nil => exact absurd rfl targets_ne
      | cons target targets =>
          rw [evacuationJobs, List.zipIdx_cons, List.filterMap_cons]
          simp

/-- The nodes to which a node can be evacuated. -/
def evacuationTargets (db : Database) (order : RowOrder Node) (nodeId : Uuid) : List Node :=
  (db.getOnlineNodes order).filter fun node => node.id != nodeId

theorem mem_evacuationTargets {db : Database} {order : RowOrder Node} {nodeId : Uuid}
    {node : Node} : node ∈ evacuationTargets db order nodeId ↔
      node ∈ db.nodes ∧ node.status = .online ∧ node.id ≠ nodeId := by
  simp [evacuationTargets, Database.getOnlineNodes, and_assoc]

/-- The statement of `create_repair_job`. -/
def insertJob (job : RepairJob) (db : Database) : Except DbError (Database × Unit) :=
  match db.createRepairJob job with
  | (inserted, .ok _) => .ok (inserted, ())
  | (_, .error cause) => .error cause

/-- The statement of `delete_node`. -/
def removeNode (nodeId : Uuid) (db : Database) : Except DbError (Database × Unit) :=
  match db.deleteNode nodeId with
  | (deleted, .ok ()) => .ok (deleted, ())
  | (_, .error cause) => .error cause

section Cycle

variable (env : CycleEnv)

/-- Create the repair jobs of an evacuation; a failure is only logged. -/
def createJobs (jobs : List RepairJob) : Effect Database Unit :=
  .each jobs fun job => .attempt (.statement (env.createJob job) (insertJob job))

/-- Create the repair jobs for the chunks of a node. -/
def evacuateChunks (nodeId : Uuid) (chunks : List ChunkLocation) : Effect Database Unit :=
  if chunks.isEmpty then
    pure ()
  else do
    let onlineNodes ← .query (env.targets nodeId) fun db =>
      evacuationTargets db (env.targetOrder nodeId) nodeId
    createJobs env (evacuationJobs nodeId chunks onlineNodes)

/-- Trigger the evacuation of a draining node. -/
def triggerChunkEvacuation (nodeId : Uuid) : Effect Database Unit := do
  let chunks ← .query (env.chunks nodeId) fun db =>
    db.getChunksOnNode (env.chunkOrder nodeId) nodeId
  evacuateChunks env nodeId chunks

/-- Mark a node as draining, and evacuate it if that succeeds. -/
def drainNode (nodeId : Uuid) : Effect Database Unit := do
  .update (env.markDraining nodeId).outcome fun db =>
    db.markNodeDraining nodeId (env.markDraining nodeId).now
  triggerChunkEvacuation env nodeId

variable (config : FaultToleranceConfig)

/-- Step 1: mark stale online nodes as offline. -/
def markStaleNodes : Effect Database Unit := do
  let staleNodes ← .query env.stale.outcome fun db =>
    db.getStaleOnlineNodes env.staleOrder config.offlineThreshold env.stale.now
  .each staleNodes fun node => .attempt (.update (env.markOffline node.id).outcome fun db =>
    db.markNodeOffline node.id (env.markOffline node.id).now)

/-- Step 2: start draining nodes that are offline for too long. -/
def drainNodes : Effect Database Unit := do
  let nodesToDrain ← .query env.draining.outcome fun db =>
    db.getNodesForDraining env.drainingOrder config.drainThreshold env.draining.now
  .each nodesToDrain fun node => .attempt (drainNode env node.id)

/-- Step 3: remove nodes that are offline for too long. -/
def removeNodes : Effect Database Unit := do
  let nodesToRemove ← .query env.removal.outcome fun db =>
    db.getNodesForRemoval env.removalOrder config.removeThreshold env.removal.now
  .each nodesToRemove fun node =>
    .attempt (.statement (env.deleteNode node.id) (removeNode node.id))

/-- Step 4: promote recovered nodes from quarantine to online. -/
def promoteNodes : Effect Database Unit := do
  let recoveredNodes ← .query env.recovered.outcome fun db =>
    db.getRecoveredNodes env.recoveredOrder config.recoveryQuarantine env.recovered.now
  .each recoveredNodes fun node => .attempt (.update (env.markOnline node.id).outcome fun db =>
    db.markNodeOnline node.id (env.markOnline node.id).now)

/-- Run a single check cycle. -/
def runCheckCycle : Effect Database Unit := do
  markStaleNodes env config
  drainNodes env config
  removeNodes env config
  promoteNodes env config

end Cycle

/-! ## The cycle statement by statement -/

/-- The statement that the monitor runs next, with what it remembers. -/
inductive MonitorState where
  | idle
  | findStale
  | markOffline (nodeId : Uuid) (rest : List Uuid)
  | findDraining
  | markDraining (nodeId : Uuid) (rest : List Uuid)
  | findChunks (nodeId : Uuid) (rest : List Uuid)
  | findTargets (nodeId : Uuid) (chunks : List ChunkLocation) (rest : List Uuid)
  | createJob (job : RepairJob) (jobs : List RepairJob) (rest : List Uuid)
  | findRemoval
  | deleteNode (nodeId : Uuid) (rest : List Uuid)
  | findRecovered
  | markOnline (nodeId : Uuid) (rest : List Uuid)
  deriving DecidableEq

namespace MonitorState

/-- Go on with step 1. -/
def markOfflineAll : List Uuid → MonitorState
  | [] => .findDraining
  | nodeId :: rest => .markOffline nodeId rest

/-- Go on with step 2. -/
def markDrainingAll : List Uuid → MonitorState
  | [] => .findRemoval
  | nodeId :: rest => .markDraining nodeId rest

/-- Go on with the jobs of an evacuation. -/
def createAll (rest : List Uuid) : List RepairJob → MonitorState
  | [] => markDrainingAll rest
  | job :: jobs => .createJob job jobs rest

/-- Go on with step 3. -/
def deleteAll : List Uuid → MonitorState
  | [] => .findRecovered
  | nodeId :: rest => .deleteNode nodeId rest

/-- Go on with step 4. -/
def markOnlineAll : List Uuid → MonitorState
  | [] => .idle
  | nodeId :: rest => .markOnline nodeId rest

/-- Where the monitor goes on after a statement; a restarted one begins anew. -/
def resume (outcome : Outcome) (success failure : MonitorState) : MonitorState :=
  match outcome.answer with
  | .ok () => success
  | .error .error => failure
  | .error .crash => .idle

/-- The outcome of a statement, and the order in which it delivers rows. -/
structure Event where
  outcome : Outcome
  nodeOrder : RowOrder Node
  locationOrder : RowOrder ChunkLocation

/-- A statement that succeeds. -/
def Event.answered : Event :=
  { outcome := .done
    nodeOrder := .insertion
    locationOrder := .insertion }

/-- What the statement writes. -/
def write (db : Database) (now : Time) : MonitorState → Database
  | .markOffline nodeId _ => db.markNodeOffline nodeId now
  | .markDraining nodeId _ => db.markNodeDraining nodeId now
  | .createJob job _ _ => (db.createRepairJob job).1
  | .deleteNode nodeId _ => (db.deleteNode nodeId).1
  | .markOnline nodeId _ => db.markNodeOnline nodeId now
  | .idle | .findStale | .findDraining | .findChunks _ _ | .findTargets _ _ _ | .findRemoval
  | .findRecovered => db

/-- The statement that follows. -/
def next (config : FaultToleranceConfig) (db : Database) (now : Time) (event : Event) :
    MonitorState → MonitorState
  | .idle => .idle
  | .findStale =>
      resume event.outcome
        (markOfflineAll
          ((db.getStaleOnlineNodes event.nodeOrder config.offlineThreshold now).map Node.id))
        .idle
  | .markOffline _ rest => resume event.outcome (markOfflineAll rest) (markOfflineAll rest)
  | .findDraining =>
      resume event.outcome
        (markDrainingAll
          ((db.getNodesForDraining event.nodeOrder config.drainThreshold now).map Node.id))
        .idle
  | .markDraining nodeId rest =>
      resume event.outcome (.findChunks nodeId rest) (markDrainingAll rest)
  | .findChunks nodeId rest =>
      resume event.outcome
        (match db.getChunksOnNode event.locationOrder nodeId with
          | [] => markDrainingAll rest
          | location :: locations => .findTargets nodeId (location :: locations) rest)
        (markDrainingAll rest)
  | .findTargets nodeId chunks rest =>
      resume event.outcome
        (createAll rest
          (evacuationJobs nodeId chunks (evacuationTargets db event.nodeOrder nodeId)))
        (markDrainingAll rest)
  | .createJob _ jobs rest => resume event.outcome (createAll rest jobs) (createAll rest jobs)
  | .findRemoval =>
      resume event.outcome
        (deleteAll ((db.getNodesForRemoval event.nodeOrder config.removeThreshold now).map Node.id))
        .idle
  | .deleteNode _ rest => resume event.outcome (deleteAll rest) (deleteAll rest)
  | .findRecovered =>
      resume event.outcome
        (markOnlineAll
          ((db.getRecoveredNodes event.nodeOrder config.recoveryQuarantine now).map Node.id))
        .idle
  | .markOnline _ rest => resume event.outcome (markOnlineAll rest) (markOnlineAll rest)

/-- Run the next statement. -/
def step (config : FaultToleranceConfig) (run : Database × MonitorState) (event : Time × Event) :
    Database × MonitorState :=
  (if event.2.outcome.applied then run.2.write run.1 event.1 else run.1,
    run.2.next config run.1 event.1 event.2)

/-! ## The statements make up the cycle -/

section Simulation

variable {config : FaultToleranceConfig} {start failure : MonitorState}

theorem resume_eq_landing (outcome : Outcome) (success failure : MonitorState) :
    resume outcome success failure =
      Effect.landing .idle failure (fun _ => success) outcome.answer := by
  cases outcome <;> rfl

theorem simulatedBy_query {α : Type} {outcome : Outcome} {read : Database → α}
    {success : α → MonitorState} (now : Time) (nodeOrder : RowOrder Node)
    (locationOrder : RowOrder ChunkLocation) (writes : ∀ db, start.write db now = db)
    (goes : ∀ db, start.next config db now { outcome, nodeOrder, locationOrder } =
      resume outcome (success (read db)) failure) :
    Effect.SimulatedBy (step config) .idle failure start success (.query outcome read) := by
  refine .of_step fun db => ⟨(now, { outcome, nodeOrder, locationOrder }), ?_⟩
  rw [step, writes, goes, resume_eq_landing, ite_self]
  cases outcome <;> rfl

theorem simulatedBy_update {outcome : Outcome} {change : Database → Database}
    {success : MonitorState} (now : Time) (writes : ∀ db, start.write db now = change db)
    (goes : ∀ db event, event.outcome = outcome →
      start.next config db now event = resume outcome success failure) :
    Effect.SimulatedBy (step config) .idle failure start (fun _ => success)
      (.update outcome change) := by
  refine .of_step fun db => ⟨(now, { outcome, nodeOrder := .insertion
                                     locationOrder := .insertion }), ?_⟩
  rw [step, writes, goes db _ rfl, resume_eq_landing]
  rfl

/-- A statement that the tables may refuse; the monitor goes on in any case. -/
theorem simulatedBy_statement {outcome : Outcome} {run : Database → Except DbError (Database × Unit)}
    {next : MonitorState}
    (writes : ∀ db, start.write db 0 = match run db with
      | .ok (reached, ()) => reached
      | .error _ => db)
    (goes : ∀ db event, event.outcome = outcome →
      start.next config db 0 event = resume outcome next next) :
    Effect.SimulatedBy (step config) .idle next start (fun _ => next)
      (.statement outcome run) := by
  refine .of_step fun db => ⟨(0, { outcome, nodeOrder := .insertion
                                   locationOrder := .insertion }), ?_⟩
  rw [step, writes, goes db _ rfl, Effect.statement]
  cases run db with
  | ok result => cases outcome <;> rfl
  | error cause => cases outcome <;> rfl

variable (env : CycleEnv)

theorem simulatedBy_markStaleNodes :
    Effect.SimulatedBy (step config) .idle .idle .findStale (fun _ => .findDraining)
      (markStaleNodes env config) := by
  refine .bind (fun nodes => markOfflineAll (nodes.map Node.id)) ?_ fun nodes => ?_
  · exact simulatedBy_query env.stale.now env.staleOrder .insertion (fun _ => rfl) fun _ => rfl
  · refine Effect.simulatedBy_each (fun nodes => markOfflineAll (nodes.map Node.id)) ?_
    intro node rest
    exact .attempt (simulatedBy_update (env.markOffline node.id).now (fun _ => rfl)
      fun db event same => by rw [← same]; rfl)

theorem simulatedBy_createJobs (rest : List Uuid) (jobs : List RepairJob) :
    Effect.SimulatedBy (step config) .idle failure (createAll rest jobs)
      (fun _ => markDrainingAll rest) (createJobs env jobs) := by
  refine Effect.simulatedBy_each (createAll rest) ?_
  intro job jobs
  refine .attempt (simulatedBy_statement (fun db => ?_) fun db event same => by rw [← same]; rfl)
  change (db.createRepairJob job).1 = _
  unfold insertJob Database.createRepairJob
  split <;> rfl

theorem simulatedBy_evacuateChunks (nodeId : Uuid) (rest : List Uuid)
    (chunks : List ChunkLocation) :
    Effect.SimulatedBy (step config) .idle (markDrainingAll rest)
      (match chunks with
        | [] => markDrainingAll rest
        | location :: locations => .findTargets nodeId (location :: locations) rest)
      (fun _ => markDrainingAll rest) (evacuateChunks env nodeId chunks) := by
  cases chunks with
  | nil => exact fun _ => ⟨[], rfl⟩
  | cons location locations =>
      refine .bind (fun nodes => createAll rest
        (evacuationJobs nodeId (location :: locations) nodes)) ?_ fun nodes => ?_
      · exact simulatedBy_query 0 (env.targetOrder nodeId) .insertion (fun _ => rfl) fun _ => rfl
      · exact simulatedBy_createJobs env rest _

theorem simulatedBy_drainNode (nodeId : Uuid) (rest : List Uuid) :
    Effect.SimulatedBy (step config) .idle (markDrainingAll rest) (.markDraining nodeId rest)
      (fun _ => markDrainingAll rest) (drainNode env nodeId) := by
  refine .bind (fun _ => .findChunks nodeId rest) ?_ fun _ => ?_
  · exact simulatedBy_update (env.markDraining nodeId).now (fun _ => rfl)
      fun db event same => by rw [← same]; rfl
  · refine .bind (fun chunks : List ChunkLocation => match chunks with
      | [] => markDrainingAll rest
      | location :: locations => .findTargets nodeId (location :: locations) rest) ?_ ?_
    · exact simulatedBy_query 0 .insertion (env.chunkOrder nodeId) (fun _ => rfl) fun _ => rfl
    · exact simulatedBy_evacuateChunks env nodeId rest

theorem simulatedBy_drainNodes :
    Effect.SimulatedBy (step config) .idle .idle .findDraining (fun _ => .findRemoval)
      (drainNodes env config) := by
  refine .bind (fun nodes => markDrainingAll (nodes.map Node.id)) ?_ fun nodes => ?_
  · exact simulatedBy_query env.draining.now env.drainingOrder .insertion (fun _ => rfl)
      fun _ => rfl
  · refine Effect.simulatedBy_each (fun nodes => markDrainingAll (nodes.map Node.id)) ?_
    intro node rest
    exact .attempt (simulatedBy_drainNode env node.id (rest.map Node.id))

theorem simulatedBy_removeNodes :
    Effect.SimulatedBy (step config) .idle .idle .findRemoval (fun _ => .findRecovered)
      (removeNodes env config) := by
  refine .bind (fun nodes => deleteAll (nodes.map Node.id)) ?_ fun nodes => ?_
  · exact simulatedBy_query env.removal.now env.removalOrder .insertion (fun _ => rfl) fun _ => rfl
  · refine Effect.simulatedBy_each (fun nodes => deleteAll (nodes.map Node.id)) ?_
    intro node rest
    refine .attempt (simulatedBy_statement (fun db => ?_) fun db event same => by rw [← same]; rfl)
    change (db.deleteNode node.id).1 = _
    unfold removeNode Database.deleteNode
    split <;> rfl

theorem simulatedBy_promoteNodes :
    Effect.SimulatedBy (step config) .idle .idle .findRecovered (fun _ => .idle)
      (promoteNodes env config) := by
  refine .bind (fun nodes => markOnlineAll (nodes.map Node.id)) ?_ fun nodes => ?_
  · exact simulatedBy_query env.recovered.now env.recoveredOrder .insertion (fun _ => rfl)
      fun _ => rfl
  · refine Effect.simulatedBy_each (fun nodes => markOnlineAll (nodes.map Node.id)) ?_
    intro node rest
    exact .attempt (simulatedBy_update (env.markOnline node.id).now (fun _ => rfl)
      fun db event same => by rw [← same]; rfl)

/-- A cycle that nobody disturbs is a run of its statements. -/
theorem runCheckCycle_steps (db : Database) :
    ∃ events, runAll (step config) (db, .findStale) events =
      ((runCheckCycle env config db).1, .idle) := by
  have simulated : Effect.SimulatedBy (step config) .idle .idle .findStale (fun _ => .idle)
      (runCheckCycle env config) := by
    refine .bind _ (simulatedBy_markStaleNodes env) fun _ => ?_
    refine .bind _ (simulatedBy_drainNodes env) fun _ => ?_
    exact .bind _ (simulatedBy_removeNodes env) fun _ => simulatedBy_promoteNodes env
  obtain ⟨events, ran⟩ := simulated db
  refine ⟨events, ran.trans ?_⟩
  generalize (runCheckCycle env config db).2 = result
  match result with
  | .ok () | .error .error | .error .crash => rfl

end Simulation

end MonitorState

end CyxCloud.Gateway
