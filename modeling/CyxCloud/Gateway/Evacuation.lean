import CyxCloud.Gateway.Lifecycle

/-!
# Evacuation before removal

The removal of a node takes its chunk locations with it and does not ask where else its chunks are.
What stands in its way are the repair jobs of the evacuation, which refer to the node and so block
the deletion.  A node that is drained without getting such a job, or gets a location afterwards, is
removed with the last copies it may hold.
-/

namespace CyxCloud.Gateway

open CyxCloud.Core hiding Chunk
open Library Metadata

/-! ## Draining periods -/

/-- A row of a node with some status. -/
def hasStatus (db : Database) (nodeId : Uuid) (status : NodeStatus) : Bool :=
  db.nodes.any fun node => node.id == nodeId && node.status == status

/-- The lifecycle, with the nodes that have been online throughout the draining period of a node. -/
structure DrainedLifecycle extends Lifecycle where
  companions : Uuid → Uuid → Bool

namespace DrainedLifecycle

/-- Tables without nodes, and nothing under way. -/
def start (db : Database) (now : Time) : DrainedLifecycle :=
  { Lifecycle.start db now with companions := fun nodeId other => other != nodeId }

/-- One step.  A draining period starts when the node is found draining. -/
def apply (config : FaultToleranceConfig) (state : DrainedLifecycle) (step : LifecycleStep) :
    DrainedLifecycle :=
  let reached := state.toLifecycle.apply config step
  { reached with
    companions := fun nodeId other =>
      other != nodeId &&
        (!hasStatus reached.db nodeId .draining ||
          (hasStatus reached.db other .online &&
            (!hasStatus state.db nodeId .draining || state.companions nodeId other))) }

/-- The file of a chunk has not been deleted. -/
def isLive (db : Database) (chunk : Metadata.Chunk) : Prop :=
  ∃ file ∈ db.files, file.id = chunk.fileId ∧ file.isLive = true

/-- The deletion of a node takes no last location of a chunk of a live file. -/
def SparesLast (db : Database) (nodeId : Uuid) : Prop :=
  ∀ chunk ∈ db.chunks, isLive db chunk → ∀ location ∈ db.chunkLocations,
    location.chunkId = chunk.chunkId → location.nodeId = nodeId →
      ∃ other ∈ db.chunkLocations, other.chunkId = chunk.chunkId ∧ other.nodeId ≠ nodeId

instance (db : Database) (chunk : Metadata.Chunk) : Decidable (isLive db chunk) :=
  inferInstanceAs (Decidable (∃ file ∈ db.files, _))

instance (db : Database) (nodeId : Uuid) : Decidable (SparesLast db nodeId) :=
  inferInstanceAs (Decidable (∀ chunk ∈ db.chunks, _))

/-- A location of a node. -/
def holds (db : Database) (nodeId : Uuid) : Bool :=
  db.chunkLocations.any fun location => location.nodeId == nodeId

/-- A location of a node that is marked as stored. -/
def holdsStored (db : Database) (nodeId : Uuid) : Bool :=
  db.chunkLocations.any fun location => location.nodeId == nodeId && location.status == .stored

end DrainedLifecycle

/-- A node that a statement of the monitor deletes, while some other node was online throughout its
draining period, takes no last location with it. -/
def MonitorState.OrphansNothing (db : Database) (companions : Uuid → Uuid → Bool) :
    MonitorState → Prop
  | .deleteNode nodeId _ => db.hasNode nodeId = true → db.hasRepairJob nodeId = false →
      (∃ other ∈ db.nodes, companions nodeId other.id = true) →
        DrainedLifecycle.SparesLast db nodeId
  | _ => True

/-- A step deletes no node with a last location while some other node was online throughout its
draining period. -/
def DrainedLifecycle.OrphansNothing (state : DrainedLifecycle) : LifecycleStep → Prop
  | .monitor event => event.outcome.applied = true →
      state.monitor.OrphansNothing state.db state.companions
  | _ => True

/-- A statement of the monitor keeps an evacuation going: the statements of an evacuation succeed, a
node that holds chunks holds one that is marked as stored, and only draining nodes are deleted. -/
def MonitorState.KeepsEvacuating (db : Database) (outcome : Outcome) : MonitorState → Prop
  | .markDraining _ _ => outcome.applied = true → outcome = .done
  | .findChunks nodeId _ => outcome = .done ∧
      (DrainedLifecycle.holds db nodeId = true → DrainedLifecycle.holdsStored db nodeId = true)
  | .findTargets _ _ _ | .createJob _ _ _ => outcome = .done
  | .deleteNode nodeId _ => outcome.applied = true →
      ∀ node ∈ db.nodes, node.id = nodeId → node.status = .draining
  | _ => True

/-- A step keeps evacuations going, and adds no location to a draining node. -/
def DrainedLifecycle.KeepsEvacuating (state : DrainedLifecycle) : LifecycleStep → Prop
  | .monitor event => state.monitor.KeepsEvacuating state.db event.outcome
  | .storage (.addChunkLocation _ _ nodeId) => hasStatus state.db nodeId .draining = false
  | _ => True

section Decidability

instance (db : Database) (companions : Uuid → Uuid → Bool) :
    DecidablePred (MonitorState.OrphansNothing db companions)
  | .deleteNode _ _ => inferInstanceAs (Decidable (_ → _ → _ → _))
  | .idle | .findStale | .markOffline _ _ | .findDraining | .markDraining _ _ | .findChunks _ _
  | .findTargets _ _ _ | .createJob _ _ _ | .findRemoval | .findRecovered | .markOnline _ _ =>
      inferInstanceAs (Decidable True)

instance (db : Database) (outcome : Outcome) :
    DecidablePred (MonitorState.KeepsEvacuating db outcome)
  | .markDraining _ _ | .deleteNode _ _ => inferInstanceAs (Decidable (_ → _))
  | .findChunks _ _ => inferInstanceAs (Decidable (_ ∧ (_ → _)))
  | .findTargets _ _ _ | .createJob _ _ _ => inferInstanceAs (Decidable (_ = _))
  | .idle | .findStale | .markOffline _ _ | .findDraining | .findRemoval | .findRecovered
  | .markOnline _ _ => inferInstanceAs (Decidable True)

instance (state : DrainedLifecycle) : DecidablePred state.OrphansNothing
  | .monitor _ => inferInstanceAs (Decidable (_ → _))
  | .wait _ | .createNode _ _ | .updateNodeHeartbeat _ | .readHeartbeat _ | .writeHeartbeat _
  | .startCycle | .storage _ => inferInstanceAs (Decidable True)

instance (state : DrainedLifecycle) : DecidablePred state.KeepsEvacuating
  | .monitor event => inferInstanceAs (Decidable (state.monitor.KeepsEvacuating _ event.outcome))
  | .storage (.addChunkLocation _ _ _) => inferInstanceAs (Decidable (_ = _))
  | .wait _ | .createNode _ _ | .updateNodeHeartbeat _ | .readHeartbeat _ | .writeHeartbeat _
  | .startCycle | .storage (.createFile _ _) | .storage (.deleteFile _)
  | .storage (.createChunk _) | .storage (.removeChunkLocation _ _)
  | .storage (.updateChunkVerification _ _ _) | .storage (.createRepairJob _) =>
      inferInstanceAs (Decidable True)

end Decidability

/-! ## Jobs and locations -/

namespace Lifecycle

variable {config : FaultToleranceConfig} {state : Lifecycle}

theorem createRepairJob_subset (db : Database) (job : RepairJob) :
    db.repairJobs ⊆ (db.createRepairJob job).1.repairJobs := by
  unfold Database.createRepairJob
  split
  · exact List.subset_append_left _ _
  · exact List.Subset.refl _

theorem tryCreateNode_eq (db : Database) (id : Uuid) (now : Time) (node : CreateNode) :
    ∃ nodes, db.tryCreateNode id now node = { db with nodes } := by
  rw [Database.tryCreateNode]
  split
  · exact ⟨db.nodes, rfl⟩
  · cases known : db.hasPeer node.peerId with
    | true =>
        rw [Database.createNode_of_hasPeer known]
        exact ⟨_, rfl⟩
    | false =>
        rw [Database.createNode_of_not_hasPeer known]
        exact ⟨_, rfl⟩

/-- Repair jobs stay. -/
theorem repairJobs_subset_apply (step : LifecycleStep) :
    state.db.repairJobs ⊆ (state.apply config step).db.repairJobs := by
  cases step with
  | createNode id node =>
      obtain ⟨nodes, db_eq⟩ := tryCreateNode_eq state.db id state.now node
      rw [apply, db_eq]
      exact List.Subset.refl _
  | readHeartbeat address | writeHeartbeat heartbeat =>
      rw [apply]
      split <;> exact List.Subset.refl _
  | monitor event =>
      change state.db.repairJobs ⊆ (if event.outcome.applied then
        state.monitor.write state.db state.now else state.db).repairJobs
      split
      · cases state.monitor with
        | createJob job jobs rest => exact createRepairJob_subset state.db job
        | deleteNode nodeId rest =>
            rw [MonitorState.write, Database.deleteNode]
            split <;> exact List.Subset.refl _
        | _ => exact List.Subset.refl _
      · exact List.Subset.refl _
  | storage op =>
      cases op with
      | createRepairJob job => exact createRepairJob_subset state.db job
      | createFile generated file =>
          simp only [apply, StorageOp.apply, Database.createFile]
          split <;> exact List.Subset.refl _
      | createChunk chunk =>
          simp only [apply, StorageOp.apply, Database.createChunk]
          split
          · exact List.Subset.refl _
          · split <;> exact List.Subset.refl _
      | addChunkLocation statements chunkId nodeId =>
          rcases state.db.addChunkLocation_effect statements chunkId nodeId with
            ⟨-, same⟩ | ⟨-, -, added⟩
          · rw [apply, StorageOp.apply, same]
            exact List.Subset.refl _
          · rw [apply, StorageOp.apply, added]
            simp only [Database.upsertLocation]
            split <;> exact List.Subset.refl _
      | _ => exact List.Subset.refl _
  | _ => exact List.Subset.refl _

theorem hasRepairJob_apply {nodeId : Uuid} (blocked : state.db.hasRepairJob nodeId = true)
    (step : LifecycleStep) : (state.apply config step).db.hasRepairJob nodeId = true := by
  obtain ⟨job, listed, refers⟩ := List.any_eq_true.mp blocked
  exact List.any_eq_true.mpr ⟨job, repairJobs_subset_apply step listed, refers⟩

theorem holds_upsertLocation {db : Database} {chunkId : Bytes} {located nodeId : Uuid}
    (held : DrainedLifecycle.holds (db.upsertLocation chunkId located) nodeId = true) :
    DrainedLifecycle.holds db nodeId = true ∨ located = nodeId := by
  obtain ⟨location, listed, same⟩ := List.any_eq_true.mp held
  unfold Database.upsertLocation at listed
  split at listed
  · obtain ⟨row, known, rfl⟩ := List.mem_map.mp listed
    refine .inl (List.any_eq_true.mpr ⟨row, known, ?_⟩)
    split at same <;> exact same
  · rcases List.mem_append.mp listed with known | added
    · exact .inl (List.any_eq_true.mpr ⟨location, known, same⟩)
    · obtain rfl := List.mem_singleton.mp added
      exact .inr (beq_iff_eq.mp same)

/-- Only a call that records a location adds one. -/
theorem holds_storage {db : Database} {now : Time} {op : StorageOp} {nodeId : Uuid}
    (held : DrainedLifecycle.holds (op.apply db now) nodeId = true) :
    DrainedLifecycle.holds db nodeId = true ∨
      ∃ statements chunkId, op = .addChunkLocation statements chunkId nodeId := by
  cases op with
  | createFile generated file =>
      simp only [StorageOp.apply, Database.createFile] at held
      split at held <;> exact .inl held
  | deleteFile fileId => exact .inl held
  | createChunk chunk =>
      simp only [StorageOp.apply, Database.createChunk] at held
      split at held
      · exact .inl held
      · split at held <;> exact .inl held
  | addChunkLocation statements chunkId located =>
      rcases db.addChunkLocation_effect statements chunkId located with ⟨-, same⟩ | ⟨-, -, added⟩
      · rw [StorageOp.apply, same] at held
        exact .inl held
      · rw [StorageOp.apply, added] at held
        rcases holds_upsertLocation held with before | rfl
        · exact .inl before
        · exact .inr ⟨statements, chunkId, rfl⟩
  | removeChunkLocation chunkId removed =>
      obtain ⟨location, listed, same⟩ := List.any_eq_true.mp held
      exact .inl (List.any_eq_true.mpr ⟨location, (List.mem_filter.mp listed).1, same⟩)
  | updateChunkVerification chunkId verified valid =>
      obtain ⟨location, listed, same⟩ := List.any_eq_true.mp held
      obtain ⟨row, known, rfl⟩ := List.mem_map.mp listed
      refine .inl (List.any_eq_true.mpr ⟨row, known, ?_⟩)
      split at same
      · split at same <;> exact same
      · exact same
  | createRepairJob job =>
      simp only [StorageOp.apply, Database.createRepairJob] at held
      split at held <;> exact .inl held

/-- Locations come from locations of the same node, or are added by a call. -/
theorem holds_apply {nodeId : Uuid} {step : LifecycleStep}
    (held : DrainedLifecycle.holds (state.apply config step).db nodeId = true) :
    DrainedLifecycle.holds state.db nodeId = true ∨
      ∃ statements chunkId, step = .storage (.addChunkLocation statements chunkId nodeId) := by
  cases step with
  | createNode id node =>
      obtain ⟨nodes, db_eq⟩ := tryCreateNode_eq state.db id state.now node
      rw [apply, db_eq] at held
      exact .inl held
  | readHeartbeat address | writeHeartbeat heartbeat =>
      rw [apply] at held
      split at held <;> exact .inl held
  | monitor event =>
      have written : DrainedLifecycle.holds (if event.outcome.applied then
        state.monitor.write state.db state.now else state.db) nodeId = true := held
      refine .inl ?_
      split at written
      · cases monitor : state.monitor with
        | createJob job jobs rest =>
            rw [monitor, MonitorState.write, Database.createRepairJob] at written
            split at written <;> exact written
        | deleteNode deleted rest =>
            rw [monitor, MonitorState.write, Database.deleteNode] at written
            split at written
            · exact written
            · obtain ⟨location, listed, same⟩ := List.any_eq_true.mp written
              exact List.any_eq_true.mpr ⟨location, (List.mem_filter.mp listed).1, same⟩
        | _ =>
            rw [monitor] at written
            exact written
      · exact written
  | storage op =>
      rcases holds_storage held with before | ⟨statements, chunkId, rfl⟩
      · exact .inl before
      · exact .inr ⟨statements, chunkId, rfl⟩
  | wait elapsed | updateNodeHeartbeat updated | startCycle => exact .inl held

/-- Only the monitor sets a node draining. -/
theorem draining_rowAfter {node : Node} {step : LifecycleStep}
    (draining : (state.rowAfter node step).status = .draining) :
    node.status = .draining ∨ ∃ event rest, step = .monitor event ∧
      event.outcome.applied = true ∧ state.monitor = .markDraining node.id rest := by
  cases step with
  | createNode id registration | updateNodeHeartbeat nodeId =>
      rw [rowAfter, NodeOp.rowAfter] at draining
      split at draining
      · cases draining
      · exact .inl draining
  | writeHeartbeat heartbeat =>
      rw [rowAfter] at draining
      split at draining
      · cases read : heartbeat.status with
        | online | recovering | maintenance =>
            rw [read] at draining
            exact .inl draining
        | offline | draining =>
            rw [read] at draining
            cases draining
      · exact .inl draining
  | monitor event =>
      rw [rowAfter] at draining
      split at draining
      · rename_i applied
        cases monitor : state.monitor with
        | markOffline nodeId rest | markOnline nodeId rest =>
            rw [monitor, MonitorState.rowAfter, NodeOp.rowAfter] at draining
            split at draining
            · cases draining
            · exact .inl draining
        | markDraining nodeId rest =>
            rw [monitor, MonitorState.rowAfter, NodeOp.rowAfter] at draining
            split at draining
            · rename_i addressed
              obtain rfl : node.id = nodeId := beq_iff_eq.mp addressed
              exact .inr ⟨event, rest, rfl, applied, rfl⟩
            · exact .inl draining
        | _ =>
            rw [monitor] at draining
            exact .inl draining
      · exact .inl draining
  | _ => exact .inl draining

end Lifecycle

/-! ## Runs -/

namespace MonitorState

/-- The node that is being evacuated. -/
def evacuating : MonitorState → Option Uuid
  | .findChunks nodeId _ | .findTargets nodeId _ _ => some nodeId
  | .createJob job _ _ => job.sourceNodeId
  | _ => none

/-- The next statement of an evacuation can be carried out. -/
def Ready (db : Database) : MonitorState → Prop
  | .findTargets _ chunks _ => chunks ≠ []
  | .createJob job jobs _ => ∀ listed ∈ job :: jobs, db.hasNode listed.targetNodeId = true
  | _ => True

theorem ready_markDrainingAll (db : Database) (batch : List Uuid) :
    (markDrainingAll batch).Ready db := by
  cases batch <;> trivial

theorem ready_createAll {db : Database} {jobs : List RepairJob} (batch : List Uuid)
    (targets : ∀ job ∈ jobs, db.hasNode job.targetNodeId = true) :
    (createAll batch jobs).Ready db := by
  cases jobs with
  | nil => exact ready_markDrainingAll db batch
  | cons job jobs => exact targets

theorem ready_resume {db : Database} {success failure : MonitorState} (outcome : Outcome)
    (succeeded : success.Ready db) (failed : failure.Ready db) :
    (resume outcome success failure).Ready db := by
  cases outcome with
  | done => exact succeeded
  | lost | failed => exact failed
  | crashed | crashedAfter => trivial

/-- The statement after the next one can be carried out as well. -/
theorem ready_next {config : FaultToleranceConfig} {db : Database} {now : Time} {event : Event}
    {monitor : MonitorState} (ready : monitor.Ready db) :
    (monitor.next config db now event).Ready db := by
  cases monitor with
  | idle => trivial
  | findStale =>
      refine ready_resume _ ?_ trivial
      generalize List.map Node.id _ = batch
      cases batch <;> trivial
  | markOffline nodeId rest => refine ready_resume _ ?_ ?_ <;> cases rest <;> trivial
  | findDraining => exact ready_resume _ (ready_markDrainingAll db _) trivial
  | markDraining nodeId rest => exact ready_resume _ trivial (ready_markDrainingAll db rest)
  | findChunks nodeId rest =>
      refine ready_resume _ ?_ (ready_markDrainingAll db rest)
      split
      · exact ready_markDrainingAll db rest
      · exact List.cons_ne_nil _ _
  | findTargets nodeId chunks rest =>
      refine ready_resume _ (ready_createAll rest fun job listed => ?_)
        (ready_markDrainingAll db rest)
      obtain ⟨-, target, found, target_eq⟩ := mem_evacuationJobs listed
      obtain ⟨known, -, -⟩ := mem_evacuationTargets.mp found
      exact List.any_eq_true.mpr ⟨target, known, beq_iff_eq.mpr target_eq.symm⟩
  | createJob job jobs rest =>
      have later : (createAll rest jobs).Ready db :=
        ready_createAll rest fun next listed => ready next (List.mem_cons_of_mem job listed)
      exact ready_resume _ later later
  | findRemoval =>
      refine ready_resume _ ?_ trivial
      generalize List.map Node.id _ = batch
      cases batch <;> trivial
  | deleteNode nodeId rest => refine ready_resume _ ?_ ?_ <;> cases rest <;> trivial
  | findRecovered =>
      refine ready_resume _ ?_ trivial
      generalize List.map Node.id _ = batch
      cases batch <;> trivial
  | markOnline nodeId rest => refine ready_resume _ ?_ ?_ <;> cases rest <;> trivial

theorem ready_mono {db reached : Database} {monitor : MonitorState} (ready : monitor.Ready db)
    (kept : ∀ nodeId, db.hasNode nodeId = true → reached.hasNode nodeId = true) :
    monitor.Ready reached := by
  cases monitor with
  | findTargets nodeId chunks rest => exact ready
  | createJob job jobs rest => exact fun listed member => kept _ (ready listed member)
  | _ => trivial

end MonitorState

namespace DrainedLifecycle

variable {config : FaultToleranceConfig} {state : DrainedLifecycle} {step : LifecycleStep}

/-- Every draining node is being evacuated, or has a repair job, or holds nothing, or was alone at
some time of its draining period. -/
structure Evacuated (state : DrainedLifecycle) : Prop where
  unique : state.db.UniqueNodes
  covered : ∀ node ∈ state.db.nodes, node.status = .draining →
    state.monitor.evacuating = some node.id ∨ state.db.hasRepairJob node.id = true ∨
      holds state.db node.id = false ∨ ∀ other, state.companions node.id other = false
  ready : state.monitor.Ready state.db

theorem hasNode_apply (unique : state.db.UniqueNodes)
    (kept : ∀ node ∈ state.db.nodes, state.toLifecycle.keepsRow node step = true) {nodeId : Uuid}
    (known : state.db.hasNode nodeId = true) :
    (state.apply config step).db.hasNode nodeId = true := by
  obtain ⟨node, member, same⟩ := List.any_eq_true.mp known
  refine List.any_eq_true.mpr ⟨state.toLifecycle.rowAfter node step, ?_, ?_⟩
  · exact (Lifecycle.mem_apply_nodes unique).mpr (.inl ⟨node, member, kept node member, rfl⟩)
  · rwa [Lifecycle.rowAfter_id]

theorem Evacuated.ready_apply (evacuated : state.Evacuated) :
    (state.apply config step).monitor.Ready (state.apply config step).db := by
  have same : (∀ node ∈ state.db.nodes, state.toLifecycle.keepsRow node step = true) →
      state.monitor.Ready (state.apply config step).db :=
    fun kept => MonitorState.ready_mono evacuated.ready fun _ => hasNode_apply evacuated.unique kept
  cases step with
  | monitor event =>
      change (state.monitor.next config state.db state.now event).Ready _
      by_cases deletes : ∃ nodeId rest, state.monitor = .deleteNode nodeId rest
      · obtain ⟨nodeId, rest, monitor⟩ := deletes
        rw [monitor]
        refine MonitorState.ready_resume _ ?_ ?_ <;> cases rest <;> trivial
      · refine MonitorState.ready_mono (MonitorState.ready_next evacuated.ready) fun _ =>
          hasNode_apply evacuated.unique fun node _ => ?_
        rw [Lifecycle.keepsRow]
        cases monitor : state.monitor with
        | deleteNode nodeId rest => exact absurd ⟨nodeId, rest, monitor⟩ deletes
        | _ => exact Bool.or_true _
  | startCycle =>
      by_cases is_idle : state.monitor = .idle
      · have started : (state.apply config .startCycle).monitor = .findStale := if_pos is_idle
        rw [started]
        trivial
      · have unchanged : (state.apply config .startCycle).monitor = state.monitor := if_neg is_idle
        rw [unchanged]
        exact evacuated.ready
  | readHeartbeat address =>
      have monitor_eq : (state.apply config (.readHeartbeat address)).monitor = state.monitor :=
        (Lifecycle.readHeartbeat_keeps config state.toLifecycle address).2
      rw [monitor_eq]
      exact same fun _ _ => rfl
  | writeHeartbeat heartbeat =>
      have monitor_eq : (state.apply config (.writeHeartbeat heartbeat)).monitor = state.monitor :=
        (Lifecycle.writeHeartbeat_keeps config state.toLifecycle heartbeat).2
      rw [monitor_eq]
      exact same fun _ _ => rfl
  | wait elapsed | createNode id node | updateNodeHeartbeat nodeId | storage op =>
      exact same fun _ _ => rfl

/-- An evacuation under way goes on while other clients work. -/
theorem evacuating_apply {nodeId : Uuid} (others : ∀ event, step ≠ .monitor event)
    (evacuating : state.monitor.evacuating = some nodeId) :
    (state.apply config step).monitor.evacuating = some nodeId := by
  cases step with
  | monitor event => exact absurd rfl (others event)
  | startCycle =>
      by_cases is_idle : state.monitor = .idle
      · rw [is_idle] at evacuating
        cases evacuating
      · have unchanged : (state.apply config .startCycle).monitor = state.monitor := if_neg is_idle
        rwa [unchanged]
  | readHeartbeat address =>
      exact (congrArg _ (Lifecycle.readHeartbeat_keeps config state.toLifecycle address).2).trans
        evacuating
  | writeHeartbeat heartbeat =>
      exact (congrArg _ (Lifecycle.writeHeartbeat_keeps config state.toLifecycle heartbeat).2).trans
        evacuating
  | _ => exact evacuating

theorem companions_apply {nodeId other : Uuid}
    (draining : hasStatus (state.apply config step).db nodeId .draining = true)
    (alone : other = nodeId ∨ hasStatus (state.apply config step).db other .online = false ∨
      hasStatus state.db nodeId .draining = true ∧ state.companions nodeId other = false) :
    (state.apply config step).companions nodeId other = false := by
  change (other != nodeId &&
    (!hasStatus (state.apply config step).db nodeId .draining ||
      (hasStatus (state.apply config step).db other .online &&
        (!hasStatus state.db nodeId .draining || state.companions nodeId other)))) = false
  rw [draining]
  rcases alone with rfl | offline | ⟨was_draining, not_companion⟩
  · simp
  · simp [offline]
  · simp [was_draining, not_companion]

theorem hasStatus_of_mem {db : Database} {node : Node} (known : node ∈ db.nodes) :
    hasStatus db node.id node.status = true :=
  List.any_eq_true.mpr ⟨node, known, by simp⟩

/-- The database after a statement of the monitor that writes nothing. -/
theorem monitor_db_eq {event : MonitorState.Event}
    (reads : state.monitor.write state.db state.now = state.db) :
    (state.apply config (.monitor event)).db = state.db := by
  change (if event.outcome.applied then state.monitor.write state.db state.now else state.db) = _
  rw [reads, ite_self]

/-- What a statement of the monitor does for the node that it evacuates. -/
theorem Evacuated.evacuating_monitor (evacuated : state.Evacuated) {event : MonitorState.Event}
    (keeps : state.KeepsEvacuating (.monitor event)) {node : Node} (known : node ∈ state.db.nodes)
    (evacuating : state.monitor.evacuating = some node.id)
    (draining : hasStatus (state.apply config (.monitor event)).db node.id .draining = true) :
    (state.apply config (.monitor event)).monitor.evacuating = some node.id ∨
      (state.apply config (.monitor event)).db.hasRepairJob node.id = true ∨
        holds (state.apply config (.monitor event)).db node.id = false ∨
          ∀ other, (state.apply config (.monitor event)).companions node.id other = false := by
  have ready := evacuated.ready
  have next_eq : (state.apply config (.monitor event)).monitor =
      state.monitor.next config state.db state.now event := rfl
  change state.monitor.KeepsEvacuating state.db event.outcome at keeps
  cases monitor : state.monitor with
  | findChunks nodeId rest =>
      rw [monitor] at keeps evacuating next_eq
      obtain rfl : nodeId = node.id := Option.some.inj evacuating
      obtain ⟨answered, stored⟩ := keeps
      have db_eq : (state.apply config (.monitor event)).db = state.db :=
        monitor_db_eq (by rw [monitor]; rfl)
      rw [MonitorState.next, answered] at next_eq
      cases chunks : state.db.getChunksOnNode event.locationOrder node.id with
      | nil =>
          -- without a stored location the node holds nothing at all
          refine .inr (.inr (.inl ?_))
          rw [db_eq, ← Bool.not_eq_true]
          intro held
          obtain ⟨location, listed, is_stored⟩ := List.any_eq_true.mp (stored held)
          have empty := (event.locationOrder.arrange_eq_nil_iff).mp chunks
          exact List.not_mem_nil (empty ▸ List.mem_filter.mpr ⟨listed, is_stored⟩)
      | cons location locations =>
          rw [chunks] at next_eq
          rw [next_eq]
          exact .inl rfl
  | findTargets nodeId chunks rest =>
      rw [monitor] at keeps evacuating next_eq ready
      obtain rfl : nodeId = node.id := Option.some.inj evacuating
      have db_eq : (state.apply config (.monitor event)).db = state.db :=
        monitor_db_eq (by rw [monitor]; rfl)
      have answered : event.outcome = .done := keeps
      rw [MonitorState.next, answered] at next_eq
      cases targets : evacuationTargets state.db event.nodeOrder node.id with
      | nil =>
          -- nobody else is online now
          refine .inr (.inr (.inr fun other => companions_apply draining ?_))
          by_cases same : other = node.id
          · exact .inl same
          · refine .inr (.inl ?_)
            rw [db_eq, ← Bool.not_eq_true]
            intro online
            obtain ⟨row, row_known, row_eq⟩ := List.any_eq_true.mp online
            rw [Bool.and_eq_true, beq_iff_eq, beq_iff_eq] at row_eq
            have found : row ∈ evacuationTargets state.db event.nodeOrder node.id :=
              mem_evacuationTargets.mpr ⟨row_known, row_eq.2, row_eq.1 ▸ same⟩
            rw [targets] at found
            cases found
      | cons target others =>
          rw [targets] at next_eq
          cases jobs : evacuationJobs node.id chunks (target :: others) with
          | nil => exact absurd jobs (evacuationJobs_ne_nil node.id ready (List.cons_ne_nil _ _))
          | cons job jobs' =>
              have made : job ∈ evacuationJobs node.id chunks (target :: others) :=
                jobs ▸ List.mem_cons_self
              rw [jobs] at next_eq
              rw [next_eq]
              exact .inl (mem_evacuationJobs made).1
  | createJob job jobs rest =>
      rw [monitor] at keeps evacuating ready
      have answered : event.outcome = .done := keeps
      have source : job.sourceNodeId = some node.id := evacuating
      refine .inr (.inl ?_)
      change (if event.outcome.applied then state.monitor.write state.db state.now
        else state.db).hasRepairJob node.id = true
      rw [answered, monitor]
      change ((state.db.createRepairJob job).1).hasRepairJob node.id = true
      have accepted : (state.db.hasNode job.targetNodeId &&
          job.sourceNodeId.all state.db.hasNode) = true := by
        rw [Bool.and_eq_true, source]
        exact ⟨ready job List.mem_cons_self,
          List.any_eq_true.mpr ⟨node, known, beq_iff_eq.mpr rfl⟩⟩
      rw [Database.createRepairJob, if_pos accepted]
      refine List.any_eq_true.mpr ⟨job, List.mem_append_right _ (List.mem_singleton_self job), ?_⟩
      simp [source]
  | _ =>
      rw [monitor] at evacuating
      cases evacuating

/-- A node that is draining after a step is covered. -/
theorem Evacuated.covered_apply (evacuated : state.Evacuated) (keeps : state.KeepsEvacuating step)
    {row : Node} (member : row ∈ (state.apply config step).db.nodes)
    (draining : row.status = .draining) :
    (state.apply config step).monitor.evacuating = some row.id ∨
      (state.apply config step).db.hasRepairJob row.id = true ∨
        holds (state.apply config step).db row.id = false ∨
          ∀ other, (state.apply config step).companions row.id other = false := by
  have drains : hasStatus (state.apply config step).db row.id .draining = true :=
    draining ▸ hasStatus_of_mem member
  rcases (Lifecycle.mem_apply_nodes evacuated.unique).mp member with ⟨node, known, -, rfl⟩ | added
  · rw [Lifecycle.rowAfter_id] at drains ⊢
    rcases Lifecycle.draining_rowAfter draining with was | ⟨event, rest, rfl, applied, marks⟩
    · have drained : hasStatus state.db node.id .draining = true := was ▸ hasStatus_of_mem known
      rcases evacuated.covered node known was with evacuating | blocked | empty | alone
      · by_cases others : ∀ event, step ≠ .monitor event
        · exact .inl (evacuating_apply others evacuating)
        · obtain ⟨event, is_monitor⟩ := not_forall.mp others
          obtain rfl := not_not.mp is_monitor
          exact evacuated.evacuating_monitor keeps known evacuating drains
      · exact .inr (.inl (Lifecycle.hasRepairJob_apply blocked step))
      · refine .inr (.inr (.inl ?_))
        rw [← Bool.not_eq_true]
        intro held
        rcases Lifecycle.holds_apply held with before | ⟨statements, chunkId, rfl⟩
        · rw [empty] at before
          cases before
        · have idle : hasStatus state.db node.id .draining = false := keeps
          rw [drained] at idle
          cases idle
      · exact .inr (.inr (.inr fun other =>
          companions_apply drains (.inr (.inr ⟨drained, alone other⟩))))
    · have marking : state.monitor.KeepsEvacuating state.db event.outcome := keeps
      rw [marks] at marking
      refine .inl ?_
      change (state.monitor.next config state.db state.now event).evacuating = _
      rw [marks, MonitorState.next, marking applied]
      rfl
  · obtain ⟨id, registration, -, new⟩ := Lifecycle.newRows_eq_register added
    obtain ⟨-, -, created, row_eq⟩ := NodeOp.newRows_eq_register new
    rw [row_eq] at draining
    cases draining

theorem Evacuated.apply (evacuated : state.Evacuated) (keeps : state.KeepsEvacuating step) :
    (state.apply config step).Evacuated :=
  { unique := Lifecycle.uniqueNodes_apply evacuated.unique step
    covered := fun _ member draining => evacuated.covered_apply keeps member draining
    ready := evacuated.ready_apply }

theorem Evacuated.orphansNothing (evacuated : state.Evacuated) (keeps : state.KeepsEvacuating step) :
    state.OrphansNothing step := by
  cases step with
  | monitor event =>
      intro applied
      have deleting : state.monitor.KeepsEvacuating state.db event.outcome := keeps
      have covered := evacuated.covered
      cases monitor : state.monitor with
      | deleteNode nodeId rest =>
          rw [monitor] at deleting covered
          intro exists_row unblocked accompanied chunk _ _ location listed _ located
          obtain ⟨node, known, is_node⟩ := List.any_eq_true.mp exists_row
          obtain rfl : node.id = nodeId := beq_iff_eq.mp is_node
          obtain ⟨other, -, companion⟩ := accompanied
          rcases covered node known (deleting applied node known rfl) with
            evacuating | blocked | empty | alone
          · cases evacuating
          · rw [unblocked] at blocked
            cases blocked
          · have held : holds state.db node.id = true :=
              List.any_eq_true.mpr ⟨location, listed, beq_iff_eq.mpr located⟩
            rw [empty] at held
            cases held
          · rw [alone] at companion
            cases companion
      | _ => trivial
  | _ => trivial

end DrainedLifecycle

/-- From tables without nodes, in every run whose steps keep evacuations going, no deletion takes
the last location of a chunk of a live file while some other node was online throughout the
draining period of the deleted one. -/
theorem removal_orphans_nothing (config : FaultToleranceConfig) (db : Database) (now : Time)
    (empty : db.nodes = []) (steps : List LifecycleStep)
    (keeps : EveryStep (DrainedLifecycle.apply config) DrainedLifecycle.KeepsEvacuating
      (.start db now) steps) :
    EveryStep (DrainedLifecycle.apply config) DrainedLifecycle.OrphansNothing (.start db now)
      steps := by
  have evacuated : (DrainedLifecycle.start db now).Evacuated :=
    { unique :=
        { ids := by simp [DrainedLifecycle.start, Lifecycle.start, empty]
          peerIds := by simp [DrainedLifecycle.start, Lifecycle.start, empty] }
      covered := by simp [DrainedLifecycle.start, Lifecycle.start, empty]
      ready := trivial }
  exact everyStep_of_everyStep (fun _ _ inv met => inv.apply met)
    (fun _ _ inv met => inv.orphansNothing met) evacuated keeps

/-! ## A node with the only copy of a chunk -/

namespace LastCopy

/-- Statements of the monitor that succeed. -/
def answered (count : Nat) : List LifecycleStep := List.replicate count (.monitor .answered)

/-- Time passes, the second node reports, and the monitor starts a cycle. -/
def nextCycle (seconds : Nat) : List LifecycleStep :=
  [.wait (seconds * 1000000), .updateNodeHeartbeat 2, .startCycle]

/-- Two nodes register, a file is stored on the first one, which then goes offline and, four hours
later, is marked as draining. -/
def untilDraining : List LifecycleStep :=
  [.createNode 1 firstRegistration, .createNode 2 { firstRegistration with peerId := "peer-2" },
    .updateNodeHeartbeat 1,
    .storage (.createFile 7
      { id := none
        name := "report"
        path := "bucket/report"
        contentHash := [5]
        sizeBytes := 1
        chunkCount := 1
        dataShards := 1
        parityShards := 0
        chunkSize := 1
        ownerId := none
        bucket := some "bucket"
        contentType := none }),
    .storage (.createChunk firstShard),
    .storage (.addChunkLocation .up [5] 1)] ++
    nextCycle 301 ++ answered 5 ++ nextCycle (4 * 60 * 60 + 1) ++ answered 3

/-- The last statements of that cycle, and a week later those of a cycle that deletes the node. -/
def untilDeleted : List LifecycleStep :=
  answered 2 ++ nextCycle (7 * 24 * 60 * 60) ++ answered 4

/-- The repair job of the evacuation keeps the node and its location. -/
theorem removal_blocked_by_evacuation :
    EveryStep (DrainedLifecycle.apply .default) DrainedLifecycle.OrphansNothing (.start .empty 0)
      (untilDraining ++ answered 3 ++ untilDeleted) :=
  removal_orphans_nothing .default .empty 0 rfl _ (by decide +kernel)

/-- If the evacuation cannot read the chunks of the node, nothing is evacuated, and the deletion
takes the only location. -/
theorem removal_orphans_after_failed_evacuation :
    ¬ ∀ (config : FaultToleranceConfig) (db : Database) (now : Time), db.nodes = [] →
      ∀ steps : List LifecycleStep, EveryStep (DrainedLifecycle.apply config)
        DrainedLifecycle.OrphansNothing (.start db now) steps := by
  intro orphans
  have run := orphans .default .empty 0 rfl
    (untilDraining ++ [.monitor { MonitorState.Event.answered with outcome := .failed }] ++
      untilDeleted)
  exact absurd run (by decide)

end LastCopy

end CyxCloud.Gateway
