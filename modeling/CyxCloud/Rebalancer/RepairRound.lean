import CyxCloud.Rebalancer.ConfirmedLocations
import CyxCloud.Rebalancer.ProgressChannel
import CyxCloud.Rebalancer.QuarantinedTargets

/-!
# A round of repair

Scan, plan and execution together: a task that is reported as successful leaves its chunk with as
many counted locations as the detector aims at.
-/

namespace CyxCloud.Rebalancer

open CyxCloud.Core Library Metadata

namespace Repair

variable {repair : Repair}

/-! ## Tasks -/

/-- The transfer function of a repair. -/
def transferFn (repair : Repair) : TransferFn TransferWorld TransferCall TransferEvent :=
  createTransferFn repair.blake3 repair.isReachable

section Tasks

variable {config : ExecutorConfig} {task : RepairTask} {world : TransferWorld}

theorem callSound_call {targets : List String} (targeted : targets ⊆ task.targetNodes) :
    repair.CallSound world task
      (repair.transferFn.call task.sourceNode task.taskId task.chunkId targets) where
  chunkId_eq := rfl
  remaining := targeted
  successful _ member := nomatch member
  stage _ _ _ := trivial

/-- An attempt that takes targets from the list has recorded them. -/
theorem AttemptsSound.record {attempts : Attempts}
    (sound : repair.AttemptsSound world task attempts)
    {outcome : Except ExecutorError (List String)}
    (succeeded : ∀ targets, outcome = .ok targets →
      ∀ peerId ∈ targets, repair.Located world task.chunkId peerId) :
    repair.AttemptsSound world task (attempts.record task outcome) := by
  cases outcome with
  | error cause => exact ⟨sound.left, sound.located⟩
  | ok targets =>
      refine ⟨List.Subset.trans (List.filter_subset_self _) sound.left, ?_⟩
      intro peerId member
      rcases sound.located peerId member with left | located
      · by_cases done : peerId ∈ targets
        · exact .inr (succeeded targets rfl peerId done)
        · refine .inl (List.mem_filter.mpr ⟨left, ?_⟩)
          simpa using done
      · exact .inr located

theorem phaseSound_afterAttempt {attempts : Attempts} {semaphore : Nat}
    {outcome : Except ExecutorError (List String)}
    (recorded : repair.AttemptsSound world task (attempts.record task outcome)) :
    repair.PhaseSound world task (afterAttempt config task semaphore attempts outcome) := by
  rcases @afterAttempt_cases TransferCall config task semaphore attempts outcome with done |
    ⟨-, retried⟩
  · rw [done]
    exact recorded
  · rw [retried]
    exact ⟨recorded.left, recorded.located⟩

theorem resultSound_result {attempts : Attempts}
    (sound : repair.AttemptsSound world task attempts) :
    repair.ResultSound world task (some (attempts.result task)) := by
  intro reported result_eq success peerId member
  cases result_eq
  have none_left : attempts.targetsFailed = [] := by
    simpa [Attempts.result] using success
  rcases sound.located peerId member with left | located
  · rw [none_left] at left
    cases left
  · exact located

/-- A task that moves records no location but a confirmed one, and reports success only once all
its targets are recorded. -/
theorem taskStep_sound (task_mem : task ∈ repair.plan.tasks)
    {shared after : Shared TransferWorld} {phase next : Phase TransferCall}
    (step : TaskStep config repair.transferFn task shared phase after next)
    (sound : repair.WorldSound shared.world)
    (phase_sound : repair.PhaseSound shared.world task phase) :
    repair.WorldSound after.world ∧ repair.Grows shared.world after.world ∧
      repair.PhaseSound after.world task next := by
  cases step with
  | reportPending sent =>
      rw [reportProgress_eq sent]
      exact ⟨sound, .refl _, trivial⟩
  | reportRunning sent =>
      rw [reportProgress_eq sent]
      exact ⟨sound, .refl _, ⟨List.Subset.refl _, fun _ => .inl⟩,
        callSound_call (List.Subset.refl _)⟩
  | reportRetry sent =>
      rw [reportProgress_eq sent]
      exact ⟨sound, .refl _, phase_sound⟩
  | reportCompletion sent =>
      rw [reportProgress_eq sent]
      exact ⟨sound, .refl _, resultSound_result phase_sound⟩
  | entered =>
      have same : (shared.entry config task.sourceNode).1.world = shared.world := by
        unfold Shared.entry
        split <;> rfl
      rw [same]
      exact ⟨sound, .refl _, trivial⟩
  | slept => exact ⟨sound, .refl _, phase_sound, callSound_call phase_sound.left⟩
  | resumed resumes =>
      obtain ⟨later, grows, resumed⟩ := resume_sound task_mem sound phase_sound.2 resumes
      exact ⟨later, grows, phase_sound.1.mono grows, resumed⟩
  | @returned semaphore attempts call event world outcome returns =>
      obtain ⟨later, grows, returned⟩ := resume_sound task_mem sound phase_sound.2 returns
      refine ⟨later, grows, phaseSound_afterAttempt ((phase_sound.1.mono grows).record ?_)⟩
      rintro targets succeeded
      cases outcome with
      | error cause => cases succeeded
      | ok reached =>
          cases succeeded
          exact returned
  | timedOut =>
      obtain ⟨later, grows⟩ := abandon_sound sound phase_sound.2
      refine ⟨later, grows, phaseSound_afterAttempt ((phase_sound.1.mono grows).record ?_)⟩
      rintro targets ⟨⟩
  | panicked =>
      obtain ⟨later, grows⟩ := abandon_sound sound phase_sound.2
      refine ⟨later, grows, ?_⟩
      rintro reported ⟨⟩
  | returnSource | returnGlobal => exact ⟨sound, .refl _, phase_sound⟩
  | acquireGlobal _ | found _ | missing _ | acquireSource _ => exact ⟨sound, .refl _, trivial⟩

end Tasks

/-! ## Runs -/

section Runs

variable {config : ExecutorConfig} {executor : Executor TransferWorld TransferCall}

/-- A process runs a task of the plan, which has achieved what it should where it stands. -/
def ProcessSound (repair : Repair) (world : TransferWorld) (process : Process TransferCall) :
    Prop :=
  process.task ∈ repair.plan.tasks ∧ repair.PhaseSound world process.task process.phase

/-- The world, the processes and the tasks still to be spawned are sound. -/
structure RunSound (repair : Repair) (executor : Executor TransferWorld TransferCall) : Prop where
  world : repair.WorldSound executor.pool.shared.world
  tasks : ∀ process ∈ executor.pool.processes,
    repair.ProcessSound executor.pool.shared.world process
  unspawned : executor.unspawned ⊆ repair.plan.tasks

theorem RunSound.background (sound : repair.RunSound executor) (event : TransferEvent) :
    repair.RunSound (executor.act config repair.transferFn (.background event)) := by
  obtain ⟨later, grows⟩ := background_sound sound.world event
  refine ⟨later, ?_, sound.unspawned⟩
  intro process member
  obtain ⟨planned, phase_sound⟩ := sound.tasks process member
  exact ⟨planned, phase_sound.mono grows⟩

theorem RunSound.spawn (sound : repair.RunSound executor) (index : Nat) :
    repair.RunSound (executor.act config repair.transferFn (.spawn index)) := by
  simp only [Executor.act]
  rcases executor.spawnNext_cases index with same | ⟨before, task, after, listed, left, spawned⟩
  · rw [same]
    exact sound
  · have known : before ++ task :: after ⊆ repair.plan.tasks := by
      rw [← listed]
      exact sound.unspawned
    have left_known : before ++ after ⊆ repair.plan.tasks := by
      refine List.Subset.trans (List.append_subset.mpr ⟨?_, ?_⟩) known
      · exact List.subset_append_left _ _
      · exact List.subset_append_of_subset_right _ (List.subset_cons_self _ _)
    rcases spawned with skipped | spawned
    · refine ⟨?_, ?_, by rw [left]; exact left_known⟩
      · rw [skipped]
        exact sound.world
      · rw [skipped]
        exact sound.tasks
    · refine ⟨?_, ?_, by rw [left]; exact left_known⟩
      · rw [spawned]
        exact sound.world
      · rw [spawned]
        intro process member
        rcases Pool.mem_spawn.mp member with earlier | rfl
        · exact sound.tasks process earlier
        · exact ⟨known (by simp), trivial⟩

theorem RunSound.task (sound : repair.RunSound executor) (index : Nat)
    (move : Move TransferEvent) :
    repair.RunSound (executor.act config repair.transferFn (.task index move)) := by
  have moves : ∀ {process shared moved}, process ∈ executor.pool.processes →
      executeTask config repair.transferFn executor.pool.shared process move =
        some (shared, moved) →
      moved.task = process.task ∧ repair.WorldSound shared.world ∧
        repair.Grows executor.pool.shared.world shared.world ∧
        repair.PhaseSound shared.world process.task moved.phase := by
    intro process shared moved member stepped
    obtain ⟨planned, phase_sound⟩ := sound.tasks process member
    obtain ⟨task_eq, step⟩ := taskStep_of_executeTask stepped
    exact ⟨task_eq, taskStep_sound planned step sound.world phase_sound⟩
  refine ⟨?_, ?_, sound.unspawned⟩
  · simp only [Executor.act]
    rcases @Pool.total_move_cases _ _ _ (executeTask config repair.transferFn) executor.pool index
      move with same | ⟨process, member, shared, moved, stepped, shared_eq, -⟩
    · rw [same]
      exact sound.world
    · rw [shared_eq]
      exact (moves member stepped).2.1
  · apply @Pool.all_move _ _ _ _
      (fun (shared : Shared TransferWorld) process => repair.ProcessSound shared.world process)
    · intro process shared moved member stepped
      obtain ⟨task_eq, -, -, phase_sound⟩ := moves member stepped
      rw [ProcessSound, task_eq]
      exact ⟨(sound.tasks process member).1, phase_sound⟩
    · intro process shared moved other member _ stepped other_sound
      obtain ⟨-, -, grows, -⟩ := moves member stepped
      exact ⟨other_sound.1, other_sound.2.mono grows⟩
    · exact sound.tasks

theorem RunSound.act (sound : repair.RunSound executor) {action : Action TransferEvent}
    (not_started : ∀ plan, action ≠ .execute plan) :
    repair.RunSound (executor.act config repair.transferFn action) := by
  cases action with
  | execute plan => exact absurd rfl (not_started plan)
  | spawn index => exact sound.spawn index
  | shutdown | receive | closeReceiver => exact ⟨sound.world, sound.tasks, sound.unspawned⟩
  | background event => exact sound.background event
  | task index move => exact sound.task index move

end Runs

end Repair

/-! ## Rounds -/

/-- The keys of the tables of nodes, chunks and locations. -/
structure Keyed (db : Database) : Prop where
  nodes : (db.nodes.map Metadata.Node.id).Nodup
  peers : (db.nodes.map Metadata.Node.peerId).Nodup
  chunks : UniqueChunks db
  locations : (db.chunkLocations.map Database.locationKey).Nodup

section Available

variable {db : Database} {env : RoundEnv} {chunkId : Bytes}

/-- A peer is counted once for a chunk. -/
theorem availablePeers_nodup (nodes_unique : (db.nodes.map Metadata.Node.id).Nodup)
    (peers_unique : (db.nodes.map Metadata.Node.peerId).Nodup)
    (locations_unique : (db.chunkLocations.map Database.locationKey).Nodup) :
    (availablePeers db env chunkId).Nodup := by
  refine List.Nodup.filter _ ?_
  have arranged := env.orders.locations.arrange_perm
    (db.chunkLocations.filter fun row => row.chunkId == chunkId && row.status == .stored)
  refine ((arranged.filterMap _).nodup_iff).mpr ?_
  refine List.pairwise_filterMap.mpr ?_
  have keys := List.pairwise_map.mp locations_unique
  refine (keys.filter _).imp_of_mem ?_
  intro left right left_mem right_mem different peer left_peer other right_peer same
  subst same
  have left_chunk := (List.mem_filter.mp left_mem).2
  have right_chunk := (List.mem_filter.mp right_mem).2
  simp only [Bool.and_eq_true, beq_iff_eq] at left_chunk right_chunk
  obtain ⟨node, found, rfl⟩ := Option.map_eq_some_iff.mp left_peer
  obtain ⟨twin, twin_found, twin_peer⟩ := Option.map_eq_some_iff.mp right_peer
  obtain ⟨node_mem, node_id⟩ := (getNode_eq_some_iff nodes_unique).mp found
  obtain ⟨twin_mem, twin_id⟩ := (getNode_eq_some_iff nodes_unique).mp twin_found
  have same_node := List.inj_on_of_nodup_map peers_unique twin_mem node_mem twin_peer
  refine different (Prod.ext (left_chunk.1.trans right_chunk.1.symm) ?_)
  change left.nodeId = right.nodeId
  rw [← node_id, ← twin_id, same_node]

end Available

section Scans

variable {Load Score : Type*} [Preorder Load] [DecidableLE Load] [DecidableLT Load]
  [Preorder Score] [DecidableLE Score] {arithmetic : LoadArithmetic Load Score} {noLoad : Load}
  {env : RoundEnv} {db : Database} {detector : Detector} {planner : Planner Load}
  {plan : RepairPlan}

/-- The rows that the query delivers are for different chunks. -/
theorem delivered_nodup (keyed : Keyed db) {limit : Int}
    {order : RowOrder ChunkReplicationStatus} {rows : List ChunkReplicationStatus}
    (delivered : db.getUnderReplicatedChunks order limit = .ok rows) :
    (rows.map ChunkReplicationStatus.chunkId).Nodup := by
  rw [Database.getUnderReplicatedChunks] at delivered
  split at delivered
  · cases delivered
  · obtain rfl := Except.ok.inj delivered
    refine List.Nodup.sublist ((List.take_sublist _ _).map _) ?_
    have sorted := (List.mergeSort_perm (order.arrange (db.chunkReplicationStatus.filter fun row =>
      decide (row.replicasNeeded > 0))) fun left right =>
        decide (right.replicasNeeded ≤ left.replicasNeeded)).trans (order.arrange_perm _)
    refine ((sorted.map _).nodup_iff).mpr ?_
    refine List.Nodup.sublist (List.filter_sublist.map _) ?_
    rw [Database.chunkReplicationStatus, List.map_map]
    exact List.Nodup.sublist (List.filter_sublist.map _) keyed.chunks

/-- What a plan says about a task after a scan. -/
structure TaskPlanned (db : Database) (env : RoundEnv) (task : RepairTask) : Prop where
  copies : ∀ current target, task.issue.health = .underReplicated current target →
    (availablePeers db env task.chunkId).length + task.targetNodes.length = target
  distinct : task.targetNodes.Nodup
  outside : ∀ peerId ∈ task.targetNodes, peerId ∉ availablePeers db env task.chunkId
  healthy : ∀ node ∈ db.nodes, node.peerId ∈ task.targetNodes →
    isHealthyStatus node.status = true

theorem taskPlanned_of_scanAndPlan (keyed : Keyed db)
    (planned : scanAndPlan arithmetic noLoad env db detector planner = .ok (some plan))
    {task : RepairTask} (task_mem : task ∈ plan.tasks) : TaskPlanned db env task := by
  obtain ⟨cached, result, scanned, -, made⟩ := planScan_eq_some_iff.mp planned
  obtain ⟨-, -, sound⟩ := createPlan_spec arithmetic planner result.allIssues
    (getNodeInfo_distinct noLoad keyed.peers env.infoOrder)
  obtain ⟨before, after, tasks_eq⟩ := List.append_of_mem task_mem
  have task_sound := (sound plan made).1.tasks before task after tasks_eq
  obtain ⟨rows, delivered, perm⟩ := scan_issues scanned
  obtain ⟨row, row_mem, issue_eq⟩ := List.mem_map.mp (perm.mem_iff.mp task_sound.issue_mem)
  have chunk_eq : row.chunkId = task.chunkId := by
    rw [task_sound.chunkId_eq, ← issue_eq, scanIssue_chunkId]
  have current_eq : task.issue.currentNodes = availablePeers db env task.chunkId := by
    rw [← issue_eq, scanIssue_currentNodes, chunk_eq]
  refine
    { copies := ?_
      distinct := task_sound.targets_nodup
      outside := ?_
      healthy := ?_ }
  · intro current target health_eq
    have copies := task_sound.copies
    rw [health_eq] at copies
    have counted : availablePeers db env row.chunkId ≠ [] := by
      intro none
      have critical : task.issue.health = .critical := by
        rw [← issue_eq]
        change (if (availablePeers db env row.chunkId).isEmpty then ChunkHealth.critical
          else _) = _
        rw [none]
        rfl
      rw [critical] at health_eq
      cases health_eq
    rw [← issue_eq, scanIssue_health _ row counted] at health_eq
    cases health_eq
    rw [← chunk_eq]
    exact copies
  · intro peerId member
    obtain ⟨info, -, rfl, target_sound⟩ := task_sound.targets peerId member
    rw [← current_eq]
    exact target_sound.outside
  · intro node node_mem member
    obtain ⟨info, info_mem, info_id, target_sound⟩ := task_sound.targets node.peerId member
    obtain ⟨listed, listed_mem, rfl⟩ := List.mem_map.mp info_mem
    have same := List.inj_on_of_nodup_map keyed.peers (mem_getAllNodes.mp listed_mem) node_mem
      info_id
    rw [← same]
    exact target_sound.healthy

/-- The tasks of a plan are for different chunks. -/
theorem task_eq_of_chunkId (keyed : Keyed db)
    (planned : scanAndPlan arithmetic noLoad env db detector planner = .ok (some plan))
    {task other : RepairTask} (task_mem : task ∈ plan.tasks) (other_mem : other ∈ plan.tasks)
    (same : other.chunkId = task.chunkId) : other = task := by
  obtain ⟨cached, result, scanned, -, made⟩ := planScan_eq_some_iff.mp planned
  have distinct := getNodeInfo_distinct noLoad keyed.peers env.infoOrder
  obtain ⟨-, -, sound⟩ := createPlan_spec arithmetic planner result.allIssues distinct
  obtain ⟨rows, delivered, perm⟩ := scan_issues scanned
  have issues_nodup : (result.allIssues.map ChunkIssue.chunkId).Nodup := by
    refine ((perm.map _).nodup_iff).mpr ?_
    rw [List.map_map]
    exact delivered_nodup keyed delivered
  have chunks_eq : plan.tasks.map RepairTask.chunkId =
      (plan.tasks.map RepairTask.issue).map ChunkIssue.chunkId := by
    rw [List.map_map]
    refine List.map_congr_left fun listed member => ?_
    obtain ⟨before, after, tasks_eq⟩ := List.append_of_mem member
    exact ((sound plan made).1.tasks before listed after tasks_eq).chunkId_eq
  have sorted_nodup := (((sortIssues_perm result.allIssues).map _).nodup_iff).mpr issues_nodup
  have tasks_nodup : (plan.tasks.map RepairTask.chunkId).Nodup := by
    rw [chunks_eq]
    exact sorted_nodup.sublist ((createPlan_issues_sublist distinct made).map _)
  exact List.inj_on_of_nodup_map tasks_nodup other_mem task_mem same

/-- Once all targets of a task are recorded, its chunk has as many counted locations as the
detector aims at. -/
theorem length_availablePeers (keyed : Keyed db)
    (planned : scanAndPlan arithmetic noLoad env db detector planner = .ok (some plan))
    {blake3 : Bytes → Bytes} {world : TransferWorld}
    (sound : Repair.WorldSound ⟨blake3, env.isReachable, db, plan⟩ world) {task : RepairTask}
    (task_mem : task ∈ plan.tasks)
    (located : ∀ peerId ∈ task.targetNodes,
      Repair.Located ⟨blake3, env.isReachable, db, plan⟩ world task.chunkId peerId)
    {current target : Nat} (health_eq : task.issue.health = .underReplicated current target) :
    (availablePeers world.db env task.chunkId).length = target := by
  have task_planned := taskPlanned_of_scanAndPlan keyed planned task_mem
  have nodes_eq : world.db.nodes = db.nodes := sound.extended.nodes_eq
  have later_nodes : (world.db.nodes.map Metadata.Node.id).Nodup := nodes_eq ▸ keyed.nodes
  have later_peers : (world.db.nodes.map Metadata.Node.peerId).Nodup := nodes_eq ▸ keyed.peers
  have peers : ∀ peerId, peerId ∈ availablePeers world.db env task.chunkId ↔
      peerId ∈ availablePeers db env task.chunkId ++ task.targetNodes := by
    intro peerId
    rw [List.mem_append, mem_availablePeers later_nodes later_peers,
      mem_availablePeers keyed.nodes keyed.peers, nodes_eq]
    constructor
    · rintro ⟨node, node_mem, rfl, counted, row, row_mem, chunk_eq, node_eq, stored⟩
      rcases sound.rows row row_mem with former | ⟨-, holder, holder_eq, confirmed⟩
      · exact .inl ⟨node, node_mem, rfl, counted, row, former, chunk_eq, node_eq, stored⟩
      · right
        have same : holder = node :=
          List.inj_on_of_nodup_map keyed.nodes confirmed.known node_mem (holder_eq.trans node_eq)
        obtain ⟨other, other_mem, other_chunk, targeted⟩ := confirmed.planned
        rw [← same, ← task_eq_of_chunkId keyed planned task_mem other_mem
          (other_chunk.trans chunk_eq)]
        exact targeted
    · rintro (⟨node, node_mem, peer_eq, counted, stored⟩ | targeted)
      · exact ⟨node, node_mem, peer_eq, counted, sound.extended.stored stored⟩
      · obtain ⟨node, node_mem, rfl, reachable, stored⟩ := located peerId targeted
        refine ⟨node, node_mem, rfl, ?_, stored⟩
        have healthy := task_planned.healthy node node_mem targeted
        simp only [isHealthyStatus, Bool.or_eq_true, beq_iff_eq] at healthy
        change env.isReachable node.grpcAddress = true at reachable
        simp [countedNode, healthy, reachable]
  have before_nodup : (availablePeers db env task.chunkId ++ task.targetNodes).Nodup := by
    refine List.nodup_append.mpr
      ⟨availablePeers_nodup keyed.nodes keyed.peers keyed.locations, task_planned.distinct, ?_⟩
    rintro peerId counted _ targeted rfl
    exact task_planned.outside peerId targeted counted
  have after_nodup : (availablePeers world.db env task.chunkId).Nodup :=
    availablePeers_nodup later_nodes later_peers sound.unique
  have perm := (List.perm_ext_iff_of_nodup after_nodup before_nodup).mpr peers
  rw [perm.length_eq, List.length_append]
  exact task_planned.copies current target health_eq

/-- The world before a round. -/
def TransferWorld.before (db : Database) (stores : String → Node.ChunkStore) : TransferWorld :=
  { db
    stores
    inFlight := []
    confirmations := [] }

/-- What holds while a round repairs: the chunk of a task that is reported as successful has as many
counted locations as the detector aims at, a location is added only for a chunk and a target of the
plan that has confirmed the chunk, and no location is removed. -/
structure RoundSound (repair : Repair) (env : RoundEnv)
    (executor : Executor TransferWorld TransferCall) : Prop where
  restored : ∀ process ∈ executor.pool.processes, ∀ result,
    process.phase = .finished (some result) → result.success = true →
      ∀ current target, process.task.issue.health = .underReplicated current target →
        (availablePeers executor.pool.shared.world.db env process.task.chunkId).length = target
  added : ∀ row ∈ executor.pool.shared.world.db.chunkLocations,
    row ∈ repair.db.chunkLocations ∨ row.status = .stored ∧
      ∃ node, node.id = row.nodeId ∧
        repair.ConfirmedOn executor.pool.shared.world row.chunkId node
  kept : ∀ row ∈ repair.db.chunkLocations,
    ∃ now ∈ executor.pool.shared.world.db.chunkLocations, now.chunkId = row.chunkId ∧
      now.nodeId = row.nodeId ∧ (now = row ∨ now.status = .stored)

/-- In every round, whatever the transfers, the timeouts and the order of the tasks, a task that is
reported as successful restores the target, and locations are only added, once confirmed. -/
theorem round_restores_target (arithmetic : LoadArithmetic Load Score) (noLoad : Load)
    (env : RoundEnv) (db : Database) (keyed : Keyed db) (detector : Detector)
    (planner : Planner Load) (plan : RepairPlan)
    (planned : scanAndPlan arithmetic noLoad env db detector planner = .ok (some plan))
    (blake3 : Bytes → Bytes) (stores : String → Node.ChunkStore) (config : ExecutorConfig)
    (start : Executor TransferWorld TransferCall)
    (world_eq : start.pool.shared.world = .before db stores)
    (no_tasks : start.pool.processes = []) (none_unspawned : start.unspawned = [])
    (actions : List (Action TransferEvent))
    (one_plan : ∀ action ∈ actions, ∀ other, action ≠ .execute other) :
    EveryState (Executor.act config (createTransferFn blake3 env.isReachable))
      (RoundSound ⟨blake3, env.isReachable, db, plan⟩ env)
      (start.act config (createTransferFn blake3 env.isReachable) (.execute plan)) actions := by
  have unchanged : Repair.WorldSound ⟨blake3, env.isReachable, db, plan⟩ (.before db stores) :=
    { extended := .refl db
      unique := keyed.locations
      rows := fun _ member => .inl member
      kept := fun row member => ⟨row, member, rfl, rfl, .inl rfl⟩
      inFlight := fun _ _ member => absurd member List.not_mem_nil }
  have begun : Repair.RunSound ⟨blake3, env.isReachable, db, plan⟩
      (start.act config (createTransferFn blake3 env.isReachable) (.execute plan)) := by
    refine ⟨?_, ?_, ?_⟩
    · simp only [Executor.act, world_eq]
      exact unchanged
    · simp only [Executor.act, no_tasks]
      exact fun _ member => absurd member List.not_mem_nil
    · have only_plan : (start.act config (createTransferFn blake3 env.isReachable)
          (.execute plan)).unspawned = start.unspawned ++ plan.tasks := by
        simp [Executor.act, Executor.unspawned]
      rw [only_plan, none_unspawned]
      exact List.Subset.refl _
  have keeps : ∀ (executor : Executor TransferWorld TransferCall) (action : Action TransferEvent),
      Repair.RunSound ⟨blake3, env.isReachable, db, plan⟩ executor →
        (∀ other, action ≠ .execute other) →
          Repair.RunSound ⟨blake3, env.isReachable, db, plan⟩
            (executor.act config (createTransferFn blake3 env.isReachable) action) :=
    fun _ _ sound not_started => sound.act not_started
  have kept := everyState_of_everyStep keeps begun
    (everyStep_of_forall (fun action member _ => one_plan action member) _)
  refine kept.mono fun executor sound => ?_
  refine ⟨?_, sound.world.rows, sound.world.kept⟩
  intro process member result phase_eq success current target health_eq
  obtain ⟨task_mem, phase_sound⟩ := sound.tasks process member
  rw [phase_eq] at phase_sound
  exact length_availablePeers keyed planned sound.world task_mem
    (phase_sound result rfl success) health_eq

end Scans

namespace OneChunk

/-- Three bytes of data. -/
def contents : Bytes := [97, 98, 99]

/-- Their hash. -/
def digest : Bytes :=
  [100, 55, 179, 172, 56, 70, 81, 51, 255, 182, 59, 117, 39, 58, 141, 181, 72, 197, 88, 70, 93,
    121, 219, 3, 253, 53, 156, 108, 213, 189, 157, 133]

/-- The hash function on the data. -/
def hash (data : Bytes) : Bytes := if data = contents then digest else data

/-- The chunk, which lacks a replica. -/
def chunk : Metadata.Chunk :=
  { ThreeNodes.chunk 1 with
    chunkId := digest
    replicationFactor := 2 }

/-- Two online nodes; the chunk is stored on the first. -/
def db : Database :=
  { ThreeNodes.db [] with
    nodes := [ThreeNodes.node 1 "peer-1" .online, ThreeNodes.node 2 "peer-2" .online]
    chunks := [chunk]
    chunkLocations := [{ ThreeNodes.location 1 with chunkId := digest }] }

/-- The first node holds the chunk. -/
def stores (address : String) : Node.ChunkStore := fun chunkId =>
  if address = "http://peer-1:50051" ∧ chunkId = digest then some contents else none

/-- The task goes on. -/
def proceed : Action TransferEvent := .task 0 .proceed

/-- The request of its transfer is answered. -/
def answer : Action TransferEvent := .task 0 (.transfer (.reply (.answered none)))

/-- The task is spawned, its first attempt times out while the location is recorded, the request
arrives later, and the second attempt is answered throughout. -/
def actions : List (Action TransferEvent) :=
  .spawn 0 :: List.replicate 6 proceed ++ List.replicate 5 answer ++
    [.task 0 .timeout, .background (.arrival 0 none)] ++ List.replicate 2 proceed ++
    List.replicate 8 answer ++ List.replicate 3 proceed

/-- A detector that wants two replicas. -/
def detector : Detector := .new { replicationFactor := 2, batchSize := 1000 }

/-- A planner with the configuration of the daemon. -/
def planner : Planner ℚ := .new (.default (8 / 10))

/-- Copy the chunk to the second node. -/
def plan : RepairPlan :=
  { tasks :=
      [{ taskId := Planner.taskName 1
         chunkId := digest
         sourceNode := "peer-1"
         targetNodes := ["peer-2"]
         chunkSize := 1024 * 1024
         priority := 800
         issue :=
           { chunkId := digest
             health := .underReplicated 1 2
             currentNodes := ["peer-1"]
             fileId := some 1
             priority := 800 } }]
    totalBytes := 1024 * 1024
    estimatedDuration := 0
    sourceNodes := {"peer-1"}
    targetNodes := {"peer-2"} }

theorem planned :
    scanAndPlan Basic.exactArithmetic 0 (.inserted fun _ => true) db detector planner =
      .ok (some plan) := by
  have sorted : db.getAllNodes .insertion = db.nodes := List.mergeSort_of_pairwise (by decide)
  have scanned : db.getAllNodes (RoundEnv.inserted fun _ => true).orders.nodes = db.nodes := sorted
  have informed : db.getAllNodes (RoundEnv.inserted fun _ => true).infoOrder = db.nodes := sorted
  simp only [scanAndPlan, Detector.scan, Detector.getHealthyNodes, grpcNetworkClient, getNodeInfo,
    scanned, informed]
  decide +kernel

/-- The executor when the plan is handed to it. -/
def begun : Executor TransferWorld TransferCall :=
  (Executor.withProgress (Executor.daemonConfig 4) (.before db stores)).act
    (Executor.daemonConfig 4) (createTransferFn hash fun _ => true) (.execute plan)

/-- The round repairs the chunk: its only task ends successful. -/
theorem round_restores_chunk :
    EveryState (Executor.act (Executor.daemonConfig 4) (createTransferFn hash fun _ => true))
        (RoundSound ⟨hash, fun _ => true, db, plan⟩ (.inserted fun _ => true)) begun actions ∧
      ∃ process ∈ (runAll (Executor.act (Executor.daemonConfig 4)
          (createTransferFn hash fun _ => true)) begun actions).pool.processes,
        process.task.issue.health = .underReplicated 1 2 ∧
          ∃ result, process.phase = .finished (some result) ∧ result.success = true := by
  have keyed : Keyed db := ⟨by decide, by decide, by unfold UniqueChunks; decide, by decide⟩
  refine ⟨?_, _, List.mem_cons_self, rfl, _, rfl, rfl⟩
  refine round_restores_target Basic.exactArithmetic 0 (.inserted fun _ => true) db keyed detector
    planner plan planned hash stores (Executor.daemonConfig 4) _ rfl rfl rfl actions ?_
  intro action member other
  rintro rfl
  simp [actions, proceed, answer] at member

end OneChunk

end CyxCloud.Rebalancer
