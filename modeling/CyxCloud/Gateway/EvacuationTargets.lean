import CyxCloud.Gateway.Removal
import CyxCloud.Metadata.Replicas

/-!
# Targets of an evacuation

`trigger_chunk_evacuation` of `cyxcloud-gateway/src/node_monitor.rs` deals the chunks of a draining
node out to the online nodes in turn, and does not ask which of them hold the chunk already.  A
target is useful if it does not.  The query for the chunks of the node takes the stored locations
only, not those that have been verified.
-/

namespace CyxCloud.Gateway

open CyxCloud.Core hiding Chunk
open Library Metadata

/-- A node with such a location has the chunk, verified or not. -/
def holding (row : ChunkLocation) : Bool :=
  row.status == .stored || row.status == .verified

/-- The node holds the chunk. -/
def heldOn (db : Database) (chunkId : Bytes) (nodeId : Uuid) : Prop :=
  ∃ row ∈ db.chunkLocations, row.chunkId = chunkId ∧ row.nodeId = nodeId ∧ holding row = true

/-- The chunks that a node holds. -/
def heldChunks (db : Database) (nodeId : Uuid) : List Bytes :=
  (db.chunkLocations.filter fun row => row.nodeId == nodeId && holding row).map
    ChunkLocation.chunkId

/-- An online node that does not hold the chunk. -/
def Spare (db : Database) (chunkId : Bytes) (node : Node) : Prop :=
  node ∈ db.nodes ∧ node.status = .online ∧ ¬ heldOn db chunkId node.id

/-- An evacuation creates one repair job for each chunk that the node holds, and the target of each
is an online node that does not hold the chunk. -/
def EvacuatesUsefully (env : CycleEnv) (nodeId : Uuid) (db : Database) : Prop :=
  ∃ jobs : List RepairJob,
    (triggerChunkEvacuation env nodeId db).1 = { db with repairJobs := db.repairJobs ++ jobs } ∧
      (jobs.map RepairJob.chunkId).Perm (heldChunks db nodeId) ∧
      ∀ job ∈ jobs, job.sourceNodeId = some nodeId ∧
        ∃ target, Spare db job.chunkId target ∧ job.targetNodeId = target.id

/-- No location of the node is verified. -/
def NoneVerified (nodeId : Uuid) (db : Database) : Prop :=
  ∀ row ∈ db.chunkLocations, row.nodeId = nodeId → row.status ≠ .verified

instance (nodeId : Uuid) : DecidablePred (NoneVerified nodeId) := fun db =>
  inferInstanceAs (Decidable (∀ row ∈ db.chunkLocations, row.nodeId = nodeId →
    row.status ≠ .verified))

/-- No chunk of the node comes, in the order of its query, at a place whose online node in turn
holds it. -/
def TurnsAvoidHolders (env : CycleEnv) (nodeId : Uuid) (db : Database) : Prop :=
  let targets := evacuationTargets db (env.targetOrder nodeId) nodeId
  ∀ entry ∈ (db.getChunksOnNode (env.chunkOrder nodeId) nodeId).zipIdx, ∀ target,
    targets[entry.2 % targets.length]? = some target → ¬ heldOn db entry.1.chunkId target.id

section Evacuation

variable {env : CycleEnv} {nodeId : Uuid} {db : Database}

/-- With a target there is one job for each chunk. -/
theorem evacuationJobs_chunks (nodeId : Uuid) (chunks : List ChunkLocation) {targets : List Node}
    (some_target : targets ≠ []) :
    (evacuationJobs nodeId chunks targets).map RepairJob.chunkId =
      chunks.map ChunkLocation.chunkId := by
  have positive : 0 < targets.length := List.length_pos_iff.mpr some_target
  have each : ∀ entry : ChunkLocation × Nat,
      (targets[entry.2 % targets.length]?.map fun target =>
        ({ chunkId := entry.1.chunkId
           sourceNodeId := some nodeId
           targetNodeId := target.id
           priority := 100 } : RepairJob)).map RepairJob.chunkId = some entry.1.chunkId := by
    intro entry
    rw [List.getElem?_eq_getElem (Nat.mod_lt _ positive)]
    rfl
  rw [evacuationJobs, List.map_filterMap]
  simp only [each]
  rw [List.filterMap_eq_map', ← List.zipIdx_map_fst 0 chunks, List.map_map,
    List.zipIdx_map_fst 0 chunks]
  rfl

/-- The jobs of the evacuation of a known node are all created. -/
theorem triggerChunkEvacuation_run (answered : env.Answered) (known : db.hasNode nodeId = true) :
    (triggerChunkEvacuation env nodeId db).1 =
      { db with
        repairJobs := db.repairJobs ++
          evacuationJobs nodeId (db.getChunksOnNode (env.chunkOrder nodeId) nodeId)
            (evacuationTargets db (env.targetOrder nodeId) nodeId) } := by
  rw [triggerChunkEvacuation, answered.chunks, Effect.bind_run_ok (Effect.query_done _ _),
    evacuateChunks_run answered]
  refine jobsCreated_eq fun job listed => ?_
  obtain ⟨source_eq, target, target_mem, target_eq⟩ := mem_evacuationJobs listed
  have target_known : db.hasNode job.targetNodeId = true :=
    List.any_eq_true.mpr ⟨target, (mem_evacuationTargets.mp target_mem).1, by simp [target_eq]⟩
  rw [target_known, source_eq]
  exact known

/-- A node that has a chunk which some online node does not hold has an evacuation target. -/
theorem targets_ne_nil
    (spares : ∀ chunkId, heldOn db chunkId nodeId → ∃ node, Spare db chunkId node)
    {location : ChunkLocation}
    (member : location ∈ db.getChunksOnNode (env.chunkOrder nodeId) nodeId) :
    evacuationTargets db (env.targetOrder nodeId) nodeId ≠ [] := by
  obtain ⟨row_mem, taken⟩ := List.mem_filter.mp ((env.chunkOrder nodeId).mem_arrange.mp member)
  simp only [Bool.and_eq_true, beq_iff_eq] at taken
  have held : heldOn db location.chunkId nodeId :=
    ⟨location, row_mem, rfl, taken.1, by rw [holding, taken.2]; rfl⟩
  obtain ⟨node, node_mem, online, not_held⟩ := spares location.chunkId held
  have apart : node.id ≠ nodeId := by
    rintro rfl
    exact not_held held
  exact List.ne_nil_of_mem (mem_evacuationTargets.mpr ⟨node_mem, online, apart⟩)

/-- With a target for each chunk, the jobs are those of the chunks that the query returns. -/
theorem evacuationJobs_chunks_of_spares
    (spares : ∀ chunkId, heldOn db chunkId nodeId → ∃ node, Spare db chunkId node) :
    (evacuationJobs nodeId (db.getChunksOnNode (env.chunkOrder nodeId) nodeId)
        (evacuationTargets db (env.targetOrder nodeId) nodeId)).map RepairJob.chunkId =
      (db.getChunksOnNode (env.chunkOrder nodeId) nodeId).map ChunkLocation.chunkId := by
  cases chunks_eq : db.getChunksOnNode (env.chunkOrder nodeId) nodeId with
  | nil => rfl
  | cons location locations =>
      have member : location ∈ db.getChunksOnNode (env.chunkOrder nodeId) nodeId := by
        rw [chunks_eq]
        exact List.mem_cons_self
      exact evacuationJobs_chunks nodeId _ (targets_ne_nil spares member)

/-- The query returns all chunks that a node holds exactly if none of its locations is verified. -/
theorem chunksOnNode_perm_iff (order : RowOrder ChunkLocation) :
    ((db.getChunksOnNode order nodeId).map ChunkLocation.chunkId).Perm (heldChunks db nodeId) ↔
      NoneVerified nodeId db := by
  have arranged := (order.arrange_perm (db.chunkLocations.filter fun row =>
    row.nodeId == nodeId && row.status == .stored)).map ChunkLocation.chunkId
  constructor
  · intro same row row_mem node_eq verified
    have lengths := arranged.length_eq.symm.trans same.length_eq
    rw [heldChunks, List.length_map, List.length_map] at lengths
    have narrower : (db.chunkLocations.filter fun row =>
        row.nodeId == nodeId && row.status == .stored).Sublist
          (db.chunkLocations.filter fun row => row.nodeId == nodeId && holding row) := by
      refine List.monotone_filter_right _ fun row => ?_
      simp only [holding, Bool.and_eq_true, Bool.or_eq_true]
      rintro ⟨here, stored⟩
      exact ⟨here, .inl stored⟩
    have taken : row ∈ db.chunkLocations.filter fun row =>
        row.nodeId == nodeId && row.status == .stored := by
      rw [narrower.eq_of_length lengths]
      exact List.mem_filter.mpr ⟨row_mem, by simp [node_eq, holding, verified]⟩
    have stored := (List.mem_filter.mp taken).2
    rw [verified, Bool.and_eq_true] at stored
    cases stored.2
  · intro none_verified
    refine arranged.trans (List.Perm.of_eq (congrArg _ (List.filter_congr ?_)))
    intro row row_mem
    have unverified := none_verified row row_mem
    rw [Bool.eq_iff_iff]
    simp only [holding, Bool.and_eq_true, Bool.or_eq_true, beq_iff_eq]
    constructor
    · rintro ⟨here, stored⟩
      exact ⟨here, .inl stored⟩
    · rintro ⟨here, stored | verified⟩
      · exact ⟨here, stored⟩
      · exact absurd verified (unverified here)

/-- An evacuation without database errors, of a known node whose chunks all have an online node that
does not hold them, is useful exactly if none of its locations is verified and the turns avoid the
holders. -/
theorem evacuatesUsefully_iff (answered : env.Answered) (known : db.hasNode nodeId = true)
    (spares : ∀ chunkId, heldOn db chunkId nodeId → ∃ node, Spare db chunkId node) :
    EvacuatesUsefully env nodeId db ↔
      NoneVerified nodeId db ∧ TurnsAvoidHolders env nodeId db := by
  have ran := triggerChunkEvacuation_run answered known
  have chunks_eq := @evacuationJobs_chunks_of_spares env nodeId db spares
  constructor
  · rintro ⟨jobs, after_eq, all_held, useful⟩
    rw [ran] at after_eq
    have jobs_eq := List.append_cancel_left (congrArg Database.repairJobs after_eq)
    subst jobs_eq
    rw [chunks_eq, chunksOnNode_perm_iff] at all_held
    refine ⟨all_held, ?_⟩
    intro entry entry_mem target turn held
    have listed : ({ chunkId := entry.1.chunkId
                     sourceNodeId := some nodeId
                     targetNodeId := target.id
                     priority := 100 } : RepairJob) ∈
        evacuationJobs nodeId (db.getChunksOnNode (env.chunkOrder nodeId) nodeId)
          (evacuationTargets db (env.targetOrder nodeId) nodeId) :=
      List.mem_filterMap.mpr ⟨entry, entry_mem, by simp [turn]⟩
    obtain ⟨-, spare, ⟨-, -, not_held⟩, same⟩ := useful _ listed
    change target.id = spare.id at same
    rw [← same] at not_held
    exact not_held held
  · rintro ⟨none_verified, avoids⟩
    refine ⟨_, ran, ?_, ?_⟩
    · rw [chunks_eq]
      exact (chunksOnNode_perm_iff _).mpr none_verified
    · intro job listed
      obtain ⟨⟨location, index⟩, entry_mem, made⟩ := List.mem_filterMap.mp listed
      obtain ⟨target, turn, rfl⟩ := Option.map_eq_some_iff.mp made
      have target_mem := mem_evacuationTargets.mp (List.mem_of_getElem? turn)
      exact ⟨rfl, target, ⟨target_mem.1, target_mem.2.1, avoids _ entry_mem target turn⟩, rfl⟩

/-- An evacuation without database errors of a draining node whose chunks all have an online node
that does not hold them is useful exactly if none of its locations is verified and the turns avoid
the holders. -/
theorem evacuation_useful_iff (env : CycleEnv) (answered : env.Answered) (db : Database)
    (nodeId : Uuid) (draining : hasStatus db nodeId .draining = true)
    (spares : ∀ chunkId, heldOn db chunkId nodeId → ∃ node, Spare db chunkId node) :
    EvacuatesUsefully env nodeId db ↔
      NoneVerified nodeId db ∧ TurnsAvoidHolders env nodeId db := by
  obtain ⟨node, node_mem, same, -⟩ := hasStatus_iff.mp draining
  have known : db.hasNode nodeId = true := List.any_eq_true.mpr ⟨node, node_mem, by simp [same]⟩
  exact evacuatesUsefully_iff answered known spares

end Evacuation

/-! ## A target that holds the chunk -/

namespace SecondHolder

/-- Three nodes of which the first is draining; the given ones hold a chunk. -/
def drainingWith (holders : List Uuid) : Database :=
  (runAll ReplicaOp.apply threeNodes
    (.createChunk firstShard :: holders.map fun nodeId =>
      .addChunkLocation .up [5] nodeId)).markNodeDraining 1 4

/-- A cycle that the database answers. -/
def cycle : CycleEnv := LastCopy.answeredCycle 5

theorem targets_drainingWith (holders : List Uuid)
    (nodes_eq : (drainingWith holders).nodes = (drainingWith []).nodes) :
    (evacuationTargets (drainingWith holders) .insertion 1).map Node.id = [2, 3] := by
  rw [evacuationTargets, Database.getOnlineNodes, nodes_eq, List.mergeSort_of_pairwise (by decide)]
  decide

/-- The third node does not hold the chunk, if it is none of the given ones. -/
theorem spares_drainingWith (holders : List Uuid)
    (third : ∀ row ∈ (drainingWith holders).chunkLocations, row.nodeId ≠ 3)
    (nodes_eq : (drainingWith holders).nodes = (drainingWith []).nodes) (chunkId : Bytes) :
    ∃ node, Spare (drainingWith holders) chunkId node := by
  have known : ∃ node ∈ (drainingWith []).nodes, node.id = 3 ∧ node.status = .online := by decide
  obtain ⟨node, node_mem, same, online⟩ := known
  refine ⟨node, nodes_eq ▸ node_mem, online, ?_⟩
  rintro ⟨row, row_mem, -, node_eq, -⟩
  exact third row row_mem (node_eq.trans same)

/-- A chunk that only the draining node holds goes to the second node. -/
theorem evacuation_useful_one_holder :
    EvacuatesUsefully cycle 1 (drainingWith [1]) := by
  refine (evacuation_useful_iff cycle (LastCopy.answeredCycle_answered 5) (drainingWith [1]) 1
    (by decide) (fun chunkId _ => spares_drainingWith [1] (by decide) rfl chunkId)).mpr ?_
  refine ⟨by decide, ?_⟩
  rintro ⟨location, index⟩ - target turn ⟨row, row_mem, -, node_eq, -⟩
  have listed : target.id ∈ (evacuationTargets (drainingWith [1]) .insertion 1).map Node.id :=
    List.mem_map_of_mem (List.mem_of_getElem? turn)
  rw [targets_drainingWith [1] rfl, ← node_eq] at listed
  have first_only : ∀ row ∈ (drainingWith [1]).chunkLocations, row.nodeId ∉ [2, 3] := by decide
  exact first_only row row_mem listed

/-- A chunk that the second node holds too goes there, although the third node does not hold it. -/
theorem evacuation_to_holder :
    ¬ ∀ (env : CycleEnv), env.Answered → ∀ (db : Database) (nodeId : Uuid),
      hasStatus db nodeId .draining = true →
        (∀ chunkId, heldOn db chunkId nodeId → ∃ node, Spare db chunkId node) →
          EvacuatesUsefully env nodeId db := by
  intro useful
  have spares : ∀ chunkId, heldOn (drainingWith [1, 2]) chunkId 1 →
      ∃ node, Spare (drainingWith [1, 2]) chunkId node :=
    fun chunkId _ => spares_drainingWith [1, 2] (by decide) rfl chunkId
  have answered : cycle.Answered := LastCopy.answeredCycle_answered 5
  have evacuates := useful cycle answered (drainingWith [1, 2]) 1 (by decide) spares
  have avoids := ((evacuatesUsefully_iff answered (by decide) spares).mp evacuates).2
  obtain ⟨second, rest, targets_eq, second_eq, -⟩ :=
    List.map_eq_cons_iff.mp (targets_drainingWith [1, 2] rfl)
  have turn : (evacuationTargets (drainingWith [1, 2]) (cycle.targetOrder 1) 1)[
      0 % (evacuationTargets (drainingWith [1, 2]) (cycle.targetOrder 1) 1).length]? =
        some second := by
    rw [Nat.zero_mod]
    exact congrArg (fun targets => targets[0]?) targets_eq
  have held : ∃ row ∈ (drainingWith [1, 2]).chunkLocations,
      row.chunkId = [5] ∧ row.nodeId = 2 ∧ holding row = true := by decide
  have second_holds : heldOn (drainingWith [1, 2]) [5] second.id := by
    rw [second_eq]
    exact held
  exact avoids (_, 0) List.mem_cons_self second turn second_holds

end SecondHolder

end CyxCloud.Gateway
