import CyxCloud.Rebalancer.Round

/-!
# Recovering nodes as targets

A recovering node is in quarantine and should be read only.  The network client counts it as healthy
for the planner, which makes no difference between sources and targets: a recovering node is chosen
for copies as soon as it has space and some chunk that lacks replicas is not stored on it.
-/

namespace CyxCloud.Rebalancer

open CyxCloud.Core Library Metadata Planner

variable {Load Score : Type*} [Preorder Load] [DecidableLE Load] [DecidableLT Load]
  [Preorder Score] [DecidableLE Score]

/-! ## Planning without limits -/

/-- The configuration has limits that a plan for some number of issues does not reach. -/
structure Unlimited (arithmetic : LoadArithmetic Load Score) (config : PlannerConfig Load)
    (count : Nat) : Prop where
  maxTasks : count ≤ config.maxTasks
  maxBytes : config.maxBytes = -1
  maxNodeLoad : arithmetic.one < config.maxNodeLoad
  nodeRateLimit : config.nodeRateLimit ≠ 0

omit [DecidableLE Load] [DecidableLT Load] [Preorder Score] [DecidableLE Score] in
theorem exists_unlimited {arithmetic : LoadArithmetic Load Score} {limit : Load}
    (high : arithmetic.one < limit) (count : Nat) :
    ∃ planner : Planner Load, Unlimited arithmetic planner.config count :=
  ⟨.new
    { replicationFactor := 0
      maxTasks := count
      maxBytes := -1
      preferLocal := true
      maxNodeLoad := limit
      nodeRateLimit := 1 },
    le_refl _, rfl, high, show (1 : UInt64) ≠ 0 by decide⟩

/-- The nodes that can take a copy if no load is too high. -/
def openNodes (issue : ChunkIssue) (nodes : List (NodeInfo Load)) : List (NodeInfo Load) :=
  nodes.filter fun node =>
    !issue.currentNodes.contains node.id && decide (1024 * 1024 ≤ node.availableStorage)

section Unlimited

variable {arithmetic : LoadArithmetic Load Score} {config : PlannerConfig Load} {count : Nat}
  {planner : Planner Load} {plan : RepairPlan} {nodes : List (NodeInfo Load)} {issue : ChunkIssue}

omit [DecidableLT Load] [Preorder Score] [DecidableLE Score] in
theorem getNodeLoad_le_one (nodeId : String) (baseLoad : Load) :
    planner.getNodeLoad arithmetic nodeId baseLoad ≤ arithmetic.one := by
  rw [getNodeLoad]
  split
  · assumption
  · exact le_refl _

omit [Preorder Score] [DecidableLE Score] in
theorem filter_isCandidate (high : arithmetic.one < planner.config.maxNodeLoad) {source : String}
    (current : source ∈ issue.currentNodes) :
    nodes.filter (planner.isCandidate arithmetic issue source) = openNodes issue nodes := by
  refine List.filter_congr fun node _ => ?_
  have below : planner.getNodeLoad arithmetic node.id node.load < planner.config.maxNodeLoad :=
    lt_of_le_of_lt (getNodeLoad_le_one _ _) high
  by_cases inside : node.id ∈ issue.currentNodes
  · simp [isCandidate, inside]
  · have apart : node.id ≠ source := fun same => inside (same ▸ current)
    simp [isCandidate, inside, apart, below]

/-- All open nodes are chosen if as many copies are needed. -/
theorem selectTargetNodes_all (high : arithmetic.one < planner.config.maxNodeLoad)
    {source : String} (current : source ∈ issue.currentNodes) :
    ∃ targets, planner.selectTargetNodes arithmetic issue nodes source
        (openNodes issue nodes).length = .ok targets ∧
      ∀ node ∈ openNodes issue nodes, node.id ∈ targets := by
  rw [selectTargetNodes]
  simp only [filter_isCandidate high current, Nat.lt_irrefl, if_false]
  refine ⟨_, rfl, fun node member => List.mem_map_of_mem ?_⟩
  rw [List.take_of_length_le (List.length_mergeSort _).le, List.mem_mergeSort]
  exact member

omit [Preorder Score] [DecidableLE Score] in
theorem selectSourceNode_some (arithmetic : LoadArithmetic Load Score) (planner : Planner Load)
    {node : NodeInfo Load} (member : node ∈ nodes) (current : node.id ∈ issue.currentNodes) :
    ∃ source, planner.selectSourceNode arithmetic issue nodes = .ok source ∧
      source ∈ issue.currentNodes := by
  cases selected : planner.selectSourceNode arithmetic issue nodes with
  | ok source => exact ⟨source, rfl, (selectSourceNode_ok selected).1⟩
  | error cause =>
      rw [selectSourceNode] at selected
      split at selected
      · rename_i none_found
        have listed : node ∈ nodes.filter fun node => issue.currentNodes.contains node.id :=
          List.mem_filter.mpr ⟨member, by simpa using current⟩
        rw [List.argmin_eq_none.mp none_found] at listed
        exact absurd listed List.not_mem_nil
      · cases selected

/-- An issue that needs a copy on every open node gets a task with all of them. -/
theorem planRepair_all (high : arithmetic.one < planner.config.maxNodeLoad) {current : Nat}
    (health_eq : issue.health = .underReplicated current
      (current + (openNodes issue nodes).length))
    (some_open : openNodes issue nodes ≠ []) {holder : NodeInfo Load} (member : holder ∈ nodes)
    (holds : holder.id ∈ issue.currentNodes) :
    ∃ task, (planner.planRepair arithmetic issue nodes).2 = .ok task ∧
      task.chunkId = issue.chunkId ∧ task.sourceNode ∈ issue.currentNodes ∧
      ∀ node ∈ openNodes issue nodes, node.id ∈ task.targetNodes := by
  obtain ⟨source, selected, current_source⟩ :=
    selectSourceNode_some arithmetic planner member holds
  have selection : ∃ targets, planner.selectTargetNodes arithmetic issue nodes source
      (openNodes issue nodes).length = .ok targets ∧
        ∀ node ∈ openNodes issue nodes, node.id ∈ targets :=
    selectTargetNodes_all high current_source
  obtain ⟨targets, chosen, all⟩ := selection
  have needed : (openNodes issue nodes).length ≠ 0 := by simpa using some_open
  rw [planRepair, health_eq]
  simp only [planUnderReplicated, selected, Nat.add_sub_cancel_left, needed, if_false, chosen]
  exact ⟨_, rfl, rfl, current_source, all⟩

/-- Whole chunks never add up to the largest word. -/
def WholeChunks (bytes : UInt64) : Prop := 1024 * 1024 ∣ bytes.toNat

theorem WholeChunks.lt {bytes : UInt64} (whole : WholeChunks bytes) : ¬ (-1 : UInt64) ≤ bytes := by
  have bound := UInt64.toNat_lt bytes
  have largest : (-1 : UInt64).toNat = 18446744073709551615 := by decide
  rw [WholeChunks] at whole
  rw [UInt64.le_iff_toNat_le, largest]
  omega

theorem WholeChunks.add {bytes : UInt64} (whole : WholeChunks bytes) {task : RepairTask}
    (size_eq : task.chunkSize = 1024 * 1024) : WholeChunks (bytes + task.estimatedBandwidth) := by
  have size_toNat : (1024 * 1024 : UInt64).toNat = 1048576 := by decide
  rw [WholeChunks] at whole ⊢
  rw [RepairTask.estimatedBandwidth, size_eq, UInt64.toNat_add, UInt64.toNat_mul, size_toNat]
  omega

/-- The tasks of a plan stay. -/
theorem planIssues_extends (issues : List ChunkIssue) :
    plan.tasks <+: (planIssues arithmetic nodes planner plan issues).2.tasks := by
  induction issues generalizing planner plan with
  | nil => exact List.prefix_refl _
  | cons issue rest induction =>
      rw [planIssues]
      split
      · exact List.prefix_refl _
      · split
        · exact List.prefix_refl _
        · split
          · refine List.IsPrefix.trans ?_ induction
            exact List.prefix_append _ _
          · exact induction

theorem planIssues_config (issues : List ChunkIssue) :
    (planIssues arithmetic nodes planner plan issues).1.config = planner.config := by
  induction issues generalizing planner plan with
  | nil => rfl
  | cons issue rest induction =>
      have kept : (planner.planRepair arithmetic issue nodes).1.config = planner.config :=
        planRepair_keeps.1
      rw [planIssues]
      split
      · rfl
      · split
        · rfl
        · split
          · rename_i ran
            rw [ran] at kept
            exact induction.trans kept
          · rename_i ran
            rw [ran] at kept
            exact induction.trans kept

/-- Without limits every issue is planned at some time. -/
theorem planIssues_treats {issues : List ChunkIssue} (config_eq : planner.config = config)
    (unlimited : Unlimited arithmetic config (plan.tasks.length + issues.length))
    (whole : WholeChunks plan.totalBytes) (member : issue ∈ issues) :
    ∃ planned : Planner Load, planned.config = config ∧
      ∀ task, (planned.planRepair arithmetic issue nodes).2 = .ok task →
        task ∈ (planIssues arithmetic nodes planner plan issues).2.tasks := by
  induction issues generalizing planner plan with
  | nil => exact absurd member List.not_mem_nil
  | cons first rest induction =>
      have room : ¬ planner.config.maxTasks ≤ plan.tasks.length := by
        have enough := unlimited.maxTasks
        rw [List.length_cons] at enough
        rw [config_eq]
        omega
      have bytes_left : ¬ planner.config.maxBytes ≤ plan.totalBytes := by
        rw [config_eq, unlimited.maxBytes]
        exact whole.lt
      have kept : (planner.planRepair arithmetic first nodes).1.config = planner.config ∧
          ∀ task, (planner.planRepair arithmetic first nodes).2 = .ok task →
            task.chunkSize = 1024 * 1024 := planRepair_keeps
      rw [planIssues, if_neg room, if_neg bytes_left]
      cases ran : planner.planRepair arithmetic first nodes with
      | mk after outcome =>
          rw [ran] at kept
          cases outcome with
          | error cause =>
              rcases List.mem_cons.mp member with rfl | later
              · refine ⟨planner, config_eq, fun task planned => ?_⟩
                rw [ran] at planned
                cases planned
              · refine induction (kept.1.trans config_eq) ⟨?_, unlimited.2, unlimited.3, unlimited.4⟩
                  whole later
                have enough := unlimited.maxTasks
                rw [List.length_cons] at enough
                omega
          | ok made =>
              rcases List.mem_cons.mp member with rfl | later
              · refine ⟨planner, config_eq, fun task planned => ?_⟩
                rw [ran] at planned
                obtain rfl := Except.ok.inj planned
                exact (planIssues_extends rest).subset
                  (List.mem_append_right _ (List.mem_singleton_self _))
              · refine induction (kept.1.trans config_eq)
                  ⟨?_, unlimited.2, unlimited.3, unlimited.4⟩ (whole.add (kept.2 made rfl)) later
                have enough := unlimited.maxTasks
                rw [List.length_cons] at enough
                rw [RepairPlan.addTask, List.length_append, List.length_singleton]
                omega

/-- Without limits an issue that needs a copy on every open node has a task with all of them. -/
theorem createPlan_treats {issues : List ChunkIssue}
    (unlimited : Unlimited arithmetic planner.config issues.length) (member : issue ∈ issues)
    {current : Nat} (health_eq : issue.health = .underReplicated current
      (current + (openNodes issue (nodes.filter NodeInfo.isHealthy)).length))
    (some_open : openNodes issue (nodes.filter NodeInfo.isHealthy) ≠ [])
    {holder : NodeInfo Load} (holder_mem : holder ∈ nodes) (healthy : holder.isHealthy = true)
    (holds : holder.id ∈ issue.currentNodes) :
    ∃ plan, (planner.createPlan arithmetic issues nodes).2 = .ok plan ∧ ∃ task ∈ plan.tasks,
      task.chunkId = issue.chunkId ∧ task.sourceNode ∈ issue.currentNodes ∧
      ∀ node ∈ openNodes issue (nodes.filter NodeInfo.isHealthy), node.id ∈ task.targetNodes := by
  have healthy_mem : holder ∈ nodes.filter NodeInfo.isHealthy :=
    List.mem_filter.mpr ⟨holder_mem, healthy⟩
  have sorted_mem : issue ∈ sortIssues issues := (sortIssues_perm issues).mem_iff.mpr member
  have limits : Unlimited arithmetic planner.config
      (RepairPlan.default.tasks.length + (sortIssues issues).length) := by
    rw [(sortIssues_perm issues).length_eq, RepairPlan.default, List.length_nil, Nat.zero_add]
    exact unlimited
  have begun : WholeChunks RepairPlan.default.totalBytes := dvd_zero _
  have treated : ∃ planned : Planner Load, planned.config = planner.config ∧
      ∀ task, (planned.planRepair arithmetic issue (nodes.filter NodeInfo.isHealthy)).2 = .ok task →
        task ∈ (planIssues arithmetic (nodes.filter NodeInfo.isHealthy)
          { planner with pendingLoad := fun _ => 0 } .default (sortIssues issues)).2.tasks :=
    planIssues_treats rfl limits begun sorted_mem
  obtain ⟨planned, config_eq, kept⟩ := treated
  have high : arithmetic.one < planned.config.maxNodeLoad := by
    rw [config_eq]
    exact unlimited.maxNodeLoad
  obtain ⟨task, made, chunk_eq, source_mem, all⟩ :=
    planRepair_all high health_eq some_open healthy_mem holds
  have some_healthy : (nodes.filter NodeInfo.isHealthy).isEmpty = false := by
    simpa using List.ne_nil_of_mem healthy_mem
  have config_kept : (planIssues arithmetic (nodes.filter NodeInfo.isHealthy)
      { planner with pendingLoad := fun _ => 0 } .default (sortIssues issues)).1.config =
        planner.config := planIssues_config _
  have listed := kept task made
  rw [createPlan]
  simp only [some_healthy, Bool.false_eq_true, if_false]
  generalize planIssues arithmetic (nodes.filter NodeInfo.isHealthy)
    { planner with pendingLoad := fun _ => 0 } .default (sortIssues issues) = ended
    at config_kept listed
  obtain ⟨after, plan⟩ := ended
  have rate : after.config.nodeRateLimit ≠ 0 := by
    rw [show after.config = planner.config from config_kept]
    exact unlimited.nodeRateLimit
  cases estimated : after.estimateDuration plan with
  | none =>
      rw [estimateDuration, if_neg rate] at estimated
      split at estimated <;> cases estimated
  | some seconds =>
      exact ⟨_, rfl, task, listed, chunk_eq, source_mem, all⟩

end Unlimited

/-! ## Rounds over a database -/

theorem isHealthyStatus_of_counted {env : RoundEnv} {node : Node}
    (counted : countedNode env node = true) : isHealthyStatus node.status = true := by
  simp only [countedNode, Bool.or_eq_true, Bool.and_eq_true] at counted
  simp only [isHealthyStatus, Bool.or_eq_true]
  exact counted.imp And.left id

/-- A stored chunk lacks replicas. -/
def Lacking (chunk : Metadata.Chunk) : Prop :=
  chunk.status ≠ .pending ∧ chunk.currentReplicas < chunk.replicationFactor

/-- A node has the space that the planner asks for. -/
def HasSpace (node : Node) : Prop := 1024 * 1024 ≤ freeBytes node

section Rounds

variable {arithmetic : LoadArithmetic Load Score} {noLoad : Load} {db : Database} {env : RoundEnv}
  {chunk : Metadata.Chunk}

omit [Preorder Load] [DecidableLE Load] [DecidableLT Load] in
theorem mem_openNodes {issue : ChunkIssue} {other : Node} (member : other ∈ db.nodes)
    (healthy : isHealthyStatus other.status = true) (space : HasSpace other)
    (outside : other.peerId ∉ issue.currentNodes) :
    ∃ info ∈ openNodes issue ((getNodeInfo noLoad db env.infoOrder).filter NodeInfo.isHealthy),
      info.id = other.peerId := by
  refine ⟨_, List.mem_filter.mpr ⟨List.mem_filter.mpr ⟨List.mem_map_of_mem
    (mem_getAllNodes.mpr member), healthy⟩, ?_⟩, rfl⟩
  simp only [Bool.and_eq_true, Bool.not_eq_true', decide_eq_true_eq]
  exact ⟨by simpa using outside, space⟩

/-- A scan with room for all chunks raises an issue for every chunk that lacks replicas. -/
theorem exists_scanIssue {batchSize : Nat} (enough : db.chunks.length < batchSize)
    (fits : batchSize < 2 ^ 63) (env : RoundEnv) (replicationFactor : Nat)
    (member : chunk ∈ db.chunks) (lacking : Lacking chunk) :
    ∃ cached result row,
      (Detector.new { replicationFactor, batchSize }).scan
          (postgresMetadataClient db env.orders)
          (grpcNetworkClient db env.orders env.isReachable) = .ok (cached, result) ∧
      row.chunkId = chunk.chunkId ∧
      scanIssue { replicationFactor, batchSize } db env row ∈ result.allIssues := by
  obtain ⟨cached, result, scanned, found⟩ := scan_chunkIds
    (Detector.new { replicationFactor, batchSize }) db env.orders env.isReachable enough fits
  obtain ⟨issue, issue_mem, chunk_eq⟩ :=
    List.mem_map.mp ((found chunk.chunkId).mpr ⟨chunk, member, rfl, lacking⟩)
  obtain ⟨rows, -, perm⟩ := scan_issues scanned
  obtain ⟨row, -, rfl⟩ := List.mem_map.mp (perm.mem_iff.mp issue_mem)
  exact ⟨cached, result, row, scanned, chunk_eq, issue_mem⟩

/-- Some round copies a chunk that lacks replicas from a counted node to any node with space that is
not counted for it. -/
theorem exists_task (arithmetic : LoadArithmetic Load Score) (noLoad : Load)
    (ids_unique : (db.nodes.map Node.id).Nodup) (peers_unique : (db.nodes.map Node.peerId).Nodup)
    {batchSize : Nat} (enough : db.chunks.length < batchSize) (fits : batchSize < 2 ^ 63)
    {limit : Load} (high : arithmetic.one < limit) (env : RoundEnv) (member : chunk ∈ db.chunks)
    (lacking : Lacking chunk) {holder other : Node} (holder_mem : holder ∈ db.nodes)
    (counted : countedNode env holder = true) (holds : db.storedOn chunk.chunkId holder.id)
    (other_mem : other ∈ db.nodes) (healthy : isHealthyStatus other.status = true)
    (space : HasSpace other)
    (outside : ¬ (countedNode env other = true ∧ db.storedOn chunk.chunkId other.id)) :
    ∃ detector planner plan,
      scanAndPlan arithmetic noLoad env db detector planner = .ok (some plan) ∧
      ∃ task ∈ plan.tasks, task.chunkId = chunk.chunkId ∧
        task.sourceNode ∈ availablePeers db env chunk.chunkId ∧
        other.peerId ∈ task.targetNodes := by
  have holder_counted : holder.peerId ∈ availablePeers db env chunk.chunkId :=
    (mem_availablePeers ids_unique peers_unique).mpr ⟨holder, holder_mem, rfl, counted, holds⟩
  have other_outside : other.peerId ∉ availablePeers db env chunk.chunkId := by
    intro listed
    obtain ⟨node, node_mem, peer_eq, counted', stored⟩ :=
      (mem_availablePeers ids_unique peers_unique).mp listed
    rw [List.inj_on_of_nodup_map peers_unique node_mem other_mem peer_eq] at counted' stored
    exact outside ⟨counted', stored⟩
  -- The target is chosen so that every open node gets a copy.
  let openFor : ChunkIssue → List (NodeInfo Load) := fun issue =>
    openNodes issue ((getNodeInfo noLoad db env.infoOrder).filter NodeInfo.isHealthy)
  let counts : ChunkIssue :=
    { chunkId := chunk.chunkId
      health := .critical
      currentNodes := availablePeers db env chunk.chunkId
      fileId := none
      priority := 0 }
  obtain ⟨cached, result, row, scanned, row_eq, issue_mem⟩ := exists_scanIssue enough fits env
    ((availablePeers db env chunk.chunkId).length + (openFor counts).length) member lacking
  generalize issue_eq : scanIssue _ db env row = issue at issue_mem
  have current_eq : issue.currentNodes = availablePeers db env chunk.chunkId := by
    rw [← issue_eq, scanIssue_currentNodes, row_eq]
  have open_eq : openFor issue = openFor counts := by
    simp only [openFor, openNodes, current_eq, counts]
  have health_eq : issue.health = .underReplicated (availablePeers db env chunk.chunkId).length
      ((availablePeers db env chunk.chunkId).length + (openFor issue).length) := by
    rw [open_eq, ← issue_eq, scanIssue_health, row_eq]
    rw [row_eq]
    exact List.ne_nil_of_mem holder_counted
  obtain ⟨info, info_mem, info_id⟩ : ∃ info ∈ openFor issue, info.id = other.peerId :=
    mem_openNodes other_mem healthy space (by rw [current_eq]; exact other_outside)
  obtain ⟨planner, unlimited⟩ := exists_unlimited high result.allIssues.length
  obtain ⟨plan, planned, task, task_mem, chunk_eq, source_mem, all⟩ := createPlan_treats unlimited
    issue_mem health_eq (List.ne_nil_of_mem info_mem)
    (List.mem_map_of_mem (mem_getAllNodes.mpr holder_mem)) (isHealthyStatus_of_counted counted)
    (show holder.peerId ∈ issue.currentNodes by rw [current_eq]; exact holder_counted)
  have round := planScan_eq_some_iff.mpr
    ⟨cached, result, scanned, List.ne_nil_of_mem issue_mem, planned⟩
  have task_chunk : task.chunkId = chunk.chunkId := by
    rw [chunk_eq, ← issue_eq, scanIssue_chunkId, row_eq]
  rw [current_eq] at source_mem
  exact ⟨_, planner, plan, round, task, task_mem, task_chunk, source_mem,
    info_id ▸ all info info_mem⟩

end Rounds

/-! ## Quarantine -/

/-- No round copies to a recovering node. -/
def SparesRecovering (arithmetic : LoadArithmetic Load Score) (noLoad : Load) (db : Database) :
    Prop :=
  ∀ env detector planner plan,
    scanAndPlan arithmetic noLoad env db detector planner = .ok (some plan) →
      ∀ task ∈ plan.tasks, ∀ node ∈ db.nodes, node.status = .recovering →
        node.peerId ∉ task.targetNodes

/-- For each chunk that lacks replicas, is stored on a recovering node and could be copied to
another node, some round reads it from a recovering node. -/
def ReadsRecovering (arithmetic : LoadArithmetic Load Score) (noLoad : Load) (db : Database) :
    Prop :=
  ∀ chunk ∈ db.chunks, Lacking chunk →
    ∀ holder ∈ db.nodes, holder.status = .recovering → db.storedOn chunk.chunkId holder.id →
      ∀ other ∈ db.nodes, isHealthyStatus other.status = true → HasSpace other →
        ¬ (other.status = .recovering ∧ db.storedOn chunk.chunkId other.id) →
          ∃ env detector planner plan,
            scanAndPlan arithmetic noLoad env db detector planner = .ok (some plan) ∧
            ∃ task ∈ plan.tasks, task.chunkId = chunk.chunkId ∧
              ∃ source ∈ db.nodes, source.status = .recovering ∧ source.peerId = task.sourceNode

/-- Every chunk that lacks replicas and is stored on an online or recovering node is stored on every
recovering node with space. -/
def RecoveringCovered (db : Database) : Prop :=
  ∀ chunk ∈ db.chunks, Lacking chunk →
    (∃ holder ∈ db.nodes, isHealthyStatus holder.status = true ∧
      db.storedOn chunk.chunkId holder.id) →
      ∀ node ∈ db.nodes, node.status = .recovering → HasSpace node →
        db.storedOn chunk.chunkId node.id

section Quarantine

variable {arithmetic : LoadArithmetic Load Score} {noLoad : Load} {db : Database}

theorem countedNode_recovering (env : RoundEnv) {node : Node} (recovering : node.status = .recovering) :
    countedNode env node = true := by
  simp [countedNode, recovering]

/-- Orders of insertion, with a choice of reachable addresses. -/
def RoundEnv.inserted (isReachable : String → Bool) : RoundEnv :=
  { orders :=
      { candidates := .insertion
        locations := .insertion
        nodes := .insertion }
    infoOrder := .insertion
    isReachable }

omit [Preorder Load] [DecidableLE Load] [DecidableLT Load] in
theorem getNodeInfo_distinct (noLoad : Load) (peers_unique : (db.nodes.map Node.peerId).Nodup)
    (order : RowOrder Node) : ((getNodeInfo noLoad db order).map NodeInfo.id).Nodup := by
  have perm : (db.getAllNodes order).Perm db.nodes :=
    (List.mergeSort_perm _ _).trans (order.arrange_perm _)
  rw [getNodeInfo, List.map_map]
  exact (perm.map Node.peerId).nodup_iff.mpr peers_unique

/-- A target is a node with space that is not counted for the chunk, and there is a counted one. -/
theorem sparesRecovering_of_covered (ids_unique : (db.nodes.map Node.id).Nodup)
    (peers_unique : (db.nodes.map Node.peerId).Nodup) (covered : RecoveringCovered db) :
    SparesRecovering arithmetic noLoad db := by
  intro env detector planner plan planned task task_mem node node_mem recovering targeted
  obtain ⟨cached, result, scanned, -, made⟩ := planScan_eq_some_iff.mp planned
  obtain ⟨-, -, sound⟩ := createPlan_spec arithmetic planner result.allIssues
    (getNodeInfo_distinct noLoad peers_unique env.infoOrder)
  obtain ⟨before, after, tasks_eq⟩ := List.append_of_mem task_mem
  have task_sound := (sound plan made).1.tasks before task after tasks_eq
  obtain ⟨rows, delivered, perm⟩ := scan_issues scanned
  obtain ⟨row, row_mem, issue_eq⟩ := List.mem_map.mp (perm.mem_iff.mp task_sound.issue_mem)
  obtain ⟨chunk, chunk_mem, chunk_eq, lacking⟩ := mem_delivered delivered row_mem
  have current_eq : task.issue.currentNodes = availablePeers db env chunk.chunkId := by
    rw [← issue_eq, scanIssue_currentNodes, chunk_eq]
  have source_counted := task_sound.source_current
  rw [current_eq, mem_availablePeers ids_unique peers_unique] at source_counted
  obtain ⟨source, source_mem, -, counted, holds⟩ := source_counted
  obtain ⟨info, info_mem, info_id, target_sound⟩ := task_sound.targets node.peerId targeted
  have space : HasSpace node := by
    obtain ⟨target, target_mem, rfl⟩ := List.mem_map.mp info_mem
    rw [← List.inj_on_of_nodup_map peers_unique (mem_getAllNodes.mp target_mem) node_mem info_id]
    exact target_sound.space
  have stored := covered chunk chunk_mem lacking
    ⟨source, source_mem, isHealthyStatus_of_counted counted, holds⟩ node node_mem recovering space
  refine target_sound.outside ?_
  rw [info_id, current_eq, mem_availablePeers ids_unique peers_unique]
  exact ⟨node, node_mem, rfl, countedNode_recovering env recovering, stored⟩

/-- With all online nodes out of reach, only recovering nodes are counted. -/
theorem readsRecovering (ids_unique : (db.nodes.map Node.id).Nodup)
    (peers_unique : (db.nodes.map Node.peerId).Nodup) (few : db.chunks.length + 1 < 2 ^ 63)
    {limit : Load} (high : arithmetic.one < limit) : ReadsRecovering arithmetic noLoad db := by
  intro chunk member lacking holder holder_mem recovering holds other other_mem healthy space outside
  have only_recovering : ∀ node : Node,
      countedNode (.inserted fun _ => false) node = true ↔ node.status = .recovering := by
    intro node
    simp [countedNode, RoundEnv.inserted]
  obtain ⟨detector, planner, plan, planned, task, task_mem, chunk_eq, source_counted, -⟩ :=
    exists_task arithmetic noLoad ids_unique peers_unique (Nat.lt_succ_self _) few high
      (.inserted fun _ => false) member lacking holder_mem ((only_recovering holder).mpr recovering)
      holds other_mem healthy space (by rw [only_recovering]; exact outside)
  rw [mem_availablePeers ids_unique peers_unique] at source_counted
  obtain ⟨source, source_mem, peer_eq, counted, -⟩ := source_counted
  exact ⟨_, detector, planner, plan, planned, task, task_mem, chunk_eq, source, source_mem,
    (only_recovering source).mp counted, peer_eq⟩

/-- Rounds spare recovering nodes as targets, and read from them, exactly if every chunk that could
be copied to a recovering node is already stored on it. -/
theorem quarantined_targets_iff (arithmetic : LoadArithmetic Load Score) (noLoad : Load)
    {limit : Load} (high : arithmetic.one < limit) (ids_unique : (db.nodes.map Node.id).Nodup)
    (peers_unique : (db.nodes.map Node.peerId).Nodup) (few : db.chunks.length + 1 < 2 ^ 63) :
    SparesRecovering arithmetic noLoad db ∧ ReadsRecovering arithmetic noLoad db ↔
      RecoveringCovered db := by
  constructor
  · rintro ⟨spares, -⟩ chunk member lacking ⟨holder, holder_mem, holder_healthy, holds⟩ node node_mem
      recovering space
    by_contra missing
    have reached : countedNode (.inserted fun _ => true) holder = true := by
      simpa [countedNode, RoundEnv.inserted, isHealthyStatus] using holder_healthy
    have healthy : isHealthyStatus node.status = true := by
      simp [isHealthyStatus, recovering]
    obtain ⟨detector, planner, plan, planned, task, task_mem, -, -, targeted⟩ :=
      exists_task arithmetic noLoad ids_unique peers_unique (Nat.lt_succ_self _) few high
        (.inserted fun _ => true) member lacking holder_mem reached holds node_mem healthy space
        fun stored => missing stored.2
    exact spares _ detector planner plan planned task task_mem node node_mem recovering targeted
  · intro covered
    exact ⟨sparesRecovering_of_covered ids_unique peers_unique covered,
      readsRecovering ids_unique peers_unique few high⟩

end Quarantine

namespace ThreeNodes

/-- A node with 1 TB of storage. -/
def node (id : Uuid) (peerId : String) (status : NodeStatus) : Node :=
  { id
    peerId
    grpcAddress := "http://" ++ peerId ++ ":50051"
    storageTotal := 2 ^ 40
    storageReserved := 0
    storageUsed := 0
    bandwidthMbps := 1000
    datacenter := none
    rack := none
    region := none
    latitude := none
    longitude := none
    status
    lastHeartbeat := none
    failureCount := 0
    firstOfflineAt := none
    statusChangedAt := none
    version := none
    walletAddress := none
    publicKey := none
    createdAt := id }

/-- A chunk that should have three replicas. -/
def chunk (currentReplicas : Nat) : Metadata.Chunk :=
  { chunkId := [1]
    fileId := 1
    chunkIndex := 0
    shardIndex := 0
    isParity := false
    sizeBytes := 1
    replicationFactor := 3
    currentReplicas
    status := .active }

/-- A stored location of the chunk. -/
def location (nodeId : Uuid) : ChunkLocation :=
  { chunkId := [1]
    nodeId
    status := .stored
    lastVerified := none
    verificationFailures := 0 }

/-- Two online nodes and a recovering one; the chunk is stored on some of them. -/
def db (holders : List Uuid) : Database :=
  { buckets := []
    nodes := [node 1 "peer-1" .online, node 2 "peer-2" .recovering, node 3 "peer-3" .online]
    files := []
    chunks := [chunk holders.length]
    chunkLocations := holders.map location
    repairJobs := [] }

/-- If the recovering node already has the chunk, it is spared. -/
theorem spares_recovering_holder :
    SparesRecovering Basic.exactArithmetic 0 (db [1, 2]) ∧
      ReadsRecovering Basic.exactArithmetic 0 (db [1, 2]) := by
  have high : Basic.exactArithmetic.one < (2 : ℚ) := by
    rw [Basic.exactArithmetic]
    norm_num
  refine (quarantined_targets_iff Basic.exactArithmetic 0 high (by decide) (by decide)
    (by decide)).mpr ?_
  intro lacking member _ _ other other_mem recovering _
  obtain rfl := List.mem_singleton.mp member
  have second : other = node 2 "peer-2" .recovering := by
    simp only [db, List.mem_cons, List.not_mem_nil, or_false] at other_mem
    rcases other_mem with rfl | rfl | rfl
    · cases recovering
    · rfl
    · cases recovering
  rw [second]
  exact ⟨location 2, by decide, rfl, rfl, rfl⟩

/-- If it does not have the chunk, some round copies the chunk to it. -/
theorem recovering_node_targeted :
    ¬ ∀ db : Database, (db.nodes.map Node.id).Nodup → (db.nodes.map Node.peerId).Nodup →
      SparesRecovering Basic.exactArithmetic 0 db := by
  intro spares
  have ids_unique : ((db [1]).nodes.map Node.id).Nodup := by decide
  have peers_unique : ((db [1]).nodes.map Node.peerId).Nodup := by decide
  have high : Basic.exactArithmetic.one < (2 : ℚ) := by
    rw [Basic.exactArithmetic]
    norm_num
  have stored : (db [1]).storedOn [1] 1 := ⟨location 1, List.mem_singleton_self _, rfl, rfl, rfl⟩
  have missing : ¬ (db [1]).storedOn [1] 2 := by
    rintro ⟨row, row_mem, -, node_eq, -⟩
    obtain rfl := List.mem_singleton.mp row_mem
    exact absurd node_eq (by decide)
  have lacking : Lacking (chunk 1) := ⟨by decide, by decide⟩
  have space : HasSpace (node 2 "peer-2" .recovering) := by
    rw [HasSpace]
    decide
  obtain ⟨detector, planner, plan, planned, task, task_mem, -, -, targeted⟩ :=
    @exists_task _ _ _ _ _ _ _ (db [1]) (chunk 1) Basic.exactArithmetic 0 ids_unique peers_unique 2
      (by decide) (by decide) 2 high (.inserted fun _ => true) (List.mem_singleton_self _) lacking
      (node 1 "peer-1" .online) (node 2 "peer-2" .recovering) List.mem_cons_self rfl stored
      (List.mem_cons_of_mem _ List.mem_cons_self) rfl space fun both => missing both.2
  exact spares (db [1]) ids_unique peers_unique _ detector planner plan planned task task_mem
    (node 2 "peer-2" .recovering) (List.mem_cons_of_mem _ List.mem_cons_self) rfl targeted

end ThreeNodes

end CyxCloud.Rebalancer
