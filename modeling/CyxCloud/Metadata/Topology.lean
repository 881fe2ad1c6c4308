import CyxCloud.Library.Ranking
import CyxCloud.Metadata.Models
import Mathlib.Algebra.Order.Ring.Rat

/-!
# Topology-aware shard placement

The placement engine of `cyxcloud-metadata/src/topology.rs`.  Scores are exact rationals, and the
haversine distance between two nodes is a parameter of the engine.
-/

namespace CyxCloud.Metadata

open CyxCloud.Core hiding Chunk
open Library

/-! ## Nodes -/

/-- Placement strategy configuration. -/
structure PlacementConfig where
  maxShardsPerDc : Nat
  maxShardsPerRack : Nat
  preferLowUtilization : Bool
  utilizationWeight : ℚ
  proximityWeight : ℚ
  minAvailableStorage : Nat

/-- The default configuration. -/
def PlacementConfig.default : PlacementConfig :=
  { maxShardsPerDc := 6
    maxShardsPerRack := 2
    preferLowUtilization := true
    utilizationWeight := 1 / 2
    proximityWeight := 3 / 10
    minAvailableStorage := 1024 * 1024 * 1024 }

/-- Node with placement metadata.  The text of a node's identifier stands for the identifier. -/
structure PlacementNode where
  id : Uuid
  grpcAddress : String
  datacenter : Option String
  rack : Option Int
  region : Option String
  latitude : Option ℚ
  longitude : Option ℚ
  storageTotal : Nat
  storageUsed : Nat
  bandwidthMbps : Nat
  deriving DecidableEq

/-- A signed value read as an unsigned one of `width` bits. -/
def asUnsigned (width : Nat) (value : Int) : Nat := (value % 2 ^ width).toNat

namespace PlacementNode

/-- Create from a database row. -/
def fromNode (node : Node) : PlacementNode :=
  { id := node.id
    grpcAddress := node.grpcAddress
    datacenter := node.datacenter
    rack := node.rack
    region := node.region
    latitude := node.latitude
    longitude := node.longitude
    storageTotal := asUnsigned 64 node.storageTotal
    storageUsed := asUnsigned 64 node.storageUsed
    bandwidthMbps := asUnsigned 32 node.bandwidthMbps }

/-- Available storage; the subtraction saturates. -/
def availableStorage (node : PlacementNode) : Nat := node.storageTotal - node.storageUsed

/-- Used share of the storage. -/
def utilization (node : PlacementNode) : ℚ :=
  if node.storageTotal = 0 then 1 else node.storageUsed / node.storageTotal

end PlacementNode

/-- Placement decision for a shard. -/
structure PlacementDecision where
  shardIndex : Nat
  nodes : List PlacementNode
  score : ℚ

/-! ## Usage -/

/-- Shards already placed, by datacenter and by rack. -/
structure Usage where
  dc : String → Nat
  rack : String × Int → Nat

namespace Usage

/-- No shards. -/
def empty : Usage :=
  { dc := fun _ => 0
    rack := fun _ => 0 }

/-- Count one more shard on a node. -/
def record (usage : Usage) (node : PlacementNode) : Usage :=
  match node.datacenter, node.rack with
  | none, _ => usage
  | some dc, none => { usage with dc := Function.update usage.dc dc (usage.dc dc + 1) }
  | some dc, some rack =>
      { dc := Function.update usage.dc dc (usage.dc dc + 1)
        rack := Function.update usage.rack (dc, rack) (usage.rack (dc, rack) + 1) }

theorem record_dc (usage : Usage) (node : PlacementNode) (dc : String) :
    (usage.record node).dc dc = usage.dc dc + if node.datacenter = some dc then 1 else 0 := by
  unfold record
  cases node.datacenter with
  | none => simp
  | some own =>
      by_cases same : dc = own
      · subst same
        cases node.rack <;> simp
      · have other : ¬own = dc := fun equal => same equal.symm
        cases node.rack <;> simp [same, other]

theorem record_rack (usage : Usage) (node : PlacementNode) (dc : String) (rack : Int) :
    (usage.record node).rack (dc, rack) = usage.rack (dc, rack) +
      if node.datacenter = some dc ∧ node.rack = some rack then 1 else 0 := by
  unfold record
  cases node.datacenter with
  | none => simp
  | some own =>
      cases node.rack with
      | none => simp
      | some ownRack =>
          by_cases same : (dc, rack) = (own, ownRack)
          · obtain ⟨rfl, rfl⟩ := Prod.mk.inj same
            simp
          · have other : ¬(own = dc ∧ ownRack = rack) := by
              rintro ⟨rfl, rfl⟩
              exact same rfl
            simp [same, other]

theorem foldl_record_dc (nodes : List PlacementNode) (usage : Usage) (dc : String) :
    (nodes.foldl record usage).dc dc =
      usage.dc dc + nodes.countP fun node => node.datacenter = some dc := by
  induction nodes generalizing usage with
  | nil => rfl
  | cons node nodes induction =>
      rw [List.foldl_cons, induction, record_dc, List.countP_cons]
      simp only [decide_eq_true_eq]
      omega

theorem foldl_record_rack (nodes : List PlacementNode) (usage : Usage) (dc : String) (rack : Int) :
    (nodes.foldl record usage).rack (dc, rack) = usage.rack (dc, rack) +
      nodes.countP fun node => node.datacenter = some dc ∧ node.rack = some rack := by
  induction nodes generalizing usage with
  | nil => rfl
  | cons node nodes induction =>
      rw [List.foldl_cons, induction, record_rack, List.countP_cons]
      simp only [decide_eq_true_eq]
      omega

end Usage

/-! ## Engine -/

/-- Topology-aware placement engine. -/
structure PlacementEngine where
  config : PlacementConfig
  /-- Distance between two nodes in kilometres, if both have coordinates. -/
  distanceKm : PlacementNode → PlacementNode → Option ℚ

namespace PlacementEngine

/-- The share of a node's score that does not depend on earlier choices. -/
def baseScore (engine : PlacementEngine) (node : PlacementNode) (origin : Option PlacementNode) :
    ℚ :=
  100 +
    (if engine.config.preferLowUtilization then
      (1 - node.utilization) * 100 * engine.config.utilizationWeight
    else
      0) +
    (match origin.bind (engine.distanceKm node) with
    | some distance => (1 - min (distance / 20000) 1) * 100 * engine.config.proximityWeight
    | none => 0)

/-- A bonus while there are no shards, then a penalty for each. -/
def diversityScore (bonus penalty : ℚ) (count : Nat) : ℚ :=
  if count = 0 then bonus else -(count * penalty)

/-- Datacenter diversity. -/
def dcScore (usage : Usage) (node : PlacementNode) : ℚ :=
  match node.datacenter with
  | some dc => diversityScore 50 10 (usage.dc dc)
  | none => 0

/-- Rack diversity. -/
def rackScore (usage : Usage) (node : PlacementNode) : ℚ :=
  match node.datacenter, node.rack with
  | some dc, some rack => diversityScore 25 5 (usage.rack (dc, rack))
  | _, _ => 0

/-- Score a node for placement. -/
def scoreNode (engine : PlacementEngine) (node : PlacementNode) (origin : Option PlacementNode)
    (usage : Usage) : ℚ :=
  engine.baseScore node origin + dcScore usage node + rackScore usage node +
    node.bandwidthMbps / 100

/-- Whether the nodes selected so far for a shard leave room in a node's datacenter and rack. -/
def admits (config : PlacementConfig) (selected : Usage) (node : PlacementNode) : Bool :=
  match node.datacenter, node.rack with
  | none, _ => true
  | some dc, none => selected.dc dc < config.maxShardsPerDc
  | some dc, some rack =>
      selected.dc dc < config.maxShardsPerDc &&
        selected.rack (dc, rack) < config.maxShardsPerRack

/-- Consider the next node of the ranking for a shard. -/
def consider (config : PlacementConfig) (count : Nat) (state : List PlacementNode × Usage)
    (ranked : ℚ × PlacementNode) : List PlacementNode × Usage :=
  if state.1.length ≥ count then state
  else if admits config state.2 ranked.2 then
    (state.1 ++ [ranked.2], state.2.record ranked.2)
  else
    state

/-- Select nodes for a single shard. -/
def selectForShard (engine : PlacementEngine) (nodes : List PlacementNode) (count : Nat)
    (origin : Option PlacementNode) (usage : Usage) : List PlacementNode :=
  if count ≥ nodes.length then
    nodes
  else
    ((rankByScore (fun node => engine.scoreNode node origin usage) nodes).foldl
      (consider engine.config count) ([], .empty)).1

/-- Overall score of a placement. -/
def calculatePlacementScore (engine : PlacementEngine) (nodes : List PlacementNode)
    (origin : Option PlacementNode) : ℚ :=
  if nodes.isEmpty then
    0
  else
    let distances := nodes.filterMap fun node => origin.bind (engine.distanceKm node)
    (nodes.filterMap PlacementNode.datacenter).dedup.length * 20 +
      (1 - (nodes.map PlacementNode.utilization).sum / nodes.length) * 50 +
      if distances.isEmpty then 0
      else (1 - min (distances.sum / distances.length / 20000) 1) * 30

/-- Nodes with sufficient storage. -/
def eligible (engine : PlacementEngine) (nodes : List PlacementNode) : List PlacementNode :=
  nodes.filter fun node => node.availableStorage ≥ engine.config.minAvailableStorage

/-- Place the shard of an index after the earlier ones. -/
def placeShard (engine : PlacementEngine) (nodes : List PlacementNode) (replicasPerShard : Nat)
    (origin : Option PlacementNode) (state : List PlacementDecision × Usage) (shardIndex : Nat) :
    List PlacementDecision × Usage :=
  let selected := engine.selectForShard nodes replicasPerShard origin state.2
  (state.1 ++
      [{ shardIndex
         nodes := selected
         score := engine.calculatePlacementScore selected origin }],
    selected.foldl Usage.record state.2)

/-- Select nodes for a set of shards, one decision for each. -/
def selectNodes (engine : PlacementEngine) (availableNodes : List PlacementNode)
    (numShards replicasPerShard : Nat) (origin : Option PlacementNode) : List PlacementDecision :=
  if (engine.eligible availableNodes).isEmpty then
    []
  else
    ((List.range numShards).foldl
      (engine.placeShard (engine.eligible availableNodes) replicasPerShard origin) ([], .empty)).1

/-! ## Shape of a placement -/

section

variable {engine : PlacementEngine} {nodes : List PlacementNode} {origin : Option PlacementNode}

theorem foldl_consider_full (config : PlacementConfig) {count : Nat}
    {state : List PlacementNode × Usage} (full : count ≤ state.1.length)
    (ranked : List (ℚ × PlacementNode)) :
    ranked.foldl (consider config count) state = state := by
  induction ranked with
  | nil => rfl
  | cons head ranked induction =>
      rw [List.foldl_cons, consider, if_pos full, induction]

theorem admits_empty {config : PlacementConfig} (per_dc : 0 < config.maxShardsPerDc)
    (per_rack : 0 < config.maxShardsPerRack) (node : PlacementNode) :
    admits config .empty node = true := by
  unfold admits
  split <;> simp [Usage.empty, per_dc, per_rack]

/-- The head of the ranking gets the shard. -/
theorem selectForShard_of_ranked (per_dc : 0 < engine.config.maxShardsPerDc)
    (per_rack : 0 < engine.config.maxShardsPerRack) (enough : 1 < nodes.length) {usage : Usage}
    {first : ℚ × PlacementNode} {rest : List (ℚ × PlacementNode)}
    (ranked : rankByScore (fun node => engine.scoreNode node origin usage) nodes = first :: rest) :
    engine.selectForShard nodes 1 origin usage = [first.2] := by
  rw [selectForShard, if_neg (by omega), ranked, List.foldl_cons, consider, if_neg (by simp),
    if_pos (admits_empty per_dc per_rack first.2), foldl_consider_full _ (by simp)]
  rfl

/-- One of the candidates gets the shard. -/
theorem selectForShard_singleton (per_dc : 0 < engine.config.maxShardsPerDc)
    (per_rack : 0 < engine.config.maxShardsPerRack) (nodes_ne : nodes ≠ [])
    (origin : Option PlacementNode) (usage : Usage) :
    ∃ target ∈ nodes, engine.selectForShard nodes 1 origin usage = [target] := by
  rcases Nat.lt_or_ge 1 nodes.length with many | single
  · cases ranked : rankByScore (fun node => engine.scoreNode node origin usage) nodes with
    | nil =>
        have lengths := congrArg List.length ranked
        rw [length_rankByScore, List.length_nil] at lengths
        omega
    | cons first rest =>
        refine ⟨first.2, ?_, selectForShard_of_ranked per_dc per_rack many ranked⟩
        have member : first ∈ rankByScore (fun node => engine.scoreNode node origin usage) nodes :=
          ranked ▸ List.mem_cons_self
        obtain ⟨node, node_mem, rfl⟩ := List.mem_map.mp ((List.mergeSort_perm _ _).mem_iff.mp member)
        exact node_mem
  · match nodes, nodes_ne, single with
    | [target], _, _ => exact ⟨target, List.mem_singleton_self _, rfl⟩

/-- With an eligible node every shard has one target among the available nodes. -/
theorem selectNodes_targets (per_dc : 0 < engine.config.maxShardsPerDc)
    (per_rack : 0 < engine.config.maxShardsPerRack) (some_eligible : engine.eligible nodes ≠ [])
    (origin : Option PlacementNode) (numShards : Nat) :
    (engine.selectNodes nodes numShards 1 origin).length = numShards ∧
      ∀ decision ∈ engine.selectNodes nodes numShards 1 origin,
        ∃ target ∈ nodes, decision.nodes = [target] := by
  rw [selectNodes, if_neg (by rwa [List.isEmpty_iff])]
  induction numShards with
  | zero => exact ⟨rfl, by simp⟩
  | succ numShards induction =>
      rw [List.range_succ, List.foldl_append]
      generalize (List.range numShards).foldl _ ([], Usage.empty) = state at induction
      obtain ⟨target, target_mem, selected⟩ :=
        selectForShard_singleton per_dc per_rack some_eligible origin state.2
      refine ⟨by simp [placeShard, induction.1], fun decision member => ?_⟩
      rcases List.mem_append.mp member with earlier | last
      · exact induction.2 decision earlier
      · exact ⟨target, List.mem_of_mem_filter target_mem, by rw [List.mem_singleton.mp last, selected]⟩

end

end PlacementEngine
end CyxCloud.Metadata
