import CyxCloud.Core.Erasure
import CyxCloud.Metadata.Topology
import Mathlib.Tactic.Linarith

/-!
# Fault tolerance of the placement

A shard goes to the node that ranks first.  Nodes of one datacenter and rack get the same bonus
and the same penalty for the shards placed so far, and nodes without a datacenter get neither, so
within such a group the same node ranks first for every shard.  The fourteen shards of a chunk are
therefore on fourteen nodes, and survive the loss of any four, exactly when fourteen different
groups rank first in turn.
-/

namespace CyxCloud.Metadata

open CyxCloud.Core hiding Chunk
open Library

/-- Nodes that every placement scores by the same usage counts. -/
def PlacementNode.placementGroup (node : PlacementNode) : Option (String × Option Int) :=
  node.datacenter.map fun dc => (dc, node.rack)

/-- At least the data shards of a chunk stay on surviving nodes when any four nodes are lost. -/
def ToleratesLoss (decisions : List PlacementDecision) : Prop :=
  decisions.length = TOTAL_SHARDS ∧
    ∀ lost : Finset Uuid, lost.card ≤ PARITY_SHARDS →
      DATA_SHARDS ≤ decisions.countP fun decision => decision.nodes.any fun node => node.id ∉ lost

/-- Each node of a list ranks first among the candidates once the nodes before it hold a shard. -/
def RanksInTurn (engine : PlacementEngine) (origin : Option PlacementNode)
    (nodes chosen : List PlacementNode) : Prop :=
  ∀ position (bound : position < chosen.length),
    RanksFirst
      (fun node => engine.scoreNode node origin ((chosen.take position).foldl Usage.record .empty))
      nodes chosen[position]

namespace PlacementEngine

variable {engine : PlacementEngine} {origin : Option PlacementNode}
  {nodes chosen : List PlacementNode}

/-! ## Groups -/

/-- The score that a usage adds for a group. -/
def groupScore (usage : Usage) : Option (String × Option Int) → ℚ
  | none => 0
  | some (dc, none) => diversityScore 50 10 (usage.dc dc)
  | some (dc, some rack) =>
      diversityScore 50 10 (usage.dc dc) + diversityScore 25 5 (usage.rack (dc, rack))

/-- The score of a node apart from its datacenter's and its rack's. -/
def ownScore (engine : PlacementEngine) (origin : Option PlacementNode) (node : PlacementNode) :
    ℚ :=
  engine.baseScore node origin + node.bandwidthMbps / 100

theorem scoreNode_eq (engine : PlacementEngine) (origin : Option PlacementNode)
    (node : PlacementNode) (usage : Usage) :
    engine.scoreNode node origin usage =
      engine.ownScore origin node + groupScore usage node.placementGroup := by
  unfold scoreNode ownScore dcScore rackScore PlacementNode.placementGroup
  cases node.datacenter with
  | none => simp [groupScore]
  | some dc =>
      cases node.rack with
      | none =>
          simp only [groupScore, Option.map_some]
          ring
      | some rack =>
          simp only [groupScore, Option.map_some]
          ring

/-- Only one node of a group ever ranks first. -/
theorem ranksFirst_unique_in_group {first second : PlacementNode} {usage later : Usage}
    (here : RanksFirst (fun node => engine.scoreNode node origin usage) nodes first)
    (there : RanksFirst (fun node => engine.scoreNode node origin later) nodes second)
    (same : first.placementGroup = second.placementGroup) : first = second := by
  apply here.unique there
  · simp only [scoreNode_eq, same, add_le_add_iff_right]
  · simp only [scoreNode_eq, same, add_lt_add_iff_right]

/-! ## One shard -/

/-- Nodes that may hold a shard's only replica. -/
def admissible (engine : PlacementEngine) (nodes : List PlacementNode) : List PlacementNode :=
  nodes.filter (admits engine.config .empty)

theorem admissible_eq_self (per_dc : 0 < engine.config.maxShardsPerDc)
    (per_rack : 0 < engine.config.maxShardsPerRack) (nodes : List PlacementNode) :
    engine.admissible nodes = nodes :=
  List.filter_eq_self.mpr fun node _ => admits_empty per_dc per_rack node

theorem foldl_consider_one (config : PlacementConfig) (ranking : List (ℚ × PlacementNode)) :
    (ranking.foldl (consider config 1) ([], .empty)).1 =
      ((ranking.find? fun ranked => admits config .empty ranked.2).map Prod.snd).toList := by
  induction ranking with
  | nil => rfl
  | cons ranked ranking induction =>
      rw [List.foldl_cons, consider, if_neg (by simp), List.find?_cons]
      cases admitted : admits config .empty ranked.2 with
      | true =>
          rw [if_pos rfl, foldl_consider_full _ (by simp)]
          rfl
      | false =>
          rw [if_neg Bool.false_ne_true]
          exact induction

/-- A shard with one replica goes to the admissible node that ranks first. -/
theorem selectForShard_one (enough : 1 < nodes.length) (usage : Usage) :
    engine.selectForShard nodes 1 origin usage = [] ∧ engine.admissible nodes = [] ∨
      ∃ first, engine.selectForShard nodes 1 origin usage = [first] ∧
        RanksFirst (fun node => engine.scoreNode node origin usage) (engine.admissible nodes)
          first := by
  rw [selectForShard, if_neg (by omega), foldl_consider_one]
  cases found : (rankByScore (fun node => engine.scoreNode node origin usage) nodes).find?
    fun ranked => admits engine.config .empty ranked.2 with
  | none =>
      refine .inl ⟨rfl, List.filter_eq_nil_iff.mpr fun node member => ?_⟩
      exact List.find?_eq_none.mp found (engine.scoreNode node origin usage, node)
        (mem_rankByScore.mpr ⟨node, member, rfl⟩)
  | some ranked => exact .inr ⟨ranked.2, rfl, ranksFirst_of_find? found⟩

/-! ## All shards -/

/-- The decisions put one shard on each node of a list, and these rank first in turn. -/
structure Places (engine : PlacementEngine) (origin : Option PlacementNode)
    (nodes chosen : List PlacementNode) (state : List PlacementDecision × Usage) : Prop where
  decisions_eq : state.1.map PlacementDecision.nodes = chosen.map fun node => [node]
  usage_eq : state.2 = chosen.foldl Usage.record .empty
  in_turn : RanksInTurn engine origin nodes chosen

theorem ranksInTurn_append {next : PlacementNode}
    (in_turn : RanksInTurn engine origin nodes chosen)
    (first : RanksFirst
      (fun node => engine.scoreNode node origin (chosen.foldl Usage.record .empty)) nodes next) :
    RanksInTurn engine origin nodes (chosen ++ [next]) := by
  intro position bound
  rw [List.length_append, List.length_singleton] at bound
  rcases Nat.lt_or_ge position chosen.length with inside | last
  · rw [List.getElem_append_left inside, List.take_append_of_le_length inside.le]
    exact in_turn position inside
  · have : position = chosen.length := by omega
    subst this
    simpa using first

theorem places_placeShard (some_admissible : engine.admissible nodes ≠ [])
    (enough : 1 < nodes.length) {state : List PlacementDecision × Usage}
    (places : Places engine origin (engine.admissible nodes) chosen state) (shardIndex : Nat) :
    ∃ next, Places engine origin (engine.admissible nodes) (chosen ++ [next])
      (engine.placeShard nodes 1 origin state shardIndex) := by
  obtain ⟨next, selected, first⟩ :=
    (@selectForShard_one engine origin nodes enough state.2).resolve_left
      fun none_left => some_admissible none_left.2
  refine ⟨next, ?_, ?_, ?_⟩
  · simp [placeShard, selected, places.decisions_eq]
  · simp only [placeShard, selected]
    rw [places.usage_eq, List.foldl_append]
  · exact ranksInTurn_append places.in_turn (by rwa [← places.usage_eq])

/-- Any number of shards goes to admissible nodes that rank first in turn. -/
theorem selectNodes_places (some_admissible : engine.admissible (engine.eligible nodes) ≠ [])
    (enough : 1 < (engine.eligible nodes).length) (numShards : Nat) :
    ∃ chosen, chosen.length = numShards ∧
      (engine.selectNodes nodes numShards 1 origin).map PlacementDecision.nodes =
        chosen.map (fun node => [node]) ∧
      RanksInTurn engine origin (engine.admissible (engine.eligible nodes)) chosen := by
  have all : ∃ chosen, chosen.length = numShards ∧
      Places engine origin (engine.admissible (engine.eligible nodes)) chosen
        ((List.range numShards).foldl (engine.placeShard (engine.eligible nodes) 1 origin)
          ([], .empty)) := by
    induction numShards with
    | zero => exact ⟨[], rfl, rfl, rfl, by intro position bound; cases bound⟩
    | succ numShards induction =>
        obtain ⟨chosen, length_eq, places⟩ := induction
        obtain ⟨next, placed⟩ := places_placeShard some_admissible enough places numShards
        refine ⟨chosen ++ [next], by simp [length_eq], ?_⟩
        rwa [List.range_succ, List.foldl_append]
  obtain ⟨chosen, length_eq, places⟩ := all
  refine ⟨chosen, length_eq, ?_, places.in_turn⟩
  rw [selectNodes, if_neg, places.decisions_eq]
  rw [List.isEmpty_iff]
  exact List.ne_nil_of_length_pos (by omega)

/-! ## Loss of nodes -/

/-- One shard on each node of a list is tolerant exactly when the nodes are distinct. -/
theorem toleratesLoss_iff_nodup {decisions : List PlacementDecision}
    (decisions_eq : decisions.map PlacementDecision.nodes = chosen.map fun node => [node])
    (length_eq : chosen.length = TOTAL_SHARDS) :
    ToleratesLoss decisions ↔ (chosen.map PlacementNode.id).Nodup := by
  have decisions_length : decisions.length = TOTAL_SHARDS := by
    rw [← length_eq, ← List.length_map PlacementDecision.nodes, decisions_eq, List.length_map]
  have count_eq : ∀ lost : Finset Uuid,
      (decisions.countP fun decision => decision.nodes.any fun node => node.id ∉ lost) =
        (chosen.map PlacementNode.id).countP fun holder => holder ∉ lost := by
    intro lost
    have counted := congrArg
      (List.countP fun held : List PlacementNode => held.any fun node => node.id ∉ lost)
      decisions_eq
    simpa [List.countP_map, Function.comp_def] using counted
  have holders_length : (chosen.map PlacementNode.id).length = TOTAL_SHARDS := by
    rw [List.length_map, length_eq]
  have survives := survives_iff_nodup (chosen.map PlacementNode.id)
    (show 0 < PARITY_SHARDS by decide) (by rw [holders_length]; decide)
  rw [holders_length] at survives
  rw [ToleratesLoss, ← survives]
  simp only [decisions_length, count_eq, true_and]
  rfl

theorem exists_usage (in_turn : RanksInTurn engine origin nodes chosen) {node : PlacementNode}
    (member : node ∈ chosen) :
    ∃ usage, RanksFirst (fun node => engine.scoreNode node origin usage) nodes node := by
  obtain ⟨position, bound, rfl⟩ := List.getElem_of_mem member
  exact ⟨_, in_turn position bound⟩

/-- Nodes that rank first in turn are distinct exactly when their groups are. -/
theorem ids_nodup_iff_groups_nodup (distinct : (nodes.map PlacementNode.id).Nodup)
    (in_turn : RanksInTurn engine origin nodes chosen) :
    (chosen.map PlacementNode.id).Nodup ↔ (chosen.map PlacementNode.placementGroup).Nodup := by
  have alike : ∀ first ∈ chosen, ∀ second ∈ chosen,
      first.id = second.id ↔ first.placementGroup = second.placementGroup := by
    intro first first_mem second second_mem
    obtain ⟨usage, here⟩ := exists_usage in_turn first_mem
    obtain ⟨later, there⟩ := exists_usage in_turn second_mem
    constructor
    · intro same
      rw [List.inj_on_of_nodup_map distinct here.mem there.mem same]
    · intro same
      rw [ranksFirst_unique_in_group here there same]
  rw [List.Nodup, List.Nodup, List.pairwise_map, List.pairwise_map]
  constructor
  · exact List.Pairwise.imp_of_mem fun first_mem second_mem apart =>
      mt (alike _ first_mem _ second_mem).mpr apart
  · exact List.Pairwise.imp_of_mem fun first_mem second_mem apart =>
      mt (alike _ first_mem _ second_mem).mp apart

/-- At most one list of each length ranks first in turn. -/
theorem ranksInTurn_unique {rival : List PlacementNode}
    (in_turn : RanksInTurn engine origin nodes chosen)
    (rival_in_turn : RanksInTurn engine origin nodes rival) (length_eq : chosen.length = rival.length) :
    chosen = rival := by
  have prefixes : ∀ count, chosen.take count = rival.take count := by
    intro count
    induction count with
    | zero => rfl
    | succ count induction =>
        rcases Nat.lt_or_ge count chosen.length with inside | beyond
        · have here := in_turn count inside
          have there := rival_in_turn count (length_eq ▸ inside)
          rw [induction] at here
          have same := here.unique there Iff.rfl Iff.rfl
          rw [List.take_succ_eq_append_getElem inside,
            List.take_succ_eq_append_getElem (length_eq ▸ inside), induction, same]
        · rw [List.take_of_length_le (by omega), List.take_of_length_le (by omega)]
          rw [List.take_of_length_le (by omega), List.take_of_length_le (by omega)] at induction
          exact induction
  have whole := prefixes chosen.length
  rwa [List.take_length, length_eq, List.take_length] at whole

/-- The decisions for the shards of a chunk put one on each of fourteen nodes that rank first in
turn, and tolerate the loss of four nodes exactly when these are in different groups. -/
theorem selectNodes_toleratesLoss (per_dc : 0 < engine.config.maxShardsPerDc)
    (per_rack : 0 < engine.config.maxShardsPerRack)
    (distinct : ((engine.eligible nodes).map PlacementNode.id).Nodup)
    (enough : TOTAL_SHARDS ≤ (engine.eligible nodes).length) :
    ∃ chosen, chosen.length = TOTAL_SHARDS ∧
      RanksInTurn engine origin (engine.eligible nodes) chosen ∧
      (ToleratesLoss (engine.selectNodes nodes TOTAL_SHARDS 1 origin) ↔
        (chosen.map PlacementNode.placementGroup).Nodup) := by
  have several : 1 < (engine.eligible nodes).length :=
    Nat.lt_of_lt_of_le (show 1 < TOTAL_SHARDS by decide) enough
  have all_admissible := admissible_eq_self per_dc per_rack (engine.eligible nodes)
  have some_admissible : engine.admissible (engine.eligible nodes) ≠ [] := by
    rw [all_admissible]
    exact List.ne_nil_of_length_pos (by omega)
  obtain ⟨chosen, length_eq, decisions_eq, in_turn⟩ :=
    @selectNodes_places engine origin nodes some_admissible several TOTAL_SHARDS
  rw [all_admissible] at in_turn
  refine ⟨chosen, length_eq, in_turn, ?_⟩
  rw [toleratesLoss_iff_nodup decisions_eq length_eq, ids_nodup_iff_groups_nodup distinct in_turn]

end PlacementEngine

/-- The default engine. -/
def PlacementEngine.default (distanceKm : PlacementNode → PlacementNode → Option ℚ) :
    PlacementEngine :=
  { config := .default
    distanceKm }

/-- A node with ten gigabytes to give. -/
def spareNode (id : Uuid) (datacenter : Option String) : PlacementNode :=
  { id
    grpcAddress := "node"
    datacenter
    rack := some 0
    region := none
    latitude := none
    longitude := none
    storageTotal := 10000000000
    storageUsed := 0
    bandwidthMbps := 1000 }

end CyxCloud.Metadata
