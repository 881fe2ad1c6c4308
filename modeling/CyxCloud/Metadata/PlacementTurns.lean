import CyxCloud.Metadata.Placement
import Mathlib.Data.Finset.Max
import Mathlib.Data.List.ProdSigma

/-!
# Turns of the nodes

In every group one node, its leader, stands before the others whatever the usage.  The leaders of a
datacenter get their shards in the order of their scores and the penalties of their racks, so the
place of each such turn in the datacenter, the score the node then has, and with it the order of all
turns are known from the nodes alone.  Shards with one replica go to the nodes in that order, and
those of a chunk survive the loss of any four nodes exactly when no node has a second turn among
the first fourteen.
-/

namespace CyxCloud.Metadata

open CyxCloud.Core hiding Chunk
open Library

/-- A node's turn to get a shard when it already holds some. -/
@[ext]
structure Turn where
  node : PlacementNode
  held : Nat
  deriving DecidableEq

/-- Turns of one score come in the order of the nodes, and those of a node one after another. -/
def Turn.position (nodes : List PlacementNode) (turn : Turn) : ℕ ×ₗ ℕ :=
  toLex (nodes.idxOf turn.node, turn.held)

namespace PlacementEngine

variable (engine : PlacementEngine) (origin : Option PlacementNode) (nodes : List PlacementNode)
  (numShards : Nat)

/-! ## Leaders -/

/-- The nodes that stand before the others of their groups. -/
def leaders : List PlacementNode :=
  (nodes.filter fun node => ∀ other ∈ nodes, other.placementGroup = node.placementGroup →
    place nodes.idxOf (engine.ownScore origin node) node ≤
      place nodes.idxOf (engine.ownScore origin other) other).dedup

/-- All turns that the leaders may have for a number of shards. -/
def allTurns : List Turn :=
  (engine.leaders origin nodes ×ˢ List.range numShards).map fun pair => ⟨pair.1, pair.2⟩

/-- The score of a node in its turn apart from its datacenter's. -/
def rackedScore (turn : Turn) : ℚ :=
  engine.ownScore origin turn.node +
    if turn.node.rack.isSome then diversityScore 25 5 turn.held else 0

/-- How many turns in a node's datacenter come before its turn. -/
def aheadInDc (turn : Turn) : Nat :=
  (engine.allTurns origin nodes numShards).countP fun other =>
    other.node.datacenter = turn.node.datacenter ∧
      place (Turn.position nodes) (engine.rackedScore origin other) other <
        place (Turn.position nodes) (engine.rackedScore origin turn) turn

/-- The score of a node in its turn. -/
def turnScore (turn : Turn) : ℚ :=
  match turn.node.datacenter with
  | none => engine.ownScore origin turn.node
  | some _ =>
      engine.rackedScore origin turn +
        diversityScore 50 10 (engine.aheadInDc origin nodes numShards turn)

/-- Where a turn stands among all of them. -/
def turnPlace (turn : Turn) : ℚᵒᵈ ×ₗ (ℕ ×ₗ ℕ) :=
  place (Turn.position nodes) (engine.turnScore origin nodes numShards turn) turn

/-- How many turns come before a turn. -/
def ahead (turn : Turn) : Nat :=
  (engine.allTurns origin nodes numShards).countP fun other =>
    engine.turnPlace origin nodes numShards other < engine.turnPlace origin nodes numShards turn

/-- The turns in their order. -/
def turns : List Turn :=
  (engine.allTurns origin nodes numShards).mergeSort fun left right =>
    decide (engine.turnPlace origin nodes numShards left ≤
      engine.turnPlace origin nodes numShards right)

variable {engine origin nodes numShards} {node other : PlacementNode} {turn rival : Turn}

theorem mem_leaders_iff :
    node ∈ engine.leaders origin nodes ↔
      node ∈ nodes ∧ ∀ other ∈ nodes, other.placementGroup = node.placementGroup →
        place nodes.idxOf (engine.ownScore origin node) node ≤
          place nodes.idxOf (engine.ownScore origin other) other := by
  rw [leaders, List.mem_dedup, List.mem_filter, decide_eq_true_iff]

theorem mem_of_mem_leaders (leader : node ∈ engine.leaders origin nodes) : node ∈ nodes :=
  (mem_leaders_iff.mp leader).1

theorem eq_of_place_le {high low : ℚ} (member : node ∈ nodes)
    (before : place nodes.idxOf high node ≤ place nodes.idxOf low other)
    (after : place nodes.idxOf low other ≤ place nodes.idxOf high node) : node = other :=
  (List.idxOf_inj member).mp (position_eq_of_place_eq (le_antisymm before after))

/-- A group has one leader. -/
theorem leader_unique (leader : node ∈ engine.leaders origin nodes)
    (other_leader : other ∈ engine.leaders origin nodes)
    (same : other.placementGroup = node.placementGroup) : other = node := by
  obtain ⟨member, before⟩ := mem_leaders_iff.mp leader
  obtain ⟨other_mem, other_before⟩ := mem_leaders_iff.mp other_leader
  exact eq_of_place_le other_mem (other_before node member same.symm)
    (before other other_mem same)

/-- Every node has a leader. -/
theorem exists_leader (member : node ∈ nodes) :
    ∃ leader ∈ engine.leaders origin nodes, leader.placementGroup = node.placementGroup ∧
      place nodes.idxOf (engine.ownScore origin leader) leader ≤
        place nodes.idxOf (engine.ownScore origin node) node := by
  have inside : node ∈ (nodes.filter fun other =>
      other.placementGroup = node.placementGroup).toFinset := by
    simpa using member
  obtain ⟨leader, leader_mem, least⟩ := Finset.exists_min_image _
    (fun other => place nodes.idxOf (engine.ownScore origin other) other) ⟨node, inside⟩
  simp only [List.mem_toFinset, List.mem_filter, decide_eq_true_eq] at leader_mem least
  refine ⟨leader, mem_leaders_iff.mpr ⟨leader_mem.1, fun other other_mem same => ?_⟩,
    leader_mem.2, least node ⟨member, rfl⟩⟩
  exact least other ⟨other_mem, same.trans leader_mem.2⟩

/-- Whatever the usage, nodes of one group stand in one order. -/
theorem place_scoreNode_le (usage : Usage) (same : node.placementGroup = other.placementGroup) :
    place nodes.idxOf (engine.scoreNode node origin usage) node ≤
        place nodes.idxOf (engine.scoreNode other origin usage) other ↔
      place nodes.idxOf (engine.ownScore origin node) node ≤
        place nodes.idxOf (engine.ownScore origin other) other := by
  rw [scoreNode_eq, scoreNode_eq, same]
  exact place_add_le

/-! ## Order of the turns -/

theorem mem_allTurns_iff :
    turn ∈ engine.allTurns origin nodes numShards ↔
      turn.node ∈ engine.leaders origin nodes ∧ turn.held < numShards := by
  simp only [allTurns, List.mem_map, Prod.exists, List.mem_product, List.mem_range]
  constructor
  · rintro ⟨node, held, both, rfl⟩
    exact both
  · intro both
    exact ⟨_, _, both, rfl⟩

theorem nodup_allTurns : (engine.allTurns origin nodes numShards).Nodup := by
  refine List.Nodup.map ?_ ((List.nodup_dedup _).product List.nodup_range)
  rintro ⟨node, held⟩ ⟨node', held'⟩ same
  obtain ⟨rfl, rfl⟩ := Turn.mk.inj same
  rfl

/-- No two turns stand in one place. -/
theorem eq_of_turn_place_eq {high low : ℚ} (member : turn ∈ engine.allTurns origin nodes numShards)
    (same : place (Turn.position nodes) high turn = place (Turn.position nodes) low rival) :
    turn = rival := by
  have position_eq : Turn.position nodes turn = Turn.position nodes rival :=
    position_eq_of_place_eq same
  obtain ⟨idx_eq, held_eq⟩ := Prod.mk.inj position_eq
  have node_eq := (List.idxOf_inj (mem_of_mem_leaders (mem_allTurns_iff.mp member).1)).mp idx_eq
  exact (Turn.ext_iff).mpr ⟨node_eq, held_eq⟩

theorem diversityScore_anti {bonus penalty : ℚ} (bonus_nonneg : 0 ≤ bonus)
    (penalty_nonneg : 0 ≤ penalty) {few many : Nat} (le : few ≤ many) :
    diversityScore bonus penalty many ≤ diversityScore bonus penalty few := by
  rw [diversityScore, diversityScore]
  split
  · rename_i none_many
    rw [if_pos (by omega)]
  · split
    · exact (neg_nonpos.mpr (mul_nonneg (Nat.cast_nonneg many) penalty_nonneg)).trans bonus_nonneg
    · exact neg_le_neg (mul_le_mul_of_nonneg_right (by exact_mod_cast le) penalty_nonneg)

/-- The turns in a datacenter come in the order of their scores apart from the datacenter's. -/
theorem turnPlace_lt_of_racked {dc : String} (turn_dc : turn.node.datacenter = some dc)
    (rival_dc : rival.node.datacenter = some dc)
    (before : place (Turn.position nodes) (engine.rackedScore origin turn) turn <
      place (Turn.position nodes) (engine.rackedScore origin rival) rival) :
    engine.turnPlace origin nodes numShards turn < engine.turnPlace origin nodes numShards rival := by
  have fewer : engine.aheadInDc origin nodes numShards turn ≤
      engine.aheadInDc origin nodes numShards rival := by
    refine List.countP_mono_left fun third _ ahead => ?_
    simp only [decide_eq_true_eq, turn_dc, rival_dc] at ahead ⊢
    exact ⟨ahead.1, ahead.2.trans before⟩
  simp only [turnPlace, turnScore, turn_dc, rival_dc]
  exact place_add_lt (diversityScore_anti (by norm_num) (by norm_num) fewer) before

theorem turnPlace_lt_iff_racked {dc : String} (turn_dc : turn.node.datacenter = some dc)
    (rival_dc : rival.node.datacenter = some dc)
    (member : turn ∈ engine.allTurns origin nodes numShards) :
    engine.turnPlace origin nodes numShards turn < engine.turnPlace origin nodes numShards rival ↔
      place (Turn.position nodes) (engine.rackedScore origin turn) turn <
        place (Turn.position nodes) (engine.rackedScore origin rival) rival := by
  refine ⟨fun before => ?_, turnPlace_lt_of_racked turn_dc rival_dc⟩
  by_contra behind
  rcases (not_lt.mp behind).lt_or_eq with after | same
  · exact before.asymm (turnPlace_lt_of_racked rival_dc turn_dc after)
  · rw [eq_of_turn_place_eq member same.symm] at before
    exact lt_irrefl _ before

/-- The turns of a node come one after another. -/
theorem turnPlace_lt_of_held (same : turn.node = rival.node) (fewer : turn.held < rival.held) :
    engine.turnPlace origin nodes numShards turn < engine.turnPlace origin nodes numShards rival := by
  have before : Turn.position nodes turn < Turn.position nodes rival := by
    rw [Turn.position, Turn.position, same]
    exact Prod.Lex.toLex_lt_toLex.mpr (.inr ⟨rfl, fewer⟩)
  cases located : turn.node.datacenter with
  | none =>
      simp only [turnPlace, turnScore, ← same, located]
      exact place_lt_place.mpr (.inr ⟨rfl, before⟩)
  | some dc =>
      refine turnPlace_lt_of_racked located (same ▸ located) (place_lt_place.mpr ?_)
      have le : engine.rackedScore origin rival ≤ engine.rackedScore origin turn := by
        rw [rackedScore, rackedScore, same]
        refine add_le_add_right ?_ _
        split
        · exact diversityScore_anti (by norm_num) (by norm_num) fewer.le
        · exact le_refl _
      rcases le.lt_or_eq with lower | equal
      · exact .inl lower
      · exact .inr ⟨equal.symm, before⟩

theorem turns_perm :
    (engine.turns origin nodes numShards).Perm (engine.allTurns origin nodes numShards) :=
  List.mergeSort_perm _ _

theorem turns_sorted : (engine.turns origin nodes numShards).Pairwise fun left right =>
    engine.turnPlace origin nodes numShards left ≤
      engine.turnPlace origin nodes numShards right :=
  pairwise_mergeSort_by (engine.turnPlace origin nodes numShards) _

/-- A node has as many turns as there are shards. -/
theorem countP_allTurns (leader : node ∈ engine.leaders origin nodes) {limit : Nat}
    (le : limit ≤ numShards) :
    ((engine.allTurns origin nodes numShards).countP fun turn =>
      turn.node = node ∧ turn.held < limit) = limit := by
  have perm : ((engine.allTurns origin nodes numShards).filter fun turn =>
      turn.node = node ∧ turn.held < limit).Perm ((List.range limit).map (Turn.mk node)) := by
    refine (List.perm_ext_iff_of_nodup (nodup_allTurns.filter _)
      (List.nodup_range.map fun _ _ same => (Turn.mk.inj same).2)).mpr fun turn => ?_
    simp only [List.mem_filter, mem_allTurns_iff, decide_eq_true_eq, List.mem_map, List.mem_range]
    constructor
    · rintro ⟨-, rfl, fewer⟩
      exact ⟨turn.held, fewer, rfl⟩
    · rintro ⟨held, fewer, rfl⟩
      exact ⟨⟨leader, fewer.trans_le le⟩, rfl, fewer⟩
  rw [List.countP_eq_length_filter, perm.length_eq, List.length_map, List.length_range]

section

variable {earlier later : List Turn} {next : Turn}

theorem mem_of_split (split : engine.turns origin nodes numShards = earlier ++ next :: later)
    (member : turn ∈ earlier ++ next :: later) :
    turn ∈ engine.allTurns origin nodes numShards :=
  turns_perm.mem_iff.mp (split ▸ member)

theorem next_le (split : engine.turns origin nodes numShards = earlier ++ next :: later)
    (member : turn ∈ next :: later) :
    engine.turnPlace origin nodes numShards next ≤
      engine.turnPlace origin nodes numShards turn := by
  have sorted := @turns_sorted engine origin nodes numShards
  rw [split] at sorted
  rcases List.mem_cons.mp member with rfl | inside
  · exact le_refl _
  · exact (List.pairwise_cons.mp (List.pairwise_append.mp sorted).2.1).1 turn inside

theorem lt_next (split : engine.turns origin nodes numShards = earlier ++ next :: later)
    (member : turn ∈ earlier) :
    engine.turnPlace origin nodes numShards turn <
      engine.turnPlace origin nodes numShards next := by
  have apart : (earlier ++ next :: later).Nodup := split ▸ turns_perm.nodup_iff.mpr nodup_allTurns
  have sorted := @turns_sorted engine origin nodes numShards
  rw [split] at sorted
  refine lt_of_le_of_ne
    ((List.pairwise_append.mp sorted).2.2 turn member next List.mem_cons_self) fun same => ?_
  have next_eq := eq_of_turn_place_eq (mem_of_split split (List.mem_append_left _ member)) same
  exact (List.nodup_append.mp apart).2.2 turn member next List.mem_cons_self next_eq

/-- The earlier turns of a kind are all those that come before the next one. -/
theorem countP_earlier (split : engine.turns origin nodes numShards = earlier ++ next :: later)
    (kind : Turn → Prop) [DecidablePred kind] :
    (earlier.countP fun turn => kind turn) =
      (engine.allTurns origin nodes numShards).countP fun turn => kind turn ∧
        engine.turnPlace origin nodes numShards turn <
          engine.turnPlace origin nodes numShards next := by
  rw [← turns_perm.countP_eq, split, List.countP_append]
  have none_later : ((next :: later).countP fun turn => kind turn ∧
      engine.turnPlace origin nodes numShards turn <
        engine.turnPlace origin nodes numShards next) = 0 := by
    refine List.countP_eq_zero.mpr fun turn member before => ?_
    exact not_lt_of_ge (next_le split member) (of_decide_eq_true before).2
  rw [none_later, Nat.add_zero]
  refine List.countP_congr fun turn member => ?_
  simp only [decide_eq_true_eq]
  exact ⟨fun is_kind => ⟨is_kind, lt_next split member⟩, And.left⟩

/-- In its turn a node finds as many turns of its datacenter behind it as there have been. -/
theorem aheadInDc_eq (split : engine.turns origin nodes numShards = earlier ++ next :: later)
    {dc : String} (located : next.node.datacenter = some dc) :
    engine.aheadInDc origin nodes numShards next =
      earlier.countP fun turn => turn.node.datacenter = some dc := by
  rw [aheadInDc, countP_earlier split, located]
  refine List.countP_congr fun turn member => ?_
  simp only [decide_eq_true_eq]
  refine and_congr_right fun turn_dc => ?_
  exact (turnPlace_lt_iff_racked turn_dc located member).symm

/-- In its turn a node holds as many shards as it has had turns. -/
theorem held_eq (split : engine.turns origin nodes numShards = earlier ++ next :: later) :
    next.held = earlier.countP fun turn => turn.node = next.node := by
  obtain ⟨leader, inside⟩ := mem_allTurns_iff.mp
    (mem_of_split split (List.mem_append_right _ List.mem_cons_self))
  rw [countP_earlier split, ← countP_allTurns leader inside.le]
  refine List.countP_congr fun turn member => ?_
  simp only [decide_eq_true_eq]
  refine and_congr_right fun same => ⟨turnPlace_lt_of_held same, fun before => ?_⟩
  by_contra more
  rcases (Nat.le_of_not_lt more).lt_or_eq with fewer | equal
  · exact before.asymm (turnPlace_lt_of_held same.symm fewer)
  · rw [Turn.ext same equal.symm] at before
    exact lt_irrefl _ before

/-! ## Scores in a turn -/

/-- The shards that the earlier turns gave out. -/
def usageOf (turns : List Turn) : Usage := (turns.map Turn.node).foldl Usage.record .empty

theorem usageOf_dc (turns : List Turn) (dc : String) :
    (usageOf turns).dc dc = turns.countP fun turn => turn.node.datacenter = some dc := by
  rw [usageOf, Usage.foldl_record_dc, Usage.empty, Nat.zero_add, List.countP_map]
  rfl

theorem scoreNode_of_unlocated (unlocated : node.datacenter = none) (usage : Usage) :
    engine.scoreNode node origin usage = engine.ownScore origin node := by
  rw [scoreNode_eq, PlacementNode.placementGroup, unlocated, Option.map_none, groupScore, add_zero]

/-- A leader's score after the earlier turns is that of its next turn with the penalty of its
datacenter. -/
theorem scoreNode_of_located
    (split : engine.turns origin nodes numShards = earlier ++ next :: later)
    (leader : node ∈ engine.leaders origin nodes) {dc : String}
    (located : node.datacenter = some dc) :
    engine.scoreNode node origin (usageOf earlier) =
      engine.rackedScore origin ⟨node, earlier.countP fun turn => turn.node = node⟩ +
        diversityScore 50 10 (earlier.countP fun turn => turn.node.datacenter = some dc) := by
  have group_eq : node.placementGroup = some (dc, node.rack) := by
    rw [PlacementNode.placementGroup, located, Option.map_some]
  rw [scoreNode_eq, group_eq, rackedScore]
  cases rack_eq : node.rack with
  | none => simp [groupScore, usageOf_dc]
  | some rack =>
      have own_rack : (usageOf earlier).rack (dc, rack) =
          earlier.countP fun turn => turn.node = node := by
        rw [usageOf, Usage.foldl_record_rack, Usage.empty, Nat.zero_add, List.countP_map]
        refine List.countP_congr fun turn member => ?_
        simp only [Function.comp_apply, decide_eq_true_eq]
        constructor
        · rintro ⟨turn_dc, turn_rack⟩
          have other_leader := (mem_allTurns_iff.mp
            (mem_of_split split (List.mem_append_left _ member))).1
          refine leader_unique leader other_leader ?_
          rw [group_eq, PlacementNode.placementGroup, turn_dc, turn_rack, rack_eq, Option.map_some]
        · rintro rfl
          exact ⟨located, rack_eq⟩
      rw [groupScore, usageOf_dc, own_rack]
      simp only [Option.isSome_some, if_true]
      ring

theorem scoreNode_next (split : engine.turns origin nodes numShards = earlier ++ next :: later) :
    engine.scoreNode next.node origin (usageOf earlier) =
      engine.turnScore origin nodes numShards next := by
  have leader := (mem_allTurns_iff.mp
    (mem_of_split split (List.mem_append_right _ List.mem_cons_self))).1
  cases located : next.node.datacenter with
  | none => simp only [scoreNode_of_unlocated located, turnScore, located]
  | some dc =>
      rw [scoreNode_of_located split leader located, ← held_eq split,
        ← aheadInDc_eq split located]
      simp only [turnScore, located]

theorem place_node_le {high low : ℚ}
    (le : place (Turn.position nodes) high turn ≤ place (Turn.position nodes) low rival) :
    place nodes.idxOf high turn.node ≤ place nodes.idxOf low rival.node := by
  rcases place_le_place.mp le with lower | ⟨same, before⟩
  · exact place_le_place.mpr (.inl lower)
  · refine place_le_place.mpr (.inr ⟨same, ?_⟩)
    rcases Prod.Lex.toLex_le_toLex.mp before with earlier | ⟨equal, -⟩
    · exact earlier.le
    · exact equal.le

/-- A leader has a turn left when there are more turns to come than have been. -/
theorem some_waiting (split : engine.turns origin nodes numShards = earlier ++ next :: later)
    (room : earlier.length < numShards) (leader : node ∈ engine.leaders origin nodes) :
    0 < (next :: later).countP fun turn => turn.node = node := by
  have all := countP_allTurns leader (le_refl numShards)
  rw [← turns_perm.countP_eq, split, List.countP_append] at all
  have few : (earlier.countP fun turn => turn.node = node ∧ turn.held < numShards) ≤
      earlier.length := List.countP_le_length
  have fewer : ((next :: later).countP fun turn => turn.node = node ∧ turn.held < numShards) ≤
      (next :: later).countP fun turn => turn.node = node := by
    refine List.countP_mono_left fun turn _ both => ?_
    exact decide_eq_true (of_decide_eq_true both).1
  omega

/-- In the next turn no leader stands before the node whose turn it is. -/
theorem next_le_leader (split : engine.turns origin nodes numShards = earlier ++ next :: later)
    (room : earlier.length < numShards) (leader : node ∈ engine.leaders origin nodes) :
    place nodes.idxOf (engine.turnScore origin nodes numShards next) next.node ≤
      place nodes.idxOf (engine.scoreNode node origin (usageOf earlier)) node := by
  obtain ⟨between, waiting, rest, later_eq, rfl, none_between⟩ :=
    exists_split_of_lt_countP (fun turn : Turn => turn.node = node) (some_waiting split room leader)
  have waiting_split : engine.turns origin nodes numShards =
      (earlier ++ between) ++ waiting :: rest := by
    rw [split, later_eq, List.append_assoc]
  have waiting_mem : waiting ∈ next :: later := by
    rw [later_eq]
    exact List.mem_append_right _ List.mem_cons_self
  have waiting_held := held_eq waiting_split
  rw [List.countP_append, none_between, Nat.add_zero] at waiting_held
  cases located : waiting.node.datacenter with
  | none =>
      have waiting_score : engine.turnScore origin nodes numShards waiting =
          engine.ownScore origin waiting.node := by
        simp only [turnScore, located]
      rw [scoreNode_of_unlocated located, ← waiting_score]
      exact place_node_le (next_le split waiting_mem)
  | some dc =>
      -- the first turn to come in the datacenter has its score already
      obtain ⟨before, front, behind, later_eq', front_dc, none_before⟩ :=
        exists_split_of_lt_countP (fun turn : Turn => turn.node.datacenter = some dc)
          (List.countP_pos_iff.mpr ⟨waiting, waiting_mem, decide_eq_true located⟩)
      have front_split : engine.turns origin nodes numShards =
          (earlier ++ before) ++ front :: behind := by
        rw [split, later_eq', List.append_assoc]
      have front_mem : front ∈ next :: later := by
        rw [later_eq']
        exact List.mem_append_right _ List.mem_cons_self
      have front_ahead := aheadInDc_eq front_split front_dc
      rw [List.countP_append, none_before, Nat.add_zero] at front_ahead
      have front_score : engine.turnScore origin nodes numShards front =
          engine.rackedScore origin front +
            diversityScore 50 10 (earlier.countP fun turn => turn.node.datacenter = some dc) := by
        simp only [turnScore, front_dc, front_ahead]
      have waiting_behind : waiting ∈ front :: behind := by
        rw [later_eq'] at waiting_mem
        refine (List.mem_append.mp waiting_mem).resolve_left fun inside => ?_
        exact List.countP_eq_zero.mp none_before waiting inside (decide_eq_true located)
      have racked_le : place (Turn.position nodes) (engine.rackedScore origin front) front ≤
          place (Turn.position nodes) (engine.rackedScore origin waiting) waiting := by
        by_contra after
        exact not_lt_of_ge (next_le front_split waiting_behind)
          (turnPlace_lt_of_racked located front_dc (not_le.mp after))
      rw [scoreNode_of_located split leader located, ← waiting_held]
      refine place_node_le ((next_le split front_mem).trans ?_)
      rw [turnPlace, front_score]
      exact place_add_le.mpr racked_le

/-- The node whose turn it is ranks first. -/
theorem next_ranksFirst (split : engine.turns origin nodes numShards = earlier ++ next :: later)
    (room : earlier.length < numShards) :
    RanksFirst (fun node => engine.scoreNode node origin (usageOf earlier)) nodes next.node := by
  have leader := (mem_allTurns_iff.mp
    (mem_of_split split (List.mem_append_right _ List.mem_cons_self))).1
  refine ranksFirst_iff.mpr ⟨mem_of_mem_leaders leader, fun rival member => ?_⟩
  obtain ⟨front, front_leader, same, before⟩ := @exists_leader engine origin _ _ member
  rw [scoreNode_next split]
  exact (next_le_leader split room front_leader).trans ((place_scoreNode_le _ same).mpr before)

end

/-! ## Nodes in turn -/

theorem le_length_turns (some_node : nodes ≠ []) :
    numShards ≤ (engine.turns origin nodes numShards).length := by
  obtain ⟨node, member⟩ := List.exists_mem_of_ne_nil nodes some_node
  obtain ⟨leader, leader_mem, -, -⟩ := @exists_leader engine origin nodes node member
  rw [turns_perm.length_eq, allTurns, List.length_map, List.length_product, List.length_range]
  exact Nat.le_mul_of_pos_left _ (List.length_pos_of_mem leader_mem)

/-- The nodes of the first turns rank first in turn. -/
theorem turns_rankInTurn :
    RanksInTurn engine origin nodes
      (((engine.turns origin nodes numShards).take numShards).map Turn.node) := by
  intro position bound
  rw [List.length_map, List.length_take] at bound
  have inside : position < (engine.turns origin nodes numShards).length := by omega
  have split := List.take_append_drop position (engine.turns origin nodes numShards)
  rw [List.drop_eq_getElem_cons inside] at split
  have room : ((engine.turns origin nodes numShards).take position).length < numShards := by
    rw [List.length_take]
    omega
  have first := next_ranksFirst split.symm room
  rw [List.getElem_map, List.getElem_take, ← List.map_take, List.take_take,
    Nat.min_eq_left (by omega)]
  exact first

theorem ahead_eq {earlier later : List Turn}
    (split : engine.turns origin nodes numShards = earlier ++ turn :: later) :
    engine.ahead origin nodes numShards turn = earlier.length := by
  have counted := countP_earlier split fun _ => True
  simp only [true_and, decide_true] at counted
  rw [ahead, ← counted]
  exact congrFun List.countP_true earlier

/-- A turn is one of the first exactly when few turns come before it. -/
theorem mem_take_turns_iff (member : turn ∈ engine.allTurns origin nodes numShards)
    (count : Nat) :
    turn ∈ (engine.turns origin nodes numShards).take count ↔
      engine.ahead origin nodes numShards turn < count := by
  obtain ⟨earlier, later, split⟩ := List.append_of_mem (turns_perm.mem_iff.mpr member)
  have apart : (earlier ++ turn :: later).Nodup := split ▸ turns_perm.nodup_iff.mpr nodup_allTurns
  have absent : turn ∉ earlier := fun inside =>
    (List.nodup_append.mp apart).2.2 turn inside turn List.mem_cons_self rfl
  rw [ahead_eq split, List.mem_take_iff_idxOf_lt (turns_perm.mem_iff.mpr member), split,
    List.idxOf_append_of_notMem absent, List.idxOf_cons_self, Nat.add_zero]

/-- Nodes that rank first in turn are those of the first turns. -/
theorem eq_of_rankInTurn {chosen : List PlacementNode} (some_node : nodes ≠ [])
    (in_turn : RanksInTurn engine origin nodes chosen) :
    chosen = ((engine.turns origin nodes chosen.length).take chosen.length).map Turn.node := by
  refine ranksInTurn_unique in_turn turns_rankInTurn ?_
  rw [List.length_map, List.length_take, Nat.min_eq_left (le_length_turns some_node)]

/-- The first turns are of different nodes exactly when no second turn is among them. -/
theorem nodup_take_turns_iff (several : 1 < numShards) :
    (((engine.turns origin nodes numShards).take numShards).map Turn.node).Nodup ↔
      ∀ leader ∈ engine.leaders origin nodes,
        numShards ≤ engine.ahead origin nodes numShards ⟨leader, 1⟩ := by
  have turns_nodup : ((engine.turns origin nodes numShards).take numShards).Nodup :=
    (turns_perm.nodup_iff.mpr nodup_allTurns).sublist (List.take_sublist _ _)
  have member_of_taken : ∀ turn ∈ (engine.turns origin nodes numShards).take numShards,
      turn ∈ engine.allTurns origin nodes numShards :=
    fun turn taken => turns_perm.mem_iff.mp (List.mem_of_mem_take taken)
  have earlier_taken : ∀ turn ∈ (engine.turns origin nodes numShards).take numShards,
      ∀ held < turn.held, ⟨turn.node, held⟩ ∈
        (engine.turns origin nodes numShards).take numShards := by
    intro turn taken held fewer
    have member := member_of_taken turn taken
    obtain ⟨leader, inside⟩ := mem_allTurns_iff.mp member
    have held_mem : ⟨turn.node, held⟩ ∈ engine.allTurns origin nodes numShards :=
      mem_allTurns_iff.mpr ⟨leader, fewer.trans inside⟩
    rw [mem_take_turns_iff member] at taken
    rw [mem_take_turns_iff held_mem]
    refine lt_of_le_of_lt (List.countP_mono_left fun third _ before => ?_) taken
    rw [decide_eq_true_iff] at before ⊢
    exact before.trans (turnPlace_lt_of_held rfl fewer)
  constructor
  · intro apart leader leader_mem
    have second_mem : ⟨leader, 1⟩ ∈ engine.allTurns origin nodes numShards :=
      mem_allTurns_iff.mpr ⟨leader_mem, several⟩
    by_contra few
    have second := (mem_take_turns_iff second_mem numShards).mpr (Nat.lt_of_not_le few)
    have first := earlier_taken _ second 0 Nat.one_pos
    exact absurd (List.inj_on_of_nodup_map apart first second rfl) (by simp)
  · intro late
    refine turns_nodup.map_on fun turn taken rival rival_taken same => ?_
    have first_only : ∀ turn ∈ (engine.turns origin nodes numShards).take numShards,
        turn.held = 0 := by
      intro turn taken
      by_contra again
      obtain ⟨leader, -⟩ := mem_allTurns_iff.mp (member_of_taken turn taken)
      have second_mem : ⟨turn.node, 1⟩ ∈ engine.allTurns origin nodes numShards :=
        mem_allTurns_iff.mpr ⟨leader, several⟩
      have second : ⟨turn.node, 1⟩ ∈ (engine.turns origin nodes numShards).take numShards := by
        rcases Nat.lt_or_ge 1 turn.held with more | one
        · exact earlier_taken turn taken 1 more
        · have held_one : turn.held = 1 := by omega
          rw [← held_one]
          exact taken
      exact absurd ((mem_take_turns_iff second_mem numShards).mp second)
        (Nat.not_lt.mpr (late turn.node leader))
    exact Turn.ext same ((first_only turn taken).trans (first_only rival rival_taken).symm)

/-- Of nodes alike but for their datacenters each has its first turn before any has its second. -/
theorem length_le_ahead_of_alike (located : ∀ node ∈ nodes, node.datacenter.isSome)
    (apart : (nodes.map PlacementNode.datacenter).Nodup) (score : ℚ) (rack : Option Int)
    (alike : ∀ node ∈ nodes, engine.ownScore origin node = score ∧ node.rack = rack)
    (several : 1 < numShards) (member : node ∈ nodes) :
    nodes.length ≤ engine.ahead origin nodes numShards ⟨node, 1⟩ := by
  have alone : ∀ node ∈ nodes, ∀ other ∈ nodes,
      other.datacenter = node.datacenter → other = node :=
    fun node member other other_mem same => List.inj_on_of_nodup_map apart other_mem member same
  have all_lead : ∀ node ∈ nodes, node ∈ engine.leaders origin nodes := by
    intro node member
    refine mem_leaders_iff.mpr ⟨member, fun other other_mem same => le_of_eq ?_⟩
    obtain ⟨dc, node_dc⟩ := Option.isSome_iff_exists.mp (located node member)
    obtain ⟨own, own_dc⟩ := Option.isSome_iff_exists.mp (located other other_mem)
    simp only [PlacementNode.placementGroup, node_dc, own_dc, Option.map_some, Option.some.injEq,
      Prod.mk.injEq] at same
    rw [alone node member other other_mem (by rw [node_dc, own_dc, same.1])]
  have all_turns : ∀ node ∈ nodes, ∀ held < numShards,
      ⟨node, held⟩ ∈ engine.allTurns origin nodes numShards :=
    fun node member held inside => mem_allTurns_iff.mpr ⟨all_lead node member, inside⟩
  have first_score : ∀ node ∈ nodes, engine.turnScore origin nodes numShards ⟨node, 0⟩ =
      score + (if rack.isSome then 25 else 0) + 50 := by
    intro node member
    obtain ⟨dc, node_dc⟩ := Option.isSome_iff_exists.mp (located node member)
    have none_ahead : engine.aheadInDc origin nodes numShards ⟨node, 0⟩ = 0 := by
      refine List.countP_eq_zero.mpr fun turn turn_mem before => ?_
      obtain ⟨same, sooner⟩ := of_decide_eq_true before
      have turn_node := alone node member turn.node
        (mem_of_mem_leaders (mem_allTurns_iff.mp turn_mem).1) same
      have later := (turnPlace_lt_iff_racked (same.trans node_dc) node_dc turn_mem).mpr sooner
      rcases Nat.eq_zero_or_pos turn.held with first | again
      · rw [show turn = ⟨node, 0⟩ from Turn.ext turn_node first] at later
        exact lt_irrefl _ later
      · exact later.asymm (turnPlace_lt_of_held turn_node.symm again)
    simp only [turnScore, node_dc, none_ahead, rackedScore, alike node member, diversityScore,
      if_true]
  have second_score : engine.turnScore origin nodes numShards ⟨node, 1⟩ < score + 50 := by
    obtain ⟨dc, node_dc⟩ := Option.isSome_iff_exists.mp (located node member)
    have some_ahead : 0 < engine.aheadInDc origin nodes numShards ⟨node, 1⟩ := by
      refine List.countP_pos_iff.mpr ⟨⟨node, 0⟩, all_turns node member 0 (by omega), ?_⟩
      refine decide_eq_true ⟨rfl, ?_⟩
      exact (turnPlace_lt_iff_racked node_dc node_dc (all_turns node member 0 (by omega))).mp
        (turnPlace_lt_of_held rfl Nat.one_pos)
    have penalty : (0 : ℚ) < engine.aheadInDc origin nodes numShards ⟨node, 1⟩ := by
      exact_mod_cast some_ahead
    simp only [turnScore, node_dc, rackedScore, alike node member, diversityScore,
      some_ahead.ne', if_false, one_ne_zero]
    split <;> norm_num <;> linarith
  have firsts : (nodes.map fun node => (⟨node, 0⟩ : Turn)).Nodup :=
    (apart.of_map).map fun _ _ same => (Turn.mk.inj same).1
  have inside : (nodes.map fun node => (⟨node, 0⟩ : Turn)) ⊆
      (engine.allTurns origin nodes numShards).filter fun other =>
        engine.turnPlace origin nodes numShards other <
          engine.turnPlace origin nodes numShards ⟨node, 1⟩ := by
    intro turn turn_mem
    obtain ⟨other, other_mem, rfl⟩ := List.mem_map.mp turn_mem
    refine List.mem_filter.mpr ⟨all_turns other other_mem 0 (by omega), decide_eq_true ?_⟩
    refine place_lt_place.mpr (.inl ?_)
    rw [first_score other other_mem]
    refine second_score.trans_le ?_
    split <;> linarith
  have lengths := (firsts.subperm inside).length_le
  rwa [List.length_map, ← List.countP_eq_length_filter] at lengths

end PlacementEngine

/-- The placement of a chunk's shards tolerates the loss of any four nodes exactly when every second
turn of a node has at least fourteen turns before it. -/
theorem placement_tolerates_loss_iff
    (distanceKm : PlacementNode → PlacementNode → Option ℚ) (nodes : List PlacementNode)
    (distinct : (((PlacementEngine.default distanceKm).eligible nodes).map PlacementNode.id).Nodup)
    (enough : TOTAL_SHARDS ≤ ((PlacementEngine.default distanceKm).eligible nodes).length) :
    ToleratesLoss ((PlacementEngine.default distanceKm).selectNodes nodes TOTAL_SHARDS 1 none) ↔
      ∀ leader ∈ (PlacementEngine.default distanceKm).leaders none
          ((PlacementEngine.default distanceKm).eligible nodes),
        TOTAL_SHARDS ≤ (PlacementEngine.default distanceKm).ahead none
          ((PlacementEngine.default distanceKm).eligible nodes) TOTAL_SHARDS ⟨leader, 1⟩ := by
  obtain ⟨chosen, length_eq, in_turn, tolerates⟩ :=
    @PlacementEngine.selectNodes_toleratesLoss (.default distanceKm) none nodes
      (show 0 < 6 by decide) (show 0 < 2 by decide) distinct enough
  have some_node : (PlacementEngine.default distanceKm).eligible nodes ≠ [] :=
    List.ne_nil_of_length_pos (Nat.lt_of_lt_of_le (by decide) enough)
  have chosen_eq := PlacementEngine.eq_of_rankInTurn some_node in_turn
  rw [length_eq] at chosen_eq
  rw [tolerates, ← PlacementEngine.nodup_take_turns_iff (by decide), ← chosen_eq]
  refine ⟨List.Nodup.of_map _, fun apart => apart.map_on fun node member other other_mem same => ?_⟩
  have leaders : ∀ node ∈ chosen, node ∈ (PlacementEngine.default distanceKm).leaders none
      ((PlacementEngine.default distanceKm).eligible nodes) := by
    intro node member
    rw [chosen_eq] at member
    obtain ⟨turn, taken, rfl⟩ := List.mem_map.mp member
    exact (PlacementEngine.mem_allTurns_iff.mp
      (PlacementEngine.turns_perm.mem_iff.mp (List.mem_of_mem_take taken))).1
  exact (PlacementEngine.leader_unique (leaders node member) (leaders other other_mem)
    same.symm).symm

/-! ## Few groups, and many alike -/

/-- Nodes in fewer than fourteen groups never hold a chunk's shards safely. -/
theorem not_toleratesLoss_of_few_groups
    (distanceKm : PlacementNode → PlacementNode → Option ℚ) {nodes : List PlacementNode}
    (distinct : (((PlacementEngine.default distanceKm).eligible nodes).map PlacementNode.id).Nodup)
    (enough : TOTAL_SHARDS ≤ ((PlacementEngine.default distanceKm).eligible nodes).length)
    (few : (nodes.map PlacementNode.placementGroup).dedup.length < TOTAL_SHARDS) :
    ¬ ToleratesLoss
      ((PlacementEngine.default distanceKm).selectNodes nodes TOTAL_SHARDS 1 none) := by
  obtain ⟨chosen, length_eq, in_turn, tolerates⟩ :=
    @PlacementEngine.selectNodes_toleratesLoss (.default distanceKm) none nodes
      (show 0 < 6 by decide) (show 0 < 2 by decide) distinct enough
  intro tolerant
  have apart := tolerates.mp tolerant
  have inside : chosen.map PlacementNode.placementGroup ⊆
      (nodes.map PlacementNode.placementGroup).dedup := by
    intro group member
    obtain ⟨node, node_mem, rfl⟩ := List.mem_map.mp member
    obtain ⟨usage, first⟩ := PlacementEngine.exists_usage in_turn node_mem
    exact List.mem_dedup.mpr (List.mem_map_of_mem (List.mem_of_mem_filter first.mem))
  have lengths := (apart.subperm inside).length_le
  rw [List.length_map, length_eq] at lengths
  omega

/-- Fourteen datacenters. -/
def fourteenDatacenters : List PlacementNode :=
  ["a", "b", "c", "d", "e", "f", "g", "h", "i", "j", "k", "l", "m", "n"].mapIdx fun id name =>
    spareNode id (some name)

/-- Fourteen nodes that do not say where they are. -/
def fourteenUnlocated : List PlacementNode := (List.range 14).map fun id => spareNode id none

theorem ownScore_spareNode (id : Uuid) (datacenter : Option String) :
    (PlacementEngine.default fun _ _ => none).ownScore none (spareNode id datacenter) = 160 := by
  norm_num [PlacementEngine.ownScore, PlacementEngine.baseScore, PlacementEngine.default,
    PlacementConfig.default, PlacementNode.utilization, spareNode]

/-- Fourteen like nodes in fourteen datacenters hold the shards safely. -/
theorem placement_tolerates_loss_fourteen_datacenters :
    ToleratesLoss
      ((PlacementEngine.default fun _ _ => none).selectNodes fourteenDatacenters TOTAL_SHARDS 1
        none) := by
  refine (placement_tolerates_loss_iff (fun _ _ => none) fourteenDatacenters (by decide)
    (by decide)).mpr ?_
  have all_eligible : (PlacementEngine.default fun _ _ => none).eligible fourteenDatacenters =
    fourteenDatacenters := by decide
  rw [all_eligible]
  intro leader leader_mem
  refine PlacementEngine.length_le_ahead_of_alike (by decide) (by decide) 160 (some 0) ?_
    (by decide) (PlacementEngine.mem_of_mem_leaders leader_mem)
  intro node member
  obtain ⟨id, _, rfl⟩ := List.mem_mapIdx.mp member
  exact ⟨ownScore_spareNode id _, rfl⟩

/-- Fourteen nodes without a datacenter: the first one gets every shard. -/
theorem placement_overloads_unlocated_node :
    ¬ ∀ (distanceKm : PlacementNode → PlacementNode → Option ℚ) (nodes : List PlacementNode),
      (((PlacementEngine.default distanceKm).eligible nodes).map PlacementNode.id).Nodup →
      TOTAL_SHARDS ≤ ((PlacementEngine.default distanceKm).eligible nodes).length →
      ToleratesLoss
        ((PlacementEngine.default distanceKm).selectNodes nodes TOTAL_SHARDS 1 none) := by
  intro tolerates
  have distinct : (((PlacementEngine.default fun _ _ => none).eligible fourteenUnlocated).map
    PlacementNode.id).Nodup := by decide
  have enough : TOTAL_SHARDS ≤
    ((PlacementEngine.default fun _ _ => none).eligible fourteenUnlocated).length := by decide
  exact not_toleratesLoss_of_few_groups (fun _ _ => none) distinct enough (by decide)
    (tolerates _ _ distinct enough)

end CyxCloud.Metadata
