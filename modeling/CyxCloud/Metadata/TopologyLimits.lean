import CyxCloud.Metadata.PlacementTurns

/-!
# Limits of the placement

`PlacementConfig` limits the shards of a datacenter and of a rack.  The engine holds each shard's
own replicas against the limits, and where it has no more nodes than replicas it holds nothing
against them.  The limits hold over all shards where there is room for any choice that every shard
might make.  Shards with one replica need less: their turns are known, and none of the first may
find its datacenter or its rack full.
-/

namespace CyxCloud.Metadata

open Library

/-- Replicas that decisions put into a datacenter. -/
def dcReplicas (decisions : List PlacementDecision) (dc : String) : Nat :=
  (decisions.flatMap PlacementDecision.nodes).countP fun node => node.datacenter = some dc

/-- Replicas that decisions put into a rack. -/
def rackReplicas (decisions : List PlacementDecision) (dc : String) (rack : Int) : Nat :=
  (decisions.flatMap PlacementDecision.nodes).countP fun node =>
    node.datacenter = some dc ∧ node.rack = some rack

/-- No datacenter and no rack gets more replicas than the configuration allows. -/
structure WithinLimits (config : PlacementConfig) (decisions : List PlacementDecision) : Prop where
  dc : ∀ dc, dcReplicas decisions dc ≤ config.maxShardsPerDc
  rack : ∀ dc rack, rackReplicas decisions dc rack ≤ config.maxShardsPerRack

namespace Usage

/-- No count is over its limit. -/
structure Within (config : PlacementConfig) (usage : Usage) : Prop where
  dc : ∀ dc, usage.dc dc ≤ config.maxShardsPerDc
  rack : ∀ dc rack, usage.rack (dc, rack) ≤ config.maxShardsPerRack

variable {config : PlacementConfig} {usage : Usage}

theorem within_empty (config : PlacementConfig) : Within config .empty :=
  ⟨fun _ => Nat.zero_le _, fun _ _ => Nat.zero_le _⟩

/-- A count within its limit stays there when one is added exactly if there was room. -/
theorem one_more_le_iff {counted limit : Nat} {adds : Prop} [Decidable adds]
    (bound : counted ≤ limit) :
    (counted + if adds then 1 else 0) ≤ limit ↔ (adds → counted < limit) := by
  split
  · rename_i added
    constructor
    · intro room _
      exact room
    · intro room
      exact room added
  · rename_i not_added
    constructor
    · intro _ added
      exact absurd added not_added
    · intro _
      exact bound

/-- One more shard on a node keeps the limits exactly when its datacenter and rack have room. -/
theorem within_record_iff (within : Within config usage) (node : PlacementNode) :
    Within config (usage.record node) ↔ PlacementEngine.admits config usage node = true := by
  have dcs : (∀ dc, (usage.record node).dc dc ≤ config.maxShardsPerDc) ↔
      ∀ dc, node.datacenter = some dc → usage.dc dc < config.maxShardsPerDc := by
    refine forall_congr' fun dc => ?_
    have bound := within.dc dc
    rw [record_dc]
    exact one_more_le_iff bound
  have racks : (∀ dc rack, (usage.record node).rack (dc, rack) ≤ config.maxShardsPerRack) ↔
      ∀ dc rack, node.datacenter = some dc ∧ node.rack = some rack →
        usage.rack (dc, rack) < config.maxShardsPerRack := by
    refine forall₂_congr fun dc rack => ?_
    have bound := within.rack dc rack
    rw [record_rack]
    exact one_more_le_iff bound
  have split_within : Within config (usage.record node) ↔
      (∀ dc, (usage.record node).dc dc ≤ config.maxShardsPerDc) ∧
        ∀ dc rack, (usage.record node).rack (dc, rack) ≤ config.maxShardsPerRack :=
    ⟨fun both => ⟨both.dc, both.rack⟩, fun both => ⟨both.1, both.2⟩⟩
  rw [split_within, dcs, racks]
  unfold PlacementEngine.admits
  cases node.datacenter with
  | none => simp
  | some dc =>
      cases node.rack with
      | none => simp
      | some rack => simp

end Usage

namespace PlacementEngine

variable {engine : PlacementEngine} {nodes : List PlacementNode} {origin : Option PlacementNode}

/-! ## One shard -/

/-- Nodes that may hold the replicas of one shard: some of the candidates, no more than there are
replicas, and within the limits by themselves. -/
structure Choice (config : PlacementConfig) (nodes : List PlacementNode) (count : Nat)
    (chosen : List PlacementNode) : Prop where
  candidates : chosen.Subperm nodes
  few : chosen.length ≤ count
  within : (chosen.foldl Usage.record .empty).Within config

/-- The nodes considered so far are a choice, and the usage counts them. -/
theorem choice_foldl_consider (config : PlacementConfig) (count : Nat)
    (ranking : List (ℚ × PlacementNode)) :
    Choice config (ranking.map Prod.snd) count
        (ranking.foldl (consider config count) ([], .empty)).1 ∧
      (ranking.foldl (consider config count) ([], .empty)).2 =
        (ranking.foldl (consider config count) ([], .empty)).1.foldl Usage.record .empty := by
  induction ranking using List.reverseRecOn with
  | nil => exact ⟨⟨List.nil_subperm, Nat.zero_le _, Usage.within_empty config⟩, rfl⟩
  | append_singleton ranking ranked induction =>
      obtain ⟨⟨candidates, few, within⟩, counted⟩ := induction
      rw [List.foldl_append, List.foldl_cons, List.foldl_nil, List.map_append, consider]
      split
      · exact ⟨⟨candidates.trans (List.sublist_append_left _ _).subperm, few, within⟩, counted⟩
      · rename_i room
        split
        · rename_i passes
          refine ⟨⟨?_, ?_, ?_⟩, ?_⟩
          · exact candidates.append (List.Subperm.refl _)
          · rw [List.length_append, List.length_singleton]
            omega
          · rw [List.foldl_append]
            exact (Usage.within_record_iff within ranked.2).mpr (counted ▸ passes)
          · rw [List.foldl_append, ← counted]
            rfl
        · exact ⟨⟨candidates.trans (List.sublist_append_left _ _).subperm, few, within⟩, counted⟩

/-- The nodes of a shard are a choice when there are more nodes than replicas. -/
theorem choice_selectForShard {count : Nat} (many : ¬nodes.length ≤ count) (usage : Usage) :
    Choice engine.config nodes count (engine.selectForShard nodes count origin usage) := by
  rw [selectForShard, if_neg many]
  obtain ⟨⟨candidates, few, within⟩, -⟩ := choice_foldl_consider engine.config count
    (rankByScore (fun node => engine.scoreNode node origin usage) nodes)
  refine ⟨candidates.trans (List.Perm.subperm ?_), few, within⟩
  have perm := (List.mergeSort_perm (nodes.map fun node => (engine.scoreNode node origin usage, node))
    fun left right => decide (right.1 ≤ left.1)).map Prod.snd
  rwa [List.map_map, show (Prod.snd ∘ fun node => (engine.scoreNode node origin usage, node)) = id
    from rfl, List.map_id] at perm

/-! ## All shards -/

/-- Every decision is a shard's selection. -/
theorem decisions_foldl_placeShard (count numShards : Nat) :
    ((List.range numShards).foldl (engine.placeShard nodes count origin) ([], .empty)).1.length =
        numShards ∧
      ∀ decision ∈
        ((List.range numShards).foldl (engine.placeShard nodes count origin) ([], .empty)).1,
        ∃ usage, decision.nodes = engine.selectForShard nodes count origin usage := by
  induction numShards with
  | zero => exact ⟨rfl, List.forall_mem_nil _⟩
  | succ numShards induction =>
      rw [List.range_succ, List.foldl_append]
      refine ⟨by simp [placeShard, induction.1], fun decision member => ?_⟩
      rcases List.mem_append.mp member with earlier | last
      · exact induction.2 decision earlier
      · exact ⟨_, by rw [List.mem_singleton.mp last]⟩

/-- The nodes have room for a replica of every shard on each of them. -/
structure RoomForAll (config : PlacementConfig) (nodes : List PlacementNode) (numShards : Nat) :
    Prop where
  dc : ∀ dc, numShards * (nodes.countP fun node => node.datacenter = some dc) ≤
    config.maxShardsPerDc
  rack : ∀ dc rack,
    numShards * (nodes.countP fun node => node.datacenter = some dc ∧ node.rack = some rack) ≤
      config.maxShardsPerRack

/-- Where there are no more nodes than replicas, every shard goes to all of them. -/
theorem foldl_placeShard_of_few (engine : PlacementEngine) (origin : Option PlacementNode)
    {count : Nat} (few : nodes.length ≤ count) (numShards : Nat) :
    ((List.range numShards).foldl (engine.placeShard nodes count origin) ([], .empty)).1.flatMap
        PlacementDecision.nodes = (List.replicate numShards nodes).flatten := by
  induction numShards with
  | zero => rfl
  | succ numShards induction =>
      rw [List.range_succ, List.foldl_append, List.replicate_succ', List.flatten_append,
        List.flatten_singleton, ← induction]
      simp only [List.foldl_cons, List.foldl_nil, placeShard, selectForShard, if_pos few,
        List.flatMap_append, List.flatMap_singleton]

theorem countP_flatten_replicate (matching : PlacementNode → Bool) (numShards : Nat)
    (nodes : List PlacementNode) :
    (List.replicate numShards nodes).flatten.countP matching =
      numShards * nodes.countP matching := by
  rw [List.countP_flatten, List.map_replicate, List.sum_replicate_nat]

theorem withinLimits_of_few_iff {count : Nat} (few : nodes.length ≤ count) (numShards : Nat) :
    WithinLimits engine.config
        ((List.range numShards).foldl (engine.placeShard nodes count origin) ([], .empty)).1 ↔
      RoomForAll engine.config nodes numShards := by
  have placed := foldl_placeShard_of_few engine origin few numShards
  constructor
  · rintro ⟨dcs, racks⟩
    refine ⟨fun dc => ?_, fun dc rack => ?_⟩
    · have bound := dcs dc
      rwa [dcReplicas, placed, countP_flatten_replicate] at bound
    · have bound := racks dc rack
      rwa [rackReplicas, placed, countP_flatten_replicate] at bound
  · rintro ⟨dcs, racks⟩
    refine ⟨fun dc => ?_, fun dc rack => ?_⟩
    · rw [dcReplicas, placed, countP_flatten_replicate]
      exact dcs dc
    · rw [rackReplicas, placed, countP_flatten_replicate]
      exact racks dc rack

/-- Whatever choice each shard's replicas fall on, there is room for all shards on it. -/
def ChoicesFit (config : PlacementConfig) (nodes : List PlacementNode) (count numShards : Nat) :
    Prop :=
  ∀ chosen : List PlacementNode, Choice config nodes count chosen →
    RoomForAll config chosen numShards

theorem sum_le_of_mul_le {counts : List Nat} {limit : Nat}
    (bound : ∀ count ∈ counts, counts.length * count ≤ limit) : counts.sum ≤ limit := by
  rcases Nat.eq_zero_or_pos counts.length with empty | positive
  · rw [List.length_eq_zero_iff.mp empty, List.sum_nil]
    exact Nat.zero_le _
  · refine (List.sum_le_card_nsmul counts (limit / counts.length) fun count member => ?_).trans
      (Nat.mul_div_le _ _)
    rw [Nat.le_div_iff_mul_le positive, Nat.mul_comm]
    exact bound count member

theorem withinLimits_of_choicesFit {count numShards : Nat} (many : ¬nodes.length ≤ count)
    (fit : ChoicesFit engine.config nodes count numShards) :
    WithinLimits engine.config
      ((List.range numShards).foldl (engine.placeShard nodes count origin) ([], .empty)).1 := by
  obtain ⟨length_eq, selections⟩ :=
    @decisions_foldl_placeShard engine nodes origin count numShards
  have rooms : ∀ decision ∈
      ((List.range numShards).foldl (engine.placeShard nodes count origin) ([], .empty)).1,
      RoomForAll engine.config decision.nodes numShards := by
    intro decision member
    obtain ⟨usage, nodes_eq⟩ := selections decision member
    rw [nodes_eq]
    exact fit _ (choice_selectForShard many usage)
  constructor
  · intro dc
    rw [dcReplicas, List.countP_flatMap]
    refine sum_le_of_mul_le fun counted member => ?_
    obtain ⟨decision, decision_mem, rfl⟩ := List.mem_map.mp member
    rw [List.length_map, length_eq]
    exact (rooms decision decision_mem).dc dc
  · intro dc rack
    rw [rackReplicas, List.countP_flatMap]
    refine sum_le_of_mul_le fun counted member => ?_
    obtain ⟨decision, decision_mem, rfl⟩ := List.mem_map.mp member
    rw [List.length_map, length_eq]
    exact (rooms decision decision_mem).rack dc rack

/-! ## One replica -/

/-- A turn that would overfill its datacenter or its rack comes after as many others as there are
shards. -/
structure TurnsFit (engine : PlacementEngine) (origin : Option PlacementNode)
    (nodes : List PlacementNode) (numShards : Nat) : Prop where
  dc : ∀ turn ∈ engine.allTurns origin nodes numShards, turn.node.datacenter.isSome →
    engine.aheadInDc origin nodes numShards turn = engine.config.maxShardsPerDc →
      numShards ≤ engine.ahead origin nodes numShards turn
  rack : ∀ turn ∈ engine.allTurns origin nodes numShards, turn.node.datacenter.isSome →
    turn.node.rack.isSome → turn.held = engine.config.maxShardsPerRack →
      numShards ≤ engine.ahead origin nodes numShards turn

/-- The first turns keep a limit exactly when none of them finds it reached. -/
theorem countP_take_turns_le_iff {numShards limit : Nat} (kind : Turn → Prop) [DecidablePred kind] :
    (((engine.turns origin nodes numShards).take numShards).countP fun turn => kind turn) ≤ limit ↔
      ∀ earlier next later, engine.turns origin nodes numShards = earlier ++ next :: later →
        kind next → (earlier.countP fun turn => kind turn) = limit →
          numShards ≤ engine.ahead origin nodes numShards next := by
  constructor
  · intro kept earlier next later split next_kind reached
    by_contra early
    rw [ahead_eq split, not_le] at early
    have inside : (earlier ++ [next]).Sublist
        ((engine.turns origin nodes numShards).take numShards) := by
      refine (List.prefix_take_iff.mpr ⟨?_, ?_⟩).sublist
      · rw [split, List.append_cons earlier next later]
        exact List.prefix_append _ _
      · rw [List.length_append, List.length_singleton]
        exact early
    have counted := inside.countP_le (p := fun turn => kind turn)
    rw [List.countP_append, reached, List.countP_singleton, if_pos (decide_eq_true next_kind)]
      at counted
    omega
  · intro late
    by_contra beyond
    obtain ⟨earlier, next, later, split, next_kind, reached⟩ :=
      exists_split_of_lt_countP kind (Nat.lt_of_not_le beyond)
    have whole := List.take_append_drop numShards (engine.turns origin nodes numShards)
    rw [split, List.append_assoc, List.cons_append] at whole
    have next_mem := mem_of_split whole.symm (List.mem_append_right _ List.mem_cons_self)
    have taken : next ∈ (engine.turns origin nodes numShards).take numShards :=
      split ▸ List.mem_append_right _ List.mem_cons_self
    exact absurd ((mem_take_turns_iff next_mem numShards).mp taken)
      (Nat.not_lt.mpr (late _ _ _ whole.symm next_kind reached))

theorem dc_countP_take_turns_le_iff (numShards limit : Nat) (dc : String) :
    (((engine.turns origin nodes numShards).take numShards).countP fun turn =>
        turn.node.datacenter = some dc) ≤ limit ↔
      ∀ turn ∈ engine.allTurns origin nodes numShards, turn.node.datacenter = some dc →
        engine.aheadInDc origin nodes numShards turn = limit →
          numShards ≤ engine.ahead origin nodes numShards turn := by
  rw [countP_take_turns_le_iff fun turn => turn.node.datacenter = some dc]
  constructor
  · intro late turn member located reached
    obtain ⟨earlier, later, split⟩ := List.append_of_mem (turns_perm.mem_iff.mpr member)
    exact late earlier turn later split located ((aheadInDc_eq split located).symm.trans reached)
  · intro late earlier next later split located reached
    exact late next (mem_of_split split (List.mem_append_right _ List.mem_cons_self)) located
      ((aheadInDc_eq split located).trans reached)

theorem rack_countP_take_turns_le_iff (numShards limit : Nat) (dc : String) (rack : Int) :
    (((engine.turns origin nodes numShards).take numShards).countP fun turn =>
        turn.node.datacenter = some dc ∧ turn.node.rack = some rack) ≤ limit ↔
      ∀ turn ∈ engine.allTurns origin nodes numShards,
        turn.node.datacenter = some dc ∧ turn.node.rack = some rack → turn.held = limit →
          numShards ≤ engine.ahead origin nodes numShards turn := by
  -- the turns in a rack are those of its leader
  have held : ∀ earlier next later, engine.turns origin nodes numShards =
      earlier ++ next :: later → next.node.datacenter = some dc ∧ next.node.rack = some rack →
        (earlier.countP fun turn =>
          turn.node.datacenter = some dc ∧ turn.node.rack = some rack) = next.held := by
    intro earlier next later split located
    have leader := (mem_allTurns_iff.mp
      (mem_of_split split (List.mem_append_right _ List.mem_cons_self))).1
    rw [held_eq split]
    refine List.countP_congr fun turn member => ?_
    simp only [decide_eq_true_eq]
    constructor
    · rintro ⟨turn_dc, turn_rack⟩
      refine leader_unique leader
        (mem_allTurns_iff.mp (mem_of_split split (List.mem_append_left _ member))).1 ?_
      simp only [PlacementNode.placementGroup, turn_dc, turn_rack, located]
    · intro same
      rw [same]
      exact located
  rw [countP_take_turns_le_iff fun turn =>
    turn.node.datacenter = some dc ∧ turn.node.rack = some rack]
  constructor
  · intro late turn member located reached
    obtain ⟨earlier, later, split⟩ := List.append_of_mem (turns_perm.mem_iff.mpr member)
    exact late earlier turn later split located ((held _ _ _ split located).trans reached)
  · intro late earlier next later split located reached
    exact late next (mem_of_split split (List.mem_append_right _ List.mem_cons_self)) located
      ((held _ _ _ split located).symm.trans reached)

/-- Shards with one replica keep the limits exactly when the turns fit. -/
theorem withinLimits_of_one_iff (some_eligible : engine.eligible nodes ≠ [])
    (many : 1 < (engine.eligible nodes).length) (numShards : Nat) :
    WithinLimits engine.config (engine.selectNodes nodes numShards 1 origin) ↔
      TurnsFit engine origin (engine.admissible (engine.eligible nodes)) numShards := by
  rcases eq_or_ne (engine.admissible (engine.eligible nodes)) [] with none_admissible | some_admissible
  · have nothing : (engine.selectNodes nodes numShards 1 origin).flatMap PlacementDecision.nodes =
        [] := by
      refine List.flatMap_eq_nil_iff.mpr fun decision member => ?_
      rw [selectNodes, if_neg (by rwa [List.isEmpty_iff])] at member
      obtain ⟨usage, nodes_eq⟩ := (decisions_foldl_placeShard 1 numShards).2 decision member
      rcases @selectForShard_one engine origin (engine.eligible nodes) many usage with
        ⟨unplaced, -⟩ | ⟨first, -, first_ranks⟩
      · rw [nodes_eq, unplaced]
      · rw [none_admissible] at first_ranks
        exact absurd first_ranks.mem List.not_mem_nil
    rw [none_admissible]
    refine iff_of_true ⟨fun dc => ?_, fun dc rack => ?_⟩ ⟨fun turn member => ?_, fun turn member => ?_⟩
    · rw [dcReplicas, nothing]
      exact Nat.zero_le _
    · rw [rackReplicas, nothing]
      exact Nat.zero_le _
    · exact absurd (mem_of_mem_leaders (mem_allTurns_iff.mp member).1) List.not_mem_nil
    · exact absurd (mem_of_mem_leaders (mem_allTurns_iff.mp member).1) List.not_mem_nil
  · obtain ⟨chosen, length_eq, decisions_eq, in_turn⟩ :=
      @selectNodes_places engine origin nodes some_admissible many numShards
    have chosen_eq := eq_of_rankInTurn some_admissible in_turn
    rw [length_eq] at chosen_eq
    have replicas_eq : (engine.selectNodes nodes numShards 1 origin).flatMap
        PlacementDecision.nodes = chosen := by
      rw [List.flatMap_def, decisions_eq, ← List.flatMap_def, List.flatMap_singleton']
    have dcs : ∀ dc, dcReplicas (engine.selectNodes nodes numShards 1 origin) dc =
        ((engine.turns origin (engine.admissible (engine.eligible nodes)) numShards).take
          numShards).countP fun turn => turn.node.datacenter = some dc := by
      intro dc
      rw [dcReplicas, replicas_eq, chosen_eq, List.countP_map]
      rfl
    have racks : ∀ dc rack,
        rackReplicas (engine.selectNodes nodes numShards 1 origin) dc rack =
          ((engine.turns origin (engine.admissible (engine.eligible nodes)) numShards).take
            numShards).countP fun turn =>
              turn.node.datacenter = some dc ∧ turn.node.rack = some rack := by
      intro dc rack
      rw [rackReplicas, replicas_eq, chosen_eq, List.countP_map]
      rfl
    constructor
    · rintro ⟨dc_kept, rack_kept⟩
      refine ⟨fun turn member located reached => ?_, fun turn member located racked reached => ?_⟩
      · obtain ⟨dc, dc_eq⟩ := Option.isSome_iff_exists.mp located
        have kept := dc_kept dc
        rw [dcs] at kept
        exact (dc_countP_take_turns_le_iff _ _ dc).mp kept turn member dc_eq reached
      · obtain ⟨dc, dc_eq⟩ := Option.isSome_iff_exists.mp located
        obtain ⟨rack, rack_eq⟩ := Option.isSome_iff_exists.mp racked
        have kept := rack_kept dc rack
        rw [racks] at kept
        exact (rack_countP_take_turns_le_iff _ _ dc rack).mp kept turn member ⟨dc_eq, rack_eq⟩
          reached
    · rintro ⟨dc_late, rack_late⟩
      refine ⟨fun dc => ?_, fun dc rack => ?_⟩
      · rw [dcs]
        refine (dc_countP_take_turns_le_iff _ _ dc).mpr fun turn member dc_eq => ?_
        exact dc_late turn member (Option.isSome_of_eq_some dc_eq)
      · rw [racks]
        refine (rack_countP_take_turns_le_iff _ _ dc rack).mpr fun turn member both => ?_
        exact rack_late turn member (Option.isSome_of_eq_some both.1)
          (Option.isSome_of_eq_some both.2)

/-! ## Any replicas -/

/-- What keeps the limits: with no more nodes than replicas, room for all shards on all of them;
with one replica, that the turns fit; and otherwise that every choice of a shard fits. -/
def KeepsLimits (engine : PlacementEngine) (origin : Option PlacementNode)
    (nodes : List PlacementNode) (numShards replicasPerShard : Nat) : Prop :=
  if nodes.length ≤ replicasPerShard then
    RoomForAll engine.config nodes numShards
  else if replicasPerShard = 1 then
    TurnsFit engine origin (engine.admissible nodes) numShards
  else
    ChoicesFit engine.config nodes replicasPerShard numShards

/-- One replica of every shard in one rack are as many replicas in it as there are shards. -/
theorem rackReplicas_of_one_rack (per_dc : 0 < engine.config.maxShardsPerDc)
    (per_rack : 0 < engine.config.maxShardsPerRack) (some_eligible : engine.eligible nodes ≠ [])
    {dc : String} {rack : Int}
    (together : ∀ node ∈ nodes, node.datacenter = some dc ∧ node.rack = some rack)
    (numShards : Nat) :
    rackReplicas (engine.selectNodes nodes numShards 1 origin) dc rack = numShards := by
  obtain ⟨length_eq, targets⟩ :=
    selectNodes_targets per_dc per_rack some_eligible origin numShards
  have singles : ∀ decision ∈ engine.selectNodes nodes numShards 1 origin,
      (decision.nodes.countP fun node => node.datacenter = some dc ∧ node.rack = some rack) =
        1 := by
    intro decision member
    obtain ⟨target, target_mem, nodes_eq⟩ := targets decision member
    rw [nodes_eq]
    simp [together target target_mem]
  rw [rackReplicas, List.countP_flatMap]
  have ones := List.map_congr_left singles
  rw [List.map_const', length_eq] at ones
  have total := congrArg List.sum ones
  rw [List.sum_replicate_nat, Nat.mul_one] at total
  exact total

end PlacementEngine

/-- Nodes in one rack. -/
def rackmates (count : Nat) : List PlacementNode :=
  (List.range count).map fun id => spareNode id (some "a")

end CyxCloud.Metadata
