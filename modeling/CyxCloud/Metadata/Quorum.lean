import CyxCloud.Metadata.Models
import Mathlib.Data.List.Nodup

/-!
# Quorum operations

`read_with_quorum` and `write_with_quorum` of `cyxcloud-metadata/src/quorum.rs`.  An operation is
started once for every entry of the list of nodes, and the quorum is cut down to the length of that
list; so two quorums need not have a node in common.  Latencies are left out.
-/

namespace CyxCloud.Metadata

/-! ## Data -/

/-- Quorum errors. -/
inductive QuorumError where
  | quorumNotAchieved (got needed : Nat)
  | noNodesAvailable
  | timeout
  deriving DecidableEq, Repr

/-- Quorum configuration. -/
structure QuorumConfig where
  readQuorum : Nat
  writeQuorum : Nat
  replicationFactor : Nat
  /-- Seconds for an operation on one node. -/
  nodeTimeout : Nat
  /-- Seconds for the whole operation. -/
  quorumTimeout : Nat
  deriving DecidableEq, Repr

namespace QuorumConfig

/-- Two of three nodes. -/
def default : QuorumConfig :=
  { readQuorum := 2
    writeQuorum := 2
    replicationFactor := 3
    nodeTimeout := 10
    quorumTimeout := 30 }

/-- Strict consistency: both quorums are a majority. -/
def strict (replicationFactor : Nat) : QuorumConfig :=
  { QuorumConfig.default with
    readQuorum := replicationFactor / 2 + 1
    writeQuorum := replicationFactor / 2 + 1
    replicationFactor }

end QuorumConfig

/-- What becomes of the operation on one entry of the list. -/
inductive NodeReply (α : Type) where
  | value (value : α)
  | failed (message : String)
  | timedOut

/-- Result of a single node operation. -/
structure NodeResult (α : Type) where
  nodeId : String
  result : Except String α

/-- The result has a value. -/
def NodeResult.isOk {α : Type} (result : NodeResult α) : Bool :=
  match result.result with
  | .ok _ => true
  | .error _ => false

/-- Aggregated quorum result. -/
structure QuorumResult (α : Type) where
  successes : List (NodeResult α)
  failures : List (NodeResult α)
  quorumAchieved : Bool

/-! ## Operations -/

section Operations

variable {α : Type}

/-- The result for one entry of the list. -/
def nodeResult (nodeId : String) : NodeReply α → NodeResult α
  | .value value => { nodeId, result := .ok value }
  | .failed message => { nodeId, result := .error message }
  | .timedOut => { nodeId, result := .error "timeout" }

/-- The outcomes that an operation meets: the reply to the entry at a position, and whether all
replies come in time. -/
structure QuorumEnv (α : Type) where
  reply : Nat → String → NodeReply α
  inTime : Bool

/-- Launch the operation on every entry and sort the results. -/
def joinAll (env : QuorumEnv α) (nodes : List String) (needed : Nat) :
    Except QuorumError (QuorumResult α) :=
  if env.inTime then
    let results := nodes.zipIdx.map fun (node, position) => nodeResult node (env.reply position node)
    let successes := results.filter NodeResult.isOk
    .ok
      { successes
        failures := results.filter fun result => !result.isOk
        quorumAchieved := decide (needed ≤ successes.length) }
  else
    .error .timeout

variable (config : QuorumConfig)

/-- Execute a read operation with quorum. -/
def readWithQuorum (env : QuorumEnv α) (nodes : List String) :
    Except QuorumError (QuorumResult α) :=
  if nodes.isEmpty then
    .error .noNodesAvailable
  else
    joinAll env nodes (min config.readQuorum nodes.length)

/-- Execute a write operation with quorum. -/
def writeWithQuorum (env : QuorumEnv Unit) (nodes : List String) :
    Except QuorumError (QuorumResult Unit) :=
  if nodes.isEmpty then
    .error .noNodesAvailable
  else
    let needed := min config.writeQuorum nodes.length
    match joinAll env nodes needed with
    | .error cause => .error cause
    | .ok result =>
        if result.quorumAchieved then
          .ok result
        else
          .error (.quorumNotAchieved result.successes.length needed)

end Operations

/-- A write that returns and a read that achieves its quorum have a node in common. -/
def QuorumsMeet (config : QuorumConfig) (α : Type) (written read : List String) : Prop :=
  ∀ (writeEnv : QuorumEnv Unit) (readEnv : QuorumEnv α) (writeResult : QuorumResult Unit)
    (readResult : QuorumResult α),
    writeWithQuorum config writeEnv written = .ok writeResult →
      readWithQuorum config readEnv read = .ok readResult → readResult.quorumAchieved = true →
        ∃ confirmed ∈ writeResult.successes, ∃ answered ∈ readResult.successes,
          confirmed.nodeId = answered.nodeId

/-- The nodes can be split into two sides, such that enough entries of each list are on one of
them. -/
def CanSplit (quorum : Nat) (written read : List String) : Prop :=
  written ≠ [] ∧ read ≠ [] ∧ ∃ side : String → Bool,
    min quorum written.length ≤ written.countP side ∧
      min quorum read.length ≤ read.countP fun node => !side node

/-! ## What a quorum says -/

section Results

variable {α : Type} {env : QuorumEnv α} {nodes : List String} {needed : Nat}
  {result : QuorumResult α}

/-- The nodes of the successes are entries of the list. -/
theorem joinAll_ok (joined : joinAll env nodes needed = .ok result) :
    (result.successes.map NodeResult.nodeId).Sublist nodes ∧
      (result.quorumAchieved = true ↔ needed ≤ result.successes.length) := by
  rw [joinAll] at joined
  split at joined
  · obtain rfl := Except.ok.inj joined
    refine ⟨?_, decide_eq_true_iff⟩
    have nodes_eq : (nodes.zipIdx.map fun (node, position) =>
        nodeResult node (env.reply position node)).map NodeResult.nodeId = nodes := by
      rw [List.map_map]
      have first : (NodeResult.nodeId ∘ fun (entry : String × Nat) =>
          nodeResult entry.1 (env.reply entry.2 entry.1)) = Prod.fst := by
        funext entry
        simp only [Function.comp_apply]
        cases env.reply entry.2 entry.1 <;> rfl
      rw [first, List.zipIdx_map_fst]
    have sublist := (List.filter_sublist (p := NodeResult.isOk)
      (l := nodes.zipIdx.map fun (node, position) =>
        nodeResult node (env.reply position node))).map NodeResult.nodeId
    rwa [nodes_eq] at sublist
  · cases joined

/-- Whoever replies with a value on its side is a success. -/
theorem joinAll_of_side (side : String → Bool) (value : α) (nodes : List String) (needed : Nat) :
    ∃ result, joinAll
        { reply := fun _ node => if side node then .value value else .failed "down"
          inTime := true } nodes needed = .ok result ∧
      result.successes.map NodeResult.nodeId = nodes.filter side ∧
      (result.quorumAchieved = true ↔ needed ≤ nodes.countP side) := by
  refine ⟨_, rfl, ?_⟩
  have successes_eq : ((nodes.zipIdx.map fun (node, position) =>
      nodeResult node ((fun (_ : Nat) node =>
        if side node then NodeReply.value value else .failed "down") position node)).filter
          NodeResult.isOk).map NodeResult.nodeId = nodes.filter side := by
    have drop_position : (nodes.zipIdx.map fun (node, _) =>
        nodeResult node (if side node then NodeReply.value value else .failed "down")) =
          nodes.map fun node =>
            nodeResult node (if side node then NodeReply.value value else .failed "down") := by
      conv_rhs => rw [← List.zipIdx_map_fst 0 nodes, List.map_map]
      rfl
    rw [drop_position, List.filter_map, List.map_map]
    have name_eq : ∀ node ∈ nodes.filter (NodeResult.isOk ∘ fun node =>
        nodeResult node (if side node then NodeReply.value value else .failed "down")),
          (NodeResult.nodeId ∘ fun node =>
            nodeResult node (if side node then NodeReply.value value else .failed "down")) node =
              id node := by
      intro node _
      simp only [Function.comp_apply]
      split <;> rfl
    rw [List.map_congr_left name_eq, List.map_id]
    refine List.filter_congr fun node _ => ?_
    simp only [Function.comp_apply]
    cases side node <;> rfl
  refine ⟨successes_eq, ?_⟩
  rw [decide_eq_true_iff, List.countP_eq_length_filter, ← successes_eq, List.length_map]

end Results

theorem writeWithQuorum_eq_ok_iff {config : QuorumConfig} {env : QuorumEnv Unit}
    {nodes : List String} {result : QuorumResult Unit} :
    writeWithQuorum config env nodes = .ok result ↔
      nodes ≠ [] ∧ joinAll env nodes (min config.writeQuorum nodes.length) = .ok result ∧
        result.quorumAchieved = true := by
  rw [writeWithQuorum]
  split
  · rename_i empty
    simp [List.isEmpty_iff.mp empty]
  · rename_i nonempty
    have nodes_ne : nodes ≠ [] := fun empty => nonempty (List.isEmpty_iff.mpr empty)
    simp only [nodes_ne, ne_eq, not_false_eq_true, true_and]
    cases joined : joinAll env nodes (min config.writeQuorum nodes.length) with
    | error cause => simp
    | ok joinedResult =>
        change (if joinedResult.quorumAchieved then _ else _) = Except.ok result ↔ _
        by_cases achieved : joinedResult.quorumAchieved = true
        · rw [if_pos achieved, Except.ok.injEq]
          constructor
          · rintro rfl
            exact ⟨rfl, achieved⟩
          · exact And.left
        · rw [if_neg achieved]
          constructor
          · rintro ⟨⟩
          · rintro ⟨same, confirmed⟩
            rw [← Except.ok.inj same] at confirmed
            exact absurd confirmed achieved

theorem readWithQuorum_eq_ok_iff {α : Type} {config : QuorumConfig} {env : QuorumEnv α}
    {nodes : List String} {result : QuorumResult α} :
    readWithQuorum config env nodes = .ok result ↔
      nodes ≠ [] ∧ joinAll env nodes (min config.readQuorum nodes.length) = .ok result := by
  rw [readWithQuorum]
  split
  · rename_i empty
    simp [List.isEmpty_iff.mp empty]
  · rename_i nonempty
    rw [List.isEmpty_iff] at nonempty
    simp [nonempty]

/-- With a majority for both quorums, the quorums of two lists meet whatever fails exactly if the
nodes cannot be split into two sides with a quorum of entries each. -/
theorem quorums_meet_iff (replicationFactor : Nat) (written read : List String) :
    (∀ α : Type, QuorumsMeet (.strict replicationFactor) α written read) ↔
      ¬ CanSplit (replicationFactor / 2 + 1) written read := by
  constructor
  · rintro meet ⟨written_ne, read_ne, side, enough_written, enough_read⟩
    obtain ⟨writeResult, write_joined, confirmed_eq, write_iff⟩ :=
      joinAll_of_side side () written (min (replicationFactor / 2 + 1) written.length)
    obtain ⟨readResult, read_joined, answered_eq, read_iff⟩ :=
      joinAll_of_side (fun node => !side node) () read
        (min (replicationFactor / 2 + 1) read.length)
    obtain ⟨confirmed, confirmed_mem, answered, answered_mem, same⟩ :=
      meet Unit _ _ writeResult readResult
        (writeWithQuorum_eq_ok_iff.mpr ⟨written_ne, write_joined, write_iff.mpr enough_written⟩)
        (readWithQuorum_eq_ok_iff.mpr ⟨read_ne, read_joined⟩) (read_iff.mpr enough_read)
    have on_side : confirmed.nodeId ∈ written.filter side :=
      confirmed_eq ▸ List.mem_map_of_mem confirmed_mem
    have off_side : answered.nodeId ∈ read.filter fun node => !side node :=
      answered_eq ▸ List.mem_map_of_mem answered_mem
    have split := (List.mem_filter.mp off_side).2
    rw [← same, (List.mem_filter.mp on_side).2] at split
    exact Bool.false_ne_true split
  · intro no_split α writeEnv readEnv writeResult readResult write_ok read_ok achieved
    obtain ⟨written_ne, write_joined, confirmed⟩ := writeWithQuorum_eq_ok_iff.mp write_ok
    obtain ⟨read_ne, read_joined⟩ := readWithQuorum_eq_ok_iff.mp read_ok
    obtain ⟨write_sublist, write_iff⟩ := joinAll_ok write_joined
    obtain ⟨read_sublist, read_iff⟩ := joinAll_ok read_joined
    by_contra apart
    push Not at apart
    -- One side are the nodes that have confirmed the write.
    let confirms : String → Bool := fun node =>
      decide (node ∈ writeResult.successes.map NodeResult.nodeId)
    refine no_split ⟨written_ne, read_ne, confirms, ?_, ?_⟩
    · calc
        _ ≤ writeResult.successes.length := write_iff.mp confirmed
        _ = (writeResult.successes.map NodeResult.nodeId).countP confirms := by
          rw [List.countP_eq_length.mpr fun node member => decide_eq_true member, List.length_map]
        _ ≤ written.countP confirms := write_sublist.countP_le
    · calc
        _ ≤ readResult.successes.length := read_iff.mp achieved
        _ = (readResult.successes.map NodeResult.nodeId).countP fun node => !confirms node := by
          rw [List.countP_eq_length.mpr, List.length_map]
          intro node member
          obtain ⟨answered, answered_mem, rfl⟩ := List.mem_map.mp member
          rw [Bool.not_eq_true', decide_eq_false_iff_not, List.mem_map]
          rintro ⟨entry, entry_mem, same⟩
          exact apart entry entry_mem answered answered_mem same
        _ ≤ read.countP fun node => !confirms node := read_sublist.countP_le

/-- Lists without repetition of a majority of the replicas cannot be split. -/
theorem not_canSplit_of_majorities {replicas written read : List String}
    (written_distinct : written.Nodup) (read_distinct : read.Nodup)
    (written_subset : written ⊆ replicas) (read_subset : read ⊆ replicas)
    (written_majority : replicas.length / 2 + 1 ≤ written.length)
    (read_majority : replicas.length / 2 + 1 ≤ read.length) :
    ¬ CanSplit (replicas.length / 2 + 1) written read := by
  rintro ⟨-, -, side, enough_written, enough_read⟩
  have count_le : ∀ {part : List String} (on : String → Bool), part.Nodup → part ⊆ replicas →
      part.countP on ≤ replicas.countP on := by
    intro part on part_distinct part_subset
    exact (part_distinct.subperm part_subset).countP_le on
  have whole := replicas.length_eq_countP_add_countP side
  have left := count_le side written_distinct written_subset
  have right := count_le (fun node => !side node) read_distinct read_subset
  rw [Nat.min_eq_left written_majority] at enough_written
  rw [Nat.min_eq_left read_majority] at enough_read
  simp only [Bool.not_eq_true, Bool.decide_eq_false] at whole
  omega

/-- Two lists with a single node each have no node in common, and both are quorums. -/
theorem quorums_apart_single_nodes :
    ¬ ∀ (replicas written read : List String), replicas.Nodup → 1 ≤ replicas.length →
      written ⊆ replicas → read ⊆ replicas →
        QuorumsMeet (.strict replicas.length) Unit written read := by
  intro meets
  obtain ⟨confirmed, confirmed_mem, answered, answered_mem, same⟩ :=
    meets ["node-1", "node-2", "node-3"] ["node-1"] ["node-2"] (by decide) (by decide) (by decide)
      (by decide) { reply := fun _ _ => .value (), inTime := true }
      { reply := fun _ _ => .value (), inTime := true } _ _ rfl rfl rfl
  obtain rfl := List.mem_singleton.mp confirmed_mem
  obtain rfl := List.mem_singleton.mp answered_mem
  exact absurd same (by decide)

end CyxCloud.Metadata
