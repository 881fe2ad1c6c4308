import CyxCloud.Gateway.Put
import CyxCloud.Gateway.ReadBack

/-!
# The visits of an upload

The loops of `put_object` visit the shards of all chunks in order.  Who acknowledges a shard is a
function of the placement and of the nodes' answers alone, so the counter, the shards kept by the
nodes and the statements sent to the database are determined slot by slot.
-/

namespace CyxCloud.Gateway

open CyxCloud.Core hiding Chunk
open Library Metadata ErasureEncoder

/-! ## One shard on the nodes -/

section Delivery

variable {reply : Nat → StoreReply} {request : String → StoredShard} {targetAddress : String}

theorem keep_eq_append (reply : StoreReply) (shard : StoredShard) (kept : List StoredShard) :
    ∃ added, reply.keep shard kept = added ++ kept ∧ (∀ other ∈ added, other = shard) ∧
      (reply = .stored → shard ∈ added) ∧ (reply = .refused → added = []) := by
  cases reply with
  | stored => exact ⟨[shard], rfl, by simp, by simp, by simp⟩
  | lost => exact ⟨[shard], rfl, by simp, by simp, by simp⟩
  | refused => exact ⟨[], rfl, by simp, by simp, by simp⟩

/-- What attempts to store a shard on some addresses lead to: the nodes keep copies of the
request, one of them at the address that acknowledged it. -/
structure Delivered (reply : Nat → StoreReply) (request : String → StoredShard)
    (addresses : List String) (kept : List StoredShard)
    (outcome : List StoredShard × Option String) : Prop where
  keeps : ∃ added, outcome.1 = added ++ kept ∧
    (∀ shard ∈ added, ∃ address, shard = request address) ∧
    (∀ address, outcome.2 = some address → request address ∈ added) ∧
    ((∀ attempt, reply attempt = .refused) → added = [])
  address_mem : ∀ address, outcome.2 = some address → address ∈ addresses

/-- One attempt, and the others unless it is acknowledged. -/
theorem delivered_attempt {addresses : List String} {address : String}
    {later : List StoredShard → List StoredShard × Option String}
    (continues : ∀ kept, Delivered reply request addresses kept (later kept)) (attempt : Nat)
    (kept : List StoredShard) :
    Delivered reply request (address :: addresses) kept
      (if reply attempt = .stored then
        ((reply attempt).keep (request address) kept, some address)
      else
        later ((reply attempt).keep (request address) kept)) := by
  obtain ⟨first, first_eq, first_copies, first_stored, first_refused⟩ :=
    keep_eq_append (reply attempt) (request address) kept
  split
  · rename_i stored
    refine ⟨⟨first, first_eq, fun shard member => ⟨_, first_copies shard member⟩, ?_, ?_⟩, ?_⟩
    · rintro _ ⟨⟩
      exact first_stored stored
    · intro refused
      exact first_refused (refused _)
    · rintro _ ⟨⟩
      exact List.mem_cons_self
  · obtain ⟨⟨added, added_eq, copies, acknowledged_mem, refused_nil⟩, address_mem⟩ :=
      continues ((reply attempt).keep (request address) kept)
    refine ⟨⟨added ++ first, ?_, ?_, ?_, ?_⟩, ?_⟩
    · rw [added_eq, first_eq, List.append_assoc]
    · intro shard member
      rcases List.mem_append.mp member with later | earlier
      · exact copies shard later
      · exact ⟨_, first_copies shard earlier⟩
    · intro other acknowledged
      exact List.mem_append_left _ (acknowledged_mem other acknowledged)
    · intro refused
      rw [refused_nil refused, first_refused (refused _)]
      rfl
    · intro other acknowledged
      exact List.mem_cons_of_mem _ (address_mem other acknowledged)

theorem storeOnBackup_delivered (rest : List (PlacementNode × Nat)) (kept : List StoredShard) :
    Delivered reply request (rest.map fun backup => backup.1.grpcAddress) kept
      (storeOnBackup reply request targetAddress rest kept) := by
  induction rest generalizing kept with
  | nil => exact ⟨⟨[], rfl, by simp, by simp [storeOnBackup], by simp⟩, by simp [storeOnBackup]⟩
  | cons backup rest induction =>
      rw [storeOnBackup]
      split
      · obtain ⟨keeps, address_mem⟩ := induction kept
        exact ⟨keeps, fun address acknowledged =>
          List.mem_cons_of_mem _ (address_mem address acknowledged)⟩
      · exact delivered_attempt induction (backup.2 + 1) kept

/-- What the attempts on the selected node and on the others lead to. -/
theorem storeOnNodes_delivered (reply : Nat → StoreReply) (request : String → StoredShard)
    (targetAddress : String) (placementNodes : List PlacementNode) (kept : List StoredShard) :
    Delivered reply request (targetAddress :: placementNodes.map PlacementNode.grpcAddress) kept
      (storeOnNodes reply request placementNodes targetAddress kept) := by
  have addresses_eq : placementNodes.zipIdx.map (fun backup => backup.1.grpcAddress) =
      placementNodes.map PlacementNode.grpcAddress := by
    rw [← List.zipIdx_map_fst 0 placementNodes, List.map_map, List.zipIdx_map_fst]
    rfl
  rw [← addresses_eq]
  exact delivered_attempt (storeOnBackup_delivered placementNodes.zipIdx) 0 kept

theorem storeOnBackup_snd (rest : List (PlacementNode × Nat)) (other : String → StoredShard)
    (kept otherKept : List StoredShard) :
    (storeOnBackup reply request targetAddress rest kept).2 =
      (storeOnBackup reply other targetAddress rest otherKept).2 := by
  induction rest generalizing kept otherKept with
  | nil => rfl
  | cons backup rest induction =>
      simp only [storeOnBackup]
      split_ifs
      · exact induction _ _
      · rfl
      · exact induction _ _

/-- Who acknowledges a shard depends on the answers alone. -/
theorem storeOnNodes_snd (placementNodes : List PlacementNode) (other : String → StoredShard)
    (kept otherKept : List StoredShard) :
    (storeOnNodes reply request placementNodes targetAddress kept).2 =
      (storeOnNodes reply other placementNodes targetAddress otherKept).2 := by
  simp only [storeOnNodes]
  split_ifs
  · rfl
  · exact storeOnBackup_snd _ _ _ _

end Delivery

/-! ## The visits of an upload -/

/-- The loops of `put_object`: everything they read. -/
structure Upload where
  ext : Externals
  env : PutEnv
  nodes : List Node
  encoder : ErasureEncoder
  data : Bytes

namespace Upload

variable (upload : Upload)

/-- The chunk of an index. -/
def chunk (chunkIndex : Nat) : Core.Chunk :=
  chunkOfBlock upload.ext.blake3 upload.env.now (chunkCountOf upload.data) (some upload.env.fileId)
    ((chunkBlocks upload.data).getD chunkIndex [], chunkIndex)

/-- A shard of a chunk. -/
def shard (slot : Nat × Nat) : ShardData :=
  upload.encoder.labelShard slot.2 (shardOf upload.encoder upload.data slot.1 slot.2)

/-- The identifier of a shard. -/
def shardId (slot : Nat × Nat) : Bytes :=
  upload.ext.blake3 (shardOf upload.encoder upload.data slot.1 slot.2)

/-- The request for a shard. -/
def request (slot : Nat × Nat) (address : String) : StoredShard :=
  shardRequest upload.ext (upload.chunk slot.1) (upload.shard slot) address

/-- Where the shards of every chunk should go. -/
def decisions : List PlacementDecision :=
  (placementEngine upload.ext).selectNodes (upload.nodes.map PlacementNode.fromNode) TOTAL_SHARDS 1
    none

/-- The decision for a shard. -/
def decision (shardIndex : Nat) : PlacementDecision :=
  upload.decisions.getD shardIndex { shardIndex, nodes := [], score := 0 }

/-- The address that acknowledges a shard, if one does. -/
def acknowledger (slot : Nat × Nat) : Option String :=
  match (upload.decision slot.2).nodes with
  | [] => none
  | target :: _ =>
      (storeOnNodes (upload.env.storeReply slot.1 slot.2) (upload.request slot)
        (upload.nodes.map PlacementNode.fromNode) target.grpcAddress []).2

/-- The database once the outcome for a shard is known. -/
def commit (db : Database) (slot : Nat × Nat) : Database :=
  match upload.acknowledger slot with
  | none => db
  | some address =>
      commitShard upload.ext upload.env upload.nodes (upload.chunk slot.1) (upload.shard slot)
        address db

/-- The visit of a slot. -/
def visit (state : PutState) (slot : Nat × Nat) : PutState :=
  storeShard upload.ext upload.env upload.nodes (upload.chunk slot.1) state
    (upload.shard slot, upload.decision slot.2)

end Upload

/-- Chunk and shard indices in the order of the loops. -/
def slotsOf (chunkCount : Nat) : List (Nat × Nat) :=
  (List.range chunkCount).flatMap fun chunkIndex =>
    (List.range TOTAL_SHARDS).map (Prod.mk chunkIndex)

@[simp]
theorem mem_slotsOf {chunkCount : Nat} {slot : Nat × Nat} :
    slot ∈ slotsOf chunkCount ↔ slot.1 < chunkCount ∧ slot.2 < TOTAL_SHARDS := by
  simp only [slotsOf, List.mem_flatMap, List.mem_range, List.mem_map]
  constructor
  · rintro ⟨chunkIndex, inside, shardIndex, bound, rfl⟩
    exact ⟨inside, bound⟩
  · rintro ⟨inside, bound⟩
    exact ⟨slot.1, inside, slot.2, bound, rfl⟩

@[simp]
theorem length_slotsOf (chunkCount : Nat) :
    (slotsOf chunkCount).length = chunkCount * TOTAL_SHARDS := by
  simp [slotsOf]

theorem slotsOf_one : slotsOf 1 = (List.range TOTAL_SHARDS).map (Prod.mk 0) := rfl

section Visits

variable {upload : Upload}

theorem toNat_shard_index {slot : Nat × Nat} (inside : slot.2 < TOTAL_SHARDS) :
    (upload.shard slot).index.toNat = slot.2 := by
  have small : slot.2 < 14 := inside
  rw [Upload.shard, labelShard, UInt8.toNat_ofNat', Nat.mod_eq_of_lt (by omega)]

/-- What the visits of some slots do to the counter, the database and the nodes. -/
structure Visited (upload : Upload) (slots : List (Nat × Nat)) (before after : PutState) : Prop where
  stored_eq : after.shardsStored =
    before.shardsStored + slots.countP fun slot => (upload.acknowledger slot).isSome
  db_eq : after.cluster.db = slots.foldl upload.commit before.cluster.db
  keeps : ∃ added, after.cluster.kept = added ++ before.cluster.kept ∧
    (∀ shard ∈ added, ∃ slot ∈ slots, ∃ address, shard = upload.request slot address ∧
      ∃ attempt, upload.env.storeReply slot.1 slot.2 attempt ≠ .refused) ∧
    ∀ slot ∈ slots, ∀ address, upload.acknowledger slot = some address →
      upload.request slot address ∈ added

theorem visited_nil (state : PutState) : Visited upload [] state state :=
  ⟨rfl, rfl, [], rfl, by simp, by simp⟩

theorem Visited.trans {slots later : List (Nat × Nat)} {before middle after : PutState}
    (first : Visited upload slots before middle) (second : Visited upload later middle after) :
    Visited upload (slots ++ later) before after := by
  obtain ⟨added, added_eq, requests, acknowledged⟩ := first.keeps
  obtain ⟨added', added_eq', requests', acknowledged'⟩ := second.keeps
  refine ⟨?_, ?_, added' ++ added, ?_, fun shard member => ?_, fun slot member address found => ?_⟩
  · rw [second.stored_eq, first.stored_eq, List.countP_append, Nat.add_assoc]
  · rw [second.db_eq, first.db_eq, List.foldl_append]
  · rw [added_eq', added_eq, List.append_assoc]
  · rcases List.mem_append.mp member with here | there
    · obtain ⟨slot, slot_mem, rest⟩ := requests' shard here
      exact ⟨slot, List.mem_append_right _ slot_mem, rest⟩
    · obtain ⟨slot, slot_mem, rest⟩ := requests shard there
      exact ⟨slot, List.mem_append_left _ slot_mem, rest⟩
  · rcases List.mem_append.mp member with here | there
    · exact List.mem_append_right _ (acknowledged slot here address found)
    · exact List.mem_append_left _ (acknowledged' slot there address found)

/-- A slot that nobody acknowledges leaves counter and database alone. -/
theorem visited_unacknowledged {slot : Nat × Nat} (none_eq : upload.acknowledger slot = none)
    {before after : PutState} (stored_eq : after.shardsStored = before.shardsStored)
    (db_eq : after.cluster.db = before.cluster.db)
    (keeps : ∃ added, after.cluster.kept = added ++ before.cluster.kept ∧
      ∀ shard ∈ added, ∃ address, shard = upload.request slot address ∧
        ∃ attempt, upload.env.storeReply slot.1 slot.2 attempt ≠ .refused) :
    Visited upload [slot] before after := by
  obtain ⟨added, added_eq, requests⟩ := keeps
  refine ⟨?_, ?_, added, added_eq, fun shard member => ?_, fun other member address found => ?_⟩
  · simp [stored_eq, none_eq]
  · simp [db_eq, Upload.commit, none_eq]
  · exact ⟨slot, List.mem_singleton_self _, requests shard member⟩
  · rw [List.mem_singleton.mp member, none_eq] at found
    cases found

/-- One visit. -/
theorem visited_visit (state : PutState) {slot : Nat × Nat} (inside : slot.2 < TOTAL_SHARDS) :
    Visited upload [slot] state (upload.visit state slot) := by
  cases nodes_eq : (upload.decision slot.2).nodes with
  | nil =>
      have none_eq : upload.acknowledger slot = none := by
        rw [Upload.acknowledger, nodes_eq]
      have visit_eq : upload.visit state slot =
          { state with failedShards := state.failedShards + 1 } := by
        simp only [Upload.visit, storeShard, nodes_eq]
      rw [visit_eq]
      exact visited_unacknowledged none_eq rfl rfl ⟨[], rfl, by simp⟩
  | cons target rest =>
      have attempts := storeOnNodes_delivered (upload.env.storeReply slot.1 slot.2)
        (upload.request slot) target.grpcAddress (upload.nodes.map PlacementNode.fromNode)
        state.cluster.kept
      have acknowledger_eq : upload.acknowledger slot =
          (storeOnNodes (upload.env.storeReply slot.1 slot.2) (upload.request slot)
            (upload.nodes.map PlacementNode.fromNode) target.grpcAddress state.cluster.kept).2 := by
        rw [Upload.acknowledger, nodes_eq]
        exact storeOnNodes_snd _ _ _ _
      have index_eq : (upload.chunk slot.1).metadata.index = slot.1 := rfl
      have request_eq : shardRequest upload.ext (upload.chunk slot.1) (upload.shard slot) =
          upload.request slot := rfl
      simp only [Upload.visit, storeShard, nodes_eq, index_eq, toNat_shard_index inside, request_eq]
      generalize storeOnNodes (upload.env.storeReply slot.1 slot.2) (upload.request slot)
        (upload.nodes.map PlacementNode.fromNode) target.grpcAddress state.cluster.kept = outcome
        at attempts acknowledger_eq
      obtain ⟨⟨added, added_eq, copies, acknowledged_mem, refused_nil⟩, -⟩ := attempts
      have requests : ∀ shard ∈ added, ∃ address, shard = upload.request slot address ∧
          ∃ attempt, upload.env.storeReply slot.1 slot.2 attempt ≠ .refused := by
        intro shard member
        obtain ⟨address, copy⟩ := copies shard member
        refine ⟨address, copy, ?_⟩
        by_contra refused
        rw [refused_nil (by simpa using refused)] at member
        cases member
      obtain ⟨kept, answer⟩ := outcome
      cases answer with
      | none => exact visited_unacknowledged acknowledger_eq rfl rfl ⟨added, added_eq, requests⟩
      | some address =>
          refine ⟨?_, ?_, added, added_eq, fun shard member => ?_,
            fun other member address' found => ?_⟩
          · simp [acknowledger_eq]
          · simp [Upload.commit, acknowledger_eq]
          · exact ⟨slot, List.mem_singleton_self _, requests shard member⟩
          · rw [List.mem_singleton.mp member] at found ⊢
            exact acknowledged_mem address' (acknowledger_eq ▸ found)

end Visits

/-! ## All chunks -/

namespace Upload

variable {upload : Upload}

theorem splitIntoChunks_eq (upload : Upload) :
    splitIntoChunks upload.ext.blake3 upload.env.now upload.data DEFAULT_CHUNK_SIZE
        (some upload.env.fileId) =
      .ok ((List.range (chunkCountOf upload.data)).map upload.chunk) := by
  rw [Core.splitIntoChunks_eq, clampChunkSize_default]
  congr 1
  apply List.ext_getElem
  · simp [chunkCountOf]
  · intro index left right
    have bound : index < (chunkBlocks upload.data).length := by
      rw [length_chunkBlocks]
      simpa using right
    simp only [List.getElem_map, List.getElem_zipIdx, List.getElem_range, Nat.zero_add, chunk,
      List.getD_eq_getElem _ _ bound]
    rfl

theorem encodeChunk_eq (gateway : GatewayEncoder upload.encoder) {chunkIndex : Nat}
    (inside : chunkIndex < chunkCountOf upload.data) :
    encodeChunk upload.env upload.encoder (upload.chunk chunkIndex) =
      .ok ((List.range TOTAL_SHARDS).map fun shardIndex => upload.shard (chunkIndex, shardIndex)) := by
  have encoded := encode_eq gateway.valid (block_ne_nil inside)
  have shards_eq : (upload.encoder.encodedShards
      ((chunkBlocks upload.data).getD chunkIndex [])).mapIdx upload.encoder.labelShard =
        (List.range TOTAL_SHARDS).map fun shardIndex => upload.shard (chunkIndex, shardIndex) := by
    apply List.ext_getElem
    · rw [List.length_mapIdx, length_shards gateway inside, List.length_map, List.length_range]
    · intro shardIndex left right
      have bound : shardIndex < (upload.encoder.encodedShards
          ((chunkBlocks upload.data).getD chunkIndex [])).length := by
        rwa [List.length_mapIdx] at left
      simp only [List.getElem_mapIdx, List.getElem_map, List.getElem_range, shard, shardOf,
        List.getD_eq_getElem _ _ bound]
  rw [shards_eq] at encoded
  rw [encodeChunk]
  split
  · rw [encodeParallel_eq_encode]
    exact encoded
  · exact encoded

/-- With an eligible node every shard has a target. -/
theorem decisions_of_eligible (upload : Upload)
    (some_eligible : (placementEngine upload.ext).eligible
      (upload.nodes.map PlacementNode.fromNode) ≠ []) :
    upload.decisions.length = TOTAL_SHARDS ∧ ∀ shardIndex < TOTAL_SHARDS,
      ∃ node ∈ upload.nodes, (upload.decision shardIndex).nodes = [PlacementNode.fromNode node] := by
  have per_dc : 0 < (placementEngine upload.ext).config.maxShardsPerDc :=
    show 0 < PlacementConfig.default.maxShardsPerDc by decide
  have per_rack : 0 < (placementEngine upload.ext).config.maxShardsPerRack :=
    show 0 < PlacementConfig.default.maxShardsPerRack by decide
  obtain ⟨length_eq, targets⟩ := PlacementEngine.selectNodes_targets per_dc per_rack some_eligible
    none TOTAL_SHARDS
  refine ⟨length_eq, fun shardIndex inside => ?_⟩
  have bound : shardIndex < upload.decisions.length := by rwa [decisions, length_eq]
  obtain ⟨target, target_mem, nodes_eq⟩ := targets _ (List.getElem_mem bound)
  obtain ⟨node, node_mem, rfl⟩ := List.mem_map.mp target_mem
  exact ⟨node, node_mem, by rw [decision, List.getD_eq_getElem _ _ bound, nodes_eq]⟩

/-- Either no node is eligible and nothing is placed, or every shard has a target. -/
theorem decisions_cases (upload : Upload) :
    upload.decisions = [] ∨
      upload.decisions.length = TOTAL_SHARDS ∧ ∀ shardIndex < TOTAL_SHARDS,
        ∃ node ∈ upload.nodes, (upload.decision shardIndex).nodes = [PlacementNode.fromNode node] := by
  by_cases none_eligible : (placementEngine upload.ext).eligible
      (upload.nodes.map PlacementNode.fromNode) = []
  · exact .inl (by rw [decisions, PlacementEngine.selectNodes, none_eligible]; rfl)
  · exact .inr (upload.decisions_of_eligible none_eligible)

theorem acknowledger_of_no_decisions (no_decisions : upload.decisions = []) (slot : Nat × Nat) :
    upload.acknowledger slot = none := by
  rw [acknowledger, decision, no_decisions]
  rfl

/-- The selected node acknowledges a shard that it stores. -/
theorem acknowledger_of_stored (some_decisions : upload.decisions ≠ []) {slot : Nat × Nat}
    (inside : slot.2 < TOTAL_SHARDS) (stored : upload.env.storeReply slot.1 slot.2 0 = .stored) :
    (upload.acknowledger slot).isSome = true := by
  rcases upload.decisions_cases with no_decisions | ⟨-, targets⟩
  · exact absurd no_decisions some_decisions
  · obtain ⟨target, -, nodes_eq⟩ := targets slot.2 inside
    rw [acknowledger, nodes_eq]
    simp only [storeOnNodes, stored, if_true, Option.isSome_some]

/-- The shards of one chunk. -/
theorem visited_chunk (upload : Upload) (state : PutState) (chunkIndex : Nat) :
    Visited upload ((List.range TOTAL_SHARDS).map (Prod.mk chunkIndex)) state
      ((((List.range TOTAL_SHARDS).map fun shardIndex => upload.shard (chunkIndex, shardIndex)).zip
        upload.decisions).foldl
          (storeShard upload.ext upload.env upload.nodes (upload.chunk chunkIndex)) state) := by
  rcases upload.decisions_cases with no_decisions | ⟨length_eq, -⟩
  · rw [no_decisions, List.zip_nil_right]
    refine ⟨?_, ?_, [], rfl, by simp, fun slot _ address found => ?_⟩
    · simp [acknowledger_of_no_decisions no_decisions]
    · symm
      refine List.foldl_fixed' (fun slot => ?_) _
      rw [commit, acknowledger_of_no_decisions no_decisions]
    · rw [acknowledger_of_no_decisions no_decisions] at found
      cases found
  · have zip_eq : ((List.range TOTAL_SHARDS).map fun shardIndex =>
        upload.shard (chunkIndex, shardIndex)).zip upload.decisions =
          (List.range TOTAL_SHARDS).map fun shardIndex =>
            (upload.shard (chunkIndex, shardIndex), upload.decision shardIndex) := by
      apply List.ext_getElem
      · simp [length_eq]
      · intro shardIndex left right
        have bound : shardIndex < upload.decisions.length := by
          simpa [length_eq] using right
        simp [decision, bound]
    rw [zip_eq, List.foldl_map]
    have visits : ∀ shardIndices : List Nat, (∀ shardIndex ∈ shardIndices, shardIndex < TOTAL_SHARDS) →
        ∀ state, Visited upload (shardIndices.map (Prod.mk chunkIndex)) state
          (shardIndices.foldl (fun state shardIndex => upload.visit state (chunkIndex, shardIndex))
            state) := by
      intro shardIndices
      induction shardIndices with
      | nil => exact fun _ state => visited_nil state
      | cons shardIndex shardIndices induction =>
          intro inside state
          have here : Visited upload [(chunkIndex, shardIndex)] state _ :=
            visited_visit state (inside shardIndex List.mem_cons_self)
          exact here.trans (induction
            (fun later member => inside later (List.mem_cons_of_mem _ member)) _)
    exact visits _ (fun shardIndex member => List.mem_range.mp member) state

/-- The shards of all chunks. -/
theorem visited_storeChunks (upload : Upload) (gateway : GatewayEncoder upload.encoder)
    (chunkIndices : List Nat)
    (inside : ∀ chunkIndex ∈ chunkIndices, chunkIndex < chunkCountOf upload.data)
    (state : PutState) :
    ∃ final,
      storeChunks upload.ext upload.env upload.nodes upload.encoder
          (chunkIndices.map upload.chunk) state = (final, .ok ()) ∧
        Visited upload
          (chunkIndices.flatMap fun chunkIndex =>
            (List.range TOTAL_SHARDS).map (Prod.mk chunkIndex)) state final := by
  induction chunkIndices generalizing state with
  | nil => exact ⟨state, rfl, visited_nil state⟩
  | cons chunkIndex chunkIndices induction =>
      have here := upload.visited_chunk state chunkIndex
      obtain ⟨final, stored, visited⟩ := induction
        (fun later member => inside later (List.mem_cons_of_mem _ member)) _
      refine ⟨final, ?_, here.trans visited⟩
      rw [List.map_cons, storeChunks, encodeChunk_eq gateway (inside _ List.mem_cons_self)]
      simpa [decisions] using stored

end Upload

end CyxCloud.Gateway
