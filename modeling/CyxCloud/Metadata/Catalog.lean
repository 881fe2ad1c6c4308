import CyxCloud.Metadata.Replicas

/-!
# Shard rows and their locations

What the gateway relies on when it records and looks up shards: which rows identify the shards of
a file, and which nodes hold a stored location.  The counters and statuses that
`add_chunk_location` maintains beside them play no part.
-/

namespace CyxCloud.Metadata

open CyxCloud.Core hiding Chunk
open Library

/-- The part of a chunk row that says which shard it registers. -/
structure ShardKey where
  chunkId : Bytes
  fileId : Uuid
  chunkIndex : Nat
  shardIndex : Nat
  deriving DecidableEq, Repr

/-- The key of a chunk row. -/
def Chunk.shardKey (row : Chunk) : ShardKey :=
  { chunkId := row.chunkId
    fileId := row.fileId
    chunkIndex := row.chunkIndex
    shardIndex := row.shardIndex }

/-- The key of a row to be inserted. -/
def CreateChunk.shardKey (row : CreateChunk) : ShardKey :=
  { chunkId := row.chunkId
    fileId := row.fileId
    chunkIndex := row.chunkIndex
    shardIndex := row.shardIndex }

namespace Database

/-- The keys of all chunk rows. -/
def shardKeys (db : Database) : List ShardKey := db.chunks.map Chunk.shardKey

/-- Identifiers of the registered shards. -/
def chunkIds (db : Database) : List Bytes := db.chunks.map Chunk.chunkId

/-- A node has a location of a chunk that is marked as stored. -/
def storedOn (db : Database) (chunkId : Bytes) (nodeId : Uuid) : Prop :=
  ∃ row ∈ db.chunkLocations, row.chunkId = chunkId ∧ row.nodeId = nodeId ∧ row.status = .stored

theorem shardKeys_chunkId (db : Database) : db.shardKeys.map ShardKey.chunkId = db.chunkIds := by
  rw [shardKeys, List.map_map]
  rfl

theorem hasChunk_iff {db : Database} {chunkId : Bytes} :
    db.hasChunk chunkId = true ↔ chunkId ∈ db.chunkIds := by
  simp [hasChunk, chunkIds]

theorem hasFile_iff {db : Database} {fileId : Uuid} :
    db.hasFile fileId = true ↔ fileId ∈ db.files.map File.id := by
  simp [hasFile]

/-! ## Reading -/

theorem getFileChunks_perm (db : Database) (fileId : Uuid) :
    (db.getFileChunks fileId).Perm (db.chunks.filter fun chunk => chunk.fileId == fileId) :=
  List.mergeSort_perm _ _

theorem mem_getFileChunks {db : Database} {fileId : Uuid} {row : Chunk} :
    row ∈ db.getFileChunks fileId ↔ row ∈ db.chunks ∧ row.fileId = fileId := by
  rw [(db.getFileChunks_perm fileId).mem_iff, List.mem_filter, beq_iff_eq]

/-- The rows of a file come chunk by chunk. -/
theorem getFileChunks_sorted (db : Database) (fileId : Uuid) :
    (db.getFileChunks fileId).Pairwise fun left right => left.chunkIndex ≤ right.chunkIndex := by
  refine (List.pairwise_mergeSort ?_ ?_ _).imp fun {left right} ordered => ?_
  · intro first second third
    simp only [decide_eq_true_eq]
    omega
  · intro first second
    simp only [Bool.or_eq_true, decide_eq_true_eq]
    omega
  · have := of_decide_eq_true ordered
    omega

/-- The addresses listed for a shard of a file: those of the online nodes that store it. -/
theorem mem_getFileChunkLocations {db : Database} {order : RowOrder String} {fileId : Uuid}
    {chunkId : Bytes} {address : String} :
    address ∈ db.getFileChunkLocations order fileId chunkId ↔
      (∃ row ∈ db.chunks, row.chunkId = chunkId ∧ row.fileId = fileId) ∧
        ∃ node ∈ db.nodes, node.status = .online ∧ node.grpcAddress = address ∧
          db.storedOn chunkId node.id := by
  rw [getFileChunkLocations, order.mem_arrange]
  simp only [List.mem_flatMap, List.mem_filter, List.mem_map, Bool.and_eq_true, beq_iff_eq,
    List.any_eq_true, storedOn]
  constructor
  · rintro ⟨row, ⟨row_mem, ⟨id_eq, stored⟩, registered⟩, node, ⟨node_mem, same, online⟩, rfl⟩
    exact ⟨registered, node, node_mem, online, rfl, row, row_mem, id_eq, same.symm, stored⟩
  · rintro ⟨registered, node, node_mem, online, rfl, row, row_mem, id_eq, same, stored⟩
    exact ⟨row, ⟨row_mem, ⟨id_eq, stored⟩, registered⟩, node, ⟨node_mem, same.symm, online⟩, rfl⟩

/-! ## Writing -/

/-- The same buckets, nodes and files, and no stored location lost. -/
structure Extends (before after : Database) : Prop where
  buckets_eq : after.buckets = before.buckets
  nodes_eq : after.nodes = before.nodes
  files_eq : after.files = before.files
  stored : ∀ {chunkId nodeId}, before.storedOn chunkId nodeId → after.storedOn chunkId nodeId

theorem Extends.refl (db : Database) : Extends db db := ⟨rfl, rfl, rfl, id⟩

theorem Extends.trans {first second third : Database} (left : Extends first second)
    (right : Extends second third) : Extends first third :=
  ⟨right.buckets_eq.trans left.buckets_eq, right.nodes_eq.trans left.nodes_eq,
    right.files_eq.trans left.files_eq, fun stored => right.stored (left.stored stored)⟩

theorem createChunk_extends (db : Database) (chunk : CreateChunk) :
    Extends db (db.createChunk chunk).1 := by
  unfold createChunk
  simp only
  split_ifs
  · exact .refl db
  · exact ⟨rfl, rfl, rfl, id⟩
  · exact .refl db

/-- A row of a known file is inserted unless its identifier is taken. -/
theorem createChunk_shardKeys {db : Database} {chunk : CreateChunk}
    (known : db.hasFile chunk.fileId = true) :
    (db.createChunk chunk).1.shardKeys =
      if chunk.chunkId ∈ db.chunkIds then db.shardKeys else db.shardKeys ++ [chunk.shardKey] := by
  unfold createChunk
  simp only [hasChunk_iff, known, if_true]
  split_ifs
  · rfl
  · rw [shardKeys, List.map_append]
    rfl

theorem upsertLocation_extends (db : Database) (chunkId : Bytes) (nodeId : Uuid) :
    Extends db (db.upsertLocation chunkId nodeId) := by
  unfold upsertLocation
  split
  · refine ⟨rfl, rfl, rfl, ?_⟩
    rintro id node ⟨row, row_mem, id_eq, node_eq, stored⟩
    refine ⟨_, List.mem_map_of_mem row_mem, ?_⟩
    split
    · exact ⟨id_eq, node_eq, rfl⟩
    · exact ⟨id_eq, node_eq, stored⟩
  · refine ⟨rfl, rfl, rfl, ?_⟩
    rintro id node ⟨row, row_mem, rest⟩
    exact ⟨row, List.mem_append_left _ row_mem, rest⟩

theorem upsertLocation_storedOn (db : Database) (chunkId : Bytes) (nodeId : Uuid) :
    (db.upsertLocation chunkId nodeId).storedOn chunkId nodeId := by
  unfold upsertLocation
  split
  · rename_i located
    obtain ⟨row, row_mem, same⟩ := List.any_eq_true.mp located
    refine ⟨_, List.mem_map_of_mem row_mem, ?_⟩
    rw [if_pos same]
    simpa using same
  · exact ⟨_, List.mem_append_right _ (List.mem_singleton_self _), rfl, rfl, rfl⟩

/-- The rows after an upsert are former rows and rows of the location that are stored. -/
theorem mem_upsertLocation {db : Database} {chunkId : Bytes} {nodeId : Uuid} {row : ChunkLocation}
    (member : row ∈ (db.upsertLocation chunkId nodeId).chunkLocations) :
    row ∈ db.chunkLocations ∨
      row.chunkId = chunkId ∧ row.nodeId = nodeId ∧ row.status = .stored := by
  unfold upsertLocation at member
  split at member
  · obtain ⟨former, former_mem, rfl⟩ := List.mem_map.mp member
    split
    · rename_i same
      simp only [Bool.and_eq_true, beq_iff_eq] at same
      exact .inr ⟨same.1, same.2, rfl⟩
    · exact .inl former_mem
  · rcases List.mem_append.mp member with former_mem | added
    · exact .inl former_mem
    · rw [List.mem_singleton.mp added]
      exact .inr ⟨rfl, rfl, rfl⟩

/-- An upsert removes no row. -/
theorem upsertLocation_keeps (db : Database) (chunkId : Bytes) (nodeId : Uuid)
    {row : ChunkLocation} (member : row ∈ db.chunkLocations) :
    ∃ now ∈ (db.upsertLocation chunkId nodeId).chunkLocations,
      now.chunkId = row.chunkId ∧ now.nodeId = row.nodeId ∧ (now = row ∨ now.status = .stored) := by
  unfold upsertLocation
  split
  · refine ⟨_, List.mem_map_of_mem member, ?_⟩
    split
    · exact ⟨rfl, rfl, .inr rfl⟩
    · exact ⟨rfl, rfl, .inl rfl⟩
  · exact ⟨row, List.mem_append_left _ member, rfl, rfl, .inl rfl⟩

/-- The key of a location row. -/
def locationKey (row : ChunkLocation) : Bytes × Uuid := (row.chunkId, row.nodeId)

/-- An upsert keeps one row for each location. -/
theorem upsertLocation_unique {db : Database}
    (unique : (db.chunkLocations.map locationKey).Nodup) (chunkId : Bytes) (nodeId : Uuid) :
    ((db.upsertLocation chunkId nodeId).chunkLocations.map locationKey).Nodup := by
  unfold upsertLocation
  split
  · have keys_eq : (db.chunkLocations.map fun row =>
        if row.chunkId == chunkId && row.nodeId == nodeId then
          { row with status := .stored }
        else
          row).map locationKey = db.chunkLocations.map locationKey := by
      rw [List.map_map]
      refine List.map_congr_left fun row _ => ?_
      simp only [Function.comp_apply, locationKey]
      split <;> rfl
    rw [keys_eq]
    exact unique
  · rename_i absent
    rw [List.map_append, List.nodup_append]
    refine ⟨unique, List.nodup_singleton _, ?_⟩
    rintro _ listed _ added rfl
    obtain ⟨row, member, key_eq⟩ := List.mem_map.mp listed
    obtain ⟨chunk_eq, node_eq⟩ := Prod.mk.inj (key_eq.trans (List.mem_singleton.mp added))
    refine absent (List.any_eq_true.mpr ⟨row, member, ?_⟩)
    simp [chunk_eq, node_eq]

@[simp]
theorem countReplica_shardKey (active : Bool) (chunkId : Bytes) (row : Chunk) :
    (countReplica active chunkId row).shardKey = row.shardKey := by
  unfold countReplica
  split <;> rfl

section

variable (db : Database) (statements : LocationStatements) (chunkId : Bytes) (nodeId : Uuid)

theorem addChunkLocation_extends :
    Extends db (db.addChunkLocation statements chunkId nodeId).1 := by
  rcases db.addChunkLocation_effect statements chunkId nodeId with ⟨-, same⟩ | ⟨-, -, added⟩
  · rw [same]
    exact .refl db
  · have upserted := db.upsertLocation_extends chunkId nodeId
    rw [added]
    exact ⟨upserted.buckets_eq, upserted.nodes_eq, upserted.files_eq, upserted.stored⟩

@[simp]
theorem addChunkLocation_shardKeys :
    (db.addChunkLocation statements chunkId nodeId).1.shardKeys = db.shardKeys := by
  rcases db.addChunkLocation_effect statements chunkId nodeId with ⟨-, same⟩ | ⟨-, -, added⟩
  · rw [same]
  · rw [added, shardKeys]
    split
    · rw [List.map_map]
      exact List.map_congr_left fun row _ => countReplica_shardKey _ _ row
    · rfl

theorem addChunkLocation_storedOn (reached : statements.upsert = true)
    (known : db.hasNode nodeId = true) :
    (db.addChunkLocation statements chunkId nodeId).1.storedOn chunkId nodeId := by
  rcases db.addChunkLocation_effect statements chunkId nodeId with ⟨failed, -⟩ | ⟨-, -, added⟩
  · rw [reached, known] at failed
    simp at failed
  · rw [added]
    exact db.upsertLocation_storedOn chunkId nodeId

end

end Database
end CyxCloud.Metadata
