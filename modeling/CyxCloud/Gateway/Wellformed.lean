import CyxCloud.Gateway.Get
import CyxCloud.Gateway.PutSpec
import CyxCloud.Library.Runs

/-!
# Well-formed clusters

The invariant of the object operations: files and shards have identifiers of their own, every file
describes an object whose shards its rows register, and the nodes keep shards under the hash of
their contents.  It holds in every state that puts and deletes reach, whatever fails on the way.
-/

namespace CyxCloud.Gateway

open CyxCloud.Core hiding Chunk
open Library Metadata

/-! ## Operations -/

/-- A call that changes objects. -/
inductive ObjectOp where
  | put (env : PutEnv) (userId : Uuid) (bucket key : String) (data : Bytes) (contentType : String)
  | delete (fileOrder : RowOrder File) (now : Time) (bucket key : String)

/-- The cluster that a call leaves behind. -/
def ObjectOp.apply (ext : Externals) (cluster : Cluster) : ObjectOp → Cluster
  | .put env userId bucket key data contentType =>
      (putObject ext env cluster userId bucket key data contentType).1
  | .delete fileOrder now bucket key => deleteObject fileOrder now cluster bucket key

/-- A cluster that stores nothing yet. -/
structure Fresh (cluster : Cluster) : Prop where
  files_nil : cluster.db.files = []
  chunks_nil : cluster.db.chunks = []
  locations_nil : cluster.db.chunkLocations = []
  kept_nil : cluster.kept = []

/-! ## Invariant -/

section

variable (ext : Externals) (encoder : ErasureEncoder)

/-- A file describes an object, and its rows register shards of the object. -/
structure Describes (db : Database) (file : File) (data : Bytes) : Prop where
  shapes : Shapes file data
  contentHash_eq : file.contentHash = ext.blake3 data
  registered : ∀ key ∈ db.shardKeys, key.fileId = file.id →
    key.chunkIndex < chunkCountOf data ∧ key.shardIndex < TOTAL_SHARDS ∧
      key.chunkId = ext.blake3 (shardOf encoder data key.chunkIndex key.shardIndex)

/-- The invariant of the object operations. -/
structure Wellformed (cluster : Cluster) : Prop where
  files_unique : (cluster.db.files.map File.id).Nodup
  chunks_unique : cluster.db.chunkIds.Nodup
  parents : ∀ key ∈ cluster.db.shardKeys, key.fileId ∈ cluster.db.files.map File.id
  described : ∀ file ∈ cluster.db.files, ∃ data, Describes ext encoder cluster.db file data
  content_addressed : ∀ shard ∈ cluster.kept, shard.chunkId = ext.blake3 shard.data

end

section

variable {ext : Externals} {encoder : ErasureEncoder} {cluster : Cluster}

theorem wellformed_of_fresh (fresh : Fresh cluster) : Wellformed ext encoder cluster where
  files_unique := by simp [fresh.files_nil]
  chunks_unique := by simp [Database.chunkIds, fresh.chunks_nil]
  parents := by simp [Database.shardKeys, fresh.chunks_nil]
  described := by simp [fresh.files_nil]
  content_addressed := by simp [fresh.kept_nil]

/-! ## Deleting -/

/-- Apart from the marks of a deletion a file stays as it is. -/
theorem describes_of_fields {db db' : Database} {file file' : File} {data : Bytes}
    (describes : Describes ext encoder db file data) (keys_eq : db'.shardKeys = db.shardKeys)
    (id_eq : file'.id = file.id) (size_eq : file'.sizeBytes = file.sizeBytes)
    (count_eq : file'.chunkCount = file.chunkCount) (chunkSize_eq : file'.chunkSize = file.chunkSize)
    (hash_eq : file'.contentHash = file.contentHash) : Describes ext encoder db' file' data where
  shapes :=
    { sizeBytes_eq := size_eq.trans describes.shapes.sizeBytes_eq
      chunkCount_eq := count_eq.trans describes.shapes.chunkCount_eq
      chunkSize_eq := chunkSize_eq.trans describes.shapes.chunkSize_eq }
  contentHash_eq := hash_eq.trans describes.contentHash_eq
  registered := by
    rw [keys_eq, id_eq]
    exact describes.registered

theorem wellformed_delete (wellformed : Wellformed ext encoder cluster) (fileOrder : RowOrder File)
    (now : Time) (bucket key : String) :
    Wellformed ext encoder (deleteObject fileOrder now cluster bucket key) := by
  unfold deleteObject
  split
  · exact wellformed
  · rename_i target found
    have ids_eq : (cluster.db.deleteFile target.id now).files.map File.id =
        cluster.db.files.map File.id := by
      rw [Database.deleteFile, List.map_map]
      refine List.map_congr_left fun file _ => ?_
      simp only [Function.comp_apply]
      split <;> rfl
    refine ⟨?_, wellformed.chunks_unique, ?_, ?_, wellformed.content_addressed⟩
    · rw [ids_eq]
      exact wellformed.files_unique
    · rw [ids_eq]
      exact wellformed.parents
    · intro marked member
      obtain ⟨file, file_mem, rfl⟩ := List.mem_map.mp member
      obtain ⟨data, describes⟩ := wellformed.described file file_mem
      refine ⟨data, ?_⟩
      split
      · exact describes_of_fields describes rfl rfl rfl rfl rfl rfl
      · exact describes_of_fields describes rfl rfl rfl rfl rfl rfl

/-! ## Storing -/

section Stored

variable {upload : Upload} {file : File} {after : Cluster}

theorem Stored.ids_eq (stored : Stored upload file cluster after) :
    after.db.chunkIds = cluster.db.chunkIds ++
      (upload.accepted cluster.db.chunkIds upload.slots).map upload.shardId := by
  rw [← Database.shardKeys_chunkId, stored.keys_eq, List.map_append, Database.shardKeys_chunkId,
    List.map_map]
  rfl

theorem Stored.mem_keys (stored : Stored upload file cluster after) {key : ShardKey} :
    key ∈ after.db.shardKeys ↔ key ∈ cluster.db.shardKeys ∨
      ∃ slot ∈ upload.accepted cluster.db.chunkIds upload.slots, upload.slotKey slot = key := by
  rw [stored.keys_eq, List.mem_append, List.mem_map]

theorem Upload.mem_slots_of_accepted {taken : List Bytes} {slots : List (Nat × Nat)}
    {slot : Nat × Nat} (accepted : slot ∈ upload.accepted taken slots) : slot ∈ slots :=
  List.mem_of_mem_filter ((acceptedRows_sublist _ _).subset accepted)

/-- An upload keeps the invariant. -/
theorem Stored.wellformed (stored : Stored upload file cluster after)
    (before : Wellformed upload.ext upload.encoder cluster) (shapes : Shapes file upload.data)
    (id_eq : file.id = upload.env.fileId) (hash_eq : file.contentHash = upload.ext.blake3 upload.data)
    (free : upload.env.fileId ∉ cluster.db.files.map File.id) :
    Wellformed upload.ext upload.encoder after := by
  have ids_eq : after.db.files.map File.id =
      cluster.db.files.map File.id ++ [upload.env.fileId] := by
    rw [stored.grows.files_eq, List.map_append, List.map_singleton, id_eq]
  refine ⟨?_, ?_, ?_, ?_, ?_⟩
  · rw [ids_eq]
    exact nodup_append_fresh before.files_unique free
  · rw [stored.ids_eq]
    exact nodup_append_acceptedRows before.chunks_unique _
  · intro key member
    rw [ids_eq, List.mem_append]
    rcases stored.mem_keys.mp member with earlier | ⟨slot, -, rfl⟩
    · exact .inl (before.parents key earlier)
    · exact .inr (List.mem_singleton_self _)
  · intro other member
    rw [stored.grows.files_eq] at member
    rcases List.mem_append.mp member with earlier | last
    · obtain ⟨data, describes⟩ := before.described other earlier
      refine ⟨data, describes.shapes, describes.contentHash_eq, fun key key_mem same => ?_⟩
      rcases stored.mem_keys.mp key_mem with known | ⟨slot, -, rfl⟩
      · exact describes.registered key known same
      · exact absurd (List.mem_map.mpr ⟨other, earlier, same.symm⟩) free
    · rw [List.mem_singleton.mp last]
      refine ⟨upload.data, shapes, hash_eq, fun key key_mem same => ?_⟩
      rcases stored.mem_keys.mp key_mem with known | ⟨slot, accepted, rfl⟩
      · rw [id_eq] at same
        exact absurd (same ▸ before.parents key known) free
      · obtain ⟨chunk_lt, shard_lt⟩ := mem_slotsOf.mp (Upload.mem_slots_of_accepted accepted)
        exact ⟨chunk_lt, shard_lt, rfl⟩
  · intro shard member
    obtain ⟨added, kept_eq, requests, -⟩ := stored.keeps
    rw [kept_eq] at member
    rcases List.mem_append.mp member with new | earlier
    · obtain ⟨slot, -, address, rfl, -⟩ := requests shard new
      rfl
    · exact before.content_addressed shard earlier

end Stored

theorem fileRow_shapes (env : PutEnv) (userId : Uuid) (bucket key : String) (data : Bytes)
    (contentType : String) : Shapes (fileRow ext env userId bucket key data contentType) data :=
  ⟨rfl, rfl, rfl⟩

theorem wellformed_put (built : ErasureEncoder.new ext.reedSolomon = .ok encoder)
    (gateway : GatewayEncoder encoder) (wellformed : Wellformed ext encoder cluster) (env : PutEnv)
    (userId : Uuid) (bucket key : String) (data : Bytes) (contentType : String) :
    Wellformed ext encoder (putObject ext env cluster userId bucket key data contentType).1 := by
  rcases putObject_cases built gateway env cluster userId bucket key data contentType with
    ⟨cause, put_eq⟩ | ⟨fresh_id, nodes, stored⟩
  · rw [put_eq]
    exact wellformed
  · refine stored.wellformed wellformed (fileRow_shapes env userId bucket key data contentType) rfl
      rfl ?_
    rw [← Database.hasFile_iff, fresh_id]
    exact Bool.false_ne_true

/-! ## Runs -/

theorem wellformed_apply (built : ErasureEncoder.new ext.reedSolomon = .ok encoder)
    (gateway : GatewayEncoder encoder) (wellformed : Wellformed ext encoder cluster)
    (op : ObjectOp) : Wellformed ext encoder (op.apply ext cluster) := by
  cases op with
  | put env userId bucket key data contentType =>
      exact wellformed_put built gateway wellformed env userId bucket key data contentType
  | delete fileOrder now bucket key => exact wellformed_delete wellformed fileOrder now bucket key

/-- Every state of a run from a fresh cluster is well formed. -/
theorem wellformed_run (built : ErasureEncoder.new ext.reedSolomon = .ok encoder)
    (gateway : GatewayEncoder encoder) (wellformed : Wellformed ext encoder cluster)
    (ops : List ObjectOp) : Wellformed ext encoder (runAll (ObjectOp.apply ext) cluster ops) := by
  induction ops generalizing cluster with
  | nil => exact wellformed
  | cons op ops induction => exact induction (wellformed_apply built gateway wellformed op)

end

end CyxCloud.Gateway
