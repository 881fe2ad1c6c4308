import CyxCloud.Core.Crypto
import CyxCloud.Core.ErasureRoundTrip
import CyxCloud.Core.Reassembly
import CyxCloud.Library.ByteLayout
import CyxCloud.Storage.Backends

/-!
# Encrypted files

The whole way of a file through the core and storage crates, as `tests/end_to_end.rs` takes it: the
file is split, each chunk is encrypted and erasure coded, and its shards are stored under the hash
of the chunk's identifier and the shard's index.  Chunks of the same contents share their shards, of
which the last encryption remains.
-/

namespace CyxCloud.Storage

open CyxCloud.Core Library

/-- What the pipeline is given. -/
structure Pipeline where
  blake3 : Bytes → Bytes
  aead : Cipher
  encoder : ErasureEncoder
  key : EncryptionKey
  /-- The nonces that are drawn, by the index of the chunk. -/
  nonces : Nat → Nonce

/-- What the pipeline fails with. -/
inductive PipelineError where
  | core (cause : CyxCloudError)
  | crypto (cause : CryptoError)
  | storage (cause : StorageError)
  | unknownChunk (id : Bytes)
  deriving DecidableEq, Repr

/-- The stored shards, and the encrypted size of each chunk by its identifier. -/
structure StoredShards where
  backend : MemoryBackend
  sizes : Dictionary Bytes Nat

namespace Pipeline

variable (pipe : Pipeline)

/-- Identifier of a shard: the hash of the chunk's identifier and the index in four bytes. -/
def shardId (chunkId : Bytes) (shardIdx : Nat) : Bytes :=
  pipe.blake3 (chunkId ++ toLeBytes 4 shardIdx)

/-- Store shards under their identifiers. -/
def putShards (chunkId : Bytes) :
    List (ShardData × Nat) → MemoryBackend → Except StorageError MemoryBackend
  | [], backend => .ok backend
  | (shard, shardIdx) :: rest, backend =>
      match backend.put (pipe.shardId chunkId shardIdx) shard.data with
      | (backend, .ok ()) => putShards chunkId rest backend
      | (_, .error cause) => .error cause

/-- Encrypt a chunk, encode it and store its shards. -/
def storeChunk (stored : StoredShards) (chunk : Chunk) : Except PipelineError StoredShards :=
  match encrypt pipe.aead (pipe.nonces chunk.metadata.index) chunk.data pipe.key with
  | .error cause => .error (.crypto cause)
  | .ok encrypted =>
      match pipe.encoder.encode encrypted.toBytes with
      | .error cause => .error (.core cause)
      | .ok shards =>
          match pipe.putShards chunk.metadata.id shards.zipIdx stored.backend with
          | .error cause => .error (.storage cause)
          | .ok backend =>
              .ok
                { backend
                  sizes := stored.sizes.insert chunk.metadata.id encrypted.toBytes.length }

/-- Store the chunks of a file. -/
def storeChunks : StoredShards → List Chunk → Except PipelineError StoredShards
  | stored, [] => .ok stored
  | stored, chunk :: chunks =>
      match pipe.storeChunk stored chunk with
      | .ok stored => storeChunks stored chunks
      | .error cause => .error cause

/-- The shards of a chunk that are still there. -/
def fetchShards (backend : MemoryBackend) (chunkId : Bytes) : List (Option ShardData) :=
  (List.range pipe.encoder.config.totalShards).map fun shardIdx =>
    match (backend.get (pipe.shardId chunkId shardIdx)).2 with
    | .ok (some data) => some (pipe.encoder.labelShard shardIdx data)
    | .ok none => none
    | .error _ => none

/-- Decode and decrypt a chunk. -/
def recoverChunk (now : Time) (stored : StoredShards) (totalChunks : Nat) (placed : Chunk × Nat) :
    Except PipelineError Chunk :=
  match stored.sizes.lookup placed.1.metadata.id with
  | none => .error (.unknownChunk placed.1.metadata.id)
  | some encryptedSize =>
      match pipe.encoder.decode (pipe.fetchShards stored.backend placed.1.metadata.id)
          encryptedSize with
      | .error cause => .error (.core cause)
      | .ok decoded =>
          match decryptFromBytes pipe.aead decoded pipe.key with
          | .error cause => .error (.crypto cause)
          | .ok decrypted =>
              match Chunk.new pipe.blake3 now decrypted placed.2 totalChunks with
              | .error cause => .error (.core cause)
              | .ok chunk => .ok chunk

/-- Recover all chunks and reassemble the file. -/
def recoverFile (now : Time) (stored : StoredShards) (chunks : List Chunk) :
    Except PipelineError Bytes :=
  match chunks.zipIdx.mapM (pipe.recoverChunk now stored chunks.length) with
  | .error cause => .error cause
  | .ok recovered =>
      match reassembleChunks recovered with
      | .error cause => .error (.core cause)
      | .ok data => .ok data

end Pipeline

/-- The shards with some identifiers are lost. -/
def StoredShards.lose (stored : StoredShards) (lost : List Bytes) : StoredShards :=
  { stored with backend := lost.foldl (fun backend id => (backend.delete id).1) stored.backend }

/-- Nothing stored, without a limit. -/
def StoredShards.empty : StoredShards where
  backend := .withCapacity 0
  sizes := ∅

/-! ## Shards in the backend -/

namespace MemoryBackend

variable {backend : MemoryBackend}

theorem put_of_unlimited (unlimited : backend.maxCapacity = 0) (id data : Bytes) :
    (backend.put id data).2 = .ok () ∧ (backend.put id data).1.maxCapacity = 0 ∧
      (backend.put id data).1.chunks = backend.chunks.insert id data := by
  have free : ¬(backend.maxCapacity > 0 ∧
      backend.bytesUsed + data.length > backend.maxCapacity) := by omega
  simp only [put, if_neg free]
  exact ⟨trivial, unlimited, trivial⟩

theorem lookup_delete (backend : MemoryBackend) (lost id : Bytes) :
    (backend.delete lost).1.chunks.lookup id =
      if id = lost then none else backend.chunks.lookup id := by
  unfold delete
  split
  · by_cases same : id = lost
    · rw [if_pos same, same]
      exact AList.lookup_erase lost backend.chunks
    · rw [if_neg same]
      exact AList.lookup_erase_ne same
  · rename_i missing
    by_cases same : id = lost
    · rw [if_pos same, same, missing]
    · rw [if_neg same]

theorem lookup_foldl_delete (lost : List Bytes) (backend : MemoryBackend) (id : Bytes) :
    (lost.foldl (fun backend id => (backend.delete id).1) backend).chunks.lookup id =
      if id ∈ lost then none else backend.chunks.lookup id := by
  induction lost generalizing backend with
  | nil => simp
  | cons first lost induction =>
      rw [List.foldl_cons, induction, lookup_delete]
      by_cases same : id = first <;> by_cases later : id ∈ lost <;> simp [same, later]

end MemoryBackend

namespace Pipeline

variable {pipe : Pipeline}

/-- Storing shards leaves those of other identifiers as they are. -/
theorem putShards_spec (chunkId : Bytes) (shards : List ShardData) (start : Nat)
    {backend : MemoryBackend} (unlimited : backend.maxCapacity = 0)
    (distinct : ∀ i j, i < start + shards.length → j < start + shards.length →
      pipe.shardId chunkId i = pipe.shardId chunkId j → i = j) :
    ∃ backend', pipe.putShards chunkId (shards.zipIdx start) backend = .ok backend' ∧
      backend'.maxCapacity = 0 ∧
      (∀ i (bound : i < shards.length),
        backend'.chunks.lookup (pipe.shardId chunkId (start + i)) = some shards[i].data) ∧
      ∀ id, (∀ i, start ≤ i → i < start + shards.length → id ≠ pipe.shardId chunkId i) →
        backend'.chunks.lookup id = backend.chunks.lookup id := by
  induction shards generalizing start backend with
  | nil => exact ⟨backend, rfl, unlimited, by simp, fun _ _ => rfl⟩
  | cons shard shards induction =>
      obtain ⟨accepted, unlimited', inserted⟩ :=
        MemoryBackend.put_of_unlimited unlimited (pipe.shardId chunkId start) shard.data
      rw [List.length_cons] at distinct
      obtain ⟨backend', stored, unlimited'', own, others⟩ := induction (start + 1) unlimited'
        fun i j small small' => distinct i j (by omega) (by omega)
      refine ⟨backend', ?_, unlimited'', ?_, ?_⟩
      · rw [List.zipIdx_cons, putShards]
        split
        · rename_i next same
          rw [same] at stored
          exact stored
        · rename_i next cause same
          rw [same] at accepted
          cases accepted
      · intro i bound
        cases i with
        | zero =>
            have apart : ∀ i, start + 1 ≤ i → i < start + 1 + shards.length →
                pipe.shardId chunkId start ≠ pipe.shardId chunkId i := by
              intro i large small same
              have equal := distinct start i (by omega) (by omega) same
              omega
            rw [Nat.add_zero, others _ apart, inserted, AList.lookup_insert]
            rfl
        | succ i =>
            have shifted : start + (i + 1) = start + 1 + i := by omega
            rw [List.length_cons] at bound
            rw [shifted, own i (by omega)]
            rfl
      · intro id apart
        rw [List.length_cons] at apart
        rw [others id fun i large small => apart i (by omega) (by omega), inserted,
          AList.lookup_insert_ne (apart start (Nat.le_refl start) (by omega))]

/-- The shards of some encryption of a chunk are stored, and its size is known. -/
def Holds (pipe : Pipeline) (stored : StoredShards) (chunk : Chunk) : Prop :=
  ∃ nonce encrypted, encrypt pipe.aead nonce chunk.data pipe.key = .ok encrypted ∧
    stored.sizes.lookup chunk.metadata.id = some encrypted.toBytes.length ∧
    ∀ i, i < pipe.encoder.config.totalShards →
      stored.backend.chunks.lookup (pipe.shardId chunk.metadata.id i) =
        (pipe.encoder.encodedShards encrypted.toBytes)[i]?

/-- The hash tells the chunks of a file and their shards apart. -/
structure Distinguishes (pipe : Pipeline) (chunks : List Chunk) : Prop where
  contents : ∀ chunk ∈ chunks, ∀ other ∈ chunks, chunk.metadata.id = other.metadata.id →
    chunk.data = other.data
  shards : ∀ chunk ∈ chunks, ∀ other ∈ chunks, ∀ i j, i < pipe.encoder.config.totalShards →
    j < pipe.encoder.config.totalShards →
      pipe.shardId chunk.metadata.id i = pipe.shardId other.metadata.id j →
        chunk.metadata.id = other.metadata.id ∧ i = j

theorem toBytes_ne_nil (encrypted : EncryptedData) : encrypted.toBytes ≠ [] := by
  intro nothing
  have long := encrypted.length_toBytes
  rw [nothing, EncryptedData.len] at long
  have size : NONCE_SIZE = 12 := rfl
  rw [List.length_nil] at long
  omega

section

variable {chunks : List Chunk} {stored : StoredShards}
  (lawful : pipe.aead.Lawful TAG_SIZE MAX_PLAINTEXT) (valid : pipe.encoder.Valid)
  (distinguishes : pipe.Distinguishes chunks)
include lawful valid distinguishes

/-- Storing a chunk succeeds, and all chunks that were stored before remain so. -/
theorem storeChunk_spec (unlimited : stored.backend.maxCapacity = 0) {chunk : Chunk}
    (member : chunk ∈ chunks) (short : chunk.data.length ≤ MAX_CHUNK_SIZE) :
    ∃ stored', pipe.storeChunk stored chunk = .ok stored' ∧ stored'.backend.maxCapacity = 0 ∧
      pipe.Holds stored' chunk ∧
      ∀ other ∈ chunks, pipe.Holds stored other → pipe.Holds stored' other := by
  have fits : chunk.data.length ≤ MAX_PLAINTEXT := Nat.le_trans short (by decide)
  obtain ⟨ciphertext, sealed, -⟩ :=
    lawful.exists_encrypt pipe.key (pipe.nonces chunk.metadata.index) fits
  have made : encrypt pipe.aead (pipe.nonces chunk.metadata.index) chunk.data pipe.key =
      .ok { nonce := pipe.nonces chunk.metadata.index, ciphertext } :=
    encrypt_eq_ok_iff.mpr ⟨rfl, sealed⟩
  generalize ({ nonce := pipe.nonces chunk.metadata.index, ciphertext } : EncryptedData) =
    encrypted at made
  have nonempty := toBytes_ne_nil encrypted
  have encoded := ErasureEncoder.encode_eq valid nonempty
  have length_eq := ErasureEncoder.length_encodedShards valid nonempty
  obtain ⟨backend', put, unlimited', own, others⟩ := putShards_spec chunk.metadata.id
    ((pipe.encoder.encodedShards encrypted.toBytes).mapIdx pipe.encoder.labelShard) 0 unlimited
    (fun i j small small' same => by
      rw [Nat.zero_add, List.length_mapIdx, length_eq] at small small'
      exact (distinguishes.shards chunk member chunk member i j small small' same).2)
  have held : pipe.Holds { backend := backend'
                           sizes := stored.sizes.insert chunk.metadata.id encrypted.toBytes.length }
      chunk := by
    refine ⟨_, encrypted, made, AList.lookup_insert _, fun i small => ?_⟩
    have bound : i < (pipe.encoder.encodedShards encrypted.toBytes).length := by
      rwa [length_eq]
    have found := own i (by rwa [List.length_mapIdx])
    rw [Nat.zero_add, List.getElem_mapIdx] at found
    rw [List.getElem?_eq_getElem bound]
    exact found
  refine ⟨_, ?_, unlimited', held, ?_⟩
  · simp only [storeChunk, made, encoded, put]
  · intro other other_mem holds
    by_cases same : other.metadata.id = chunk.metadata.id
    · -- the chunks share their shards, and have the same contents
      rw [Holds, same, distinguishes.contents other other_mem chunk member same]
      exact held
    · obtain ⟨nonce, before, made', size, shards⟩ := holds
      refine ⟨nonce, before, made', ?_, fun i small => ?_⟩
      · exact (AList.lookup_insert_ne same).trans size
      · refine (others _ fun j _ small' equal => same ?_).trans (shards i small)
        rw [Nat.zero_add, List.length_mapIdx, length_eq] at small'
        exact (distinguishes.shards other other_mem chunk member i j small small' equal).1

/-- Storing the chunks of a file succeeds, and all of them are stored. -/
theorem storeChunks_spec {listed : List Chunk} (unlimited : stored.backend.maxCapacity = 0)
    (members : ∀ chunk ∈ listed, chunk ∈ chunks)
    (short : ∀ chunk ∈ listed, chunk.data.length ≤ MAX_CHUNK_SIZE) :
    ∃ stored', pipe.storeChunks stored listed = .ok stored' ∧
      (∀ chunk ∈ listed, pipe.Holds stored' chunk) ∧
      ∀ other ∈ chunks, pipe.Holds stored other → pipe.Holds stored' other := by
  induction listed generalizing stored with
  | nil =>
      exact ⟨stored, rfl, fun chunk member => absurd member List.not_mem_nil, fun _ _ => id⟩
  | cons chunk listed induction =>
      have member := members chunk List.mem_cons_self
      obtain ⟨next, first, unlimited', held, kept⟩ := storeChunk_spec lawful valid distinguishes
        unlimited member (short chunk List.mem_cons_self)
      obtain ⟨stored', rest, holds, kept'⟩ := induction unlimited'
        (fun other later => members other (List.mem_cons_of_mem chunk later))
        (fun other later => short other (List.mem_cons_of_mem chunk later))
      refine ⟨stored', ?_, ?_, fun other other_mem => ?_⟩
      · rw [storeChunks, first]
        exact rest
      · intro other listed_mem
        rcases List.mem_cons.mp listed_mem with rfl | later
        · exact kept' other member held
        · exact holds other later
      · exact kept' other other_mem ∘ kept other other_mem

end

/-! ## Recovery after a loss -/

/-- How many shards of a chunk are left. -/
def left (pipe : Pipeline) (lost : List Bytes) (chunkId : Bytes) : Nat :=
  (List.range pipe.encoder.config.totalShards).countP fun i =>
    !lost.contains (pipe.shardId chunkId i)

section

variable {stored : StoredShards} {chunk : Chunk} {lost : List Bytes}

theorem fetchShards_eq (backend : MemoryBackend) (chunkId : Bytes) :
    pipe.fetchShards backend chunkId =
      (List.range pipe.encoder.config.totalShards).map fun i =>
        (backend.chunks.lookup (pipe.shardId chunkId i)).map (pipe.encoder.labelShard i) := by
  refine List.map_congr_left fun i _ => ?_
  rw [MemoryBackend.get]
  cases backend.chunks.lookup (pipe.shardId chunkId i) <;> rfl

/-- What is fetched after a loss: the shards of the stored encryption that are left. -/
theorem fetchShards_lose {bytes chunkId : Bytes}
    (shards : ∀ i, i < pipe.encoder.config.totalShards →
      stored.backend.chunks.lookup (pipe.shardId chunkId i) =
        (pipe.encoder.encodedShards bytes)[i]?) :
    pipe.fetchShards (stored.lose lost).backend chunkId =
      (List.range pipe.encoder.config.totalShards).map fun i =>
        if pipe.shardId chunkId i ∈ lost then none
        else ((pipe.encoder.encodedShards bytes)[i]?).map (pipe.encoder.labelShard i) := by
  rw [fetchShards_eq]
  refine List.map_congr_left fun i listed => ?_
  rw [StoredShards.lose, MemoryBackend.lookup_foldl_delete, shards i (List.mem_range.mp listed)]
  split <;> rfl

variable (lost) {bytes : Bytes}
  (length_eq : (pipe.encoder.encodedShards bytes).length = pipe.encoder.config.totalShards)
  (shards : ∀ i, i < pipe.encoder.config.totalShards →
    stored.backend.chunks.lookup (pipe.shardId chunk.metadata.id i) =
      (pipe.encoder.encodedShards bytes)[i]?)
include length_eq shards

theorem erases_fetchShards : Erases (pipe.encoder.encodedShards bytes)
    ((pipe.fetchShards (stored.lose lost).backend chunk.metadata.id).map
      (Option.map ShardData.data)) := by
  rw [fetchShards_lose shards, erases_iff_getElem]
  refine ⟨by simp [length_eq], fun i shard found => ?_⟩
  rw [List.getElem?_map, List.getElem?_map] at found
  by_cases small : i < pipe.encoder.config.totalShards
  · rw [List.getElem?_range small] at found
    by_cases gone : pipe.shardId chunk.metadata.id i ∈ lost
    · simp [gone] at found
    · have bound : i < (pipe.encoder.encodedShards bytes).length := by rwa [length_eq]
      simpa [gone, bound, ErasureEncoder.labelShard] using found
  · rw [List.getElem?_eq_none (by simpa using small)] at found
    cases found

theorem countP_fetchShards :
    (pipe.fetchShards (stored.lose lost).backend chunk.metadata.id).countP Option.isSome =
      pipe.left lost chunk.metadata.id := by
  rw [fetchShards_lose shards, List.countP_map, left]
  refine List.countP_congr fun i listed => ?_
  have bound : i < (pipe.encoder.encodedShards bytes).length := by
    rw [length_eq]
    exact List.mem_range.mp listed
  by_cases gone : pipe.shardId chunk.metadata.id i ∈ lost <;> simp [gone, bound]

end

section

variable {stored : StoredShards} {chunk : Chunk} {lost : List Bytes}
  (valid : pipe.encoder.Valid)
include valid

/-- A chunk is recovered if enough of its shards are left. -/
theorem recoverChunk_of_enough (lawful : pipe.aead.Lawful TAG_SIZE MAX_PLAINTEXT)
    (holds : pipe.Holds stored chunk) (short : chunk.data.length ≤ MAX_CHUNK_SIZE)
    (now : Time) (totalChunks index : Nat)
    (enough : pipe.encoder.config.dataShards ≤ pipe.left lost chunk.metadata.id) :
    pipe.recoverChunk now (stored.lose lost) totalChunks (chunk, index) =
      .ok (chunkOfBlock pipe.blake3 now totalChunks none (chunk.data, index)) := by
  obtain ⟨nonce, encrypted, made, size, shards⟩ := holds
  have nonempty := toBytes_ne_nil encrypted
  have length_eq := ErasureEncoder.length_encodedShards valid nonempty
  have size' : (stored.lose lost).sizes.lookup chunk.metadata.id =
      some encrypted.toBytes.length := size
  have decoded := ErasureEncoder.decode_erased valid nonempty
    (erases_fetchShards lost length_eq shards)
    (by rwa [countP_fetchShards lost length_eq shards])
  have decrypted := decryptFromBytes_of_encrypt lawful made
  simp only [recoverChunk, size', decoded, decrypted, Chunk.new, Nat.not_lt.mpr short, if_false]
  rfl

/-- A chunk is not recovered if too few of its shards are left. -/
theorem recoverChunk_of_short (holds : pipe.Holds stored chunk) (now : Time)
    (totalChunks index : Nat)
    (few : pipe.left lost chunk.metadata.id < pipe.encoder.config.dataShards) :
    pipe.recoverChunk now (stored.lose lost) totalChunks (chunk, index) =
      .error (.core (.insufficientShards (pipe.left lost chunk.metadata.id)
        pipe.encoder.config.dataShards)) := by
  obtain ⟨nonce, encrypted, made, size, shards⟩ := holds
  have nonempty := toBytes_ne_nil encrypted
  have length_eq := ErasureEncoder.length_encodedShards valid nonempty
  have size' : (stored.lose lost).sizes.lookup chunk.metadata.id =
      some encrypted.toBytes.length := size
  have counted := countP_fetchShards lost length_eq shards
  have total : (pipe.fetchShards (stored.lose lost).backend chunk.metadata.id).length =
      pipe.encoder.config.totalShards := by
    rw [fetchShards, List.length_map, List.length_range]
  have refused := ErasureEncoder.decode_insufficient pipe.encoder encrypted.toBytes.length total
    (by rwa [counted])
  rw [counted] at refused
  simp only [recoverChunk, size', refused]

end

/-- Recovered chunks are the chunks of the file, made later. -/
theorem map_chunkOfBlock_chunksOf (blake3 : Bytes → Bytes) (now later : Time) (data : Bytes)
    (chunkSize : Nat) (parentId : Option Uuid) :
    ((chunksOf blake3 now data chunkSize parentId).zipIdx.map fun placed =>
        chunkOfBlock blake3 later (chunksOf blake3 now data chunkSize parentId).length none
          (placed.1.data, placed.2)) =
      chunksOf blake3 later data chunkSize none := by
  refine List.ext_getElem (by simp) fun i bound bound' => ?_
  simp [getElem_chunksOf, chunkOfBlock]

theorem length_data_of_mem_chunksOf {blake3 : Bytes → Bytes} {now : Time} {data : Bytes}
    {chunkSize : Nat} {parentId : Option Uuid} {chunk : Chunk}
    (member : chunk ∈ chunksOf blake3 now data chunkSize parentId) :
    chunk.data.length ≤ MAX_CHUNK_SIZE := by
  obtain ⟨⟨block, index⟩, listed, rfl⟩ := List.mem_map.mp member
  have short : block.length ≤ clampChunkSize chunkSize :=
    length_of_mem_blocks_le (List.fst_mem_of_mem_zipIdx listed)
  exact Nat.le_trans short (clampChunkSize_le chunkSize)

/-- A file is split, encrypted, encoded and stored; if any shards get lost, it is recovered as long
as each of its chunks has enough of them left, and not otherwise. -/
theorem recoverFile_after_loss (pipe : Pipeline) (lawful : pipe.aead.Lawful TAG_SIZE MAX_PLAINTEXT)
    (valid : pipe.encoder.Valid) (now later : Time) (data : Bytes) (chunkSize : Nat)
    (parentId : Option Uuid) (few : divCeil data.length (clampChunkSize chunkSize) < 2 ^ 32)
    (distinguishes :
      pipe.Distinguishes (chunksOf pipe.blake3 now data chunkSize parentId)) :
    ∃ chunks stored, splitIntoChunks pipe.blake3 now data chunkSize parentId = .ok chunks ∧
      pipe.storeChunks .empty chunks = .ok stored ∧
      ∀ lost,
        ((∀ chunk ∈ chunks, pipe.encoder.config.dataShards ≤ pipe.left lost chunk.metadata.id) →
          pipe.recoverFile later (stored.lose lost) chunks = .ok data) ∧
        ∀ chunk ∈ chunks, pipe.left lost chunk.metadata.id < pipe.encoder.config.dataShards →
          ∃ cause, pipe.recoverFile later (stored.lose lost) chunks = .error cause := by
  have short : ∀ chunk ∈ chunksOf pipe.blake3 now data chunkSize parentId,
      chunk.data.length ≤ MAX_CHUNK_SIZE := fun _ => length_data_of_mem_chunksOf
  obtain ⟨stored, done, holds, -⟩ := storeChunks_spec lawful valid distinguishes
    (show StoredShards.empty.backend.maxCapacity = 0 from rfl) (fun _ => id) short
  refine ⟨chunksOf pipe.blake3 now data chunkSize parentId, stored,
    splitIntoChunks_eq pipe.blake3 now data chunkSize parentId, done, fun lost => ⟨?_, ?_⟩⟩
  · intro enough
    have recovered : ∀ placed ∈ (chunksOf pipe.blake3 now data chunkSize parentId).zipIdx,
        pipe.recoverChunk later (stored.lose lost)
            (chunksOf pipe.blake3 now data chunkSize parentId).length placed =
          .ok (chunkOfBlock pipe.blake3 later
            (chunksOf pipe.blake3 now data chunkSize parentId).length none
            (placed.1.data, placed.2)) := by
      rintro ⟨chunk, index⟩ listed
      have member := List.fst_mem_of_mem_zipIdx listed
      exact recoverChunk_of_enough valid lawful (holds chunk member) (short chunk member) later _
        index (enough chunk member)
    have small : (chunksOf pipe.blake3 later data chunkSize none).length < 2 ^ 32 := by
      rwa [length_chunksOf]
    have complete := complete_chunksOf pipe.blake3 later data chunkSize none
    have reassembled := complete.reassembleChunks_eq small (List.Perm.refl _)
    rw [flatMap_chunksOf] at reassembled
    rw [recoverFile, mapM_eq_ok recovered, map_chunkOfBlock_chunksOf]
    simp only [reassembled]
  · intro chunk member scarce
    obtain ⟨index, bound, rfl⟩ := List.getElem_of_mem member
    have listed : (_, index) ∈ (chunksOf pipe.blake3 now data chunkSize parentId).zipIdx :=
      List.mem_zipIdx_iff_getElem?.mpr (List.getElem?_eq_getElem bound)
    obtain ⟨first, failed⟩ := mapM_eq_error listed (recoverChunk_of_short valid
      (holds _ member) later (chunksOf pipe.blake3 now data chunkSize parentId).length index scarce)
    exact ⟨first, by rw [recoverFile, failed]⟩

/-! ## Ten bytes under the zero key -/

/-- The BLAKE3 digest of the ten bytes. -/
def tenDigest : Nat := 0x87fcf07cac5be3c91735b34e535c67286e4e7a63bf152d95f2cf4cd1a244758b

/-- The BLAKE3 digests of the ten bytes' digest and a shard's index, by index. -/
def shardDigests : List Nat :=
  [0x65d6f7ba8e052ea78e1932e2e9d4628a68dbb277c73695c8b5d3fc797083c955,
    0x856036366b57aea57cd9d28066dc5375991bdda27cea5ab6ff4359b22904c499,
    0xb4fa203fee40234aed7a4f3a7a50a3daaf965e07074a6882a5868694cfe8bcb9,
    0x0e954d7474b0aa7eee9eefa1057eb8d0289d11c3e894b6a07f8c03d2ea00b8a4,
    0x17ee0d130fdb10a1693357c0d16373e1e6e5b02fd0b79a9b5fcf5d9631a8983a,
    0xa18eb25dcc28fe52b1aa7d158c217896e63bed50b404f73e3199a96381bb35d1,
    0xfde13ebd07869d385fc64fbc0513446396e5fbfb6bbd9ae85613e0dc35d231bf,
    0xff1e69a6ff5b735a0f5ff2d8269a1e14e3f60b69fc69f04ead71118343ac8e08,
    0x40bcb942d8d3584cc4f8ca4a87e7df22f519d8a3457f0d4a575f50e9830ca90e,
    0x449a485a08ae96b3536affa7f55b2d536d8c56d0337098dc8e5da53fb0d5c3de,
    0xebb2beb3053c0d84ce284bbbc03cbf5bdbd4c30448c1baf3d44a0df56d7b2020,
    0x3701a22c63a4aacb0b425327f68c3c3c086ea38b0843b7e147c2c4b9a0686efa,
    0xf8eeb4796ff883a66bc51bd0b049b43e8380c36ac66d6b2788be87aa02e35aa6,
    0x3e822ca30cf25d34aa6f25ee4983466e92b3fcdfa676f8353e5cedb6721338f5]

/-- The 32 bytes of a digest, the most significant first. -/
def digestBytes (digest : Nat) : Bytes := (toLeBytes 32 digest).reverse

/-- BLAKE3 where the digest is known. -/
def knownHash (bytes : Bytes) : Bytes :=
  if bytes = tenBytes then
    digestBytes tenDigest
  else
    digestBytes (shardDigests.getD (fromLeBytes (bytes.drop 32)) 0)

/-- The pipeline with the default encoder. -/
noncomputable def tenPipeline : Pipeline where
  blake3 := knownHash
  aead := zeroKeyStream.aead
  encoder :=
    { config := .default
      encoder := GaloisCode.codec DATA_SHARDS PARITY_SHARDS }
  key := zeroKey
  nonces _ := zeroNonce

/-- The only chunk of the ten bytes. -/
def tenChunk : Chunk := chunkOfBlock knownHash 0 1 none (tenBytes, 0)

theorem chunksOf_tenBytes : chunksOf tenPipeline.blake3 0 tenBytes 0 none = [tenChunk] := by
  decide

theorem distinguishes_tenChunk : tenPipeline.Distinguishes [tenChunk] where
  contents := by simp
  shards := by
    have apart : ∀ i, i < 14 → ∀ j, j < 14 →
        tenPipeline.shardId tenChunk.metadata.id i = tenPipeline.shardId tenChunk.metadata.id j →
          i = j := by
      decide
    intro chunk member other member' i j small small' same
    rw [List.mem_singleton.mp member, List.mem_singleton.mp member'] at *
    exact ⟨rfl, apart i small j small' same⟩

/-- The ten bytes survive the loss of four shards but not that of five. -/
theorem recoverFile_tenBytes :
    ∃ stored, tenPipeline.storeChunks .empty [tenChunk] = .ok stored ∧
      tenPipeline.recoverFile 1
          (stored.lose ((List.range 4).map (tenPipeline.shardId tenChunk.metadata.id)))
          [tenChunk] = .ok tenBytes ∧
      ∃ cause, tenPipeline.recoverFile 1
          (stored.lose ((List.range 5).map (tenPipeline.shardId tenChunk.metadata.id)))
          [tenChunk] = .error cause := by
  have valid : tenPipeline.encoder.Valid :=
    ⟨by decide, GaloisCode.codec_isCode (by decide) (by decide)⟩
  obtain ⟨chunks, stored, split, done, recovered⟩ := recoverFile_after_loss tenPipeline
    (zeroKeyStream.lawful MAX_PLAINTEXT) valid 0 1 tenBytes 0 none (by decide)
    (by rw [chunksOf_tenBytes]; exact distinguishes_tenChunk)
  have only : chunks = [tenChunk] := by
    rw [splitIntoChunks_eq] at split
    rw [← Except.ok.inj split]
    exact chunksOf_tenBytes
  subst only
  refine ⟨stored, done, (recovered _).1 ?_, (recovered _).2 tenChunk List.mem_cons_self ?_⟩
  · intro chunk member
    rw [List.mem_singleton.mp member]
    decide
  · decide

end Pipeline

end CyxCloud.Storage
