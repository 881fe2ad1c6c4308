import CyxCloud.Gateway.Degraded
import CyxCloud.Gateway.StreamFraming

/-!
# The files in a stream

What a stream of batches sends for objects that were put.  The stream concatenates every shard that
it can retrieve, data and parity alike, and does not cut the padding, so it sends an object only if
just the data shards of every chunk can be retrieved and these are not padded.
-/

namespace CyxCloud.Gateway

open CyxCloud.Core hiding Chunk
open Library Metadata ErasureEncoder

/-! ## One file -/

/-- Whoever answers sends bytes that a node keeps under the identifier. -/
def Cluster.Serves (cluster : Cluster) (reads : ChunkReads) : Prop :=
  ∀ chunkId position address bytes, reads.reply chunkId position address = some bytes →
    ∃ shard ∈ cluster.kept, shard.chunkId = chunkId ∧ shard.data = bytes

/-- Indexes of the shards of a chunk that can be retrieved, in the order of its rows. -/
def retrievableShards (reads : ChunkReads) (db : Database) (fileId : Uuid) (chunkIndex : Nat) :
    List Nat :=
  ((db.getFileChunks fileId).filter fun row =>
    row.chunkIndex == chunkIndex && (streamedChunk reads db row).isSome).map Chunk.shardIndex

/-- The shards of a chunk that can be retrieved. -/
def retrievedPieces (encoder : ErasureEncoder) (reads : ChunkReads) (db : Database) (fileId : Uuid)
    (data : Bytes) (chunkIndex : Nat) : List Bytes :=
  (retrievableShards reads db fileId chunkIndex).map (shardOf encoder data chunkIndex)

/-- The shards of a chunk that can be retrieved are its data shards, and these are not padded. -/
def OnlyDataShards (encoder : ErasureEncoder) (reads : ChunkReads) (db : Database) (fileId : Uuid)
    (data : Bytes) (chunkIndex : Nat) : Prop :=
  let block := (chunkBlocks data).getD chunkIndex []
  DATA_SHARDS ∣ block.length ∧
    retrievedPieces encoder reads db fileId data chunkIndex =
      (encoder.encodedShards block).take DATA_SHARDS

section File

variable {ext : Externals} {encoder : ErasureEncoder} {cluster : Cluster} {reads : ChunkReads}
  {db : Database} {file : File} {data : Bytes}

/-- The shard that is sent for a row is the one the row registers. -/
theorem streamedChunk_eq (injective : Function.Injective ext.blake3)
    (addressed : ∀ shard ∈ cluster.kept, shard.chunkId = ext.blake3 shard.data)
    (serves : cluster.Serves reads) (describes : Describes ext encoder db file data)
    {row : Metadata.Chunk} (member : row ∈ db.getFileChunks file.id) {bytes : Bytes}
    (sent : streamedChunk reads db row = some bytes) :
    bytes = shardOf encoder data row.chunkIndex row.shardIndex := by
  obtain ⟨row_mem, same⟩ := Database.mem_getFileChunks.mp member
  have registered := (describes.registered row.shardKey (List.mem_map_of_mem row_mem) same).2.2
  obtain ⟨position, address, answer⟩ := getChunkFromAny_eq_some sent
  obtain ⟨shard, shard_mem, id_eq, rfl⟩ := serves _ _ _ _ answer
  apply injective
  rw [← addressed shard shard_mem, id_eq]
  exact registered

/-- A file is sent as the concatenation of its chunks' retrieved shards. -/
theorem assembleFile_eq (injective : Function.Injective ext.blake3)
    (addressed : ∀ shard ∈ cluster.kept, shard.chunkId = ext.blake3 shard.data)
    (serves : cluster.Serves reads) (describes : Describes ext encoder db file data) :
    assembleFile reads db file.id =
      ((List.range (chunkCountOf data)).map fun chunkIndex =>
        (retrievedPieces encoder reads db file.id data chunkIndex).flatten).flatten := by
  have bounded : ∀ row ∈ db.getFileChunks file.id, row.chunkIndex < chunkCountOf data := by
    intro row member
    obtain ⟨row_mem, same⟩ := Database.mem_getFileChunks.mp member
    exact (describes.registered row.shardKey (List.mem_map_of_mem row_mem) same).1
  have chunk_eq : ∀ chunkIndex,
      ((db.getFileChunks file.id).filter fun row => row.chunkIndex == chunkIndex).filterMap
        (streamedChunk reads db) = retrievedPieces encoder reads db file.id data chunkIndex := by
    intro chunkIndex
    have determined : ∀ row ∈ (db.getFileChunks file.id).filter (·.chunkIndex == chunkIndex),
        ∀ bytes, streamedChunk reads db row = some bytes →
          bytes = shardOf encoder data chunkIndex row.shardIndex := by
      intro row member bytes sent
      obtain ⟨row_mem, same⟩ := List.mem_filter.mp member
      rw [streamedChunk_eq injective addressed serves describes row_mem sent, beq_iff_eq.mp same]
    rw [filterMap_eq_map_filter determined, List.filter_filter, retrievedPieces, retrievableShards,
      List.map_map]
    simp only [Bool.and_comm]
    rfl
  rw [assembleFile, ← flatMap_range_filter (db.getFileChunks_sorted file.id) bounded,
    List.filterMap_flatMap]
  simp only [chunk_eq]
  rw [List.flatMap_def, List.flatten_flatten, List.map_map]
  rfl

/-- The retrieved shards of a chunk have its shard size. -/
theorem length_of_mem_retrievedPieces (gateway : GatewayEncoder encoder)
    (describes : Describes ext encoder db file data) {chunkIndex : Nat}
    (inside : chunkIndex < chunkCountOf data) :
    ∀ piece ∈ retrievedPieces encoder reads db file.id data chunkIndex,
      piece.length = divCeil ((chunkBlocks data).getD chunkIndex []).length DATA_SHARDS := by
  intro piece member
  obtain ⟨shardIndex, listed, rfl⟩ := List.mem_map.mp member
  obtain ⟨row, row_listed, rfl⟩ := List.mem_map.mp listed
  obtain ⟨row_mem, same⟩ := Database.mem_getFileChunks.mp (List.mem_of_mem_filter row_listed)
  have bound : row.shardIndex < TOTAL_SHARDS :=
    (describes.registered row.shardKey (List.mem_map_of_mem row_mem) same).2.1
  have shard_mem := List.mem_of_getElem? (getElem?_shards gateway inside bound)
  rw [length_of_mem_encodedShards gateway.valid (block_ne_nil inside) shard_mem,
    calculateShardSize, gateway.config_eq]
  rfl

/-- The data shards of a chunk without padding concatenate to it. -/
theorem flatten_dataShards (gateway : GatewayEncoder encoder) {block : Bytes} (block_ne : block ≠ [])
    (divides : DATA_SHARDS ∣ block.length) :
    ((encoder.encodedShards block).take DATA_SHARDS).flatten = block := by
  have pieces_eq : (encoder.encodedShards block).take DATA_SHARDS = encoder.dataPieces block := by
    rw [← take_encodedShards gateway.valid block_ne, gateway.config_eq]
    rfl
  have unpadded : (encoder.dataPieces block).flatten.length ≤ block.length := by
    obtain ⟨size, length_eq⟩ := divides
    have size_eq : encoder.calculateShardSize block.length = size := by
      rw [calculateShardSize, gateway.config_eq, length_eq, Nat.mul_comm]
      exact divCeil_mul_self (by decide)
    rw [length_flatten_of_uniform fun piece member =>
      length_of_mem_dataPieces gateway.valid block_ne member, length_dataPieces gateway.valid block_ne,
      size_eq, gateway.config_eq, length_eq]
    exact le_refl _
  rw [pieces_eq, ← List.take_of_length_le unpadded]
  exact flatten_dataPieces_take gateway.valid block_ne

/-- The retrieved shards of a chunk concatenate to it exactly if they are its data shards without
padding. -/
theorem flatten_retrievedPieces_iff (gateway : GatewayEncoder encoder)
    (describes : Describes ext encoder db file data) {chunkIndex : Nat}
    (inside : chunkIndex < chunkCountOf data)
    (enough : DATA_SHARDS ≤ (retrievableShards reads db file.id chunkIndex).length) :
    (retrievedPieces encoder reads db file.id data chunkIndex).flatten =
        (chunkBlocks data).getD chunkIndex [] ↔
      OnlyDataShards encoder reads db file.id data chunkIndex := by
  have block_ne := block_ne_nil inside
  have uniform : ∀ piece ∈ retrievedPieces encoder reads db file.id data chunkIndex,
      piece.length = divCeil ((chunkBlocks data).getD chunkIndex []).length DATA_SHARDS :=
    length_of_mem_retrievedPieces gateway describes inside
  rw [OnlyDataShards]
  generalize (chunkBlocks data).getD chunkIndex [] = block at block_ne uniform ⊢
  have size_positive : 0 < divCeil block.length DATA_SHARDS :=
    divCeil_positive (by decide) (List.length_pos_iff.mpr block_ne)
  constructor
  · intro same
    have lengths := congrArg List.length same
    rw [length_flatten_of_uniform uniform, retrievedPieces, List.length_map] at lengths
    have fits := le_divCeil_mul block.length (show 0 < DATA_SHARDS by decide)
    have covered := Nat.mul_le_mul_right (divCeil block.length DATA_SHARDS) enough
    rw [Nat.mul_comm DATA_SHARDS] at covered
    have length_eq : block.length = DATA_SHARDS * divCeil block.length DATA_SHARDS := by
      rw [Nat.mul_comm]
      omega
    have divides : DATA_SHARDS ∣ block.length := ⟨_, length_eq⟩
    refine ⟨divides, ?_⟩
    have data_uniform : ∀ piece ∈ (encoder.encodedShards block).take DATA_SHARDS,
        piece.length = divCeil block.length DATA_SHARDS := by
      intro piece member
      rw [length_of_mem_encodedShards gateway.valid block_ne (List.mem_of_mem_take member),
        calculateShardSize, gateway.config_eq]
      rfl
    rw [← blocks_flatten size_positive uniform, same,
      ← blocks_flatten size_positive data_uniform, flatten_dataShards gateway block_ne divides]
  · rintro ⟨divides, pieces_eq⟩
    rw [pieces_eq, flatten_dataShards gateway block_ne divides]

/-- With enough shards of every chunk, a file is sent as it was put exactly if only unpadded data
shards can be retrieved. -/
theorem assembleFile_eq_iff (injective : Function.Injective ext.blake3)
    (gateway : GatewayEncoder encoder)
    (addressed : ∀ shard ∈ cluster.kept, shard.chunkId = ext.blake3 shard.data)
    (serves : cluster.Serves reads) (describes : Describes ext encoder db file data)
    (enough : ∀ chunkIndex < chunkCountOf data,
      DATA_SHARDS ≤ (retrievableShards reads db file.id chunkIndex).length) :
    assembleFile reads db file.id = data ↔
      ∀ chunkIndex < chunkCountOf data, OnlyDataShards encoder reads db file.id data chunkIndex := by
  have longer : ∀ chunkIndex ∈ List.range (chunkCountOf data),
      ((chunkBlocks data).getD chunkIndex []).length ≤
        (retrievedPieces encoder reads db file.id data chunkIndex).flatten.length := by
    intro chunkIndex member
    have inside := List.mem_range.mp member
    rw [length_flatten_of_uniform (length_of_mem_retrievedPieces gateway describes inside),
      retrievedPieces, List.length_map]
    refine (le_divCeil_mul _ (show 0 < DATA_SHARDS by decide)).trans ?_
    rw [Nat.mul_comm]
    exact Nat.mul_le_mul_right _ (enough chunkIndex inside)
  have data_eq : data = ((List.range (chunkCountOf data)).map fun chunkIndex =>
      (chunkBlocks data).getD chunkIndex []).flatten := by
    rw [map_getD_chunkBlocks]
    exact (flatten_blocks chunkSize_positive data).symm
  rw [assembleFile_eq injective addressed serves describes]
  nth_rewrite 3 [data_eq]
  rw [flatten_map_eq_iff longer]
  constructor
  · intro pieces_eq chunkIndex inside
    exact (flatten_retrievedPieces_iff gateway describes inside (enough chunkIndex inside)).mp
      (pieces_eq chunkIndex (List.mem_range.mpr inside))
  · intro only chunkIndex member
    have inside := List.mem_range.mp member
    exact (flatten_retrievedPieces_iff gateway describes inside (enough chunkIndex inside)).mpr
      (only chunkIndex inside)

end File

/-! ## The whole stream -/

/-- The rows of a file and ten shards of each of its chunks can be retrieved. -/
structure Retrievable (reads : FileReads) (db : Database) (fileId : Uuid) (data : Bytes) : Prop where
  fileQuery : reads.fileQuery = true
  chunksQuery : reads.chunksQuery = true
  enough : ∀ chunkIndex < chunkCountOf data,
    DATA_SHARDS ≤ (retrievableShards reads.toChunkReads db fileId chunkIndex).length

/-- A live file was put with some contents. -/
def Original (ext : Externals) (db : Database) (fileId : Uuid) (data : Bytes) : Prop :=
  ∃ file, db.getFile fileId = some file ∧ file.contentHash = ext.blake3 data

/-- The stream sends the files of the dataset as they were put, each once. -/
def StreamsFiles (env : StreamBatchesEnv) (db : DatasetDatabase) (request : StreamBatchesRequest)
    (contents : Uuid → Bytes) (messages : List BatchResponse) : Prop :=
  let files := db.getDatasetFiles env.fileOrder request.datasetId
  (filesInOrder env request files).Perm files ∧
    messages.flatMap BatchResponse.items =
      (filesInOrder env request files).map fun file => contents file.fileId

theorem reduceOption_map_eq_iff {α β : Type} {found : α → Option β} {expected : α → β}
    {entries : List α} :
    (entries.map found).reduceOption = entries.map expected ↔
      ∀ entry ∈ entries, found entry = some (expected entry) := by
  constructor
  · intro same
    induction entries with
    | nil => exact fun entry member => absurd member List.not_mem_nil
    | cons entry rest induction =>
        rw [List.map_cons, List.map_cons] at same
        cases found_eq : found entry with
        | none =>
            rw [found_eq, List.reduceOption_cons_of_none] at same
            have shorter := List.reduceOption_length_le (rest.map found)
            rw [same, List.length_cons, List.length_map, List.length_map] at shorter
            omega
        | some item =>
            rw [found_eq, List.reduceOption_cons_of_some, List.cons.injEq] at same
            intro other member
            rcases List.mem_cons.mp member with rfl | later
            · rw [found_eq, same.1]
            · exact induction same.2 other later
  · intro found_eq
    rw [List.map_congr_left found_eq]
    simp [List.reduceOption]

theorem flatMap_items_batchMessages {blake3 : Bytes → Bytes} {totalBatches : Nat} (closes : Bool)
    (number : Nat) (batches : List (List Bytes)) :
    (batchMessages blake3 totalBatches closes number batches).flatMap BatchResponse.items =
      batches.flatten := by
  induction batches generalizing number with
  | nil => rfl
  | cons items rest induction =>
      rw [batchMessages, List.flatMap_cons, induction, List.flatten_cons]
      rfl

/-- A connected client gets the retrieved files. -/
theorem flatMap_items {blake3 : Bytes → Bytes} {env : StreamBatchesEnv} {db : DatasetDatabase}
    {request : StreamBatchesRequest} {messages : List BatchResponse}
    (connected : ∀ number, env.accepts number = true)
    (ok : streamBatches blake3 env db request = .ok messages) :
    messages.flatMap BatchResponse.items =
      (retrievedFiles env request db.toDatabase
        (db.getDatasetFiles env.fileOrder request.datasetId)).reduceOption := by
  obtain ⟨files_ne, messages_eq⟩ := streamBatches_ok ok
  have first_hashed : CurrentBatch.first.Hashed blake3 := rfl
  rw [messages_eq, sendBatches_eq connected request.size_positive first_hashed
    request.size_positive (retrievedFiles_ne_nil files_ne), flatMap_items_batchMessages,
    flatten_blocks request.size_positive]
  rfl

section Stream

variable {ext : Externals} {encoder : ErasureEncoder} {cluster : Cluster} {db : Database}

/-- What is sent for a file is the file exactly if it is not empty and only unpadded data shards can
be retrieved. -/
theorem streamedFile_eq_iff (lawful : ext.Lawful)
    (built : ErasureEncoder.new ext.reedSolomon = .ok encoder) (reachable : Reachable ext cluster)
    (files_eq : db.files = cluster.db.files) (chunks_eq : db.chunks = cluster.db.chunks)
    {reads : FileReads} (serves : cluster.Serves reads.toChunkReads) {fileId : Uuid} {data : Bytes}
    (original : Original ext db fileId data) (retrievable : Retrievable reads db fileId data) :
    streamedFile reads db fileId = some data ↔
      data ≠ [] ∧ ∀ chunkIndex < chunkCountOf data,
        OnlyDataShards encoder reads.toChunkReads db fileId data chunkIndex := by
  have gateway := gatewayEncoder_of_new lawful built
  have wellformed := reachable.wellformed built gateway
  obtain ⟨file, found, hash_eq⟩ := original
  have found_id : file.id = fileId := by
    have test := List.find?_some found
    simp only [Bool.and_eq_true, beq_iff_eq] at test
    exact test.1
  subst found_id
  have file_mem : file ∈ cluster.db.files := files_eq ▸ List.mem_of_find?_eq_some found
  obtain ⟨put, describes⟩ := wellformed.described file file_mem
  obtain rfl : put = data :=
    lawful.blake3_injective (describes.contentHash_eq.symm.trans hash_eq)
  have keys_eq : db.shardKeys = cluster.db.shardKeys := by
    rw [Database.shardKeys, chunks_eq]
    rfl
  have describes' := describes_of_fields describes keys_eq rfl rfl rfl rfl rfl
  rw [← assembleFile_eq_iff lawful.blake3_injective gateway wellformed.content_addressed serves
    describes' retrievable.enough, streamedFile, retrievable.fileQuery, retrievable.chunksQuery,
    found]
  simp only [Option.isSome_some, Bool.and_self, if_true, List.isEmpty_iff]
  constructor
  · intro sent
    split at sent
    · cases sent
    · rename_i assembled_ne
      have assembled_eq := Option.some.inj sent
      exact ⟨assembled_eq ▸ assembled_ne, assembled_eq⟩
  · rintro ⟨data_ne, assembled_eq⟩
    rw [assembled_eq, if_neg data_ne]

end Stream

/-- As long as ten shards of every chunk can be retrieved, a stream of objects sends them as they
were put exactly if none is empty and only unpadded data shards can be retrieved. -/
theorem streams_files_iff {ext : Externals} (lawful : ext.Lawful) {encoder : ErasureEncoder}
    (built : ErasureEncoder.new ext.reedSolomon = .ok encoder) {cluster : Cluster}
    (reachable : Reachable ext cluster) {env : StreamBatchesEnv} {db : DatasetDatabase}
    {request : StreamBatchesRequest} {messages : List BatchResponse} {contents : Uuid → Bytes}
    (files_eq : db.files = cluster.db.files) (chunks_eq : db.chunks = cluster.db.chunks)
    (connected : ∀ number, env.accepts number = true)
    (serves : ∀ position, cluster.Serves (env.reads position).toChunkReads)
    (ok : streamBatches ext.blake3 env db request = .ok messages)
    (originals : ∀ file ∈ db.getDatasetFiles env.fileOrder request.datasetId,
      Original ext db.toDatabase file.fileId (contents file.fileId))
    (retrievable : ∀ entry ∈ (filesInOrder env request
      (db.getDatasetFiles env.fileOrder request.datasetId)).zipIdx,
        Retrievable (env.reads entry.2) db.toDatabase entry.1.fileId (contents entry.1.fileId)) :
    StreamsFiles env db request contents messages ↔
      ∀ entry ∈ (filesInOrder env request
        (db.getDatasetFiles env.fileOrder request.datasetId)).zipIdx,
          contents entry.1.fileId ≠ [] ∧
            ∀ chunkIndex < chunkCountOf (contents entry.1.fileId),
              OnlyDataShards encoder (env.reads entry.2).toChunkReads db.toDatabase entry.1.fileId
                (contents entry.1.fileId) chunkIndex := by
  have each_once : (filesInOrder env request
      (db.getDatasetFiles env.fileOrder request.datasetId)).Perm
        (db.getDatasetFiles env.fileOrder request.datasetId) :=
    inOrder_perm request.shuffle (env.shuffled request.seed) _
  have contents_eq : ∀ files : List DatasetFile, files.map (fun file => contents file.fileId) =
      files.zipIdx.map fun entry => contents entry.1.fileId := by
    intro files
    rw [show (fun entry : DatasetFile × Nat => contents entry.1.fileId) =
      (fun file => contents file.fileId) ∘ Prod.fst from rfl, ← List.map_map, List.zipIdx_map_fst]
  rw [StreamsFiles, and_iff_right each_once, flatMap_items connected ok, contents_eq, retrievedFiles,
    reduceOption_map_eq_iff]
  refine forall₂_congr fun entry member => ?_
  have file_mem : entry.1 ∈ db.getDatasetFiles env.fileOrder request.datasetId :=
    each_once.mem_iff.mp (List.fst_mem_of_mem_zipIdx member)
  exact streamedFile_eq_iff lawful built reachable files_eq chunks_eq (serves entry.2)
    (originals entry.1 file_mem) (retrievable entry member)

namespace Reference

/-- The database answers, and every node sends the shard that it keeps. -/
noncomputable def healthyReads (cluster : Cluster) : FileReads :=
  { cached := fun _ => none
    locationsQuery := fun _ => true
    addressOrder := .insertion
    reply := fun chunkId _ address => cluster.chunkAt address chunkId
    fileQuery := true
    chunksQuery := true }

theorem streamedChunk_of_holds {cluster : Cluster} {row : Metadata.Chunk}
    (holds : cluster.Holds row.chunkId) :
    (streamedChunk (healthyReads cluster).toChunkReads cluster.db row).isSome = true := by
  obtain ⟨node, node_mem, online, ⟨location, location_mem, chunk_eq, node_eq, stored⟩, keeps⟩ := holds
  have listed : node.grpcAddress ∈ cluster.db.getChunkNodeAddresses .insertion row.chunkId := by
    refine (RowOrder.mem_arrange _).mpr (List.mem_flatMap.mpr ⟨location, ?_, ?_⟩)
    · simp [location_mem, chunk_eq, stored]
    · exact List.mem_map_of_mem (List.mem_filter.mpr ⟨node_mem, by simp [node_eq, online]⟩)
  obtain ⟨position, found⟩ := List.mem_iff_getElem?.mp listed
  exact getChunkFromAny_isSome_iff.mpr
    ⟨position, node.grpcAddress, found, chunkAt_isSome_iff.mpr keeps⟩

/-- All shards of a fully stored object can be retrieved. -/
theorem retrievableShards_fullyStored {ext : Externals} {encoder : ErasureEncoder}
    {cluster : Cluster} {fileId : Uuid} {data : Bytes}
    (stored : FullyStored ext encoder cluster fileId data) {chunkIndex : Nat}
    (inside : chunkIndex < chunkCountOf data) :
    TOTAL_SHARDS ≤
      (retrievableShards (healthyReads cluster).toChunkReads cluster.db fileId chunkIndex).length := by
  have included : List.range TOTAL_SHARDS ⊆
      retrievableShards (healthyReads cluster).toChunkReads cluster.db fileId chunkIndex := by
    intro shardIndex bound
    have slot_mem : (chunkIndex, shardIndex) ∈ slotsOf (chunkCountOf data) :=
      mem_slotsOf.mpr ⟨inside, List.mem_range.mp bound⟩
    obtain ⟨registered, holds⟩ := stored _ slot_mem
    obtain ⟨row, row_mem, key_eq⟩ := List.mem_map.mp registered
    obtain ⟨id_eq, file_eq, chunk_eq, shard_eq⟩ := ShardKey.mk.inj key_eq
    rw [← id_eq] at holds
    refine List.mem_map.mpr ⟨row, List.mem_filter.mpr ⟨?_, ?_⟩, shard_eq⟩
    · exact Database.mem_getFileChunks.mpr ⟨row_mem, file_eq⟩
    · rw [streamedChunk_of_holds holds, Bool.and_true, beq_iff_eq]
      exact chunk_eq
  have shorter := (List.subperm_of_subset List.nodup_range included).length_le
  rwa [List.length_range] at shorter

/-- A dataset with the ten digits as its only file. -/
noncomputable def digitsDataset : DatasetDatabase :=
  { digitsStored.db with
    datasets := [{ id := 9, trustLevel := 0 }]
    datasetFiles := [{ datasetId := 9, fileId := 1, fileIndex := 0 }] }

/-- Everything answers. -/
noncomputable def digitsStream : StreamBatchesEnv :=
  { datasetQuery := true
    filesQuery := true
    fileOrder := .insertion
    shuffled := fun _ => .insertion
    reads := fun _ => healthyReads digitsStored
    accepts := fun _ => true }

/-- The messages of the stream. -/
noncomputable def digitsMessages : List BatchResponse :=
  sendBatches hash digitsStream.accepts 1 1 .first
    (retrievedFiles digitsStream TwoFiles.request digitsDataset.toDatabase
      digitsDataset.datasetFiles)

theorem digitsDataset_files : digitsDataset.getDatasetFiles digitsStream.fileOrder
    TwoFiles.request.datasetId = digitsDataset.datasetFiles :=
  List.mergeSort_singleton _

theorem digitsStream_ok :
    streamBatches externals.blake3 digitsStream digitsDataset TwoFiles.request =
      .ok digitsMessages := by
  have found : digitsDataset.getDataset TwoFiles.request.datasetId =
      some { id := 9, trustLevel := 0 } := rfl
  have trusted : ¬ TwoFiles.request.maxTrust < 0 := by decide
  have queries : digitsStream.datasetQuery = true ∧ digitsStream.filesQuery = true := ⟨rfl, rfl⟩
  simp only [streamBatches, queries, found, trusted, digitsDataset_files, if_false,
    Bool.true_eq_false]
  rfl

theorem digitsStream_original (file : DatasetFile) (member : file ∈ digitsDataset.datasetFiles) :
    Original externals digitsDataset.toDatabase file.fileId tenDigits := by
  obtain rfl := List.mem_singleton.mp member
  obtain ⟨nodes, -, stored, -, -⟩ :=
    putObject_ok encoder_built encoder_gateway (first_put_ok 1 tenDigits)
  refine ⟨fileRow externals (calmEnv 1) 7 "photos" "cat" tenDigits "image/png", ?_, rfl⟩
  have files_eq : digitsDataset.files =
      [fileRow externals (calmEnv 1) 7 "photos" "cat" tenDigits "image/png"] :=
    stored.grows.files_eq
  rw [Database.getFile, files_eq]
  rfl

theorem digitsStream_serves (position : Nat) :
    digitsStored.Serves (digitsStream.reads position).toChunkReads :=
  fun _ _ _ _ answered => chunkAt_eq_some answered

theorem digitsStream_retrievable {entry : DatasetFile × Nat}
    (member : entry ∈ (filesInOrder digitsStream TwoFiles.request
      digitsDataset.datasetFiles).zipIdx) :
    Retrievable (digitsStream.reads entry.2) digitsDataset.toDatabase entry.1.fileId tenDigits := by
  obtain rfl := List.mem_singleton.mp member
  exact ⟨rfl, rfl, fun chunkIndex inside => (show DATA_SHARDS ≤ TOTAL_SHARDS by decide).trans
    (retrievableShards_fullyStored digitsStored_fully inside)⟩

/-- The parity shards of the ten digits are sent along. -/
theorem not_onlyDataShards_digits :
    ¬ OnlyDataShards encoder (digitsStream.reads 0).toChunkReads digitsDataset.toDatabase 1 tenDigits
      0 := by
  rintro ⟨-, pieces_eq⟩
  have inside : 0 < chunkCountOf tenDigits := by
    rw [chunkCountOf_tenDigits]
    decide
  have all_retrieved := retrievableShards_fullyStored digitsStored_fully inside
  have lengths := congrArg List.length pieces_eq
  rw [retrievedPieces, List.length_map, List.length_take] at lengths
  have shards_le : TOTAL_SHARDS ≤ DATA_SHARDS := calc
    TOTAL_SHARDS ≤ _ := all_retrieved
    _ = _ := lengths
    _ ≤ DATA_SHARDS := Nat.min_le_left _ _
  exact absurd shards_le (by decide)

theorem digitsStored_reachable : Reachable externals digitsStored :=
  ⟨emptyCluster, [.put (calmEnv 1) 7 "photos" "cat" tenDigits "image/png"], ⟨rfl, rfl, rfl, rfl⟩, rfl⟩

/-- The stream of the ten digits does not send them as they were put. -/
theorem digits_streamed_with_parity :
    streamBatches externals.blake3 digitsStream digitsDataset TwoFiles.request =
        .ok digitsMessages ∧
      ¬ StreamsFiles digitsStream digitsDataset TwoFiles.request (fun _ => tenDigits)
        digitsMessages := by
  have streams : StreamsFiles digitsStream digitsDataset TwoFiles.request (fun _ => tenDigits)
      digitsMessages ↔ _ :=
    streams_files_iff externals_lawful encoder_built digitsStored_reachable rfl rfl (fun _ => rfl)
      digitsStream_serves digitsStream_ok (by rw [digitsDataset_files]; exact digitsStream_original)
      (by rw [digitsDataset_files]; exact fun entry member => digitsStream_retrievable member)
  rw [digitsDataset_files] at streams
  refine ⟨digitsStream_ok, fun all => not_onlyDataShards_digits ?_⟩
  refine (streams.mp all (_, 0) List.mem_cons_self).2 0 ?_
  rw [chunkCountOf_tenDigits]
  decide

/-- Streams do not send every file as it was put, even if all shards can be retrieved. -/
theorem streams_files_fails :
    ¬ ∀ (ext : Externals), ext.Lawful → ∀ (cluster : Cluster), Reachable ext cluster →
      ∀ (env : StreamBatchesEnv) (db : DatasetDatabase) (request : StreamBatchesRequest)
        (messages : List BatchResponse) (contents : Uuid → Bytes),
        db.files = cluster.db.files → db.chunks = cluster.db.chunks →
          (∀ number, env.accepts number = true) →
          (∀ position, cluster.Serves (env.reads position).toChunkReads) →
          streamBatches ext.blake3 env db request = .ok messages →
          (∀ file ∈ db.getDatasetFiles env.fileOrder request.datasetId,
            Original ext db.toDatabase file.fileId (contents file.fileId)) →
          (∀ entry ∈ (filesInOrder env request
            (db.getDatasetFiles env.fileOrder request.datasetId)).zipIdx,
              Retrievable (env.reads entry.2) db.toDatabase entry.1.fileId
                (contents entry.1.fileId)) →
          StreamsFiles env db request contents messages := by
  intro streams
  have sent := (streams externals externals_lawful digitsStored digitsStored_reachable digitsStream
    digitsDataset TwoFiles.request digitsMessages (fun _ => tenDigits) rfl rfl (fun _ => rfl)
    digitsStream_serves digitsStream_ok
    (by rw [digitsDataset_files]; exact digitsStream_original)
    (by rw [digitsDataset_files]; exact fun entry member => digitsStream_retrievable member)).2
  rw [flatMap_items (fun _ => rfl) digitsStream_ok, digitsDataset_files] at sent
  have all_sent : ∀ entry ∈ (filesInOrder digitsStream TwoFiles.request
      digitsDataset.datasetFiles).zipIdx, streamedFile (digitsStream.reads entry.2)
        digitsDataset.toDatabase entry.1.fileId = some tenDigits :=
    reduceOption_map_eq_iff.mp sent
  have entry_mem : (⟨9, 1, 0⟩, 0) ∈ (filesInOrder digitsStream TwoFiles.request
      digitsDataset.datasetFiles).zipIdx := List.mem_cons_self
  have file_sent := all_sent _ entry_mem
  have only := (streamedFile_eq_iff externals_lawful encoder_built digitsStored_reachable rfl rfl
    (digitsStream_serves 0) (digitsStream_original _ List.mem_cons_self)
    (digitsStream_retrievable entry_mem)).mp file_sent
  refine not_onlyDataShards_digits (only.2 0 ?_)
  rw [chunkCountOf_tenDigits]
  decide

end Reference

end CyxCloud.Gateway
