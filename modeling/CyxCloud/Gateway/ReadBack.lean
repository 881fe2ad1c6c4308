import CyxCloud.Core.ErasureRoundTrip
import CyxCloud.Gateway.Get

/-!
# Reading back what was encoded

The shards of an object, and what the read path makes of answers that agree with them: it returns
the object when ten shards of every chunk answer, and fails when a chunk has fewer.
-/

namespace CyxCloud.Gateway

open CyxCloud.Core hiding Chunk
open Library Metadata ErasureEncoder

/-! ## The shards of an object -/

/-- The chunks of an object. -/
def chunkBlocks (data : Bytes) : List Bytes := blocks DEFAULT_CHUNK_SIZE data

/-- Number of chunks of an object. -/
def chunkCountOf (data : Bytes) : Nat := divCeil data.length DEFAULT_CHUNK_SIZE

/-- Contents of a shard of a chunk. -/
def shardOf (encoder : ErasureEncoder) (data : Bytes) (chunkIndex shardIndex : Nat) : Bytes :=
  (encoder.encodedShards ((chunkBlocks data).getD chunkIndex [])).getD shardIndex []

/-- The file has the size and the chunks of an object. -/
structure Shapes (file : File) (data : Bytes) : Prop where
  sizeBytes_eq : file.sizeBytes = data.length
  chunkCount_eq : file.chunkCount = chunkCountOf data
  chunkSize_eq : file.chunkSize = DEFAULT_CHUNK_SIZE

/-- The gateway's encoder: valid, with the default configuration. -/
structure GatewayEncoder (encoder : ErasureEncoder) : Prop where
  valid : encoder.Valid
  config_eq : encoder.config = .default

theorem chunkSize_positive : 0 < DEFAULT_CHUNK_SIZE := by decide

theorem clampChunkSize_default : clampChunkSize DEFAULT_CHUNK_SIZE = DEFAULT_CHUNK_SIZE := by
  decide

theorem new_gatewayEncoder {crate : ReedSolomonCrate} (lawful : crate.Lawful) :
    ∃ encoder, ErasureEncoder.new crate = .ok encoder ∧ GatewayEncoder encoder := by
  obtain ⟨encoder, built, valid, config_eq⟩ :=
    withConfig_valid lawful (show 1 ≤ ErasureConfig.default.dataShards by decide) (by decide)
      (by decide)
  exact ⟨encoder, built, valid, config_eq⟩

theorem gatewayEncoder_of_new {ext : Externals} {encoder : ErasureEncoder} (lawful : ext.Lawful)
    (built : ErasureEncoder.new ext.reedSolomon = .ok encoder) : GatewayEncoder encoder := by
  obtain ⟨other, other_built, gateway⟩ := new_gatewayEncoder lawful.reedSolomon_lawful
  obtain rfl : other = encoder := by
    have same := other_built.symm.trans built
    injection same
  exact gateway

theorem length_chunkBlocks (data : Bytes) : (chunkBlocks data).length = chunkCountOf data :=
  length_blocks _ _

theorem map_getD_chunkBlocks (data : Bytes) :
    (List.range (chunkCountOf data)).map (fun chunkIndex => (chunkBlocks data).getD chunkIndex []) =
      chunkBlocks data :=
  map_getD_range (length_chunkBlocks data) []

section Layout

variable {data : Bytes} {chunkIndex : Nat}

theorem getD_chunkBlocks (inside : chunkIndex < chunkCountOf data) :
    (chunkBlocks data).getD chunkIndex [] =
      (data.drop (chunkIndex * DEFAULT_CHUNK_SIZE)).take DEFAULT_CHUNK_SIZE := by
  have bound : chunkIndex < (blocks DEFAULT_CHUNK_SIZE data).length := by
    rwa [length_blocks]
  rw [chunkBlocks, List.getD_eq_getElem _ _ bound, getElem_blocks]

/-- An object of at most one chunk size is one chunk. -/
theorem chunkCountOf_eq_one (data_ne : data ≠ []) (small : data.length ≤ DEFAULT_CHUNK_SIZE) :
    chunkCountOf data = 1 := by
  have positive := List.length_pos_iff.mpr data_ne
  rw [chunkCountOf, divCeil_eq_add_one chunkSize_positive positive, Nat.div_eq_of_lt (by omega)]

theorem getD_chunkBlocks_zero (data_ne : data ≠ []) (small : data.length ≤ DEFAULT_CHUNK_SIZE) :
    (chunkBlocks data).getD 0 [] = data := by
  have inside : 0 < chunkCountOf data := by
    rw [chunkCountOf_eq_one data_ne small]
    exact Nat.one_pos
  rw [getD_chunkBlocks inside, Nat.zero_mul, List.drop_zero, List.take_of_length_le small]

theorem block_ne_nil (inside : chunkIndex < chunkCountOf data) :
    (chunkBlocks data).getD chunkIndex [] ≠ [] := by
  rw [getD_chunkBlocks inside]
  exact List.ne_nil_of_length_pos (length_block_positive chunkSize_positive inside)

/-- The read path computes the length of every chunk from the file. -/
theorem originalChunkSize_eq {file : File} (shapes : Shapes file data) (data_ne : data ≠ [])
    (inside : chunkIndex < chunkCountOf data) :
    originalChunkSize file chunkIndex = ((chunkBlocks data).getD chunkIndex []).length := by
  rw [getD_chunkBlocks inside, originalChunkSize, shapes.chunkCount_eq, shapes.sizeBytes_eq,
    shapes.chunkSize_eq]
  split_ifs with last
  · have chunkIndex_eq : chunkIndex = divCeil data.length DEFAULT_CHUNK_SIZE - 1 := by
      unfold chunkCountOf at last
      omega
    rw [chunkIndex_eq, length_block_last chunkSize_positive data_ne, chunkCountOf]
  · have earlier : chunkIndex + 1 < divCeil data.length DEFAULT_CHUNK_SIZE := by
      unfold chunkCountOf at last inside
      omega
    rw [length_block_of_succ_lt chunkSize_positive earlier]

theorem length_shards {encoder : ErasureEncoder} (gateway : GatewayEncoder encoder)
    (inside : chunkIndex < chunkCountOf data) :
    (encoder.encodedShards ((chunkBlocks data).getD chunkIndex [])).length = TOTAL_SHARDS := by
  rw [length_encodedShards gateway.valid (block_ne_nil inside), gateway.config_eq]
  rfl

theorem getElem?_shards {encoder : ErasureEncoder} (gateway : GatewayEncoder encoder)
    (inside : chunkIndex < chunkCountOf data) {shardIndex : Nat} (bound : shardIndex < TOTAL_SHARDS) :
    (encoder.encodedShards ((chunkBlocks data).getD chunkIndex []))[shardIndex]? =
      some (shardOf encoder data chunkIndex shardIndex) := by
  rw [← length_shards gateway inside] at bound
  rw [shardOf, List.getD_eq_getElem _ _ bound, List.getElem?_eq_getElem bound]

end Layout

/-! ## Gathering the shards of a chunk -/

section Gather

variable {env : ReadEnv} {db : Database} {shards : List Bytes}

/-- The slots agree with the shards, and the counter with the slots. -/
structure Gathered.Sound (gathered : Gathered) (shards : List Bytes) : Prop where
  erases : Erases shards (gathered.slots.map (Option.map ShardData.data))
  count_eq : gathered.slots.countP Option.isSome = gathered.retrievedCount

theorem start_sound (length_eq : shards.length = TOTAL_SHARDS) : Gathered.start.Sound shards := by
  refine ⟨erases_iff_getElem.mpr ⟨by simp [Gathered.start, length_eq], ?_⟩, by decide⟩
  intro i entry present
  rw [Gathered.start, List.map_replicate, List.getElem?_replicate] at present
  split_ifs at present
  cases present

/-- One row fills its slot, unless there are enough shards or nobody answers. -/
theorem gatherShard_sound {gathered : Gathered} (sound : gathered.Sound shards)
    {row : Metadata.Chunk} (inside : row.shardIndex < TOTAL_SHARDS)
    (empty : gathered.slots[row.shardIndex]? = some none)
    (faithful : ∀ bytes, fetchShard env db row = some bytes → shards[row.shardIndex]? = some bytes) :
    (gatherShard env db gathered row).Sound shards ∧
      (gatherShard env db gathered row).retrievedCount =
        gathered.retrievedCount +
          (if gathered.retrievedCount < DATA_SHARDS ∧ (fetchShard env db row).isSome then 1 else 0) ∧
      ∀ other, other ≠ row.shardIndex →
        (gatherShard env db gathered row).slots[other]? = gathered.slots[other]? := by
  by_cases enough : gathered.retrievedCount ≥ DATA_SHARDS
  · rw [gatherShard, if_pos enough, if_neg (fun both => Nat.not_lt.mpr enough both.1)]
    exact ⟨sound, rfl, fun _ _ => rfl⟩
  · rw [gatherShard, if_neg enough, if_neg (Nat.not_le.mpr inside)]
    cases fetched : fetchShard env db row with
    | none => exact ⟨sound, by simp, fun _ _ => rfl⟩
    | some data =>
        refine ⟨⟨?_, ?_⟩, ?_, fun other apart => ?_⟩
        · rw [List.map_set]
          exact sound.erases.set (faithful data fetched)
        · rw [countP_isSome_set empty, sound.count_eq]
        · rw [if_pos ⟨Nat.lt_of_not_ge enough, rfl⟩]
        · rw [List.getElem?_set_ne (Ne.symm apart)]

/-- Rows of different shards fill their slots until ten shards are there. -/
theorem foldl_gatherShard {rows : List Metadata.Chunk} {gathered : Gathered}
    (sound : gathered.Sound shards) (bounded : gathered.retrievedCount ≤ DATA_SHARDS)
    (distinct : (rows.map Chunk.shardIndex).Nodup)
    (inside : ∀ row ∈ rows, row.shardIndex < TOTAL_SHARDS)
    (empty : ∀ row ∈ rows, gathered.slots[row.shardIndex]? = some none)
    (faithful : ∀ row ∈ rows, ∀ bytes, fetchShard env db row = some bytes →
      shards[row.shardIndex]? = some bytes) :
    (rows.foldl (gatherShard env db) gathered).Sound shards ∧
      (rows.foldl (gatherShard env db) gathered).retrievedCount =
        min DATA_SHARDS
          (gathered.retrievedCount + rows.countP fun row => (fetchShard env db row).isSome) := by
  induction rows generalizing gathered with
  | nil => exact ⟨sound, by simp [Nat.min_eq_right bounded]⟩
  | cons row rows induction =>
      obtain ⟨next_sound, next_count, next_slots⟩ :=
        gatherShard_sound sound (inside row List.mem_cons_self) (empty row List.mem_cons_self)
          (faithful row List.mem_cons_self)
      obtain ⟨fresh, later_distinct⟩ := List.nodup_cons.mp (List.map_cons ▸ distinct)
      rw [List.foldl_cons, List.countP_cons]
      have next_bounded : (gatherShard env db gathered row).retrievedCount ≤ DATA_SHARDS := by
        rw [next_count]
        split_ifs <;> omega
      obtain ⟨final_sound, final_count⟩ := induction next_sound next_bounded later_distinct
        (fun later member => inside later (List.mem_cons_of_mem _ member))
        (fun later member => by
          rw [next_slots]
          · exact empty later (List.mem_cons_of_mem _ member)
          · intro same
            exact fresh (same ▸ List.mem_map_of_mem member))
        (fun later member => faithful later (List.mem_cons_of_mem _ member))
      refine ⟨final_sound, ?_⟩
      rw [final_count, next_count]
      cases (fetchShard env db row).isSome with
      | false => simp
      | true =>
          by_cases room : gathered.retrievedCount < DATA_SHARDS
          · simp only [room, and_self, if_true]
            omega
          · simp only [room, false_and, if_false, if_true]
            omega

/-- Whatever the rows and answers are, the counter counts answers. -/
theorem foldl_gatherShard_count_le (env : ReadEnv) (db : Database) (rows : List Metadata.Chunk)
    (gathered : Gathered) :
    (rows.foldl (gatherShard env db) gathered).retrievedCount ≤
      gathered.retrievedCount + rows.countP fun row => (fetchShard env db row).isSome := by
  induction rows generalizing gathered with
  | nil => exact Nat.le_add_right _ _
  | cons row rows induction =>
      have step : (gatherShard env db gathered row).retrievedCount ≤
          gathered.retrievedCount + if (fetchShard env db row).isSome then 1 else 0 := by
        rw [gatherShard]
        by_cases enough : gathered.retrievedCount ≥ DATA_SHARDS
        · rw [if_pos enough]
          exact Nat.le_add_right _ _
        · by_cases outside : row.shardIndex ≥ TOTAL_SHARDS
          · rw [if_neg enough, if_pos outside]
            exact Nat.le_add_right _ _
          · rw [if_neg enough, if_neg outside]
            cases fetchShard env db row with
            | none => exact Nat.le_add_right _ _
            | some data => exact Nat.le_refl _
      rw [List.foldl_cons, List.countP_cons]
      have rest := induction (gatherShard env db gathered row)
      omega

end Gather

/-! ## Decoding -/

section Decode

variable {env : ReadEnv} {db : Database} {encoder : ErasureEncoder} {file : File} {data : Bytes}

/-- The rows of a file are rows of different shards of an object, and whoever answers for one
sends that shard. -/
structure Faithful (env : ReadEnv) (db : Database) (encoder : ErasureEncoder) (file : File)
    (data : Bytes) : Prop where
  chunkIndex_lt : ∀ row ∈ db.getFileChunks file.id, row.chunkIndex < chunkCountOf data
  shardIndex_lt : ∀ row ∈ db.getFileChunks file.id, row.shardIndex < TOTAL_SHARDS
  distinct : ((db.getFileChunks file.id).map fun row => (row.chunkIndex, row.shardIndex)).Nodup
  answers : ∀ row ∈ db.getFileChunks file.id, ∀ bytes, fetchShard env db row = some bytes →
    bytes = shardOf encoder data row.chunkIndex row.shardIndex

/-- Number of shards of a chunk that somebody answers for. -/
def answeredShards (env : ReadEnv) (db : Database) (fileId : Uuid) (chunkIndex : Nat) : Nat :=
  (db.getFileChunks fileId).countP fun row =>
    row.chunkIndex == chunkIndex && (fetchShard env db row).isSome

theorem answeredShards_eq_filter (fileId : Uuid) (chunkIndex : Nat) :
    answeredShards env db fileId chunkIndex =
      ((db.getFileChunks fileId).filter fun row => row.chunkIndex == chunkIndex).countP
        fun row => (fetchShard env db row).isSome := by
  rw [answeredShards, List.countP_filter]
  simp [Bool.and_comm]

theorem gathered_chunk (gateway : GatewayEncoder encoder)
    (faithful : Faithful env db encoder file data) {chunkIndex : Nat}
    (inside : chunkIndex < chunkCountOf data) :
    let rows := (db.getFileChunks file.id).filter fun row => row.chunkIndex == chunkIndex
    (rows.foldl (gatherShard env db) .start).Sound
        (encoder.encodedShards ((chunkBlocks data).getD chunkIndex [])) ∧
      (rows.foldl (gatherShard env db) .start).retrievedCount =
        min DATA_SHARDS (answeredShards env db file.id chunkIndex) := by
  intro rows
  have member_of : ∀ row ∈ rows, row ∈ db.getFileChunks file.id ∧ row.chunkIndex = chunkIndex := by
    intro row member
    simpa [rows] using member
  have distinct : (rows.map Chunk.shardIndex).Nodup := by
    have pairs : (rows.map fun row => (row.chunkIndex, row.shardIndex)).Nodup :=
      faithful.distinct.sublist (List.filter_sublist.map _)
    have pairs_eq : rows.map (fun row => (row.chunkIndex, row.shardIndex)) =
        (rows.map Chunk.shardIndex).map (Prod.mk chunkIndex) := by
      rw [List.map_map]
      refine List.map_congr_left fun row member => ?_
      rw [(member_of row member).2]
      rfl
    exact List.Nodup.of_map _ (pairs_eq ▸ pairs)
  obtain ⟨sound, count⟩ := foldl_gatherShard (start_sound (length_shards gateway inside))
    (Nat.zero_le _) distinct
    (fun row member => faithful.shardIndex_lt row (member_of row member).1)
    (fun row member => by
      have bound := faithful.shardIndex_lt row (member_of row member).1
      simp [Gathered.start, bound])
    (fun row member bytes fetched => by
      obtain ⟨row_mem, same⟩ := member_of row member
      rw [faithful.answers row row_mem bytes fetched, same]
      exact getElem?_shards gateway inside (faithful.shardIndex_lt row row_mem))
  refine ⟨sound, ?_⟩
  rw [count, answeredShards_eq_filter, show Gathered.start.retrievedCount = 0 from rfl, Nat.zero_add]

theorem decodeChunk_ok (gateway : GatewayEncoder encoder) (shapes : Shapes file data)
    (data_ne : data ≠ []) (faithful : Faithful env db encoder file data) {chunkIndex : Nat}
    (inside : chunkIndex < chunkCountOf data)
    (enough : DATA_SHARDS ≤ answeredShards env db file.id chunkIndex) :
    decodeChunk env db encoder file (db.getFileChunks file.id) chunkIndex =
      .ok ((chunkBlocks data).getD chunkIndex []) := by
  obtain ⟨sound, count⟩ := gathered_chunk gateway faithful inside
  rw [Nat.min_eq_left enough] at count
  have decoded := decode_erased gateway.valid (block_ne_nil inside) sound.erases (by
    rw [sound.count_eq, count, gateway.config_eq]
    rfl)
  unfold decodeChunk
  split
  · rename_i no_rows
    rw [no_rows] at count
    cases count
  · simp only [count, lt_irrefl, if_false, originalChunkSize_eq shapes data_ne inside, decoded]

/-- Fewer than ten answers are too few, whatever they say. -/
theorem decodeChunk_error (decoder : ErasureEncoder) {chunkIndex : Nat}
    (short : answeredShards env db file.id chunkIndex < DATA_SHARDS) :
    ∃ cause, decodeChunk env db decoder file (db.getFileChunks file.id) chunkIndex =
      .error cause := by
  rw [answeredShards_eq_filter] at short
  have count := foldl_gatherShard_count_le env db
    ((db.getFileChunks file.id).filter fun row => row.chunkIndex == chunkIndex) .start
  rw [show Gathered.start.retrievedCount = 0 from rfl, Nat.zero_add] at count
  unfold decodeChunk
  split
  · exact ⟨_, rfl⟩
  · simp only [if_pos (count.trans_lt short)]
    exact ⟨_, rfl⟩

/-- The object comes back when ten shards of every chunk answer. -/
theorem getFileData_ok {ext : Externals} (built : ErasureEncoder.new ext.reedSolomon = .ok encoder)
    (gateway : GatewayEncoder encoder) (shapes : Shapes file data) (data_ne : data ≠ [])
    (faithful : Faithful env db encoder file data)
    (enough : ∀ chunkIndex < chunkCountOf data,
      DATA_SHARDS ≤ answeredShards env db file.id chunkIndex) :
    getFileData env db ext file = .ok data := by
  have decoded : (List.range file.chunkCount).mapM
      (decodeChunk env db encoder file (db.getFileChunks file.id)) = .ok (chunkBlocks data) := by
    rw [← map_getD_chunkBlocks data, ← shapes.chunkCount_eq]
    refine mapM_eq_ok fun chunkIndex member => ?_
    have inside : chunkIndex < chunkCountOf data := by
      rw [← shapes.chunkCount_eq]
      exact List.mem_range.mp member
    exact decodeChunk_ok gateway shapes data_ne faithful inside (enough chunkIndex inside)
  have some_rows : db.getFileChunks file.id ≠ [] := by
    intro no_rows
    have first := enough 0 (divCeil_positive chunkSize_positive (List.length_pos_iff.mpr data_ne))
    rw [answeredShards, no_rows, List.countP_nil] at first
    exact absurd first (by decide)
  unfold getFileData
  split
  · rename_i no_rows
    exact absurd no_rows some_rows
  · simp only [built, decoded, shapes.sizeBytes_eq, chunkBlocks, flatten_blocks chunkSize_positive,
      List.take_length]

/-- Reading fails when a chunk has fewer than ten shards that answer. -/
theorem getFileData_error {ext : Externals} {chunkIndex : Nat}
    (inside : chunkIndex < file.chunkCount)
    (short : answeredShards env db file.id chunkIndex < DATA_SHARDS) :
    ∃ cause, getFileData env db ext file = .error cause := by
  unfold getFileData
  split
  · exact ⟨_, rfl⟩
  · split
    · exact ⟨_, rfl⟩
    · rename_i decoder _
      obtain ⟨cause, failed⟩ := decodeChunk_error decoder short
      obtain ⟨first, all_failed⟩ := mapM_eq_error (List.mem_range.mpr inside) failed
      simp only [all_failed]
      exact ⟨_, rfl⟩

end Decode

end CyxCloud.Gateway
