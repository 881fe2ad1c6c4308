import CyxCloud.Gateway.RoundTrip

/-!
# Reading from nodes that fail or lie

With honest nodes a read depends on the number of shards that answer, provided that it reads the
object that was put: an older live file with the same path may be read instead.  With nodes that
answer arbitrarily nothing is checked, so a read that can succeed at all can return anything of
the right length.
-/

namespace CyxCloud.Gateway

open CyxCloud.Core hiding Chunk
open Library Metadata

/-! ## Missing shards -/

/-- The tables once nodes have changed their status and locations have been removed. -/
def degrade (db : Database) (status : Node → NodeStatus) (keeps : ChunkLocation → Bool) : Database :=
  { db with
    nodes := db.nodes.map fun node => { node with status := status node }
    chunkLocations := db.chunkLocations.filter keeps }

theorem degrade_unchanged (db : Database) : degrade db Node.status (fun _ => true) = db := by
  simp [degrade]

/-- Whoever answers sends bytes that a node keeps under the identifier. -/
def Cluster.Honest (cluster : Cluster) (read : ReadEnv) : Prop :=
  ∀ chunkId position address bytes, read.reply chunkId position address = some bytes →
    ∃ shard ∈ cluster.kept, shard.chunkId = chunkId ∧ shard.data = bytes

/-- Every shard of an object has its own row, and an online node with a stored location keeps it. -/
def FullyStored (ext : Externals) (encoder : ErasureEncoder) (cluster : Cluster) (fileId : Uuid)
    (data : Bytes) : Prop :=
  ∀ slot ∈ slotsOf (chunkCountOf data),
    { chunkId := ext.blake3 (shardOf encoder data slot.1 slot.2)
      fileId
      chunkIndex := slot.1
      shardIndex := slot.2 : ShardKey } ∈ cluster.db.shardKeys ∧
    cluster.Holds (ext.blake3 (shardOf encoder data slot.1 slot.2))

section

variable {ext : Externals} {encoder : ErasureEncoder} {cluster : Cluster} {data : Bytes}

theorem Cluster.Honest.contentAddressed {read : ReadEnv} (honest : cluster.Honest read)
    (wellformed : Wellformed ext encoder cluster) : read.ContentAddressed ext := by
  intro chunkId position address bytes answered
  obtain ⟨shard, member, rfl, rfl⟩ := honest _ _ _ _ answered
  exact wellformed.content_addressed shard member

/-- The answers for the shards of one object; nobody answers for others. -/
def answersOnly (cluster : Cluster) (ids : List Bytes) (fileOrder : RowOrder File) : ReadEnv :=
  { fileOrder
    addressOrder := .insertion
    reply := fun chunkId _ address =>
      if chunkId ∈ ids then cluster.chunkAt address chunkId else none }

theorem answersOnly_honest (ids : List Bytes) (fileOrder : RowOrder File) :
    cluster.Honest (answersOnly cluster ids fileOrder) := by
  intro chunkId position address bytes answered
  simp only [answersOnly] at answered
  split at answered
  · exact chunkAt_eq_some answered
  · cases answered

/-- All shards of a fully stored object answer. -/
theorem answeredShards_fullyStored {fileId : Uuid}
    (stored : FullyStored ext encoder cluster fileId data) {read : ReadEnv}
    (answers : ∀ slot ∈ slotsOf (chunkCountOf data), answersKey read cluster.db
      { chunkId := ext.blake3 (shardOf encoder data slot.1 slot.2)
        fileId
        chunkIndex := slot.1
        shardIndex := slot.2 } = true)
    {chunkIndex : Nat} (inside : chunkIndex < chunkCountOf data) :
    TOTAL_SHARDS ≤ answeredShards read cluster.db fileId chunkIndex := by
  let keyOf : Nat → ShardKey := fun shardIndex =>
    { chunkId := ext.blake3 (shardOf encoder data chunkIndex shardIndex)
      fileId
      chunkIndex
      shardIndex }
  have distinct : ((List.range TOTAL_SHARDS).map keyOf).Nodup :=
    List.Nodup.map (fun _ _ same => congrArg ShardKey.shardIndex same) List.nodup_range
  rw [answeredShards_eq, List.countP_eq_length_filter]
  calc
    TOTAL_SHARDS = ((List.range TOTAL_SHARDS).map keyOf).length := by simp
    _ ≤ _ := by
      refine (List.subperm_of_subset distinct fun key member => ?_).length_le
      obtain ⟨shardIndex, bound, rfl⟩ := List.mem_map.mp member
      have slot_mem : (chunkIndex, shardIndex) ∈ slotsOf (chunkCountOf data) :=
        mem_slotsOf.mpr ⟨inside, List.mem_range.mp bound⟩
      refine List.mem_filter.mpr ⟨(stored _ slot_mem).1, ?_⟩
      have answer := answers _ slot_mem
      simp only [keyOf, beq_self_eq_true, Bool.true_and]
      exact answer

/-- The lookup that prefers other files to a given one. -/
def othersFirst (fileId : Uuid) : RowOrder File where
  arrange rows :=
    (rows.filter fun file => !(file.id == fileId)) ++ rows.filter fun file => file.id == fileId
  arrange_perm rows :=
    List.perm_append_comm.trans (List.filter_append_perm (fun file => file.id == fileId) rows)

theorem othersFirst_fetch {fileId : Uuid} {rows : List File} {other : File} (member : other ∈ rows)
    (apart : other.id ≠ fileId) :
    ∃ found ∈ rows, found.id ≠ fileId ∧ (othersFirst fileId).fetchOptional rows = some found := by
  have other_mem : other ∈ rows.filter fun file => !(file.id == fileId) :=
    List.mem_filter.mpr ⟨member, by simpa using apart⟩
  cases others : rows.filter fun file => !(file.id == fileId) with
  | nil =>
      rw [others] at other_mem
      cases other_mem
  | cons found rest =>
      have found_mem : found ∈ rows.filter fun file => !(file.id == fileId) :=
        others ▸ List.mem_cons_self
      obtain ⟨found_rows, found_apart⟩ := List.mem_filter.mp found_mem
      refine ⟨found, found_rows, by simpa using found_apart, ?_⟩
      simp [RowOrder.fetchOptional, othersFirst, others]

/-- With honest nodes a file is read exactly when ten shards of every chunk answer. -/
theorem getFileData_degraded (lawful : ext.Lawful)
    (built : ErasureEncoder.new ext.reedSolomon = .ok encoder) (gateway : GatewayEncoder encoder)
    (wellformed : Wellformed ext encoder cluster) {file : File}
    (describes : Describes ext encoder cluster.db file data) (status : Node → NodeStatus)
    (keeps : ChunkLocation → Bool) {read : ReadEnv} (honest : cluster.Honest read)
    {content : Bytes} :
    getFileData read (degrade cluster.db status keeps) ext file = .ok content ↔
      Readable read (degrade cluster.db status keeps) file.id data ∧ content = data := by
  have described : Describes ext encoder (degrade cluster.db status keeps) file data :=
    ⟨describes.shapes, describes.contentHash_eq, describes.registered⟩
  have unique : (degrade cluster.db status keeps).chunkIds.Nodup := wellformed.chunks_unique
  exact getFileData_eq_ok_iff lawful built gateway unique described
    (honest.contentAddressed wellformed)

/-- A file whose shards do not answer is not read. -/
theorem not_readable_of_silent {db : Database} {read : ReadEnv} {fileId : Uuid}
    (silent : ∀ key ∈ db.shardKeys, key.fileId = fileId → answersKey read db key = false) :
    ¬Readable read db fileId data := by
  rintro ⟨data_ne, enough⟩
  have first := enough 0 (divCeil_positive chunkSize_positive (List.length_pos_iff.mpr data_ne))
  have none_answer : answeredShards read db fileId 0 = 0 := by
    rw [answeredShards_eq]
    refine List.countP_eq_zero.mpr fun key member => ?_
    by_cases same : key.fileId = fileId
    · simp [silent key member same]
    · simp [same]
  rw [none_answer] at first
  exact absurd first (by decide)

/-- A registered shard belongs to one file only. -/
theorem fileId_of_mem_shardIds (wellformed : Wellformed ext encoder cluster) {fileId : Uuid}
    (fully : FullyStored ext encoder cluster fileId data) {key : ShardKey}
    (registered : key ∈ cluster.db.shardKeys) (member : key.chunkId ∈ shardIds ext encoder data) :
    key.fileId = fileId := by
  obtain ⟨slot, slot_mem, same⟩ := List.mem_map.mp member
  have unique : (cluster.db.shardKeys.map ShardKey.chunkId).Nodup := by
    rw [Database.shardKeys_chunkId]
    exact wellformed.chunks_unique
  have key_eq := List.inj_on_of_nodup_map unique (fully slot slot_mem).1 registered same
  rw [← key_eq]

/-- While only its shards answer, a fully stored object has all it needs. -/
theorem answersOnly_fully {fileId : Uuid} (fully : FullyStored ext encoder cluster fileId data)
    (fileOrder : RowOrder File) {chunkIndex : Nat} (inside : chunkIndex < chunkCountOf data) :
    TOTAL_SHARDS ≤ answeredShards (answersOnly cluster (shardIds ext encoder data) fileOrder)
      cluster.db fileId chunkIndex := by
  refine answeredShards_fullyStored fully (fun slot member => ?_) inside
  refine (answersKey_iff_holds (fully slot member).1 fun position address => ?_).mpr
    (fully slot member).2
  exact if_pos (List.mem_map_of_mem member)

/-- Meanwhile another file is not read. -/
theorem answersOnly_other (lawful : ext.Lawful)
    (built : ErasureEncoder.new ext.reedSolomon = .ok encoder) (gateway : GatewayEncoder encoder)
    (wellformed : Wellformed ext encoder cluster) {fileId : Uuid}
    (fully : FullyStored ext encoder cluster fileId data) (fileOrder : RowOrder File) {other : File}
    (other_mem : other ∈ cluster.db.files) (apart : other.id ≠ fileId) (content : Bytes) :
    getFileData (answersOnly cluster (shardIds ext encoder data) fileOrder) cluster.db ext other ≠
      .ok content := by
  intro result
  obtain ⟨otherData, describes⟩ := wellformed.described other other_mem
  obtain ⟨readable, -⟩ := (getFileData_eq_ok_iff lawful built gateway wellformed.chunks_unique
    describes ((answersOnly_honest _ _).contentAddressed wellformed)).mp result
  refine not_readable_of_silent (fun key registered same => ?_) readable
  rw [answersKey, Bool.eq_false_iff]
  intro answered
  obtain ⟨position, address, -, answer⟩ := getChunkFromAny_isSome_iff.mp answered
  have asked : key.chunkId ∉ shardIds ext encoder data := fun member =>
    apart (same.symm.trans (fileId_of_mem_shardIds wellformed fully registered member))
  simp [answersOnly, asked] at answer

section Put

variable {env : PutEnv} {before : Cluster} {userId : Uuid} {bucket key contentType etag : String}

/-- An undisturbed put of shards that are all new and all different stores the object fully. -/
theorem fullyStored_of_undisturbed (gateway : GatewayEncoder encoder)
    (built : ErasureEncoder.new ext.reedSolomon = .ok encoder) (data_ne : data ≠ [])
    (undisturbed : env.Undisturbed) (current : env.Current before.db)
    (ok : (putObject ext env before userId bucket key data contentType).2 = .ok etag)
    (distinct : (before.db.chunkIds ++ shardIds ext encoder data).Nodup) :
    FullyStored ext encoder (putObject ext env before userId bucket key data contentType).1
      env.fileId data := by
  obtain ⟨nodes, registers, stored, accepted_eq, holds⟩ :=
    undisturbed_effect built gateway data_ne undisturbed current ok
  rw [acceptedRows_of_nodup distinct] at accepted_eq
  intro slot member
  refine ⟨stored.mem_keys.mpr (.inr ⟨slot, ?_, rfl⟩), holds slot member⟩
  exact accepted_eq ▸ member

/-- Degraded reads of a fully stored object return it whenever ten shards of every chunk answer,
and fail otherwise, exactly when its key had no live file before the put. -/
theorem degraded_read_iff (lawful : ext.Lawful)
    (built : ErasureEncoder.new ext.reedSolomon = .ok encoder) (reachable : Reachable ext before)
    (data_ne : data ≠ [])
    (ok : (putObject ext env before userId bucket key data contentType).2 = .ok etag)
    (fully : FullyStored ext encoder
      (putObject ext env before userId bucket key data contentType).1 env.fileId data) :
    let after := (putObject ext env before userId bucket key data contentType).1
    (∀ status keeps read, after.Honest read →
      ((∀ chunkIndex < chunkCountOf data,
          DATA_SHARDS ≤ answeredShards read (degrade after.db status keeps) env.fileId chunkIndex) →
        getObject ext read (degrade after.db status keeps) bucket key = .ok data) ∧
      ((∃ chunkIndex < chunkCountOf data,
          answeredShards read (degrade after.db status keeps) env.fileId chunkIndex < DATA_SHARDS) →
        ∃ cause, getObject ext read (degrade after.db status keeps) bucket key = .error cause)) ↔
      before.db.liveFilesAt (objectPath bucket key) = [] := by
  intro after
  have gateway := gatewayEncoder_of_new lawful built
  have wellformed := reachable.wellformed built gateway
  have wellformed' : Wellformed ext encoder after :=
    wellformed_put built gateway wellformed env userId bucket key data contentType
  obtain ⟨nodes, registers, stored, -, -⟩ := putObject_ok built gateway ok
  constructor
  · intro degraded
    by_contra some_live
    obtain ⟨other, other_live⟩ := List.exists_mem_of_ne_nil _ some_live
    have other_apart : other.id ≠ env.fileId := by
      intro same
      have known : before.db.hasFile env.fileId = true :=
        List.any_eq_true.mpr ⟨other, List.mem_of_mem_filter other_live, by simpa using same⟩
      rw [registers.fresh_id] at known
      cases known
    have other_mem : other ∈ after.db.liveFilesAt (objectPath bucket key) := by
      have live_eq := stored.liveFilesAt_same rfl
      exact live_eq ▸ List.mem_append_left _ other_live
    obtain ⟨found, found_mem, apart, fetched⟩ := othersFirst_fetch other_mem other_apart
    have returned := (degraded Node.status (fun _ => true)
      (answersOnly after (shardIds ext encoder data) (othersFirst env.fileId))
      (answersOnly_honest _ _)).1
    rw [degrade_unchanged] at returned
    obtain ⟨file, file_found, result⟩ := getObject_eq_ok_iff.mp (returned fun chunkIndex inside =>
      (show DATA_SHARDS ≤ TOTAL_SHARDS by decide).trans (answersOnly_fully fully _ inside))
    obtain rfl := Option.some.inj (file_found.symm.trans fetched)
    exact answersOnly_other lawful built gateway wellformed' fully _
      (List.mem_of_mem_filter found_mem) apart data result
  · intro no_live status keeps read honest
    have found := stored.found_of_no_live rfl no_live rfl read.fileOrder
    have describes := describes_put lawful wellformed' (mem_files_of_found found).1
    have read_iff : ∀ content, getObject ext read (degrade after.db status keeps) bucket key =
        .ok content ↔
          Readable read (degrade after.db status keeps) env.fileId data ∧ content = data := by
      intro content
      have file_iff : getFileData read (degrade after.db status keeps) ext
          (fileRow ext env userId bucket key data contentType) = .ok content ↔ _ :=
        getFileData_degraded lawful built gateway wellformed' describes status keeps honest
      rw [getObject_eq_ok_iff]
      constructor
      · rintro ⟨file, file_found, result⟩
        obtain rfl := Option.some.inj (file_found.symm.trans found)
        exact file_iff.mp result
      · intro readable
        exact ⟨_, found, file_iff.mpr readable⟩
    constructor
    · intro enough
      exact (read_iff data).mpr ⟨⟨data_ne, enough⟩, rfl⟩
    · rintro ⟨chunkIndex, inside, short⟩
      cases result : getObject ext read (degrade after.db status keeps) bucket key with
      | error cause => exact ⟨cause, rfl⟩
      | ok content =>
          obtain ⟨readable, -⟩ := (read_iff content).mp result
          exact absurd (readable.2 chunkIndex inside) (Nat.not_le.mpr short)

end Put

end

namespace Reference

/-- The ten digits, stored. -/
noncomputable def digitsStored : Cluster :=
  (putObject externals (calmEnv 1) emptyCluster 7 "photos" "cat" tenDigits "image/png").1

theorem digitsStored_fully : FullyStored externals encoder digitsStored 1 tenDigits :=
  fullyStored_of_undisturbed encoder_gateway encoder_built (by decide) (calmEnv_undisturbed 1)
    (calmEnv_current 1 _) (first_put_ok 1 tenDigits) shardIds_tenDigits_nodup

end Reference

/-- The ten digits are read while the node is online, and not once it is offline. -/
theorem degraded_read_ten_digits :
    getObject Reference.externals (Reference.digitsStored.healthy .insertion .insertion)
        (degrade Reference.digitsStored.db Node.status fun _ => true) "photos" "cat" =
          .ok Reference.tenDigits ∧
      ∃ cause, getObject Reference.externals
        (Reference.digitsStored.healthy .insertion .insertion)
        (degrade Reference.digitsStored.db (fun _ => .offline) fun _ => true) "photos" "cat" =
          .error cause := by
  have honest : Reference.digitsStored.Honest
      (Reference.digitsStored.healthy .insertion .insertion) :=
    fun chunkId position address bytes answered => chunkAt_eq_some answered
  have degraded := (degraded_read_iff Reference.externals_lawful Reference.encoder_built
    Reference.emptyCluster_reachable (by decide) (Reference.first_put_ok 1 Reference.tenDigits)
    Reference.digitsStored_fully).mpr rfl
  constructor
  · refine (degraded Node.status (fun _ => true) _ honest).1 fun chunkIndex inside => ?_
    rw [degrade_unchanged]
    refine (show DATA_SHARDS ≤ TOTAL_SHARDS by decide).trans
      (answeredShards_fullyStored Reference.digitsStored_fully (fun slot member => ?_) inside)
    exact (answersKey_healthy_iff (Reference.digitsStored_fully slot member).1 _ _).mpr
      (Reference.digitsStored_fully slot member).2
  · refine (degraded (fun _ => .offline) (fun _ => true) _ honest).2 ⟨0, ?_, ?_⟩
    · rw [Reference.chunkCountOf_tenDigits]
      decide
    · have none_answer : answeredShards (Reference.digitsStored.healthy .insertion .insertion)
          (degrade Reference.digitsStored.db (fun _ => .offline) fun _ => true) 1 0 = 0 := by
        rw [answeredShards_eq]
        refine List.countP_eq_zero.mpr fun key _ answered => ?_
        simp only [Bool.and_eq_true] at answered
        obtain ⟨position, address, listed, -⟩ := getChunkFromAny_isSome_iff.mp answered.2.2
        obtain ⟨-, node, node_mem, online, -⟩ :=
          Database.mem_getFileChunkLocations.mp (List.mem_of_getElem? listed)
        obtain ⟨original, -, rfl⟩ := List.mem_map.mp node_mem
        cases online
      exact none_answer.trans_lt (by decide)

namespace Reference

/-- An empty object, stored. -/
noncomputable def emptyStored : Cluster :=
  (putObject externals (calmEnv 1) emptyCluster 7 "photos" "cat" [] "image/png").1

/-- The ten digits, stored under the key of the empty object. -/
noncomputable def digitsOverEmpty : Cluster :=
  (putObject externals (calmEnv 2) emptyStored 7 "photos" "cat" tenDigits "image/png").1

theorem emptyStored_stored :
    Stored ⟨externals, calmEnv 1, [storageNode], encoder, []⟩
      (fileRow externals (calmEnv 1) 7 "photos" "cat" [] "image/png") emptyCluster emptyStored :=
  (putObject_stored encoder_gateway (registers encoder_built rfl rfl rfl rfl rfl rfl rfl)).1

theorem emptyStored_reachable : Reachable externals emptyStored :=
  ⟨emptyCluster, [.put (calmEnv 1) 7 "photos" "cat" [] "image/png"], ⟨rfl, rfl, rfl, rfl⟩, rfl⟩

theorem emptyStored_chunkIds : emptyStored.db.chunkIds = [] := by
  have no_slots : slotsOf (chunkCountOf []) = [] := by
    rw [show chunkCountOf [] = 0 from divCeil_zero]
    rfl
  rw [emptyStored_stored.ids_eq, Upload.slots, no_slots]
  rfl

theorem digitsOverEmpty_ok :
    (putObject externals (calmEnv 2) emptyStored 7 "photos" "cat" tenDigits "image/png").2 =
      .ok (hexEncode (externals.blake3 tenDigits)) := by
  refine put_ok emptyStored_stored.grows.buckets_eq emptyStored_stored.grows.nodes_eq ?_ _
  rw [Database.hasFile, emptyStored_stored.grows.files_eq]
  rfl

theorem digitsOverEmpty_wellformed : Wellformed externals encoder digitsOverEmpty :=
  wellformed_put encoder_built encoder_gateway
    (emptyStored_reachable.wellformed encoder_built encoder_gateway) _ _ _ _ _ _

/-- A lookup in the order of insertion finds the older file. -/
theorem digitsOverEmpty_found :
    digitsOverEmpty.db.getFileByPath .insertion (objectPath "photos" "cat") =
      some (fileRow externals (calmEnv 1) 7 "photos" "cat" [] "image/png") := by
  obtain ⟨nodes, -, stored, -, -⟩ := putObject_ok encoder_built encoder_gateway digitsOverEmpty_ok
  have live_eq : digitsOverEmpty.db.liveFilesAt (objectPath "photos" "cat") =
      ([] ++ [fileRow externals (calmEnv 1) 7 "photos" "cat" [] "image/png"]) ++
        [fileRow externals (calmEnv 2) 7 "photos" "cat" tenDigits "image/png"] :=
    (stored.liveFilesAt_same rfl).trans
      (congrArg (fun rows => rows ++ [_]) (emptyStored_stored.liveFilesAt_same rfl))
  rw [Database.getFileByPath, live_eq]
  rfl

theorem digitsOverEmpty_fully : FullyStored externals encoder digitsOverEmpty 2 tenDigits := by
  refine fullyStored_of_undisturbed encoder_gateway encoder_built (by decide)
    (calmEnv_undisturbed 2) (calmEnv_current 2 _) digitsOverEmpty_ok ?_
  rw [emptyStored_chunkIds]
  exact shardIds_tenDigits_nodup

end Reference

/-- The ten digits are stored fully over an empty object, all their shards answer, and the read
still fails because it finds the file of the empty object. -/
theorem degraded_read_finds_older_file :
    Reachable Reference.externals Reference.emptyStored ∧
      (putObject Reference.externals (Reference.calmEnv 2) Reference.emptyStored 7 "photos" "cat"
        Reference.tenDigits "image/png").2 =
          .ok (hexEncode (Reference.externals.blake3 Reference.tenDigits)) ∧
      FullyStored Reference.externals Reference.encoder Reference.digitsOverEmpty 2
        Reference.tenDigits ∧
      (∀ chunkIndex < chunkCountOf Reference.tenDigits,
        DATA_SHARDS ≤ answeredShards (Reference.digitsOverEmpty.healthy .insertion .insertion)
          Reference.digitsOverEmpty.db 2 chunkIndex) ∧
      getObject Reference.externals (Reference.digitsOverEmpty.healthy .insertion .insertion)
        Reference.digitsOverEmpty.db "photos" "cat" = .error (.internal .noShards) := by
  refine ⟨Reference.emptyStored_reachable, Reference.digitsOverEmpty_ok,
    Reference.digitsOverEmpty_fully, fun chunkIndex inside => ?_, ?_⟩
  · refine (show DATA_SHARDS ≤ TOTAL_SHARDS by decide).trans
      (answeredShards_fullyStored Reference.digitsOverEmpty_fully (fun slot member => ?_) inside)
    exact (answersKey_healthy_iff (Reference.digitsOverEmpty_fully slot member).1 _ _).mpr
      (Reference.digitsOverEmpty_fully slot member).2
  · have found := Reference.digitsOverEmpty_found
    rw [getObject_of_found found, getFileData_empty (describes_put Reference.externals_lawful
      Reference.digitsOverEmpty_wellformed (mem_files_of_found found).1)]
    rfl

/-! ## Lying nodes -/

/-- Number of shards of a chunk with a listed location on an online node. -/
def locatedShards (db : Database) (fileId : Uuid) (chunkIndex : Nat) : Nat :=
  (db.getFileChunks fileId).countP fun row =>
    row.chunkIndex == chunkIndex &&
      !(db.getFileChunkLocations .insertion fileId row.chunkId).isEmpty

/-- Other bytes of the same length. -/
def forge : Bytes → Bytes
  | [] => []
  | byte :: rest => (byte + 1) :: rest

/-- For every registered shard the corresponding shard of other bytes. -/
def forgedReply (encoder : ErasureEncoder) (db : Database) (forged : Bytes) :
    Bytes → Nat → String → Option Bytes :=
  fun chunkId _ _ => (db.getChunkById chunkId).map fun row =>
    shardOf encoder forged row.chunkIndex row.shardIndex

theorem length_forge (data : Bytes) : (forge data).length = data.length := by
  cases data with
  | nil => rfl
  | cons byte rest => rfl

theorem forge_ne {data : Bytes} (data_ne : data ≠ []) : forge data ≠ data := by
  cases data with
  | nil => exact absurd rfl data_ne
  | cons byte rest =>
      intro same
      have bytes : byte + 1 = byte := (List.cons.inj same).1
      have values := congrArg UInt8.toNat bytes
      rw [UInt8.toNat_add] at values
      have small := byte.toNat_lt
      have one : (1 : UInt8).toNat = 1 := rfl
      omega

section

variable {ext : Externals} {encoder : ErasureEncoder} {db : Database} {file : File} {data : Bytes}

theorem getFileChunkLocations_eq_nil_iff (order : RowOrder String) (fileId : Uuid)
    (chunkId : Bytes) :
    db.getFileChunkLocations order fileId chunkId = [] ↔
      db.getFileChunkLocations .insertion fileId chunkId = [] := by
  simp only [Database.getFileChunkLocations, RowOrder.arrange_eq_nil_iff]

/-- Only listed shards answer. -/
theorem answeredShards_le_located (read : ReadEnv) (fileId : Uuid) (chunkIndex : Nat) :
    answeredShards read db fileId chunkIndex ≤ locatedShards db fileId chunkIndex := by
  refine List.countP_mono_left fun row member answered => ?_
  simp only [Bool.and_eq_true] at answered ⊢
  refine ⟨answered.1, ?_⟩
  obtain ⟨position, address, listed, -⟩ := getChunkFromAny_isSome_iff.mp answered.2
  have same := (Database.mem_getFileChunks.mp member).2
  rw [Bool.not_eq_true', ← Bool.not_eq_true, List.isEmpty_iff,
    ← getFileChunkLocations_eq_nil_iff read.addressOrder, ← same]
  exact List.ne_nil_of_mem (List.mem_of_getElem? listed)

/-- Every listed shard answers when every node lies. -/
theorem answeredShards_forged (unique : db.chunkIds.Nodup) (fileOrder : RowOrder File)
    (addressOrder : RowOrder String) (forged : Bytes) (fileId : Uuid) (chunkIndex : Nat) :
    locatedShards db fileId chunkIndex ≤
      answeredShards ⟨fileOrder, addressOrder, forgedReply encoder db forged⟩ db fileId
        chunkIndex := by
  refine List.countP_mono_left fun row member located => ?_
  simp only [Bool.and_eq_true] at located ⊢
  refine ⟨located.1, getChunkFromAny_isSome_iff.mpr ?_⟩
  obtain ⟨row_mem, same⟩ := Database.mem_getFileChunks.mp member
  have some_listed : db.getFileChunkLocations addressOrder row.fileId row.chunkId ≠ [] := by
    rw [Ne, getFileChunkLocations_eq_nil_iff, ← List.isEmpty_iff, same]
    simpa using located.2
  obtain ⟨address, rest, listed⟩ := List.exists_cons_of_ne_nil some_listed
  refine ⟨0, address, by rw [listed]; rfl, ?_⟩
  simp only [forgedReply, Database.getChunkById_of_mem unique row_mem, Option.map_some,
    Option.isSome_some]

theorem shapes_of_length_eq {forged : Bytes} (shapes : Shapes file data)
    (length_eq : forged.length = data.length) : Shapes file forged where
  sizeBytes_eq := shapes.sizeBytes_eq.trans length_eq.symm
  chunkCount_eq := by rw [shapes.chunkCount_eq, chunkCountOf, chunkCountOf, length_eq]
  chunkSize_eq := shapes.chunkSize_eq

/-- A file that can be read at all is read as anything of its length. -/
theorem getFileData_forged (built : ErasureEncoder.new ext.reedSolomon = .ok encoder)
    (gateway : GatewayEncoder encoder) (unique : db.chunkIds.Nodup)
    (describes : Describes ext encoder db file data) {forged : Bytes} (forged_ne : forged ≠ [])
    (length_eq : forged.length = data.length)
    (located : ∀ chunkIndex < chunkCountOf data,
      DATA_SHARDS ≤ locatedShards db file.id chunkIndex)
    (fileOrder : RowOrder File) (addressOrder : RowOrder String) :
    getFileData ⟨fileOrder, addressOrder, forgedReply encoder db forged⟩ db ext file =
      .ok forged := by
  have count_eq : chunkCountOf forged = chunkCountOf data := by
    rw [chunkCountOf, chunkCountOf, length_eq]
  have registered : ∀ row ∈ db.getFileChunks file.id, row ∈ db.chunks ∧
      row.chunkIndex < chunkCountOf forged ∧ row.shardIndex < TOTAL_SHARDS := by
    intro row member
    obtain ⟨row_mem, same⟩ := Database.mem_getFileChunks.mp member
    obtain ⟨chunk_lt, shard_lt, -⟩ :=
      describes.registered row.shardKey (List.mem_map_of_mem row_mem) same
    exact ⟨row_mem, chunk_lt.trans_eq count_eq.symm, shard_lt⟩
  refine getFileData_ok built gateway (shapes_of_length_eq describes.shapes length_eq) forged_ne
    ⟨fun row member => (registered row member).2.1, fun row member => (registered row member).2.2,
      distinct_positions unique describes, fun row member bytes fetched => ?_⟩
    fun chunkIndex inside => ?_
  · obtain ⟨position, address, answer⟩ := getChunkFromAny_eq_some fetched
    simp only [forgedReply, Database.getChunkById_of_mem unique (registered row member).1,
      Option.map_some, Option.some.injEq] at answer
    exact answer.symm
  · exact (located chunkIndex (inside.trans_eq count_eq)).trans
      (answeredShards_forged unique fileOrder addressOrder forged file.id chunkIndex)

/-- No choice of answers makes a read return bytes with another hash exactly when every read fails:
the object is empty, or a chunk has fewer than ten listed shards. -/
theorem read_integrity_iff {cluster : Cluster} (lawful : ext.Lawful)
    (built : ErasureEncoder.new ext.reedSolomon = .ok encoder) (reachable : Reachable ext cluster)
    {fileOrder : RowOrder File} {bucket key : String}
    (found : cluster.db.getFileByPath fileOrder (objectPath bucket key) = some file) :
    (∀ addressOrder reply bytes,
      getObject ext ⟨fileOrder, addressOrder, reply⟩ cluster.db bucket key = .ok bytes →
        ext.blake3 bytes = file.contentHash) ↔
      file.chunkCount = 0 ∨
        ∃ chunkIndex < file.chunkCount,
          locatedShards cluster.db file.id chunkIndex < DATA_SHARDS := by
  have gateway := gatewayEncoder_of_new lawful built
  have wellformed := reachable.wellformed built gateway
  obtain ⟨data, describes⟩ := wellformed.described file (mem_files_of_found found).1
  have count_eq := describes.shapes.chunkCount_eq
  constructor
  · intro intact
    by_contra readable
    obtain ⟨some_chunks, located⟩ := not_or.mp readable
    have data_ne : data ≠ [] := by
      rintro rfl
      exact some_chunks (count_eq.trans divCeil_zero)
    have enough : ∀ chunkIndex < chunkCountOf data,
        DATA_SHARDS ≤ locatedShards cluster.db file.id chunkIndex := by
      intro chunkIndex inside
      by_contra short
      exact located ⟨chunkIndex, inside.trans_eq count_eq.symm, Nat.lt_of_not_ge short⟩
    have forged_ne : forge data ≠ [] := by
      rw [← List.length_pos_iff, length_forge]
      exact List.length_pos_iff.mpr data_ne
    have read := getFileData_forged built gateway wellformed.chunks_unique describes forged_ne
      (length_forge data) enough fileOrder .insertion
    have hash_eq := intact .insertion _ _ (getObject_eq_ok_iff.mpr ⟨file, found, read⟩)
    rw [describes.contentHash_eq] at hash_eq
    exact forge_ne data_ne (lawful.blake3_injective hash_eq)
  · intro unreadable addressOrder reply bytes returned
    obtain ⟨other, other_found, read⟩ := getObject_eq_ok_iff.mp returned
    obtain rfl := Option.some.inj (other_found.symm.trans found)
    rcases unreadable with no_chunks | ⟨chunkIndex, inside, short⟩
    · have data_nil : data = [] := by
        by_contra data_ne
        have positive := divCeil_positive chunkSize_positive (List.length_pos_iff.mpr data_ne)
        exact absurd (count_eq.symm.trans no_chunks) positive.ne'
      subst data_nil
      rw [getFileData_empty describes] at read
      cases read
    · obtain ⟨cause, failed⟩ := getFileData_error inside
        ((answeredShards_le_located ⟨fileOrder, addressOrder, reply⟩ _ chunkIndex).trans_lt short)
      rw [failed] at read
      cases read

end

namespace Reference

theorem digitsStored_wellformed : Wellformed externals encoder digitsStored :=
  wellformed_put encoder_built encoder_gateway
    (emptyCluster_reachable.wellformed encoder_built encoder_gateway) _ _ _ _ _ _

theorem digitsStored_found :
    digitsStored.db.getFileByPath .insertion (objectPath "photos" "cat") =
      some (fileRow externals (calmEnv 1) 7 "photos" "cat" tenDigits "image/png") := by
  obtain ⟨nodes, -, stored, -, -⟩ :=
    putObject_ok encoder_built encoder_gateway (first_put_ok 1 tenDigits)
  exact stored.found_of_no_live rfl rfl rfl .insertion

/-- The byte 7, stored. -/
noncomputable def sevenStored : Cluster :=
  (putObject externals (calmEnv 1) emptyCluster 7 "photos" "cat" [7] "image/png").1

theorem sevenStored_reachable : Reachable externals sevenStored :=
  ⟨emptyCluster, [.put (calmEnv 1) 7 "photos" "cat" [7] "image/png"], ⟨rfl, rfl, rfl, rfl⟩, rfl⟩

theorem sevenStored_found :
    sevenStored.db.getFileByPath .insertion (objectPath "photos" "cat") =
      some (fileRow externals (calmEnv 1) 7 "photos" "cat" [7] "image/png") := by
  obtain ⟨nodes, -, stored, -, -⟩ :=
    putObject_ok encoder_built encoder_gateway (first_put_ok 1 [7])
  exact stored.found_of_no_live rfl rfl rfl .insertion

/-- The shards with a location are among those with new contents. -/
theorem locatedShards_sevenStored : locatedShards sevenStored.db 1 0 < DATA_SHARDS := by
  have before := emptyCluster_reachable.wellformed encoder_built encoder_gateway
  have after := sevenStored_reachable.wellformed encoder_built encoder_gateway
  obtain ⟨nodes, registers, stored, accepted_eq, -⟩ :=
    undisturbed_effect encoder_built encoder_gateway (List.cons_ne_nil 7 []) (calmEnv_undisturbed 1)
      (calmEnv_current 1 _) (first_put_ok 1 [7])
  have answered := stored.answeredShards_eq (before.free_keys registers.fresh_id)
    ⟨.insertion, .insertion, forgedReply encoder sevenStored.db [7]⟩ 0
  calc
    locatedShards sevenStored.db 1 0 ≤ _ :=
      answeredShards_forged after.chunks_unique .insertion .insertion [7] 1 0
    _ ≤ freshShards externals encoder emptyCluster.db [7] 0 := by
      refine answered.trans_le ?_
      rw [freshShards, ← accepted_eq]
      exact List.countP_mono_left fun slot _ both => ((Bool.and_eq_true _ _).mp both).1
    _ < DATA_SHARDS := freshShards_seven

end Reference

/-- The object of a single byte has fewer than ten rows, so no reply makes a read of it succeed. -/
theorem read_integrity_single_byte :
    locatedShards Reference.sevenStored.db 1 0 < DATA_SHARDS ∧ ∀ addressOrder reply bytes,
      getObject Reference.externals ⟨.insertion, addressOrder, reply⟩ Reference.sevenStored.db
        "photos" "cat" = .ok bytes →
          Reference.externals.blake3 bytes = Reference.externals.blake3 [7] := by
  have one : chunkCountOf [7] = 1 := chunkCountOf_eq_one (by decide) (by decide)
  refine ⟨Reference.locatedShards_sevenStored,
    (read_integrity_iff Reference.externals_lawful Reference.encoder_built
      Reference.sevenStored_reachable Reference.sevenStored_found).mpr (.inr ⟨0, ?_, ?_⟩)⟩
  · exact Nat.lt_of_lt_of_eq Nat.zero_lt_one one.symm
  · exact Reference.locatedShards_sevenStored

/-- Nodes that send the shards of other bytes make a read of the ten digits return these bytes. -/
theorem read_integrity_forged_digits :
    getObject Reference.externals
        ⟨.insertion, .insertion,
          forgedReply Reference.encoder Reference.digitsStored.db [1, 1, 2, 3, 4, 5, 6, 7, 8, 9]⟩
        Reference.digitsStored.db "photos" "cat" = .ok [1, 1, 2, 3, 4, 5, 6, 7, 8, 9] ∧
      (Reference.digitsStored.db.getFileByPath .insertion (objectPath "photos" "cat")).map
          File.contentHash = some (Reference.externals.blake3 Reference.tenDigits) ∧
      Reference.externals.blake3 [1, 1, 2, 3, 4, 5, 6, 7, 8, 9] ≠
        Reference.externals.blake3 Reference.tenDigits := by
  have found := Reference.digitsStored_found
  have describes := describes_put Reference.externals_lawful Reference.digitsStored_wellformed
    (mem_files_of_found found).1
  have located : ∀ chunkIndex < chunkCountOf Reference.tenDigits,
      DATA_SHARDS ≤ locatedShards Reference.digitsStored.db 1 chunkIndex := by
    intro chunkIndex inside
    calc
      DATA_SHARDS ≤ TOTAL_SHARDS := by decide
      _ ≤ _ := answersOnly_fully Reference.digitsStored_fully .insertion inside
      _ ≤ _ := answeredShards_le_located _ _ _
  have length_eq : ([1, 1, 2, 3, 4, 5, 6, 7, 8, 9] : Bytes).length = Reference.tenDigits.length := rfl
  have read := getFileData_forged Reference.encoder_built Reference.encoder_gateway
    Reference.digitsStored_wellformed.chunks_unique describes (List.cons_ne_nil _ _) length_eq located
    .insertion .insertion
  refine ⟨getObject_eq_ok_iff.mpr ⟨_, found, read⟩, by rw [found]; rfl, fun same => ?_⟩
  exact absurd (Reference.externals_lawful.blake3_injective same) (by decide)

end CyxCloud.Gateway
