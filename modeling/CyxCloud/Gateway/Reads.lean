import CyxCloud.Gateway.Wellformed

/-!
# Reading from a well-formed cluster

In a well-formed cluster whoever answers with bytes of the right hash answers with a shard of the
object, so a read returns the object or fails, according to the number of shards that answer.
-/

namespace CyxCloud.Gateway

open CyxCloud.Core hiding Chunk
open Library Metadata

/-! ## Answers -/

theorem getChunkFromAny_eq_some {reply : Nat → String → Option Bytes} {addresses : List String}
    {bytes : Bytes} (answered : getChunkFromAny reply addresses = some bytes) :
    ∃ position address, reply position address = some bytes := by
  obtain ⟨⟨address, position⟩, -, answer⟩ := List.exists_of_findSome?_eq_some answered
  exact ⟨position, address, answer⟩

theorem getChunkFromAny_isSome_iff {reply : Nat → String → Option Bytes}
    {addresses : List String} :
    (getChunkFromAny reply addresses).isSome = true ↔
      ∃ position address, addresses[position]? = some address ∧
        (reply position address).isSome = true := by
  rw [getChunkFromAny, List.findSome?_isSome_iff]
  constructor
  · rintro ⟨⟨address, position⟩, member, answer⟩
    exact ⟨position, address, List.mk_mem_zipIdx_iff_getElem?.mp member, answer⟩
  · rintro ⟨position, address, listed, answer⟩
    exact ⟨(address, position), List.mk_mem_zipIdx_iff_getElem?.mpr listed, answer⟩

/-- Whoever answers sends bytes with the hash that was asked for. -/
def ReadEnv.ContentAddressed (env : ReadEnv) (ext : Externals) : Prop :=
  ∀ chunkId position address bytes, env.reply chunkId position address = some bytes →
    chunkId = ext.blake3 bytes

/-- Every node answers with the shard that it keeps. -/
def Cluster.healthy (cluster : Cluster) (fileOrder : RowOrder File)
    (addressOrder : RowOrder String) : ReadEnv :=
  { fileOrder
    addressOrder
    reply := fun chunkId _ address => cluster.chunkAt address chunkId }

section

variable {ext : Externals} {encoder : ErasureEncoder} {cluster : Cluster} {env : ReadEnv}
  {db : Database} {file : File} {data : Bytes}

theorem chunkAt_eq_some {address : String} {chunkId bytes : Bytes}
    (answered : cluster.chunkAt address chunkId = some bytes) :
    ∃ shard ∈ cluster.kept, shard.chunkId = chunkId ∧ shard.data = bytes := by
  obtain ⟨shard, found, rfl⟩ := Option.map_eq_some_iff.mp answered
  have asked : shard.address = address ∧ shard.chunkId = chunkId := by
    simpa using List.find?_some found
  exact ⟨shard, List.mem_of_find?_eq_some found, asked.2, rfl⟩

theorem chunkAt_isSome_iff {address : String} {chunkId : Bytes} :
    (cluster.chunkAt address chunkId).isSome = true ↔
      ∃ shard ∈ cluster.kept, shard.address = address ∧ shard.chunkId = chunkId := by
  rw [Cluster.chunkAt, Option.isSome_map, List.find?_isSome]
  simp

theorem healthy_contentAddressed (wellformed : Wellformed ext encoder cluster)
    (fileOrder : RowOrder File) (addressOrder : RowOrder String) :
    (cluster.healthy fileOrder addressOrder).ContentAddressed ext := by
  intro chunkId position address bytes answered
  obtain ⟨shard, member, rfl, rfl⟩ := chunkAt_eq_some answered
  exact wellformed.content_addressed shard member

/-! ## Rows -/

theorem distinct_positions (unique : db.chunkIds.Nodup)
    (describes : Describes ext encoder db file data) :
    ((db.getFileChunks file.id).map fun row => (row.chunkIndex, row.shardIndex)).Nodup := by
  have rows_unique : ((db.getFileChunks file.id).map Chunk.chunkId).Nodup := by
    refine ((db.getFileChunks_perm file.id).map _).nodup_iff.mpr ?_
    exact unique.sublist (List.filter_sublist.map _)
  -- the position of a row determines its identifier
  refine List.Nodup.of_map
    (fun position => ext.blake3 (shardOf encoder data position.1 position.2)) ?_
  rw [List.map_map]
  refine (List.map_congr_left fun row member => ?_) ▸ rows_unique
  obtain ⟨row_mem, same⟩ := Database.mem_getFileChunks.mp member
  exact (describes.registered row.shardKey (List.mem_map_of_mem row_mem) same).2.2

/-- Answers with the right hash are shards of the object. -/
theorem faithful_of_contentAddressed (injective : Function.Injective ext.blake3)
    (unique : db.chunkIds.Nodup) (describes : Describes ext encoder db file data)
    (addressed : env.ContentAddressed ext) : Faithful env db encoder file data := by
  have registered : ∀ row ∈ db.getFileChunks file.id, row.chunkIndex < chunkCountOf data ∧
      row.shardIndex < TOTAL_SHARDS ∧
        row.chunkId = ext.blake3 (shardOf encoder data row.chunkIndex row.shardIndex) := by
    intro row member
    obtain ⟨row_mem, same⟩ := Database.mem_getFileChunks.mp member
    exact describes.registered row.shardKey (List.mem_map_of_mem row_mem) same
  refine ⟨fun row member => (registered row member).1, fun row member => (registered row member).2.1,
    distinct_positions unique describes, fun row member bytes fetched => ?_⟩
  obtain ⟨position, address, answer⟩ := getChunkFromAny_eq_some fetched
  apply injective
  rw [← addressed _ _ _ _ answer]
  exact (registered row member).2.2

/-- Somebody answers for the shard of a key. -/
def answersKey (env : ReadEnv) (db : Database) (key : ShardKey) : Bool :=
  (getChunkFromAny (env.reply key.chunkId)
    (db.getFileChunkLocations env.addressOrder key.fileId key.chunkId)).isSome

theorem answeredShards_eq (env : ReadEnv) (db : Database) (fileId : Uuid) (chunkIndex : Nat) :
    answeredShards env db fileId chunkIndex =
      db.shardKeys.countP fun key =>
        key.fileId == fileId && (key.chunkIndex == chunkIndex && answersKey env db key) := by
  rw [answeredShards, (db.getFileChunks_perm fileId).countP_eq, List.countP_filter,
    Database.shardKeys, List.countP_map]
  congr 1
  funext row
  exact Bool.and_comm _ _

/-! ## Objects -/

/-- Ten shards of every chunk of an object answer. -/
def Readable (env : ReadEnv) (db : Database) (fileId : Uuid) (data : Bytes) : Prop :=
  data ≠ [] ∧ ∀ chunkIndex < chunkCountOf data,
    DATA_SHARDS ≤ answeredShards env db fileId chunkIndex

theorem getFileData_empty (describes : Describes ext encoder db file []) :
    getFileData env db ext file = .error .noShards := by
  have no_rows : db.getFileChunks file.id = [] := by
    refine List.eq_nil_iff_forall_not_mem.mpr fun row member => ?_
    obtain ⟨row_mem, same⟩ := Database.mem_getFileChunks.mp member
    have inside := (describes.registered row.shardKey (List.mem_map_of_mem row_mem) same).1
    rw [show chunkCountOf [] = 0 from divCeil_zero] at inside
    exact Nat.not_lt_zero _ inside
  unfold getFileData
  rw [no_rows]

/-- What a read of a described file returns. -/
theorem getFileData_eq_ok_iff (lawful : ext.Lawful)
    (built : ErasureEncoder.new ext.reedSolomon = .ok encoder) (gateway : GatewayEncoder encoder)
    (unique : db.chunkIds.Nodup) (describes : Describes ext encoder db file data)
    (addressed : env.ContentAddressed ext) {content : Bytes} :
    getFileData env db ext file = .ok content ↔
      Readable env db file.id data ∧ content = data := by
  have faithful := faithful_of_contentAddressed lawful.blake3_injective unique describes addressed
  by_cases data_ne : data = []
  · subst data_ne
    rw [getFileData_empty describes]
    simp [Readable]
  · by_cases enough : ∀ chunkIndex < chunkCountOf data,
        DATA_SHARDS ≤ answeredShards env db file.id chunkIndex
    · rw [getFileData_ok built gateway describes.shapes data_ne faithful enough]
      constructor
      · rintro ⟨⟩
        exact ⟨⟨data_ne, enough⟩, rfl⟩
      · rintro ⟨-, rfl⟩
        rfl
    · obtain ⟨chunkIndex, inside, short⟩ : ∃ chunkIndex < chunkCountOf data,
          answeredShards env db file.id chunkIndex < DATA_SHARDS := by
        simpa using enough
      obtain ⟨cause, failed⟩ : ∃ cause, getFileData env db ext file = .error cause :=
        getFileData_error (by rwa [describes.shapes.chunkCount_eq]) short
      rw [failed]
      constructor
      · rintro ⟨⟩
      · rintro ⟨readable, -⟩
        exact absurd readable.2 enough

theorem getObject_of_found {bucket key : String}
    (found : db.getFileByPath env.fileOrder (objectPath bucket key) = some file) :
    getObject ext env db bucket key = (getFileData env db ext file).mapError .internal := by
  rw [getObject, found]

theorem getObject_eq_ok_iff {bucket key : String} {content : Bytes} :
    getObject ext env db bucket key = .ok content ↔
      ∃ file, db.getFileByPath env.fileOrder (objectPath bucket key) = some file ∧
        getFileData env db ext file = .ok content := by
  cases found : db.getFileByPath env.fileOrder (objectPath bucket key) with
  | none => simp [getObject, found]
  | some file =>
      rw [getObject_of_found found]
      cases read : getFileData env db ext file with
      | error cause => simp [Except.mapError, read]
      | ok bytes => simp [Except.mapError, read]

/-! ## Growing clusters -/

/-- An online node that has a stored location of a chunk keeps it. -/
def Cluster.Holds (cluster : Cluster) (chunkId : Bytes) : Prop :=
  ∃ node ∈ cluster.db.nodes, node.status = .online ∧ cluster.db.storedOn chunkId node.id ∧
    ∃ shard ∈ cluster.kept, shard.address = node.grpcAddress ∧ shard.chunkId = chunkId

theorem answersKey_iff_holds {key : ShardKey} (registered : key ∈ cluster.db.shardKeys)
    {read : ReadEnv} (truthful : ∀ position address,
      read.reply key.chunkId position address = cluster.chunkAt address key.chunkId) :
    answersKey read cluster.db key = true ↔ cluster.Holds key.chunkId := by
  obtain ⟨row, row_mem, rfl⟩ := List.mem_map.mp registered
  rw [answersKey, getChunkFromAny_isSome_iff]
  constructor
  · rintro ⟨position, address, listed, answer⟩
    obtain ⟨-, node, node_mem, online, rfl, stored⟩ :=
      Database.mem_getFileChunkLocations.mp (List.mem_of_getElem? listed)
    rw [truthful] at answer
    exact ⟨node, node_mem, online, stored, chunkAt_isSome_iff.mp answer⟩
  · rintro ⟨node, node_mem, online, stored, keeps⟩
    have listed : node.grpcAddress ∈ cluster.db.getFileChunkLocations read.addressOrder
        row.shardKey.fileId row.shardKey.chunkId :=
      Database.mem_getFileChunkLocations.mpr
        ⟨⟨row, row_mem, rfl, rfl⟩, node, node_mem, online, rfl, stored⟩
    obtain ⟨position, found⟩ := List.mem_iff_getElem?.mp listed
    refine ⟨position, node.grpcAddress, found, ?_⟩
    rw [truthful]
    exact chunkAt_isSome_iff.mpr keeps

theorem answersKey_healthy_iff {key : ShardKey} (registered : key ∈ cluster.db.shardKeys)
    (fileOrder : RowOrder File) (addressOrder : RowOrder String) :
    answersKey (cluster.healthy fileOrder addressOrder) cluster.db key = true ↔
      cluster.Holds key.chunkId :=
  answersKey_iff_holds registered fun _ _ => rfl

/-- Nodes, stored locations, kept shards and rows of a cluster persist. -/
structure Grows (before after : Cluster) : Prop where
  nodes_eq : after.db.nodes = before.db.nodes
  stored : ∀ {chunkId nodeId}, before.db.storedOn chunkId nodeId →
    after.db.storedOn chunkId nodeId
  kept_subset : before.kept ⊆ after.kept
  keys_prefix : before.db.shardKeys <+: after.db.shardKeys

theorem Grows.holds {before after : Cluster} (grows : Grows before after) {chunkId : Bytes}
    (holds : before.Holds chunkId) : after.Holds chunkId := by
  obtain ⟨node, node_mem, online, stored, shard, shard_mem, rest⟩ := holds
  exact ⟨node, grows.nodes_eq ▸ node_mem, online, grows.stored stored, shard,
    grows.kept_subset shard_mem, rest⟩

/-- What is readable in a healthy cluster stays readable when the cluster grows. -/
theorem Grows.readable {before after : Cluster} (grows : Grows before after)
    {fileOrder fileOrder' : RowOrder File} {addressOrder addressOrder' : RowOrder String}
    {fileId : Uuid} (readable : Readable (before.healthy fileOrder addressOrder) before.db fileId data) :
    Readable (after.healthy fileOrder' addressOrder') after.db fileId data := by
  refine ⟨readable.1, fun chunkIndex inside => (readable.2 chunkIndex inside).trans ?_⟩
  rw [answeredShards_eq, answeredShards_eq]
  refine le_trans ?_ grows.keys_prefix.sublist.countP_le
  refine List.countP_mono_left fun key registered answered => ?_
  simp only [Bool.and_eq_true] at answered ⊢
  refine ⟨answered.1, answered.2.1, ?_⟩
  rw [answersKey_healthy_iff registered] at answered
  rw [answersKey_healthy_iff (grows.keys_prefix.subset registered)]
  exact grows.holds answered.2.2

theorem Describes.unique (injective : Function.Injective ext.blake3) {db' : Database}
    {data' : Bytes} (describes : Describes ext encoder db file data)
    (describes' : Describes ext encoder db' file data') : data = data' :=
  injective (describes.contentHash_eq.symm.trans describes'.contentHash_eq)

theorem mem_files_of_found {order : RowOrder File} {path : String}
    (found : db.getFileByPath order path = some file) :
    file ∈ db.files ∧ file.path = path ∧ file.isLive = true := by
  simpa [Database.liveFilesAt] using RowOrder.mem_of_fetchOptional found

/-- An object that a healthy cluster returns is still returned when the cluster grows and the live
files with its path stay. -/
theorem Grows.getObject {before after : Cluster} (grows : Grows before after) (lawful : ext.Lawful)
    (built : ErasureEncoder.new ext.reedSolomon = .ok encoder) (gateway : GatewayEncoder encoder)
    (wellformed : Wellformed ext encoder before) (wellformed' : Wellformed ext encoder after)
    {bucket key : String} (live_eq : after.db.liveFilesAt (objectPath bucket key) =
      before.db.liveFilesAt (objectPath bucket key)) {fileOrder : RowOrder File}
    {addressOrder addressOrder' : RowOrder String} {content : Bytes}
    (returned : Gateway.getObject ext (before.healthy fileOrder addressOrder) before.db bucket key =
      .ok content) :
    Gateway.getObject ext (after.healthy fileOrder addressOrder') after.db bucket key =
      .ok content := by
  obtain ⟨file, found, read⟩ := getObject_eq_ok_iff.mp returned
  have found' : after.db.getFileByPath fileOrder (objectPath bucket key) = some file := by
    rw [Database.getFileByPath, live_eq]
    exact found
  obtain ⟨data, describes⟩ := wellformed.described file (mem_files_of_found found).1
  obtain ⟨data', describes'⟩ := wellformed'.described file (mem_files_of_found found').1
  obtain rfl := describes.unique lawful.blake3_injective describes'
  obtain ⟨readable, rfl⟩ :=
    (getFileData_eq_ok_iff lawful built gateway wellformed.chunks_unique describes
      (healthy_contentAddressed wellformed _ _)).mp read
  refine getObject_eq_ok_iff.mpr ⟨file, found', ?_⟩
  exact (getFileData_eq_ok_iff lawful built gateway wellformed'.chunks_unique describes'
    (healthy_contentAddressed wellformed' _ _)).mpr ⟨grows.readable readable, rfl⟩

theorem Stored.grows_cluster {upload : Upload} {before after : Cluster}
    (stored : Stored upload file before after) : Grows before after where
  nodes_eq := stored.grows.nodes_eq
  stored := stored.grows.stored
  kept_subset := by
    obtain ⟨added, kept_eq, -, -⟩ := stored.keeps
    rw [kept_eq]
    exact List.subset_append_right added before.kept
  keys_prefix := by
    rw [stored.keys_eq]
    exact List.prefix_append _ _

end

end CyxCloud.Gateway
