import CyxCloud.Gateway.Degraded
import CyxCloud.Gateway.Memory

/-!
# Overwriting and deleting an object

The table of files does not declare paths unique: a put of a key that has a live file adds a second
one, a lookup takes whichever of them the query delivers first, and a delete marks only that one.
Answers follow the latest call on a key as long as the key is put only while it has no live file.
The gateway in memory mode replaces the entry of a key.
-/

namespace CyxCloud.Gateway

open CyxCloud.Core hiding Chunk
open Library Metadata

/-! ## The two modes side by side -/

/-- Bucket and key of a call. -/
def ObjectOp.target : ObjectOp → String × String
  | .put _ _ bucket key _ _ => (bucket, key)
  | .delete _ _ bucket key => (bucket, key)

/-- What the latest call on a key leaves there: data and content type, or nothing. -/
def ObjectOp.outcome : ObjectOp → Option (Bytes × String)
  | .put _ _ _ _ data contentType => some (data, contentType)
  | .delete _ _ _ _ => none

/-- The store that a call leaves behind in memory mode. -/
def ObjectOp.applyMemory (md5 : Bytes → String) (store : MemoryStore) : ObjectOp → MemoryStore
  | .put env _ bucket key data contentType =>
      (store.putObject md5 env.now bucket key data contentType).1
  | .delete _ _ bucket key => (store.deleteObject bucket key).1

/-- The gateway in both modes, with the outcome of the latest call on one key. -/
structure TwoModes where
  cluster : Cluster
  memory : MemoryStore
  latest : Option (Bytes × String)

section

variable (ext : Externals) (md5 : Bytes → String) (bucket key : String)

/-- Both modes serve the same call. -/
def TwoModes.apply (modes : TwoModes) (op : ObjectOp) : TwoModes :=
  { cluster := op.apply ext modes.cluster
    memory := op.applyMemory md5 modes.memory
    latest := if op.target = (bucket, key) then op.outcome else modes.latest }

/-- Nothing is stored yet, and the bucket exists in memory mode. -/
structure TwoModes.Fresh (modes : TwoModes) : Prop where
  cluster : Gateway.Fresh modes.cluster
  memory : ∃ state, modes.memory.memoryBuckets bucket = some state ∧ state.objects key = none
  latest : modes.latest = none

/-- Both modes answer for the key as its latest call demands, whatever rows the queries of the
metadata mode deliver first. -/
structure TwoModes.AnswersLatest (modes : TwoModes) : Prop where
  metadata : ∀ fileOrder,
    (getObjectMetadata fileOrder modes.cluster.db bucket key).map
        (fun object => (object.size, object.contentType, object.etag)) =
      modes.latest.map fun put => (put.1.length, put.2, hexEncode (ext.blake3 put.1))
  content : ∀ fileOrder addressOrder,
    getObject ext (modes.cluster.healthy fileOrder addressOrder) modes.cluster.db bucket key =
      match modes.latest with
      | none => .error (.noSuchKey key)
      | some put => .ok put.1
  memoryMetadata :
    (modes.memory.getObjectMetadata bucket key).map (Option.map ObjectMetadata.size) =
      .ok (modes.latest.map fun put => put.1.length)
  memoryContent :
    modes.memory.getObject bucket key =
      match modes.latest with
      | none => .error (.noSuchKey key)
      | some put => .ok put.1

/-- A call on the key succeeds in metadata mode; deletes always do. -/
def TwoModes.Succeeds (modes : TwoModes) : ObjectOp → Prop
  | .put env userId bucket' key' data contentType =>
      (bucket', key') = (bucket, key) →
        ∃ etag, (putObject ext env modes.cluster userId bucket key data contentType).2 = .ok etag
  | .delete _ _ _ _ => True

end

/-- Number of shards of a chunk that an upload leaves with a row and a location: a node
acknowledges the shard, no row has its contents, and the statements for both are answered. -/
def Upload.lasting (upload : Upload) (taken : List Bytes) (chunkIndex : Nat) : Nat :=
  (upload.accepted taken upload.slots).countP fun slot =>
    slot.1 == chunkIndex && (upload.env.recordLocation slot.1 slot.2).upsert

section

variable (ext : Externals) (encoder : ErasureEncoder) (bucket key : String)

/-- A put of a key without a live file that leaves ten shards of every chunk with row and location,
through nodes that are online, of an object that memory mode has room for. -/
structure LastingPut (modes : TwoModes) (env : PutEnv) (data : Bytes) : Prop where
  no_live : modes.cluster.db.liveFilesAt (objectPath bucket key) = []
  data_ne : data ≠ []
  room : modes.memory.memoryBytesUsed + data.length ≤ MAX_MEMORY_BYTES
  current : env.Current modes.cluster.db
  lasting : ∀ nodes, getOnlineNodes env modes.cluster.db = .ok nodes →
    ∀ chunkIndex < chunkCountOf data, DATA_SHARDS ≤
      Upload.lasting ⟨ext, env, nodes, encoder, data⟩ modes.cluster.db.chunkIds chunkIndex

/-- The condition on a call: puts of the key are lasting, and calls on other keys have other
paths. -/
def TwoModes.Separate (modes : TwoModes) (op : ObjectOp) : Prop :=
  if op.target = (bucket, key) then
    match op with
    | .put env _ _ _ data _ => LastingPut ext encoder bucket key modes env data
    | .delete _ _ _ _ => True
  else
    objectPath op.target.1 op.target.2 ≠ objectPath bucket key

end

/-! ## The invariant -/

section

variable (ext : Externals) (encoder : ErasureEncoder) (bucket key : String)

/-- A file is the only live one at the path of a key, and its object can be read. -/
structure OnlyFile (cluster : Cluster) (data : Bytes) (contentType : String) (file : File) :
    Prop where
  live_eq : cluster.db.liveFilesAt (objectPath bucket key) = [file]
  describes : Describes ext encoder cluster.db file data
  contentType_eq : file.contentType = some contentType
  readable : ∀ fileOrder addressOrder,
    Readable (cluster.healthy fileOrder addressOrder) cluster.db file.id data

/-- The live files at the path of a key and its entry in memory are those of its latest call. -/
structure TwoModes.Tracks (modes : TwoModes) : Prop where
  wellformed : Wellformed ext encoder modes.cluster
  absent : modes.latest = none → modes.cluster.db.liveFilesAt (objectPath bucket key) = []
  present : ∀ data contentType, modes.latest = some (data, contentType) →
    ∃ file, OnlyFile ext encoder bucket key modes.cluster data contentType file
  bucket_exists : (modes.memory.memoryBuckets bucket).isSome = true
  remembered : (modes.memory.object? bucket key).map (fun object => object.data) =
    modes.latest.map Prod.fst

end

section

variable {ext : Externals} {encoder : ErasureEncoder} {md5 : Bytes → String}
  {bucket key : String} {modes : TwoModes}

theorem TwoModes.Fresh.tracks (fresh : modes.Fresh bucket key) :
    modes.Tracks ext encoder bucket key := by
  obtain ⟨state, found, missing⟩ := fresh.memory
  refine ⟨wellformed_of_fresh fresh.cluster, fun _ => ?_, fun data contentType put => ?_, ?_, ?_⟩
  · simp [Database.liveFilesAt, fresh.cluster.files_nil]
  · rw [fresh.latest] at put
    cases put
  · simp [found]
  · simp [fresh.latest, MemoryStore.object?_of_bucket found, missing]

/-- The invariant gives the answers. -/
theorem TwoModes.Tracks.answers (lawful : ext.Lawful)
    (built : ErasureEncoder.new ext.reedSolomon = .ok encoder) (gateway : GatewayEncoder encoder)
    (tracks : modes.Tracks ext encoder bucket key) : modes.AnswersLatest ext bucket key := by
  obtain ⟨state, found⟩ := Option.isSome_iff_exists.mp tracks.bucket_exists
  have remembered := tracks.remembered
  rw [MemoryStore.object?_of_bucket found] at remembered
  cases latest_eq : modes.latest with
  | none =>
      have missing : ∀ order, modes.cluster.db.getFileByPath order (objectPath bucket key) = none := by
        intro order
        rw [Database.getFileByPath, tracks.absent latest_eq]
        exact order.fetchOptional_nil
      rw [latest_eq, Option.map_none, Option.map_eq_none_iff] at remembered
      refine ⟨fun order => ?_, fun fileOrder addressOrder => ?_, ?_, ?_⟩
      · simp [getObjectMetadata, missing, latest_eq]
      · simp [getObject, missing, latest_eq]
      · simp [MemoryStore.getObjectMetadata, found, remembered, latest_eq, Except.map]
      · simp [MemoryStore.getObject, found, remembered, latest_eq]
  | some put =>
      obtain ⟨data, contentType⟩ := put
      obtain ⟨file, only⟩ := tracks.present data contentType latest_eq
      have stored : ∀ order,
          modes.cluster.db.getFileByPath order (objectPath bucket key) = some file := by
        intro order
        rw [Database.getFileByPath, only.live_eq]
        exact order.fetchOptional_singleton file
      rw [latest_eq, Option.map_some, Option.map_eq_some_iff] at remembered
      obtain ⟨object, object_eq, data_eq⟩ := remembered
      refine ⟨fun order => ?_, fun fileOrder addressOrder => ?_, ?_, ?_⟩
      · simp [getObjectMetadata, stored, latest_eq, only.describes.shapes.sizeBytes_eq,
          only.contentType_eq, only.describes.contentHash_eq]
      · rw [latest_eq]
        refine getObject_eq_ok_iff.mpr ⟨file, stored fileOrder, ?_⟩
        exact (getFileData_eq_ok_iff lawful built gateway tracks.wellformed.chunks_unique
          only.describes (healthy_contentAddressed tracks.wellformed _ _)).mpr
            ⟨only.readable _ _, rfl⟩
      · simp [MemoryStore.getObjectMetadata, found, object_eq, data_eq, latest_eq, Except.map]
      · simp [MemoryStore.getObject, found, object_eq, data_eq, latest_eq]

/-! ## Steps in memory mode -/

theorem ObjectOp.applyMemory_bucket (store : MemoryStore) (op : ObjectOp) (bucket : String) :
    ((op.applyMemory md5 store).memoryBuckets bucket).isSome =
      (store.memoryBuckets bucket).isSome := by
  cases op with
  | put env userId bucket' key' data contentType =>
      rcases store.putObject_cases md5 env.now data contentType bucket' key' with
        same | ⟨state, object, used, found, set_eq⟩
      · rw [applyMemory, same]
      · rw [applyMemory, set_eq, MemoryStore.isSome_setObject found]
  | delete fileOrder now bucket' key' =>
      rcases (store.deleteObject_cases bucket' key').2 with
        same | ⟨state, object, used, found, set_eq⟩
      · rw [applyMemory, same]
      · rw [applyMemory, set_eq, MemoryStore.isSome_setObject found]

/-- A call on another key leaves an entry as it is. -/
theorem ObjectOp.applyMemory_other {store : MemoryStore} {op : ObjectOp}
    (other : op.target ≠ (bucket, key)) :
    (op.applyMemory md5 store).object? bucket key = store.object? bucket key := by
  cases op with
  | put env userId bucket' key' data contentType =>
      rcases store.putObject_cases md5 env.now data contentType bucket' key' with
        same | ⟨state, object, used, found, set_eq⟩
      · rw [applyMemory, same]
      · rw [applyMemory, set_eq, MemoryStore.object?_setObject_other found _ _ (Ne.symm other)]
  | delete fileOrder now bucket' key' =>
      rcases (store.deleteObject_cases bucket' key').2 with
        same | ⟨state, object, used, found, set_eq⟩
      · rw [applyMemory, same]
      · rw [applyMemory, set_eq, MemoryStore.object?_setObject_other found _ _ (Ne.symm other)]

/-! ## Steps in metadata mode -/

section Metadata

variable {cluster : Cluster}

/-- A soft delete takes a file out of the live ones. -/
theorem liveFilesAt_deleteFile (db : Database) (fileId : Uuid) (now : Time) (path : String) :
    (db.deleteFile fileId now).liveFilesAt path =
      (db.liveFilesAt path).filter fun file => file.id != fileId := by
  simp only [Database.liveFilesAt, Database.deleteFile]
  induction db.files with
  | nil => rfl
  | cons file files induction =>
      rw [List.map_cons, List.filter_cons, List.filter_cons, induction]
      by_cases same : file.id = fileId
      · cases live : file.path == path && file.isLive <;> simp [same, File.isLive]
      · cases live : file.path == path && file.isLive <;> simp [same, live]

/-- A delete leaves the live files at other paths. -/
theorem liveFilesAt_deleteObject_other (unique : (cluster.db.files.map File.id).Nodup)
    (fileOrder : RowOrder File) (now : Time) {bucket' key' path : String}
    (other : objectPath bucket' key' ≠ path) :
    (deleteObject fileOrder now cluster bucket' key').db.liveFilesAt path =
      cluster.db.liveFilesAt path := by
  unfold deleteObject
  split
  · rfl
  · rename_i target found
    obtain ⟨target_mem, target_path, -⟩ := mem_files_of_found found
    rw [liveFilesAt_deleteFile, List.filter_eq_self]
    intro file live
    have file_path : file ∈ cluster.db.files ∧ file.path = path := by
      simp only [Database.liveFilesAt, List.mem_filter, Bool.and_eq_true, beq_iff_eq] at live
      exact ⟨live.1, live.2.1⟩
    refine bne_iff_ne.mpr fun same => other ?_
    rw [← target_path, ← file_path.2, List.inj_on_of_nodup_map unique file_path.1 target_mem same]

/-- A delete of the only live file at a path leaves none. -/
theorem liveFilesAt_deleteObject_same (fileOrder : RowOrder File) (now : Time) {file : File}
    (only : cluster.db.liveFilesAt (objectPath bucket key) = [file]) :
    (deleteObject fileOrder now cluster bucket key).db.liveFilesAt (objectPath bucket key) = [] := by
  have found : cluster.db.getFileByPath fileOrder (objectPath bucket key) = some file := by
    rw [Database.getFileByPath, only]
    exact fileOrder.fetchOptional_singleton file
  rw [deleteObject, found]
  simp only [liveFilesAt_deleteFile, only]
  simp

theorem deleteObject_of_no_live (fileOrder : RowOrder File) (now : Time)
    (no_live : cluster.db.liveFilesAt (objectPath bucket key) = []) :
    deleteObject fileOrder now cluster bucket key = cluster := by
  rw [deleteObject, Database.getFileByPath, no_live, fileOrder.fetchOptional_nil]

theorem deleteObject_grows (fileOrder : RowOrder File) (now : Time) (bucket' key' : String) :
    Grows cluster (deleteObject fileOrder now cluster bucket' key') := by
  unfold deleteObject
  split
  · exact ⟨rfl, fun stored => stored, List.Subset.refl _, List.prefix_refl _⟩
  · exact ⟨rfl, fun stored => stored, List.Subset.refl _, List.prefix_refl _⟩

/-- A call on another path leaves the live files and what they need. -/
theorem ObjectOp.apply_other (built : ErasureEncoder.new ext.reedSolomon = .ok encoder)
    (gateway : GatewayEncoder encoder) (wellformed : Wellformed ext encoder cluster) {op : ObjectOp}
    {path : String} (other : objectPath op.target.1 op.target.2 ≠ path) :
    Grows cluster (op.apply ext cluster) ∧
      (op.apply ext cluster).db.liveFilesAt path = cluster.db.liveFilesAt path := by
  cases op with
  | put env userId bucket' key' data contentType =>
      rcases putObject_cases built gateway env cluster userId bucket' key' data contentType with
        ⟨cause, put_eq⟩ | ⟨-, nodes, stored⟩
      · rw [ObjectOp.apply, put_eq]
        exact ⟨⟨rfl, fun stored => stored, List.Subset.refl _, List.prefix_refl _⟩, rfl⟩
      · exact ⟨stored.grows_cluster, stored.liveFilesAt_other other⟩
  | delete fileOrder now bucket' key' =>
      exact ⟨deleteObject_grows fileOrder now bucket' key',
        liveFilesAt_deleteObject_other wellformed.files_unique fileOrder now other⟩

theorem OnlyFile.grows {before after : Cluster} {data : Bytes} {contentType : String} {file : File}
    (lawful : ext.Lawful) (only : OnlyFile ext encoder bucket key before data contentType file)
    (grows : Grows before after) (wellformed : Wellformed ext encoder after)
    (live_eq : after.db.liveFilesAt (objectPath bucket key) =
      before.db.liveFilesAt (objectPath bucket key)) :
    OnlyFile ext encoder bucket key after data contentType file := by
  have only_after := live_eq.trans only.live_eq
  have member : file ∈ after.db.files := by
    have live : file ∈ after.db.liveFilesAt (objectPath bucket key) := by
      rw [only_after]
      exact List.mem_singleton_self file
    exact List.mem_of_mem_filter live
  obtain ⟨data', describes⟩ := wellformed.described file member
  obtain rfl := only.describes.unique lawful.blake3_injective describes
  exact
    { live_eq := only_after
      describes
      contentType_eq := only.contentType_eq
      readable := fun fileOrder addressOrder => grows.readable (only.readable fileOrder addressOrder) }

/-- A lasting put that succeeds leaves one live file, whose object can be read. -/
theorem onlyFile_put (lawful : ext.Lawful)
    (built : ErasureEncoder.new ext.reedSolomon = .ok encoder) (gateway : GatewayEncoder encoder)
    (wellformed : Wellformed ext encoder modes.cluster) {env : PutEnv} {userId : Uuid}
    {data : Bytes} {contentType etag : String}
    (lasts : LastingPut ext encoder bucket key modes env data)
    (ok : (putObject ext env modes.cluster userId bucket key data contentType).2 = .ok etag) :
    OnlyFile ext encoder bucket key
      (putObject ext env modes.cluster userId bucket key data contentType).1 data contentType
      (fileRow ext env userId bucket key data contentType) := by
  obtain ⟨nodes, registers, stored, -, -⟩ := putObject_ok built gateway ok
  have wellformed' : Wellformed ext encoder
      (putObject ext env modes.cluster userId bucket key data contentType).1 :=
    wellformed_put built gateway wellformed env userId bucket key data contentType
  have live_eq := stored.liveFilesAt_same rfl
  rw [show (fileRow ext env userId bucket key data contentType).path = objectPath bucket key from rfl,
    lasts.no_live, List.nil_append] at live_eq
  have member : fileRow ext env userId bucket key data contentType ∈
      (putObject ext env modes.cluster userId bucket key data contentType).1.db.files := by
    rw [stored.grows.files_eq]
    exact List.mem_append_right _ (List.mem_singleton_self _)
  refine ⟨live_eq, describes_put lawful wellformed' member, rfl, fun fileOrder addressOrder =>
    ⟨lasts.data_ne, fun chunkIndex inside => ?_⟩⟩
  refine (lasts.lasting nodes registers.nodes_eq chunkIndex inside).trans ?_
  refine le_of_le_of_eq ?_ (stored.answeredShards_eq (wellformed.free_keys registers.fresh_id) _
    chunkIndex).symm
  -- a shard with row and location answers
  refine List.countP_mono_left fun slot accepted lasting => ?_
  simp only [Bool.and_eq_true] at lasting ⊢
  refine ⟨lasting.1, (answersKey_healthy_iff (stored.mem_keys.mpr (.inr ⟨slot, accepted, rfl⟩))
    fileOrder addressOrder).mpr ?_⟩
  have registered := List.of_mem_filter ((acceptedRows_sublist _ _).subset accepted)
  rw [Upload.registers, Bool.and_eq_true] at registered
  exact stored.holds (fun node => lasts.current.mem_nodes registers.nodes_eq)
    (Upload.mem_slots_of_accepted accepted) registered.1 lasting.2

end Metadata

/-! ## Runs -/

/-- A call that succeeds and meets the condition keeps the invariant. -/
theorem TwoModes.Tracks.apply (lawful : ext.Lawful)
    (built : ErasureEncoder.new ext.reedSolomon = .ok encoder) (gateway : GatewayEncoder encoder)
    (tracks : modes.Tracks ext encoder bucket key) {op : ObjectOp}
    (succeeds : modes.Succeeds ext bucket key op)
    (separate : modes.Separate ext encoder bucket key op) :
    (modes.apply ext md5 bucket key op).Tracks ext encoder bucket key := by
  have wellformed := wellformed_apply built gateway tracks.wellformed op
  have bucket_exists : ((op.applyMemory md5 modes.memory).memoryBuckets bucket).isSome = true := by
    rw [ObjectOp.applyMemory_bucket]
    exact tracks.bucket_exists
  by_cases own : op.target = (bucket, key)
  · unfold Separate at separate
    rw [if_pos own] at separate
    cases op with
    | put env userId bucket' key' data contentType =>
        obtain ⟨rfl, rfl⟩ := Prod.mk.inj own
        obtain ⟨etag, ok⟩ := succeeds rfl
        obtain ⟨state, found⟩ := Option.isSome_iff_exists.mp tracks.bucket_exists
        obtain ⟨used, put_eq⟩ := MemoryStore.putObject_of_room md5 env.now data contentType found
          separate.room key'
        refine ⟨wellformed, fun none_eq => ?_, fun other otherType some_eq => ?_, bucket_exists, ?_⟩
        · simp [TwoModes.apply, ObjectOp.target, ObjectOp.outcome] at none_eq
        · obtain ⟨rfl, rfl⟩ : data = other ∧ contentType = otherType := by
            simpa [TwoModes.apply, ObjectOp.target, ObjectOp.outcome] using some_eq
          exact ⟨_, onlyFile_put lawful built gateway tracks.wellformed separate ok⟩
        · simp [TwoModes.apply, ObjectOp.target, ObjectOp.outcome, ObjectOp.applyMemory, put_eq,
            MemoryStore.object?_setObject_same]
    | delete fileOrder now bucket' key' =>
        obtain ⟨rfl, rfl⟩ := Prod.mk.inj own
        refine ⟨wellformed, fun _ => ?_, fun other otherType some_eq => ?_, bucket_exists, ?_⟩
        · cases latest_eq : modes.latest with
          | none =>
              simp only [TwoModes.apply, ObjectOp.apply]
              rw [deleteObject_of_no_live fileOrder now (tracks.absent latest_eq)]
              exact tracks.absent latest_eq
          | some put =>
              obtain ⟨file, only⟩ := tracks.present put.1 put.2 latest_eq
              exact liveFilesAt_deleteObject_same fileOrder now only.live_eq
        · simp [TwoModes.apply, ObjectOp.target, ObjectOp.outcome] at some_eq
        · simp [TwoModes.apply, ObjectOp.target, ObjectOp.outcome, ObjectOp.applyMemory,
            (modes.memory.deleteObject_cases bucket' key').1]
  · unfold Separate at separate
    rw [if_neg own] at separate
    obtain ⟨grows, live_eq⟩ := ObjectOp.apply_other built gateway tracks.wellformed separate
    have latest_eq : (modes.apply ext md5 bucket key op).latest = modes.latest := if_neg own
    refine ⟨wellformed, ?_, ?_, bucket_exists, ?_⟩
    · rw [latest_eq]
      exact fun none_eq => live_eq.trans (tracks.absent none_eq)
    · rw [latest_eq]
      intro data contentType some_eq
      obtain ⟨file, only⟩ := tracks.present data contentType some_eq
      exact ⟨file, only.grows lawful grows wellformed live_eq⟩
    · rw [latest_eq]
      exact (congrArg _ (ObjectOp.applyMemory_other own)).trans tracks.remembered

/-- In a run of successful calls that meet the condition, both modes answer for the key as its
latest call demands, in every state. -/
theorem latest_call_answered (lawful : ext.Lawful)
    (built : ErasureEncoder.new ext.reedSolomon = .ok encoder) (fresh : modes.Fresh bucket key)
    (ops : List ObjectOp)
    (succeeds : EveryStep (TwoModes.apply ext md5 bucket key)
      (TwoModes.Succeeds ext bucket key) modes ops)
    (separate : EveryStep (TwoModes.apply ext md5 bucket key)
      (TwoModes.Separate ext encoder bucket key) modes ops) :
    EveryState (TwoModes.apply ext md5 bucket key) (TwoModes.AnswersLatest ext bucket key) modes
      ops := by
  have gateway := gatewayEncoder_of_new lawful built
  have tracked : EveryState (TwoModes.apply ext md5 bucket key)
      (TwoModes.Tracks ext encoder bucket key) modes ops :=
    everyState_of_everyStep
      (fun state op tracks met => tracks.apply lawful built gateway met.1 met.2) fresh.tracks
      (succeeds.and separate)
  exact tracked.mono fun reached tracks => tracks.answers lawful built gateway

/-- What an undisturbed put leaves behind are the shards with new contents. -/
theorem lasting_undisturbed {env : PutEnv} {before : Cluster} {userId : Uuid} {data : Bytes}
    {contentType etag : String} (built : ErasureEncoder.new ext.reedSolomon = .ok encoder)
    (gateway : GatewayEncoder encoder) (data_ne : data ≠ []) (undisturbed : env.Undisturbed)
    (current : env.Current before.db)
    (ok : (putObject ext env before userId bucket key data contentType).2 = .ok etag)
    {nodes : List Node} (nodes_eq : getOnlineNodes env before.db = .ok nodes) (chunkIndex : Nat) :
    Upload.lasting ⟨ext, env, nodes, encoder, data⟩ before.db.chunkIds chunkIndex =
      freshShards ext encoder before.db data chunkIndex := by
  obtain ⟨nodes', registers, -, accepted_eq, -⟩ :=
    undisturbed_effect built gateway data_ne undisturbed current ok
  obtain rfl : nodes = nodes' := by
    have same := nodes_eq.symm.trans registers.nodes_eq
    injection same
  rw [Upload.lasting, Upload.slots, accepted_eq, freshShards]
  refine List.countP_congr fun slot _ => ?_
  have located : (env.recordLocation slot.1 slot.2).upsert = true := by
    rw [undisturbed.located]
    rfl
  simp [located]

end

namespace Reference

/-- Both modes with a bucket and nothing stored; objects are printed as an empty digest. -/
def emptyModes : TwoModes :=
  { cluster := emptyCluster
    memory :=
      { memoryBuckets := fun bucket => if bucket = "photos" then some ⟨fun _ => none⟩ else none
        memoryBytesUsed := 0 }
    latest := none }

theorem emptyModes_fresh : emptyModes.Fresh "photos" "cat" :=
  ⟨⟨rfl, rfl, rfl, rfl⟩, ⟨_, rfl, rfl⟩, rfl⟩

/-- Put the ten digits under the key. -/
def putDigits : ObjectOp := .put (calmEnv 1) 7 "photos" "cat" tenDigits "image/png"

theorem putDigits_lasting :
    LastingPut externals encoder "photos" "cat" emptyModes (calmEnv 1) tenDigits where
  no_live := rfl
  data_ne := by decide
  room := by decide
  current := calmEnv_current 1 _
  lasting := by
    intro nodes nodes_eq chunkIndex inside
    have lasting_eq := lasting_undisturbed encoder_built encoder_gateway (by decide)
      (calmEnv_undisturbed 1) (calmEnv_current 1 _) (first_put_ok 1 tenDigits) nodes_eq
      chunkIndex
    rw [chunkCountOf_tenDigits, Nat.lt_one_iff] at inside
    rw [inside, freshShards_tenDigits] at lasting_eq
    rw [inside]
    exact (by decide : DATA_SHARDS ≤ TOTAL_SHARDS).trans_eq lasting_eq.symm

theorem digitsStored_stored :
    Stored ⟨externals, calmEnv 1, [storageNode], encoder, tenDigits⟩
      (fileRow externals (calmEnv 1) 7 "photos" "cat" tenDigits "image/png") emptyCluster
      digitsStored :=
  (putObject_stored encoder_gateway (registers encoder_built rfl rfl rfl rfl rfl rfl rfl)).1

theorem digitsStored_free : digitsStored.db.hasFile 2 = false := by
  rw [Database.hasFile, digitsStored_stored.grows.files_eq]
  rfl

/-- Put a single byte under the same key. -/
def putSeven : ObjectOp := .put (calmEnv 2) 7 "photos" "cat" [7] "image/png"

/-- The byte is acknowledged. -/
theorem sevenOverDigits_ok :
    (putObject externals (calmEnv 2) digitsStored 7 "photos" "cat" [7] "image/png").2 =
      .ok (hexEncode (externals.blake3 [7])) :=
  put_ok digitsStored_stored.grows.buckets_eq digitsStored_stored.grows.nodes_eq
    digitsStored_free [7]

/-- The cluster then has both files, the older one first. -/
theorem sevenOverDigits_found :
    (putObject externals (calmEnv 2) digitsStored 7 "photos" "cat" [7]
        "image/png").1.db.getFileByPath .insertion (objectPath "photos" "cat") =
      some (fileRow externals (calmEnv 1) 7 "photos" "cat" tenDigits "image/png") := by
  obtain ⟨nodes, -, stored, -, -⟩ := putObject_ok encoder_built encoder_gateway sevenOverDigits_ok
  have live_eq := stored.liveFilesAt_same rfl
  have older := digitsStored_stored.liveFilesAt_same rfl
  rw [show (fileRow externals (calmEnv 2) 7 "photos" "cat" [7] "image/png").path =
    (fileRow externals (calmEnv 1) 7 "photos" "cat" tenDigits "image/png").path from rfl,
    older] at live_eq
  rw [Database.getFileByPath]
  exact congrArg RowOrder.insertion.fetchOptional live_eq

end Reference

/-- The ten digits are put and deleted, and both modes answer accordingly. -/
theorem latest_call_answered_put_delete :
    EveryState (TwoModes.apply Reference.externals (fun _ => "") "photos" "cat")
      (TwoModes.AnswersLatest Reference.externals "photos" "cat") Reference.emptyModes
      [Reference.putDigits, .delete .insertion 1 "photos" "cat"] := by
  refine latest_call_answered Reference.externals_lawful Reference.encoder_built
    Reference.emptyModes_fresh _ ⟨fun _ => ⟨_, Reference.first_put_ok 1 _⟩, trivial, trivial⟩
    ⟨?_, ?_, trivial⟩
  · exact Reference.putDigits_lasting
  · trivial

/-- After two acknowledged puts of one key, the metadata mode may describe the older object. -/
theorem overwritten_key_answers_older_put :
    EveryStep (TwoModes.apply Reference.externals (fun _ => "") "photos" "cat")
        (TwoModes.Succeeds Reference.externals "photos" "cat") Reference.emptyModes
        [Reference.putDigits, Reference.putSeven] ∧
      ¬ EveryState (TwoModes.apply Reference.externals (fun _ => "") "photos" "cat")
        (TwoModes.AnswersLatest Reference.externals "photos" "cat") Reference.emptyModes
        [Reference.putDigits, Reference.putSeven] := by
  refine ⟨⟨fun _ => ⟨_, Reference.first_put_ok 1 _⟩,
    fun _ => ⟨_, Reference.sevenOverDigits_ok⟩, trivial⟩, fun every => ?_⟩
  have answers := every.last.metadata .insertion
  have found : (runAll (TwoModes.apply Reference.externals (fun _ => "") "photos" "cat")
      Reference.emptyModes [Reference.putDigits, Reference.putSeven]).cluster.db.getFileByPath
        .insertion (objectPath "photos" "cat") =
          some (fileRow Reference.externals (Reference.calmEnv 1) 7 "photos" "cat"
            Reference.tenDigits "image/png") :=
    Reference.sevenOverDigits_found
  have latest_eq : (runAll (TwoModes.apply Reference.externals (fun _ => "") "photos" "cat")
      Reference.emptyModes [Reference.putDigits, Reference.putSeven]).latest =
        some ([7], "image/png") := rfl
  rw [getObjectMetadata, found, latest_eq, Option.map_some, Option.map_some, Option.map_some,
    Option.some.injEq, Prod.mk.injEq] at answers
  exact absurd answers.1 (by decide)

end CyxCloud.Gateway
