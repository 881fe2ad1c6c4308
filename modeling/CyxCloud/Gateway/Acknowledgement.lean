import CyxCloud.Gateway.Get
import CyxCloud.Gateway.Reference

/-!
# What the result of a put promises

A put counts the acknowledged shards of all chunks together, so one chunk may fall short of ten
shards when others have more.  And it registers the file before it stores the shards, so a put
that fails later leaves the object in the namespace.
-/

namespace CyxCloud.Gateway

open CyxCloud.Core hiding Chunk
open Library Metadata

/-! ## Success -/

/-- Number of shard indices of a chunk for which some node keeps the shard. -/
def storedShards (cluster : Cluster) (encoder : ErasureEncoder) (data : Bytes) (fileId : Uuid)
    (chunkIndex : Nat) : Nat :=
  (List.range TOTAL_SHARDS).countP fun shardIndex =>
    cluster.kept.any fun shard =>
      shard.metadata.parentId == some fileId && shard.metadata.index == chunkIndex &&
        shard.metadata.shardIndex == some shardIndex &&
          shard.data == shardOf encoder data chunkIndex shardIndex

section

variable {ext : Externals} {encoder : ErasureEncoder} {data : Bytes}

theorem Upload.request_metadata (upload : Upload) {slot : Nat × Nat}
    (inside : slot.2 < TOTAL_SHARDS) (address : String) :
    (upload.request slot address).metadata.parentId = some upload.env.fileId ∧
      (upload.request slot address).metadata.index = slot.1 ∧
      (upload.request slot address).metadata.shardIndex = some slot.2 ∧
      (upload.request slot address).data = shardOf upload.encoder upload.data slot.1 slot.2 := by
  exact ⟨rfl, rfl, congrArg some (toNat_shard_index inside), rfl⟩

/-- A shard that is acknowledged is kept. -/
theorem Stored.kept_of_acknowledged {upload : Upload} {file : File} {before after : Cluster}
    (stored : Stored upload file before after) {slot : Nat × Nat} (member : slot ∈ upload.slots)
    (acknowledged : (upload.acknowledger slot).isSome = true) :
    (after.kept.any fun shard =>
      shard.metadata.parentId == some upload.env.fileId && shard.metadata.index == slot.1 &&
        shard.metadata.shardIndex == some slot.2 &&
          shard.data == shardOf upload.encoder upload.data slot.1 slot.2) = true := by
  obtain ⟨address, acknowledger_eq⟩ := Option.isSome_iff_exists.mp acknowledged
  obtain ⟨added, kept_eq, -, requests⟩ := stored.keeps
  obtain ⟨parent, index, shardIndex, contents⟩ :=
    upload.request_metadata (mem_slotsOf.mp member).2 address
  refine List.any_eq_true.mpr ⟨upload.request slot address, ?_, ?_⟩
  · rw [kept_eq]
    exact List.mem_append_left _ (requests slot member address acknowledger_eq)
  · simp [parent, index, shardIndex, contents]

/-- A put of one chunk that succeeds has ten shards of it stored. -/
theorem storedShards_of_one_chunk (gateway : GatewayEncoder encoder)
    (built : ErasureEncoder.new ext.reedSolomon = .ok encoder) (one : chunkCountOf data = 1)
    {env : PutEnv} {cluster : Cluster} {userId : Uuid} {bucket key contentType etag : String}
    (ok : (putObject ext env cluster userId bucket key data contentType).2 = .ok etag) :
    DATA_SHARDS ≤ storedShards (putObject ext env cluster userId bucket key data contentType).1
      encoder data env.fileId 0 := by
  obtain ⟨nodes, registers, stored, enough, -⟩ := putObject_ok built gateway ok
  have slots_eq : Upload.slots ⟨ext, env, nodes, encoder, data⟩ =
      (List.range TOTAL_SHARDS).map (Prod.mk 0) := by
    rw [← slotsOf_one, ← one]
    rfl
  rw [one, Nat.one_mul, Upload.acknowledged, slots_eq, List.countP_map] at enough
  refine enough.trans (List.countP_mono_left fun shardIndex member acknowledged => ?_)
  have slot_mem : (0, shardIndex) ∈ Upload.slots ⟨ext, env, nodes, encoder, data⟩ := by
    rw [slots_eq]
    exact List.mem_map_of_mem member
  exact stored.kept_of_acknowledged slot_mem acknowledged

/-- The first five shards of the first chunk are refused by every node. -/
def halfHeartedEnv (fileId : Uuid) : PutEnv :=
  { Reference.calmEnv fileId with
    storeReply := fun chunkIndex shardIndex _ =>
      if chunkIndex = 0 ∧ shardIndex < 5 then .refused else .stored }

theorem slotsOf_succ (chunkCount : Nat) :
    slotsOf (chunkCount + 1) = (List.range TOTAL_SHARDS).map (Prod.mk 0) ++
      (List.range chunkCount).flatMap fun chunkIndex =>
        (List.range TOTAL_SHARDS).map (Prod.mk (chunkIndex + 1)) := by
  rw [slotsOf, List.range_succ_eq_map, List.flatMap_cons, List.flatMap_map]

/-- With a second chunk the other shards are enough for success. -/
theorem halfHearted_acknowledged {nodes : List Node}
    (some_decisions : Upload.decisions ⟨ext, halfHeartedEnv 1, nodes, encoder, data⟩ ≠ [])
    {chunkCount : Nat} (count_eq : chunkCountOf data = chunkCount + 2) :
    chunkCountOf data * DATA_SHARDS ≤
      Upload.acknowledged ⟨ext, halfHeartedEnv 1, nodes, encoder, data⟩ := by
  have accepted : ∀ slot ∈ slotsOf (chunkCountOf data), (slot.1 != 0 || decide (5 ≤ slot.2)) = true →
      (Upload.acknowledger ⟨ext, halfHeartedEnv 1, nodes, encoder, data⟩ slot).isSome = true := by
    intro slot member apart
    refine Upload.acknowledger_of_stored some_decisions (mem_slotsOf.mp member).2 (if_neg ?_)
    rintro ⟨first, early⟩
    simp [first] at apart
    omega
  have others : ((List.range (chunkCount + 1)).flatMap fun chunkIndex =>
      (List.range TOTAL_SHARDS).map (Prod.mk (chunkIndex + 1))).countP
        (fun slot => slot.1 != 0 || decide (5 ≤ slot.2)) = (chunkCount + 1) * TOTAL_SHARDS := by
    rw [List.countP_eq_length.mpr]
    · simp
    · intro slot member
      obtain ⟨chunkIndex, -, inner⟩ := List.mem_flatMap.mp member
      obtain ⟨shardIndex, -, rfl⟩ := List.mem_map.mp inner
      simp
  have first : ((List.range TOTAL_SHARDS).map (Prod.mk 0)).countP
      (fun slot => slot.1 != 0 || decide (5 ≤ slot.2)) = 9 := by decide
  calc
    chunkCountOf data * DATA_SHARDS = (chunkCount + 2) * 10 := by rw [count_eq]; rfl
    _ ≤ 9 + (chunkCount + 1) * 14 := by omega
    _ = (slotsOf (chunkCountOf data)).countP
        (fun slot => slot.1 != 0 || decide (5 ≤ slot.2)) := by
      rw [count_eq, slotsOf_succ, List.countP_append, first, others]
      rfl
    _ ≤ Upload.acknowledged ⟨ext, halfHeartedEnv 1, nodes, encoder, data⟩ :=
      List.countP_mono_left accepted

/-- Such a put succeeds with nine shards of the first chunk. -/
theorem halfHearted_put (gateway : GatewayEncoder encoder)
    (built : ErasureEncoder.new ext.reedSolomon = .ok encoder)
    (long : DEFAULT_CHUNK_SIZE < data.length) (userId : Uuid) :
    let outcome := putObject ext (halfHeartedEnv 1) Reference.emptyCluster userId "photos" "cat" data
      "image/png"
    outcome.2 = .ok (hexEncode (ext.blake3 data)) ∧
      storedShards outcome.1 encoder data 1 0 < DATA_SHARDS := by
  obtain ⟨chunkCount, count_eq⟩ : ∃ chunkCount, chunkCountOf data = chunkCount + 2 := by
    have enough := le_divCeil_mul data.length chunkSize_positive
    refine Nat.exists_eq_add_of_le' (Nat.lt_of_not_ge fun few => ?_)
    have product : chunkCountOf data * DEFAULT_CHUNK_SIZE ≤ 1 * DEFAULT_CHUNK_SIZE :=
      Nat.mul_le_mul_right _ few
    rw [chunkCountOf] at product
    omega
  have registers : Registers ext (halfHeartedEnv 1) "photos" "cat" "image/png"
      Reference.emptyCluster.db [Reference.storageNode] encoder :=
    Reference.registers built rfl rfl rfl rfl rfl rfl rfl
  obtain ⟨stored, result⟩ := putObject_stored gateway registers
  have enough := halfHearted_acknowledged
    (Reference.decisions_ne_nil ext encoder (halfHeartedEnv 1) data) count_eq
  refine ⟨?_, ?_⟩
  · rw [result, if_neg (Nat.not_lt.mpr enough)]
  · have late : ∀ shardIndex ∈ List.range TOTAL_SHARDS, (fun shardIndex => (putObject ext
        (halfHeartedEnv 1) Reference.emptyCluster userId "photos" "cat" data "image/png").1.kept.any
          fun shard => shard.metadata.parentId == some 1 && shard.metadata.index == 0 &&
            shard.metadata.shardIndex == some shardIndex &&
              shard.data == shardOf encoder data 0 shardIndex) shardIndex = true →
        decide (5 ≤ shardIndex) = true := by
      intro shardIndex _ kept
      obtain ⟨shard, member, asked⟩ := List.any_eq_true.mp kept
      obtain ⟨added, kept_eq, requests, -⟩ := stored.keeps
      rw [kept_eq, show Reference.emptyCluster.kept = [] from rfl, List.append_nil] at member
      obtain ⟨slot, slot_mem, address, rfl, attempt, answered⟩ := requests shard member
      obtain ⟨-, index_eq, shardIndex_eq, -⟩ := Upload.request_metadata
        ⟨ext, halfHeartedEnv 1, [Reference.storageNode], encoder, data⟩ (mem_slotsOf.mp slot_mem).2
        address
      simp only [index_eq, shardIndex_eq, Bool.and_eq_true, beq_iff_eq, Option.some.injEq] at asked
      obtain ⟨⟨⟨-, first⟩, rfl⟩, -⟩ := asked
      refine decide_eq_true (Nat.le_of_not_lt fun early => answered ?_)
      exact if_pos ⟨first, early⟩
    calc
      storedShards _ encoder data 1 0 ≤
          (List.range TOTAL_SHARDS).countP fun shardIndex => decide (5 ≤ shardIndex) :=
        List.countP_mono_left late
      _ < DATA_SHARDS := by decide

/-- Whether every successful put of an object has ten shards of every chunk stored: exactly for
objects of one chunk. -/
theorem acknowledged_put_durable_iff (lawful : ext.Lawful)
    (built : ErasureEncoder.new ext.reedSolomon = .ok encoder) (data_ne : data ≠ []) :
    (∀ env cluster userId bucket key contentType etag,
      (putObject ext env cluster userId bucket key data contentType).2 = .ok etag →
        ∀ chunkIndex < chunkCountOf data,
          DATA_SHARDS ≤ storedShards
            (putObject ext env cluster userId bucket key data contentType).1 encoder data env.fileId
            chunkIndex) ↔
      data.length ≤ DEFAULT_CHUNK_SIZE := by
  have gateway := gatewayEncoder_of_new lawful built
  constructor
  · intro durable
    by_contra long
    obtain ⟨ok, short⟩ := halfHearted_put gateway built (Nat.lt_of_not_ge long) 7
    have positive := divCeil_positive chunkSize_positive (List.length_pos_iff.mpr data_ne)
    exact absurd short (Nat.not_lt.mpr (durable _ _ _ _ _ _ _ ok 0 positive))
  · intro small env cluster userId bucket key contentType etag ok chunkIndex inside
    have one := chunkCountOf_eq_one data_ne small
    obtain rfl : chunkIndex = 0 := by omega
    exact storedShards_of_one_chunk gateway built one ok

/-- The ten digits are safe. -/
theorem acknowledged_put_durable_ten_digits :
    DATA_SHARDS ≤ storedShards
      (putObject Reference.externals (Reference.calmEnv 1) Reference.emptyCluster 7 "photos" "cat"
        Reference.tenDigits "image/png").1 Reference.encoder Reference.tenDigits 1 0 :=
  (acknowledged_put_durable_iff Reference.externals_lawful Reference.encoder_built
    (by decide)).mpr (by decide) (Reference.calmEnv 1) Reference.emptyCluster 7 "photos" "cat"
    "image/png" _ (Reference.first_put_ok 1 Reference.tenDigits) 0
    (by rw [Reference.chunkCountOf_tenDigits]; decide)

/-- One byte more than a chunk. -/
def overlong : Bytes := (List.range (DEFAULT_CHUNK_SIZE + 1)).map UInt8.ofNat

theorem length_overlong : overlong.length = DEFAULT_CHUNK_SIZE + 1 := by
  rw [overlong, List.length_map, List.length_range]

/-- An object of one byte more than a chunk is acknowledged with nine shards of its first chunk. -/
theorem acknowledged_put_short_of_shards :
    (putObject Reference.externals (halfHeartedEnv 1) Reference.emptyCluster 7 "photos" "cat"
        overlong "image/png").2 = .ok (hexEncode (Reference.externals.blake3 overlong)) ∧
      0 < chunkCountOf overlong ∧
      storedShards
        (putObject Reference.externals (halfHeartedEnv 1) Reference.emptyCluster 7 "photos" "cat"
          overlong "image/png").1 Reference.encoder overlong 1 0 < DATA_SHARDS := by
  have long : DEFAULT_CHUNK_SIZE < overlong.length := by
    rw [length_overlong]
    exact Nat.lt_succ_self _
  obtain ⟨ok, short⟩ := halfHearted_put Reference.encoder_gateway Reference.encoder_built long 7
  refine ⟨ok, ?_, short⟩
  rw [chunkCountOf]
  exact divCeil_positive chunkSize_positive ((Nat.zero_le _).trans_lt long)

/-! ## Failure -/

/-- No reader of the namespace sees a difference. -/
structure NamespaceIntact (ext : Externals) (before after : Cluster) : Prop where
  metadata : ∀ fileOrder bucket key, getObjectMetadata fileOrder after.db bucket key =
    getObjectMetadata fileOrder before.db bucket key
  listing : ∀ fileOrder bucket pathPrefix maxKeys,
    listObjects fileOrder after.db bucket pathPrefix maxKeys =
      listObjects fileOrder before.db bucket pathPrefix maxKeys
  objects : ∀ env bucket key, getObject ext env after.db bucket key =
    getObject ext env before.db bucket key

/-- The pattern of an empty prefix matches every text. -/
theorem sqlLike_percent (text : List Char) : Database.sqlLike ['%'] text = true := by
  refine List.any_eq_true.mpr ⟨[], ?_, rfl⟩
  exact (List.mem_tails _ _).mpr List.nil_suffix

/-- Number of files that a complete listing of a bucket shows. -/
def listedFiles (db : Database) (bucket : String) : Nat :=
  (db.files.filter fun file =>
    file.bucket == some bucket && Database.sqlLike (("" : String).toList ++ ['%']) file.path.toList &&
      file.isLive).length

theorem length_listObjects (db : Database) {bucket : String}
    (text : Database.isText bucket = true) (limit : Nat) :
    ∃ objects flag, listObjects .insertion db bucket "" limit = .ok (objects, flag) ∧
      objects.length = min limit (listedFiles db bucket) := by
  have files : db.listFilesInBucket .insertion bucket "" limit =
      .ok (db.matchingFiles .insertion bucket "" limit) := by
    have plain : Database.isText "" = true := rfl
    simp [Database.listFilesInBucket, text, plain]
  refine ⟨_, _, by rw [listObjects, files], ?_⟩
  simp [Database.matchingFiles, listedFiles, RowOrder.insertion]

/-- A new live file shows in a complete listing of its bucket. -/
theorem listedFiles_append {before after : Database} {file : File} {bucket : String}
    (files_eq : after.files = before.files ++ [file]) (bucket_eq : file.bucket = some bucket)
    (live : file.isLive = true) : listedFiles after bucket = listedFiles before bucket + 1 := by
  rw [listedFiles, files_eq, List.filter_append, List.length_append, listedFiles]
  simp [bucket_eq, live, sqlLike_percent]

section

variable {env : PutEnv} {cluster : Cluster} {userId : Uuid} {bucket key contentType : String}

/-- The file that a put inserts stays, whatever comes after. -/
theorem putObject_files {nodes : List Node}
    (inserts : Inserts ext env bucket key contentType cluster.db nodes encoder) :
    (putObject ext env cluster userId bucket key data contentType).1.db.files =
      cluster.db.files ++ [fileRow ext env userId bucket key data contentType] := by
  rw [putObject_of_inserts inserts]
  split
  · rfl
  · rw [(storeObject_extends _ _ _ _ _ _ _).files_eq]
    rfl

/-- The bucket of a path that the database can hold is one it can be asked for. -/
theorem isText_of_objectPath (text : Database.isText (objectPath bucket key) = true) :
    Database.isText bucket = true := by
  rw [Database.isText, Bool.not_eq_true', List.contains_eq_mem, decide_eq_false_iff_not] at text ⊢
  intro member
  refine text ?_
  rw [objectPath, String.toList_append, String.toList_append]
  exact List.mem_append_left _ (List.mem_append_left _ member)

/-- A put that fails leaves the namespace intact exactly when it fails before it inserts the file,
whether it learns of that or not. -/
theorem failed_put_intact_iff {cause : S3Error}
    (_failed : (putObject ext env cluster userId bucket key data contentType).2 = .error cause) :
    NamespaceIntact ext cluster (putObject ext env cluster userId bucket key data contentType).1 ↔
      ¬∃ nodes encoder, Inserts ext env bucket key contentType cluster.db nodes encoder := by
  constructor
  · rintro intact ⟨nodes, coder, inserts⟩
    have text := isText_of_objectPath inserts.path_text
    have more : listedFiles
        (putObject ext env cluster userId bucket key data contentType).1.db bucket =
          listedFiles cluster.db bucket + 1 :=
      listedFiles_append (putObject_files inserts) rfl rfl
    obtain ⟨earlier, _, earlier_eq, earlier_length⟩ := length_listObjects cluster.db text
      (listedFiles cluster.db bucket + 1)
    obtain ⟨later, _, later_eq, later_length⟩ := length_listObjects
      (putObject ext env cluster userId bucket key data contentType).1.db text
      (listedFiles cluster.db bucket + 1)
    rw [intact.listing, earlier_eq, Except.ok.injEq, Prod.mk.injEq] at later_eq
    rw [← later_eq.1, earlier_length, more] at later_length
    omega
  · intro refused
    obtain ⟨refusal, put_eq⟩ := putObject_of_not_inserts refused
    rw [put_eq]
    exact ⟨fun _ _ _ => rfl, fun _ _ _ _ => rfl, fun _ _ _ => rfl⟩

end

/-- A put into a bucket that does not exist fails and changes nothing. -/
theorem failed_put_intact_missing_bucket :
    NamespaceIntact Reference.externals Reference.emptyCluster
      (putObject Reference.externals (Reference.calmEnv 1) Reference.emptyCluster 7 "videos" "cat"
        Reference.tenDigits "image/png").1 := by
  have failed : (putObject Reference.externals (Reference.calmEnv 1) Reference.emptyCluster 7
      "videos" "cat" Reference.tenDigits "image/png").2 = .error (.noSuchBucket "videos") := rfl
  refine (failed_put_intact_iff failed).mpr ?_
  rintro ⟨nodes, coder, inserts⟩
  exact absurd inserts.bucket_exists (by decide)

/-- Every node refuses every shard. -/
def refusingEnv (fileId : Uuid) : PutEnv :=
  { Reference.calmEnv fileId with storeReply := fun _ _ _ => .refused }

theorem refusing_acknowledged {nodes : List Node} (fileId : Uuid) :
    Upload.acknowledged ⟨ext, refusingEnv fileId, nodes, encoder, data⟩ = 0 := by
  refine List.countP_eq_zero.mpr fun slot member acknowledged => ?_
  obtain ⟨address, acknowledger_eq⟩ := Option.isSome_iff_exists.mp acknowledged
  unfold Upload.acknowledger at acknowledger_eq
  split at acknowledger_eq
  · cases acknowledger_eq
  · rename_i target _ _
    obtain ⟨⟨added, -, -, acknowledged_mem, refused_nil⟩, -⟩ :=
      storeOnNodes_delivered (fun _ => StoreReply.refused)
        (Upload.request ⟨ext, refusingEnv fileId, nodes, encoder, data⟩ slot) target.grpcAddress
        (nodes.map PlacementNode.fromNode) []
    have kept := acknowledged_mem address acknowledger_eq
    rw [refused_nil fun _ => rfl] at kept
    cases kept

/-- A put of a new key that fails because every node refuses its shards makes the key exist. -/
theorem failed_put_leaves_object :
    (putObject Reference.externals (refusingEnv 1) Reference.emptyCluster 7 "photos" "cat"
        Reference.tenDigits "image/png").2 = .error (.internal (.insufficientStored 0 10)) ∧
      getObjectMetadata .insertion Reference.emptyCluster.db "photos" "cat" = none ∧
      ((getObjectMetadata .insertion
        (putObject Reference.externals (refusingEnv 1) Reference.emptyCluster 7 "photos" "cat"
          Reference.tenDigits "image/png").1.db "photos" "cat").map ObjectMetadata.size) =
            some 10 := by
  have registers : Registers Reference.externals (refusingEnv 1) "photos" "cat" "image/png"
      Reference.emptyCluster.db [Reference.storageNode] Reference.encoder :=
    Reference.registers Reference.encoder_built rfl rfl rfl rfl rfl rfl rfl
  obtain ⟨stored, result⟩ := putObject_stored Reference.encoder_gateway registers
  refine ⟨?_, rfl, ?_⟩
  · rw [result, refusing_acknowledged, Reference.chunkCountOf_tenDigits]
    rfl
  · rw [getObjectMetadata, Database.getFileByPath, Database.liveFilesAt,
      putObject_files registers.toInserts]
    decide

end

end CyxCloud.Gateway
