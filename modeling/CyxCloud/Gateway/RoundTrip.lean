import CyxCloud.Gateway.Reads
import CyxCloud.Gateway.Reference

/-!
# Round trip of an object

Shards are registered under the hash of their contents, and the table of shards has one row for
each hash.  A shard whose contents are registered already, for another object or for another place
of the same one, is stored but gets no row of its own, so the read path cannot find it.  An object
comes back exactly when ten shards of every chunk have contents that are new.
-/

namespace CyxCloud.Gateway

open CyxCloud.Core hiding Chunk
open Library Metadata

/-- A state that puts and deletes reach from a cluster that stores nothing. -/
def Reachable (ext : Externals) (cluster : Cluster) : Prop :=
  ∃ start history, Fresh start ∧ cluster = runAll (ObjectOp.apply ext) start history

/-- The nodes that a put works with are online nodes of the table. -/
def PutEnv.Current (env : PutEnv) (db : Database) : Prop :=
  ∀ nodes, env.cachedNodes = some nodes →
    ∀ node ∈ nodes, node ∈ db.nodes ∧ node.status = .online

/-- The identifiers of the shards of an object. -/
def shardIds (ext : Externals) (encoder : ErasureEncoder) (data : Bytes) : List Bytes :=
  (slotsOf (chunkCountOf data)).map fun slot => ext.blake3 (shardOf encoder data slot.1 slot.2)

/-- Number of shards of a chunk whose contents are neither registered nor those of an earlier shard
of the object. -/
def freshShards (ext : Externals) (encoder : ErasureEncoder) (db : Database) (data : Bytes)
    (chunkIndex : Nat) : Nat :=
  (acceptedRows (fun slot => ext.blake3 (shardOf encoder data slot.1 slot.2)) db.chunkIds
    (slotsOf (chunkCountOf data))).countP fun slot => slot.1 == chunkIndex

section

variable {ext : Externals} {encoder : ErasureEncoder} {env : PutEnv} {before : Cluster}

theorem Reachable.wellformed (reachable : Reachable ext before)
    (built : ErasureEncoder.new ext.reedSolomon = .ok encoder) (gateway : GatewayEncoder encoder) :
    Wellformed ext encoder before := by
  obtain ⟨start, history, fresh, rfl⟩ := reachable
  exact wellformed_run built gateway (wellformed_of_fresh fresh) history

theorem PutEnv.Current.mem_nodes {db : Database} (current : env.Current db) {nodes : List Node}
    (answered : getOnlineNodes env db = .ok nodes) {node : Node} (member : node ∈ nodes) :
    node ∈ db.nodes ∧ node.status = .online := by
  unfold getOnlineNodes at answered
  split at answered
  · rename_i cached found
    cases answered
    exact current nodes found node member
  · split at answered
    · cases answered
      have listed := (List.mergeSort_perm _ _).mem_iff.mp member
      simpa using env.nodeOrder.mem_arrange.mp listed
    · cases answered

/-! ## Where the shards of an upload are -/

section Upload

variable {upload : Upload} {file : File} {after : Cluster}

/-- Whoever acknowledges a shard is a node of the list. -/
theorem Upload.acknowledger_node {slot : Nat × Nat} (inside : slot.2 < TOTAL_SHARDS)
    {address : String} (acknowledged : upload.acknowledger slot = some address) :
    ∃ node ∈ upload.nodes, node.grpcAddress = address ∧
      upload.nodes.find? (fun node => node.grpcAddress == address) = some node := by
  have listed : ∃ node ∈ upload.nodes, node.grpcAddress = address := by
    rcases upload.decisions_cases with no_decisions | ⟨-, targets⟩
    · rw [acknowledger_of_no_decisions no_decisions] at acknowledged
      cases acknowledged
    · obtain ⟨target, target_mem, nodes_eq⟩ := targets slot.2 inside
      rw [acknowledger, nodes_eq] at acknowledged
      have delivered := storeOnNodes_delivered (upload.env.storeReply slot.1 slot.2)
        (upload.request slot) (PlacementNode.fromNode target).grpcAddress
        (upload.nodes.map PlacementNode.fromNode) []
      rcases List.mem_cons.mp (delivered.address_mem address acknowledged) with rfl | backup
      · exact ⟨target, target_mem, rfl⟩
      · rw [List.map_map] at backup
        obtain ⟨node, node_mem, rfl⟩ := List.mem_map.mp backup
        exact ⟨node, node_mem, rfl⟩
  cases found : upload.nodes.find? fun node => node.grpcAddress == address with
  | none =>
      obtain ⟨node, node_mem, same⟩ := listed
      exact absurd (List.find?_eq_none.mp found node node_mem) (by simp [same])
  | some node =>
      exact ⟨node, List.mem_of_find?_eq_some found, by simpa using List.find?_some found, rfl⟩

/-- An acknowledged shard whose location reaches the database is held by an online node. -/
theorem Stored.holds (stored : Stored upload file before after)
    (current : ∀ node ∈ upload.nodes, node ∈ before.db.nodes ∧ node.status = .online)
    {slot : Nat × Nat} (member : slot ∈ upload.slots)
    (acknowledged : (upload.acknowledger slot).isSome = true)
    (reached : (upload.env.recordLocation slot.1 slot.2).upsert = true) :
    after.Holds (upload.shardId slot) := by
  obtain ⟨address, acknowledger_eq⟩ := Option.isSome_iff_exists.mp acknowledged
  obtain ⟨node, node_mem, rfl, found⟩ :=
    Upload.acknowledger_node (mem_slotsOf.mp member).2 acknowledger_eq
  obtain ⟨known, online⟩ := current node node_mem
  obtain ⟨added, kept_eq, -, requests⟩ := stored.keeps
  refine ⟨node, ?_, online, ?_, upload.request slot node.grpcAddress, ?_, rfl, rfl⟩
  · rw [stored.grows.nodes_eq]
    exact known
  · refine stored.located slot member _ node acknowledger_eq reached found ?_
    exact List.any_eq_true.mpr ⟨node, known, by simp⟩
  · rw [kept_eq]
    exact List.mem_append_left _ (requests slot member _ acknowledger_eq)

/-- The shards of the new file that answer are accepted slots. -/
theorem Stored.answeredShards_eq (stored : Stored upload file before after)
    (free : ∀ key ∈ before.db.shardKeys, key.fileId ≠ upload.env.fileId) (read : ReadEnv)
    (chunkIndex : Nat) :
    answeredShards read after.db upload.env.fileId chunkIndex =
      (upload.accepted before.db.chunkIds upload.slots).countP fun slot =>
        slot.1 == chunkIndex && answersKey read after.db (upload.slotKey slot) := by
  have none_before : (before.db.shardKeys.countP fun key => key.fileId == upload.env.fileId &&
      (key.chunkIndex == chunkIndex && answersKey read after.db key)) = 0 := by
    refine List.countP_eq_zero.mpr fun key member => ?_
    simp [free key member]
  rw [Gateway.answeredShards_eq, stored.keys_eq, List.countP_append, none_before, Nat.zero_add,
    List.countP_map]
  congr 1
  funext slot
  simp [Upload.slotKey]

end Upload

/-! ## The round trip -/

section Put

variable {userId : Uuid} {bucket key : String} {data : Bytes} {contentType etag : String}

theorem Wellformed.free_keys (wellformed : Wellformed ext encoder before) {fileId : Uuid}
    (fresh_id : before.db.hasFile fileId = false) :
    ∀ key ∈ before.db.shardKeys, key.fileId ≠ fileId := by
  intro key member same
  have known := Database.hasFile_iff.mpr (wellformed.parents key member)
  rw [same, fresh_id] at known
  cases known

/-- Without another live file every lookup finds the new one. -/
theorem Stored.found_of_no_live {upload : Upload} {file : File} {after : Cluster} {path : String}
    (stored : Stored upload file before after) (path_eq : file.path = path)
    (no_live : before.db.liveFilesAt path = []) (live : file.isLive = true)
    (fileOrder : RowOrder File) : after.db.getFileByPath fileOrder path = some file := by
  subst path_eq
  rw [Database.getFileByPath, stored.liveFilesAt_same live, no_live]
  exact fileOrder.fetchOptional_singleton file

theorem describes_put (lawful : ext.Lawful) {after : Cluster}
    (wellformed : Wellformed ext encoder after)
    (member : fileRow ext env userId bucket key data contentType ∈ after.db.files) :
    Describes ext encoder after.db (fileRow ext env userId bucket key data contentType) data := by
  obtain ⟨other, describes⟩ := wellformed.described _ member
  obtain rfl := lawful.blake3_injective describes.contentHash_eq
  exact describes

/-- An undisturbed put that succeeds registers the shards with new contents, and an online node
holds every shard. -/
theorem undisturbed_effect
    (built : ErasureEncoder.new ext.reedSolomon = .ok encoder) (gateway : GatewayEncoder encoder)
    (data_ne : data ≠ []) (undisturbed : env.Undisturbed) (current : env.Current before.db)
    (ok : (putObject ext env before userId bucket key data contentType).2 = .ok etag) :
    let after := (putObject ext env before userId bucket key data contentType).1
    ∃ nodes, Registers ext env bucket key contentType before.db nodes encoder ∧
      Stored ⟨ext, env, nodes, encoder, data⟩ (fileRow ext env userId bucket key data contentType)
        before after ∧
      Upload.accepted ⟨ext, env, nodes, encoder, data⟩ before.db.chunkIds
          (slotsOf (chunkCountOf data)) =
        acceptedRows (fun slot => ext.blake3 (shardOf encoder data slot.1 slot.2))
          before.db.chunkIds (slotsOf (chunkCountOf data)) ∧
      ∀ slot ∈ slotsOf (chunkCountOf data),
        after.Holds (ext.blake3 (shardOf encoder data slot.1 slot.2)) := by
  intro after
  obtain ⟨nodes, registers, stored, enough, -⟩ := putObject_ok built gateway ok
  have some_decisions : Upload.decisions ⟨ext, env, nodes, encoder, data⟩ ≠ [] := by
    intro no_decisions
    have positive : 0 < chunkCountOf data * DATA_SHARDS :=
      Nat.mul_pos (divCeil_positive chunkSize_positive (List.length_pos_iff.mpr data_ne))
        (by decide)
    obtain ⟨slot, -, acknowledged⟩ := List.countP_pos_iff.mp (positive.trans_le enough)
    rw [Upload.acknowledger_of_no_decisions no_decisions] at acknowledged
    cases acknowledged
  have all_acknowledged : ∀ slot ∈ slotsOf (chunkCountOf data),
      (Upload.acknowledger ⟨ext, env, nodes, encoder, data⟩ slot).isSome = true :=
    fun slot member =>
      Upload.acknowledger_of_stored some_decisions (mem_slotsOf.mp member).2
        (undisturbed.stored slot.1 slot.2 0)
  refine ⟨nodes, registers, stored, ?_, fun slot member => ?_⟩
  · rw [Upload.accepted, List.filter_eq_self.mpr fun slot member => ?_]
    · rfl
    · rw [Upload.registers, all_acknowledged slot member, undisturbed.registered]
      rfl
  · exact stored.holds (fun node => current.mem_nodes registers.nodes_eq) member
      (all_acknowledged slot member) (by rw [undisturbed.located]; rfl)

/-- In an undisturbed put the shards with new contents answer, and no others. -/
theorem answeredShards_undisturbed
    (built : ErasureEncoder.new ext.reedSolomon = .ok encoder) (gateway : GatewayEncoder encoder)
    (wellformed : Wellformed ext encoder before) (data_ne : data ≠ [])
    (undisturbed : env.Undisturbed) (current : env.Current before.db)
    (ok : (putObject ext env before userId bucket key data contentType).2 = .ok etag)
    (fileOrder : RowOrder File) (addressOrder : RowOrder String) (chunkIndex : Nat) :
    let after := (putObject ext env before userId bucket key data contentType).1
    answeredShards (after.healthy fileOrder addressOrder) after.db env.fileId chunkIndex =
      freshShards ext encoder before.db data chunkIndex := by
  intro after
  obtain ⟨nodes, registers, stored, accepted_eq, holds⟩ :=
    undisturbed_effect built gateway data_ne undisturbed current ok
  have counted := stored.answeredShards_eq (wellformed.free_keys registers.fresh_id)
    (after.healthy fileOrder addressOrder) chunkIndex
  rw [freshShards, ← accepted_eq]
  refine counted.trans (List.countP_congr fun slot accepted => ?_)
  have registered : Upload.slotKey ⟨ext, env, nodes, encoder, data⟩ slot ∈ after.db.shardKeys :=
    stored.mem_keys.mpr (.inr ⟨slot, accepted, rfl⟩)
  have answers : answersKey (after.healthy fileOrder addressOrder) after.db
      (Upload.slotKey ⟨ext, env, nodes, encoder, data⟩ slot) = true :=
    (answersKey_healthy_iff registered fileOrder addressOrder).mpr
      (holds slot (Upload.mem_slots_of_accepted accepted))
  rw [answers, Bool.and_true]

/-- After an undisturbed put of a new key, reading returns the object and nothing else, exactly when
ten shards of every chunk have new contents. -/
theorem getObject_put_iff (lawful : ext.Lawful)
    (built : ErasureEncoder.new ext.reedSolomon = .ok encoder) (gateway : GatewayEncoder encoder)
    (wellformed : Wellformed ext encoder before) (data_ne : data ≠ [])
    (undisturbed : env.Undisturbed) (current : env.Current before.db)
    (no_live : before.db.liveFilesAt (objectPath bucket key) = [])
    (ok : (putObject ext env before userId bucket key data contentType).2 = .ok etag)
    (fileOrder : RowOrder File) (addressOrder : RowOrder String) (content : Bytes) :
    let after := (putObject ext env before userId bucket key data contentType).1
    getObject ext (after.healthy fileOrder addressOrder) after.db bucket key = .ok content ↔
      (∀ chunkIndex < chunkCountOf data,
        DATA_SHARDS ≤ freshShards ext encoder before.db data chunkIndex) ∧ content = data := by
  intro after
  obtain ⟨nodes, registers, stored, -, -⟩ := putObject_ok built gateway ok
  have wellformed' : Wellformed ext encoder after :=
    wellformed_put built gateway wellformed env userId bucket key data contentType
  have found := stored.found_of_no_live rfl no_live rfl fileOrder
  have describes := describes_put lawful wellformed' (mem_files_of_found found).1
  have addressed := healthy_contentAddressed wellformed' fileOrder addressOrder
  have answered := answeredShards_undisturbed built gateway wellformed data_ne undisturbed current ok
    fileOrder addressOrder
  have read_iff : getFileData (after.healthy fileOrder addressOrder) after.db ext
      (fileRow ext env userId bucket key data contentType) = .ok content ↔ _ :=
    getFileData_eq_ok_iff lawful built gateway wellformed'.chunks_unique describes addressed
  rw [getObject_eq_ok_iff]
  constructor
  · rintro ⟨file, found', read⟩
    obtain rfl := Option.some.inj (found.symm.trans found')
    obtain ⟨readable, same⟩ := read_iff.mp read
    refine ⟨fun chunkIndex inside => ?_, same⟩
    exact (readable.2 chunkIndex inside).trans_eq (answered chunkIndex)
  · rintro ⟨enough, same⟩
    refine ⟨_, found, read_iff.mpr ⟨⟨data_ne, fun chunkIndex inside => ?_⟩, same⟩⟩
    exact (enough chunkIndex inside).trans_eq (answered chunkIndex).symm

/-- For a key without a live file, an undisturbed put is read back and leaves the other objects
readable exactly when ten shards of every chunk have contents that no row and no earlier shard
has. -/
theorem object_round_trip_iff (lawful : ext.Lawful)
    (built : ErasureEncoder.new ext.reedSolomon = .ok encoder) (reachable : Reachable ext before)
    (data_ne : data ≠ []) (undisturbed : env.Undisturbed) (current : env.Current before.db)
    (no_live : before.db.liveFilesAt (objectPath bucket key) = [])
    (ok : (putObject ext env before userId bucket key data contentType).2 = .ok etag) :
    let after := (putObject ext env before userId bucket key data contentType).1
    ((∀ fileOrder addressOrder,
        getObject ext (after.healthy fileOrder addressOrder) after.db bucket key = .ok data) ∧
      ∀ bucket' key' content fileOrder addressOrder, (bucket', key') ≠ (bucket, key) →
        getObject ext (before.healthy fileOrder addressOrder) before.db bucket' key' = .ok content →
          getObject ext (after.healthy fileOrder addressOrder) after.db bucket' key' =
            .ok content) ↔
      ∀ chunkIndex < chunkCountOf data,
        DATA_SHARDS ≤ freshShards ext encoder before.db data chunkIndex := by
  intro after
  have gateway := gatewayEncoder_of_new lawful built
  have wellformed := reachable.wellformed built gateway
  have wellformed' : Wellformed ext encoder after :=
    wellformed_put built gateway wellformed env userId bucket key data contentType
  have own := getObject_put_iff lawful built gateway wellformed data_ne undisturbed current no_live ok
  constructor
  · rintro ⟨returned, -⟩
    exact ((own .insertion .insertion data).mp (returned .insertion .insertion)).1
  · intro enough
    refine ⟨fun fileOrder addressOrder => (own fileOrder addressOrder data).mpr ⟨enough, rfl⟩, ?_⟩
    intro bucket' key' content fileOrder addressOrder _ returned
    obtain ⟨nodes, -, stored, -, -⟩ := putObject_ok built gateway ok
    refine stored.grows_cluster.getObject lawful built gateway wellformed wellformed' ?_ returned
    -- an object that is returned has a live file, so its path is another one
    refine stored.liveFilesAt_other fun same => ?_
    obtain ⟨file, found, -⟩ := getObject_eq_ok_iff.mp returned
    rw [← same] at found
    rw [Database.getFileByPath] at found
    rw [show (fileRow ext env userId bucket key data contentType).path = objectPath bucket key
      from rfl, no_live, RowOrder.fetchOptional_nil] at found
    cases found

end Put

end

/-! ## Two objects -/

namespace Reference

theorem calmEnv_current (fileId : Uuid) (db : Database) : (calmEnv fileId).Current db := by
  rintro nodes ⟨⟩

theorem emptyCluster_reachable : Reachable externals emptyCluster :=
  ⟨emptyCluster, [], ⟨rfl, rfl, rfl, rfl⟩, rfl⟩

/-- The shards of the ten digits are all different. -/
theorem shardIds_tenDigits_nodup : (shardIds externals encoder tenDigits).Nodup := by
  have ids_eq : shardIds externals encoder tenDigits =
      ((List.range TOTAL_SHARDS).map fun shardIndex => [UInt8.ofNat shardIndex]).map hash := by
    rw [shardIds, chunkCountOf_tenDigits, slotsOf_one, List.map_map, List.map_map]
    refine List.map_congr_left fun shardIndex member => ?_
    simp only [Function.comp_apply, shardOf_tenDigits (List.mem_range.mp member)]
    rfl
  rw [ids_eq]
  exact List.Nodup.map hash_injective (by decide)

theorem freshShards_tenDigits :
    freshShards externals encoder emptyCluster.db tenDigits 0 = TOTAL_SHARDS := by
  rw [freshShards, acceptedRows_of_nodup (by exact shardIds_tenDigits_nodup),
    chunkCountOf_tenDigits]
  decide

end Reference

/-- The ten digits come back. -/
theorem object_round_trip_ten_digits :
    getObject Reference.externals
        ((putObject Reference.externals (Reference.calmEnv 1) Reference.emptyCluster 7 "photos" "cat"
          Reference.tenDigits "image/png").1.healthy .insertion .insertion)
        (putObject Reference.externals (Reference.calmEnv 1) Reference.emptyCluster 7 "photos" "cat"
          Reference.tenDigits "image/png").1.db "photos" "cat" = .ok Reference.tenDigits := by
  refine ((object_round_trip_iff Reference.externals_lawful Reference.encoder_built
    Reference.emptyCluster_reachable (by decide) (Reference.calmEnv_undisturbed 1)
    (Reference.calmEnv_current 1 _) rfl (Reference.first_put_ok 1 Reference.tenDigits)).mpr ?_).1 _ _
  intro chunkIndex inside
  rw [Reference.chunkCountOf_tenDigits, Nat.lt_one_iff] at inside
  rw [inside, Reference.freshShards_tenDigits]
  decide

namespace Reference

/-- The byte 7 is padded with zeros, so nine of its data shards are alike. -/
theorem shardOf_seven {shardIndex : Nat} (positive : 1 ≤ shardIndex)
    (inside : shardIndex < DATA_SHARDS) : shardOf encoder [7] 0 shardIndex = [0] := by
  have pieces : encoder.dataPieces [7] = [7] :: List.replicate 9 [0] := by decide
  have taken := ErasureEncoder.take_encodedShards encoder_gateway.valid
    (show ([7] : Bytes) ≠ [] by decide)
  rw [show encoder.config.dataShards = DATA_SHARDS from rfl, pieces] at taken
  have same : (encoder.encodedShards [7])[shardIndex]? = some [0] := by
    rw [← List.getElem?_take_of_lt inside, taken]
    obtain ⟨index, rfl⟩ := Nat.exists_eq_add_of_le' positive
    rw [List.getElem?_cons_succ, List.getElem?_replicate]
    exact if_pos (Nat.lt_of_succ_lt_succ inside)
  rw [shardOf, getD_chunkBlocks_zero (by decide) (by decide), List.getD_eq_getElem?_getD, same]
  rfl

/-- At most one of the nine is new. -/
theorem freshShards_seven : freshShards externals encoder emptyCluster.db [7] 0 < DATA_SHARDS := by
  rw [freshShards, chunkCountOf_eq_one (by decide) (by decide)]
  generalize rows_eq : acceptedRows (fun slot => externals.blake3 (shardOf encoder [7] slot.1 slot.2))
    emptyCluster.db.chunkIds (slotsOf 1) = rows
  have sublist : rows.Sublist (slotsOf 1) := rows_eq ▸ acceptedRows_sublist _ _
  have distinct : (rows.map fun slot => hash (shardOf encoder [7] slot.1 slot.2)).Nodup := by
    rw [← rows_eq]
    exact nodup_map_acceptedRows (slotsOf 1)
  let padding : Nat × Nat → Bool := fun slot => decide (1 ≤ slot.2) && decide (slot.2 < DATA_SHARDS)
  have padding_ids : (rows.filter padding).map
      (fun slot => hash (shardOf encoder [7] slot.1 slot.2)) =
        List.replicate (rows.filter padding).length (hash [0]) := by
    refine List.eq_replicate_iff.mpr ⟨by simp, fun id member => ?_⟩
    obtain ⟨slot, slot_mem, rfl⟩ := List.mem_map.mp member
    obtain ⟨slot_mem, padded⟩ := List.mem_filter.mp slot_mem
    obtain ⟨positive, inside⟩ : 1 ≤ slot.2 ∧ slot.2 < DATA_SHARDS := by simpa [padding] using padded
    have first : slot.1 = 0 := by
      have bound := (mem_slotsOf.mp (sublist.subset slot_mem)).1
      omega
    rw [first, shardOf_seven positive inside]
  have one_padding : (rows.filter padding).length ≤ 1 := by
    have nodup := distinct.sublist ((List.filter_sublist (p := padding)).map _)
    rw [padding_ids] at nodup
    exact List.nodup_replicate.mp nodup
  have others : rows.countP (fun slot => !padding slot) ≤ 5 :=
    sublist.countP_le.trans (by decide)
  have total := List.length_eq_countP_add_countP padding (l := rows)
  have counted : rows.countP (fun slot => slot.1 == 0) ≤ rows.length := List.countP_le_length
  rw [List.countP_eq_length_filter] at total
  have bound : DATA_SHARDS = 10 := rfl
  simp only [Bool.not_eq_true, Bool.decide_eq_false] at total
  omega

end Reference

/-- An object of a single byte is acknowledged and cannot be read back. -/
theorem object_round_trip_single_byte_lost :
    Reachable Reference.externals Reference.emptyCluster ∧
      Reference.emptyCluster.db.liveFilesAt (objectPath "photos" "cat") = [] ∧
      (putObject Reference.externals (Reference.calmEnv 1) Reference.emptyCluster 7 "photos" "cat"
        [7] "image/png").2 = .ok (hexEncode (Reference.externals.blake3 [7])) ∧
      ∀ content,
        getObject Reference.externals
          ((putObject Reference.externals (Reference.calmEnv 1) Reference.emptyCluster 7 "photos"
            "cat" [7] "image/png").1.healthy .insertion .insertion)
          (putObject Reference.externals (Reference.calmEnv 1) Reference.emptyCluster 7 "photos" "cat"
            [7] "image/png").1.db "photos" "cat" ≠ .ok content := by
  refine ⟨Reference.emptyCluster_reachable, rfl, Reference.first_put_ok 1 [7],
    fun content returned => ?_⟩
  have wellformed := Reference.emptyCluster_reachable.wellformed Reference.encoder_built
    Reference.encoder_gateway
  obtain ⟨enough, -⟩ := (getObject_put_iff Reference.externals_lawful Reference.encoder_built
    Reference.encoder_gateway wellformed (by decide) (Reference.calmEnv_undisturbed 1)
    (Reference.calmEnv_current 1 _) rfl (Reference.first_put_ok 1 [7]) _ _ content).mp returned
  have first := enough 0 (by rw [chunkCountOf_eq_one (by decide) (by decide)]; decide)
  exact absurd Reference.freshShards_seven (Nat.not_lt.mpr first)

end CyxCloud.Gateway
