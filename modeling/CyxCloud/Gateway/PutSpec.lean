import CyxCloud.Gateway.Visits
import CyxCloud.Metadata.Catalog

/-!
# What storing an object leaves behind

The rows that the visits of an upload leave in the database, and the two ways in which
`put_object` ends: before the file is registered, with nothing changed, or after all its shards
have been visited.
-/

namespace CyxCloud.Gateway

open CyxCloud.Core hiding Chunk
open Library Metadata ErasureEncoder

/-! ## What storing leaves alone -/

section

variable (ext : Externals) (env : PutEnv) (nodes : List Node)

theorem commitShard_extends (chunk : Core.Chunk) (shard : ShardData) (address : String)
    (db : Database) : db.Extends (commitShard ext env nodes chunk shard address db) := by
  have registered : db.Extends
      (if env.registerChunk chunk.metadata.index shard.index.toNat then
        (db.createChunk (shardRow ext env chunk shard)).1
      else
        db) := by
    split
    · exact db.createChunk_extends _
    · exact .refl db
  unfold commitShard
  simp only
  split
  · exact registered
  · exact registered.trans (Database.addChunkLocation_extends _ _ _ _)

theorem storeShard_extends (chunk : Core.Chunk) (state : PutState)
    (placed : ShardData × PlacementDecision) :
    state.cluster.db.Extends (storeShard ext env nodes chunk state placed).cluster.db := by
  unfold storeShard
  simp only
  split
  · exact .refl _
  · split
    · exact .refl _
    · exact commitShard_extends ext env nodes _ _ _ _

theorem storeChunks_extends (encoder : ErasureEncoder) (chunks : List Core.Chunk)
    (state : PutState) :
    state.cluster.db.Extends (storeChunks ext env nodes encoder chunks state).1.cluster.db := by
  induction chunks generalizing state with
  | nil => exact .refl _
  | cons chunk chunks induction =>
      rw [storeChunks]
      split
      · exact .refl _
      · rename_i shards _
        refine Database.Extends.trans ?_ (induction _)
        generalize shards.zip _ = placements
        induction placements generalizing state with
        | nil => exact .refl _
        | cons placed placements inner =>
            exact (storeShard_extends ext env nodes chunk state placed).trans (inner _)

theorem storeObject_extends (encoder : ErasureEncoder) (chunks : List Core.Chunk) (data : Bytes)
    (cluster : Cluster) :
    cluster.db.Extends (storeObject ext env nodes encoder chunks data cluster).1.db := by
  have grows := storeChunks_extends ext env nodes encoder chunks
    { cluster, shardsStored := 0, failedShards := 0 }
  unfold storeObject
  split
  · rename_i stored
    rwa [stored] at grows
  · rename_i stored
    rw [stored] at grows
    split <;> exact grows

end

/-! ## Rows and locations of an upload -/

namespace Upload

variable {upload : Upload}

/-- The key of the row that registers a shard. -/
def slotKey (upload : Upload) (slot : Nat × Nat) : ShardKey :=
  { chunkId := upload.shardId slot
    fileId := upload.env.fileId
    chunkIndex := slot.1
    shardIndex := slot.2 }

/-- The row of a shard is sent to a database that answers. -/
def registers (upload : Upload) (slot : Nat × Nat) : Bool :=
  (upload.acknowledger slot).isSome && upload.env.registerChunk slot.1 slot.2

/-- The slots whose rows a table accepts that has the taken identifiers. -/
def accepted (upload : Upload) (taken : List Bytes) (slots : List (Nat × Nat)) : List (Nat × Nat) :=
  acceptedRows upload.shardId taken (slots.filter upload.registers)

/-- The database once the row of a shard has been sent. -/
def register (upload : Upload) (db : Database) (slot : Nat × Nat) : Database :=
  if upload.env.registerChunk slot.1 slot.2 then
    (db.createChunk (shardRow upload.ext upload.env (upload.chunk slot.1) (upload.shard slot))).1
  else
    db

/-- The database once the location of a shard has been sent. -/
def locate (upload : Upload) (db : Database) (slot : Nat × Nat) (address : String) : Database :=
  match upload.nodes.find? fun node => node.grpcAddress == address with
  | none => db
  | some node =>
      (db.addChunkLocation (upload.env.recordLocation slot.1 slot.2) (upload.shardId slot)
        node.id).1

theorem commit_of_acknowledged {slot : Nat × Nat} (inside : slot.2 < TOTAL_SHARDS)
    {address : String} (acknowledged : upload.acknowledger slot = some address) (db : Database) :
    upload.commit db slot = upload.locate (upload.register db slot) slot address := by
  have index_eq : (upload.chunk slot.1).metadata.index = slot.1 := rfl
  simp only [commit, acknowledged, commitShard, index_eq, toNat_shard_index inside]
  rfl

theorem commit_of_unacknowledged {slot : Nat × Nat} (none_eq : upload.acknowledger slot = none)
    (db : Database) : upload.commit db slot = db := by
  rw [commit, none_eq]

theorem shardRow_shardKey {slot : Nat × Nat} (inside : slot.2 < TOTAL_SHARDS) :
    (shardRow upload.ext upload.env (upload.chunk slot.1) (upload.shard slot)).shardKey =
      upload.slotKey slot := by
  simp only [CreateChunk.shardKey, shardRow, toNat_shard_index inside]
  rfl

theorem register_extends (db : Database) (slot : Nat × Nat) :
    db.Extends (upload.register db slot) := by
  unfold register
  split
  · exact db.createChunk_extends _
  · exact .refl db

theorem locate_shardKeys (db : Database) (slot : Nat × Nat) (address : String) :
    (upload.locate db slot address).shardKeys = db.shardKeys := by
  unfold locate
  split
  · rfl
  · exact db.addChunkLocation_shardKeys _ _ _

theorem commit_extends (db : Database) (slot : Nat × Nat) : db.Extends (upload.commit db slot) := by
  unfold commit
  split
  · exact .refl db
  · exact commitShard_extends _ _ _ _ _ _ _

/-- A slot adds its row unless it is not registered or its identifier is taken. -/
theorem commit_shardKeys {db : Database} (known : db.hasFile upload.env.fileId = true)
    {slot : Nat × Nat} (inside : slot.2 < TOTAL_SHARDS) :
    (upload.commit db slot).shardKeys =
      if upload.registers slot = true ∧ upload.shardId slot ∉ db.chunkIds then
        db.shardKeys ++ [upload.slotKey slot]
      else
        db.shardKeys := by
  cases acknowledged : upload.acknowledger slot with
  | none => simp [commit_of_unacknowledged acknowledged, registers, acknowledged]
  | some address =>
      rw [commit_of_acknowledged inside acknowledged, locate_shardKeys, register]
      cases reached : upload.env.registerChunk slot.1 slot.2 with
      | false => simp [registers, reached]
      | true =>
          have registered : upload.registers slot = true := by
            simp [registers, acknowledged, reached]
          have created : (db.createChunk (shardRow upload.ext upload.env (upload.chunk slot.1)
              (upload.shard slot))).1.shardKeys =
                if upload.shardId slot ∈ db.chunkIds then db.shardKeys
                else db.shardKeys ++ [upload.slotKey slot] := by
            rw [← shardRow_shardKey inside]
            exact Database.createChunk_shardKeys known
          rw [if_pos rfl, created]
          by_cases taken : upload.shardId slot ∈ db.chunkIds
          · rw [if_pos taken, if_neg fun both => both.2 taken]
          · rw [if_neg taken, if_pos ⟨registered, taken⟩]

section Fold

variable {slots : List (Nat × Nat)}

theorem foldl_commit_extends (db : Database) (slots : List (Nat × Nat)) :
    db.Extends (slots.foldl upload.commit db) := by
  induction slots generalizing db with
  | nil => exact .refl db
  | cons slot slots induction =>
      exact (commit_extends db slot).trans (induction _)

/-- The visits add the rows of the accepted slots. -/
theorem foldl_commit_shardKeys {db : Database} (known : db.hasFile upload.env.fileId = true)
    (inside : ∀ slot ∈ slots, slot.2 < TOTAL_SHARDS) :
    (slots.foldl upload.commit db).shardKeys =
      db.shardKeys ++ (upload.accepted db.chunkIds slots).map upload.slotKey := by
  induction slots generalizing db with
  | nil => simp [accepted, acceptedRows]
  | cons slot slots induction =>
      have here := inside slot List.mem_cons_self
      have known' : (upload.commit db slot).hasFile upload.env.fileId = true := by
        rw [Database.hasFile, (commit_extends db slot).files_eq]
        exact known
      have keys := commit_shardKeys known here
      have ids := congrArg (List.map ShardKey.chunkId) keys
      rw [Database.shardKeys_chunkId] at ids
      rw [List.foldl_cons,
        induction known' fun later member => inside later (List.mem_cons_of_mem _ member), keys, ids]
      cases registered : upload.registers slot with
      | false => simp [accepted, registered, Database.shardKeys_chunkId]
      | true =>
          by_cases taken : upload.shardId slot ∈ db.chunkIds
          · simp [accepted, registered, acceptedRows, taken, Database.shardKeys_chunkId]
          · simp [accepted, registered, acceptedRows, taken, Database.shardKeys_chunkId, slotKey]

/-- An acknowledged shard is located on the node that acknowledged it. -/
theorem foldl_commit_storedOn {db : Database} (inside : ∀ slot ∈ slots, slot.2 < TOTAL_SHARDS)
    {slot : Nat × Nat} (member : slot ∈ slots) {address : String}
    (acknowledged : upload.acknowledger slot = some address)
    (reached : (upload.env.recordLocation slot.1 slot.2).upsert = true) {node : Node}
    (found : upload.nodes.find? (fun node => node.grpcAddress == address) = some node)
    (known : db.hasNode node.id = true) :
    (slots.foldl upload.commit db).storedOn (upload.shardId slot) node.id := by
  induction slots generalizing db with
  | nil => cases member
  | cons head slots induction =>
      have later_inside : ∀ later ∈ slots, later.2 < TOTAL_SHARDS :=
        fun later member => inside later (List.mem_cons_of_mem _ member)
      rcases List.mem_cons.mp member with rfl | later
      · have here := inside slot List.mem_cons_self
        refine (foldl_commit_extends _ slots).stored ?_
        rw [commit_of_acknowledged here acknowledged, locate, found]
        refine Database.addChunkLocation_storedOn _ _ _ _ reached ?_
        rw [Database.hasNode, (register_extends db slot).nodes_eq]
        exact known
      · refine induction later_inside later ?_
        rw [Database.hasNode, (commit_extends db head).nodes_eq]
        exact known

end Fold

end Upload

/-- The slots of an upload. -/
def Upload.slots (upload : Upload) : List (Nat × Nat) := slotsOf (chunkCountOf upload.data)

/-- Number of shards that some node acknowledges. -/
def Upload.acknowledged (upload : Upload) : Nat :=
  upload.slots.countP fun slot => (upload.acknowledger slot).isSome

/-- What an upload leaves behind once its file is registered. -/
structure Stored (upload : Upload) (file : File) (before after : Cluster) : Prop where
  grows : Database.Extends { before.db with files := before.db.files ++ [file] } after.db
  keys_eq : after.db.shardKeys =
    before.db.shardKeys ++ (upload.accepted before.db.chunkIds upload.slots).map upload.slotKey
  keeps : ∃ added, after.kept = added ++ before.kept ∧
    (∀ shard ∈ added, ∃ slot ∈ upload.slots, ∃ address, shard = upload.request slot address ∧
      ∃ attempt, upload.env.storeReply slot.1 slot.2 attempt ≠ .refused) ∧
    ∀ slot ∈ upload.slots, ∀ address, upload.acknowledger slot = some address →
      upload.request slot address ∈ added
  located : ∀ slot ∈ upload.slots, ∀ address node, upload.acknowledger slot = some address →
    (upload.env.recordLocation slot.1 slot.2).upsert = true →
      upload.nodes.find? (fun node => node.grpcAddress == address) = some node →
        before.db.hasNode node.id = true → after.db.storedOn (upload.shardId slot) node.id

/-- Every node stores what it is sent, and the database answers. -/
structure PutEnv.Undisturbed (env : PutEnv) : Prop where
  stored : ∀ chunkIndex shardIndex attempt,
    env.storeReply chunkIndex shardIndex attempt = .stored
  registered : ∀ chunkIndex shardIndex, env.registerChunk chunkIndex shardIndex = true
  located : ∀ chunkIndex shardIndex, env.recordLocation chunkIndex shardIndex = .up

/-! ## The two ends of a put -/

section Put

variable (ext : Externals) (env : PutEnv) (cluster : Cluster) (userId : Uuid) (bucket key : String)
  (data : Bytes) (contentType : String)

/-- The row that registers an object. -/
def fileRow : File :=
  { id := env.fileId
    name := ((key.splitOn "/").getLast?).getD key
    path := objectPath bucket key
    contentHash := ext.blake3 data
    sizeBytes := data.length
    chunkCount := chunkCountOf data
    dataShards := DATA_SHARDS
    parityShards := PARITY_SHARDS
    chunkSize := DEFAULT_CHUNK_SIZE
    ownerId := some userId
    bucket := some bucket
    status := .pending
    contentType := some contentType
    createdAt := env.now
    updatedAt := env.now
    deletedAt := none }

/-- The cluster once the file of an object is registered. -/
def withFile : Cluster :=
  { cluster with
    db :=
      { cluster.db with
        files := cluster.db.files ++ [fileRow ext env userId bucket key data contentType] } }

/-- A put gets as far as inserting the file, whether it learns of it or not. -/
structure Inserts (db : Database) (nodes : List Node) (encoder : ErasureEncoder) : Prop where
  bucketQuery : env.bucketQuery = true
  bucket_exists : (db.getBucket bucket).isSome = true
  nodes_eq : getOnlineNodes env db = .ok nodes
  nodes_ne : nodes ≠ []
  built : ErasureEncoder.new ext.reedSolomon = .ok encoder
  path_text : Database.isText (objectPath bucket key) = true
  contentType_text : Database.isText contentType = true
  not_refused : env.fileInsert ≠ .refused
  fresh_id : db.hasFile env.fileId = false

/-- A put gets as far as registering the file. -/
structure Registers (db : Database) (nodes : List Node) (encoder : ErasureEncoder) : Prop
    extends Inserts ext env bucket key contentType db nodes encoder where
  answered : env.fileInsert = .stored

variable {ext env cluster userId bucket key data contentType} {nodes : List Node}
  {encoder : ErasureEncoder}

theorem createFile_fresh {db : Database} (free : db.hasFile env.fileId = false) :
    db.createFile env.fileId env.now
        (fileRecord ext env userId bucket key data contentType (chunkCountOf data)) =
      ({ db with files := db.files ++ [fileRow ext env userId bucket key data contentType] },
        .ok (fileRow ext env userId bucket key data contentType)) := by
  simp only [Database.createFile, fileRecord, Option.getD_some, free, Bool.false_eq_true, if_false,
    fileRow]

theorem createFile_taken {db : Database} (taken : db.hasFile env.fileId = true) (count : Nat) :
    db.createFile env.fileId env.now
        (fileRecord ext env userId bucket key data contentType count) =
      (db, .error .uniqueViolation) := by
  simp only [Database.createFile, fileRecord, Option.getD_some, taken, if_true]

/-- What a put does once it has inserted the file depends on whether it learns of it. -/
theorem putObject_of_inserts
    (inserts : Inserts ext env bucket key contentType cluster.db nodes encoder) :
    putObject ext env cluster userId bucket key data contentType =
      if env.fileInsert = .lost then
        (withFile ext env cluster userId bucket key data contentType,
          .error (.internal (.database .unavailable)))
      else
        storeObject ext env nodes encoder
          ((List.range (chunkCountOf data)).map (Upload.chunk ⟨ext, env, nodes, encoder, data⟩))
          data (withFile ext env cluster userId bucket key data contentType) := by
  obtain ⟨found, bucket_found⟩ := Option.isSome_iff_exists.mp inserts.bucket_exists
  have registered : putObject ext env cluster userId bucket key data contentType =
      registerAndStore ext env cluster userId bucket key data contentType nodes encoder
        (.ok ((List.range (chunkCountOf data)).map
          (Upload.chunk ⟨ext, env, nodes, encoder, data⟩))) := by
    rw [← Upload.splitIntoChunks_eq]
    cases nodes with
    | nil => exact absurd rfl inserts.nodes_ne
    | cons node others =>
        rw [putObject, if_neg (by rw [inserts.bucketQuery]; simp), bucket_found]
        simp only [inserts.nodes_eq, inserts.built]
  have texts : ¬ (!(Database.isText (objectPath bucket key) && Database.isText contentType)) =
      true := by
    simp [inserts.path_text, inserts.contentType_text]
  rw [registered, registerAndStore, if_neg texts, if_neg inserts.not_refused, List.length_map,
    List.length_range, createFile_fresh inserts.fresh_id]
  rfl

theorem putObject_of_registers
    (registers : Registers ext env bucket key contentType cluster.db nodes encoder) :
    putObject ext env cluster userId bucket key data contentType =
      storeObject ext env nodes encoder
        ((List.range (chunkCountOf data)).map (Upload.chunk ⟨ext, env, nodes, encoder, data⟩)) data
        (withFile ext env cluster userId bucket key data contentType) := by
  rw [putObject_of_inserts registers.toInserts, if_neg (by rw [registers.answered]; decide)]

/-- A put that does not insert its file changes nothing. -/
theorem putObject_of_not_inserts
    (refused : ¬∃ nodes encoder,
      Inserts ext env bucket key contentType cluster.db nodes encoder) :
    ∃ cause, putObject ext env cluster userId bucket key data contentType =
      (cluster, .error cause) := by
  unfold putObject
  split
  · exact ⟨_, rfl⟩
  · rename_i bucketQuery
    split
    · exact ⟨_, rfl⟩
    · rename_i found bucket_found
      split
      · exact ⟨_, rfl⟩
      · exact ⟨_, rfl⟩
      · rename_i nodes nodes_ne nodes_eq
        split
        · exact ⟨_, rfl⟩
        · rename_i encoder built
          have chunks_eq := Upload.splitIntoChunks_eq ⟨ext, env, nodes, encoder, data⟩
          rw [chunks_eq, registerAndStore]
          split
          · exact ⟨_, rfl⟩
          · rename_i texts
            rw [Bool.not_eq_true', Bool.not_eq_false, Bool.and_eq_true] at texts
            split
            · exact ⟨_, rfl⟩
            · rename_i not_refused
              cases taken : cluster.db.hasFile env.fileId with
              | true =>
                  rw [createFile_taken taken]
                  exact ⟨_, rfl⟩
              | false =>
                  have inserts : Inserts ext env bucket key contentType cluster.db nodes encoder :=
                    { bucketQuery := by simpa using bucketQuery
                      bucket_exists := by rw [bucket_found]; rfl
                      nodes_eq
                      nodes_ne
                      built
                      path_text := texts.1
                      contentType_text := texts.2
                      not_refused
                      fresh_id := taken }
                  exact absurd ⟨nodes, encoder, inserts⟩ refused

theorem storeObject_eq (data : Bytes) {chunks : List Core.Chunk} {final : PutState}
    (stored : storeChunks ext env nodes encoder chunks
      { cluster, shardsStored := 0, failedShards := 0 } = (final, .ok ())) :
    storeObject ext env nodes encoder chunks data cluster =
      (final.cluster,
        if final.shardsStored < chunks.length * DATA_SHARDS then
          .error (.internal (.insufficientStored final.shardsStored (chunks.length * DATA_SHARDS)))
        else
          .ok (hexEncode (ext.blake3 data))) := by
  rw [storeObject, stored]
  by_cases short : final.shardsStored < chunks.length * DATA_SHARDS
  · simp only [if_pos short]
  · simp only [if_neg short]

theorem hasFile_withFile :
    (withFile ext env cluster userId bucket key data contentType).db.hasFile env.fileId = true := by
  simp [Database.hasFile, withFile, fileRow]

theorem Visited.stored_cluster {final : PutState}
    (visited : Visited ⟨ext, env, nodes, encoder, data⟩
      (Upload.slots ⟨ext, env, nodes, encoder, data⟩)
      { cluster := withFile ext env cluster userId bucket key data contentType
        shardsStored := 0
        failedShards := 0 } final) :
    Stored ⟨ext, env, nodes, encoder, data⟩ (fileRow ext env userId bucket key data contentType)
      cluster final.cluster := by
  have inside : ∀ slot ∈ Upload.slots ⟨ext, env, nodes, encoder, data⟩, slot.2 < TOTAL_SHARDS :=
    fun slot member => (mem_slotsOf.mp member).2
  refine ⟨?_, ?_, visited.keeps, ?_⟩
  · rw [visited.db_eq]
    exact Upload.foldl_commit_extends _ _
  · rw [visited.db_eq]
    exact Upload.foldl_commit_shardKeys hasFile_withFile inside
  · intro slot member address node acknowledged reached found known
    rw [visited.db_eq]
    exact Upload.foldl_commit_storedOn inside member acknowledged reached found known

/-- A put that registers the file visits all slots, and succeeds when enough shards are
acknowledged. -/
theorem putObject_stored (gateway : GatewayEncoder encoder)
    (registers : Registers ext env bucket key contentType cluster.db nodes encoder) :
    Stored ⟨ext, env, nodes, encoder, data⟩ (fileRow ext env userId bucket key data contentType)
        cluster (putObject ext env cluster userId bucket key data contentType).1 ∧
      (putObject ext env cluster userId bucket key data contentType).2 =
        if Upload.acknowledged ⟨ext, env, nodes, encoder, data⟩ < chunkCountOf data * DATA_SHARDS then
          .error (.internal (.insufficientStored
            (Upload.acknowledged ⟨ext, env, nodes, encoder, data⟩)
            (chunkCountOf data * DATA_SHARDS)))
        else
          .ok (hexEncode (ext.blake3 data)) := by
  obtain ⟨final, stored, visited⟩ := Upload.visited_storeChunks ⟨ext, env, nodes, encoder, data⟩
    gateway (List.range (chunkCountOf data)) (fun chunkIndex member => List.mem_range.mp member)
    { cluster := withFile ext env cluster userId bucket key data contentType
      shardsStored := 0
      failedShards := 0 }
  have stored_eq := visited.stored_eq
  rw [Nat.zero_add] at stored_eq
  have judged := storeObject_eq data stored
  rw [List.length_map, List.length_range, stored_eq] at judged
  rw [putObject_of_registers registers, judged]
  exact ⟨visited.stored_cluster, rfl⟩

/-- A put that succeeds has registered its file and had enough shards acknowledged. -/
theorem putObject_ok {etag : String} (built : ErasureEncoder.new ext.reedSolomon = .ok encoder)
    (gateway : GatewayEncoder encoder)
    (ok : (putObject ext env cluster userId bucket key data contentType).2 = .ok etag) :
    ∃ nodes, Registers ext env bucket key contentType cluster.db nodes encoder ∧
      Stored ⟨ext, env, nodes, encoder, data⟩ (fileRow ext env userId bucket key data contentType)
        cluster (putObject ext env cluster userId bucket key data contentType).1 ∧
      chunkCountOf data * DATA_SHARDS ≤ Upload.acknowledged ⟨ext, env, nodes, encoder, data⟩ ∧
      etag = hexEncode (ext.blake3 data) := by
  by_cases reaches : ∃ nodes encoder, Inserts ext env bucket key contentType cluster.db nodes encoder
  · obtain ⟨nodes, other, inserts⟩ := reaches
    obtain rfl : other = encoder := by
      have same := inserts.built.symm.trans built
      injection same
    have answered : env.fileInsert = .stored := by
      cases reply : env.fileInsert with
      | stored => rfl
      | lost =>
          rw [putObject_of_inserts inserts, if_pos reply] at ok
          cases ok
      | refused => exact absurd reply inserts.not_refused
    have registers : Registers ext env bucket key contentType cluster.db nodes other :=
      { inserts with answered }
    obtain ⟨stored, result⟩ := putObject_stored gateway registers
    refine ⟨nodes, registers, stored, ?_⟩
    rw [ok] at result
    split at result
    · cases result
    · rename_i enough
      injection result with etag_eq
      exact ⟨Nat.le_of_not_lt enough, etag_eq⟩
  · obtain ⟨cause, refused⟩ := putObject_of_not_inserts reaches
    rw [refused] at ok
    cases ok

/-- The file alone is what an upload leaves that finds no node. -/
theorem stored_withFile :
    Stored ⟨ext, env, [], encoder, data⟩ (fileRow ext env userId bucket key data contentType)
      cluster (withFile ext env cluster userId bucket key data contentType) := by
  have no_decisions : Upload.decisions ⟨ext, env, [], encoder, data⟩ = [] := rfl
  have nobody : ∀ slot, Upload.acknowledger ⟨ext, env, [], encoder, data⟩ slot = none :=
    Upload.acknowledger_of_no_decisions no_decisions
  have none_accepted : Upload.accepted ⟨ext, env, [], encoder, data⟩ cluster.db.chunkIds
      (Upload.slots ⟨ext, env, [], encoder, data⟩) = [] := by
    have unregistered : (Upload.slots ⟨ext, env, [], encoder, data⟩).filter
        (Upload.registers ⟨ext, env, [], encoder, data⟩) = [] :=
      List.filter_eq_nil_iff.mpr fun slot _ => by simp [Upload.registers, nobody]
    rw [Upload.accepted, unregistered]
    rfl
  refine ⟨Database.Extends.refl _, ?_, ⟨[], rfl, fun _ member => absurd member List.not_mem_nil,
    fun slot _ address acknowledged => ?_⟩, fun slot _ address node acknowledged => ?_⟩
  · rw [none_accepted, List.map_nil, List.append_nil]
    rfl
  · rw [nobody] at acknowledged
    cases acknowledged
  · rw [nobody] at acknowledged
    cases acknowledged

/-- A put changes nothing, or leaves the file and what some upload of it stores. -/
theorem putObject_cases (built : ErasureEncoder.new ext.reedSolomon = .ok encoder)
    (gateway : GatewayEncoder encoder) (env : PutEnv) (cluster : Cluster) (userId : Uuid)
    (bucket key : String) (data : Bytes) (contentType : String) :
    (∃ cause, putObject ext env cluster userId bucket key data contentType =
      (cluster, .error cause)) ∨
    (cluster.db.hasFile env.fileId = false ∧ ∃ nodes,
      Stored ⟨ext, env, nodes, encoder, data⟩ (fileRow ext env userId bucket key data contentType)
        cluster (putObject ext env cluster userId bucket key data contentType).1) := by
  by_cases reaches : ∃ nodes encoder, Inserts ext env bucket key contentType cluster.db nodes encoder
  · obtain ⟨nodes, other, inserts⟩ := reaches
    obtain rfl : other = encoder := by
      have same := inserts.built.symm.trans built
      injection same
    refine .inr ⟨inserts.fresh_id, ?_⟩
    cases reply : env.fileInsert with
    | stored =>
        have registers : Registers ext env bucket key contentType cluster.db nodes other :=
          { inserts with answered := reply }
        exact ⟨nodes, (putObject_stored gateway registers).1⟩
    | lost =>
        refine ⟨[], ?_⟩
        rw [putObject_of_inserts inserts, if_pos reply]
        exact stored_withFile
    | refused => exact absurd reply inserts.not_refused
  · exact .inl (putObject_of_not_inserts reaches)

/-- An undisturbed put with an eligible node succeeds. -/
theorem putObject_undisturbed (gateway : GatewayEncoder encoder)
    (registers : Registers ext env bucket key contentType cluster.db nodes encoder)
    (undisturbed : env.Undisturbed)
    (some_decisions : Upload.decisions ⟨ext, env, nodes, encoder, data⟩ ≠ []) :
    (putObject ext env cluster userId bucket key data contentType).2 =
      .ok (hexEncode (ext.blake3 data)) := by
  have all : Upload.acknowledged ⟨ext, env, nodes, encoder, data⟩ =
      chunkCountOf data * TOTAL_SHARDS := by
    rw [← length_slotsOf]
    refine List.countP_eq_length.mpr fun slot member => ?_
    exact Upload.acknowledger_of_stored some_decisions (mem_slotsOf.mp member).2
      (undisturbed.stored slot.1 slot.2 0)
  have enough : chunkCountOf data * DATA_SHARDS ≤ chunkCountOf data * TOTAL_SHARDS :=
    Nat.mul_le_mul_left _ (by decide)
  rw [(putObject_stored gateway registers).2, all, if_neg (Nat.not_lt.mpr enough)]

end Put

/-! ## Live files -/

section Live

variable {upload : Upload} {file : File} {before after : Cluster}

theorem Stored.liveFilesAt_same (stored : Stored upload file before after)
    (live : file.isLive = true) :
    after.db.liveFilesAt file.path = before.db.liveFilesAt file.path ++ [file] := by
  rw [Database.liveFilesAt, stored.grows.files_eq, List.filter_append]
  simp [Database.liveFilesAt, live]

theorem Stored.liveFilesAt_other (stored : Stored upload file before after) {path : String}
    (other : file.path ≠ path) : after.db.liveFilesAt path = before.db.liveFilesAt path := by
  rw [Database.liveFilesAt, stored.grows.files_eq, List.filter_append]
  simp [Database.liveFilesAt, other]

end Live

end CyxCloud.Gateway
