import CyxCloud.Core.GaloisCode
import CyxCloud.Gateway.PutSpec

/-!
# A reference cluster

One storage node, one bucket, the Reed-Solomon code over 256 elements, and a hash that agrees with
BLAKE3 on the byte strings that occur here.  The assumptions on the external functions hold of it.
-/

namespace CyxCloud.Gateway.Reference

open CyxCloud.Core hiding Chunk
open Library Metadata

/-! ## External functions -/

/-- The 32 bytes of a digest, the most significant first. -/
def digestBytes (digest : Nat) : Bytes :=
  (List.range 32).map fun position => UInt8.ofNat (digest / 256 ^ (31 - position))

/-- BLAKE3 digests of the one-byte strings below 14 and of the ten digits. -/
def knownDigests : List (Bytes × Nat) :=
  [([0], 0x2d3adedff11b61f14c886e35afa036736dcd87a74d27b5c1510225d0f592e213),
    ([1], 0x48fc721fbbc172e0925fa27af1671de225ba927134802998b10a1568a188652b),
    ([2], 0xab13bedf42e84bae0f7c62c7dd6a8ada571e8829bed6ea558217f0361b5e25d0),
    ([3], 0xe1e0e81d6ea39b0cf8b86ffd440921011f57400cbc3f76a8a171906a9b8d7505),
    ([4], 0x0c389a743e34fda435fbd575bb889dbc0d3e66b9f9d81e00be33b7188509e7eb),
    ([5], 0x84cb40e74f0e856bb4bb91233e3cb74113533dca78a74f36f59edaa41895c946),
    ([6], 0x1c310b6bdadd69991cd4e5dbef96c2638536c32b534e3ed64785846bfcebd206),
    ([7], 0x448bd8dd9624154a690f8e84dc52d6f633ba7cd545c4d3c9b4e0f6a2f6fa71f4),
    ([8], 0x2ef3e0dda5293bda965d0adcedfc7d387244ac736a6014a720c1d63fa0ede02f),
    ([9], 0x7219aa1099ced7445c5bf949990ff7d9f6b71a94b8ec02b3eb61fb175a66ba25),
    ([10], 0x295192ea1ec8566d563b1a7587e5f0198580cdbd043842f5090a4c197c20c67a),
    ([11], 0xcaebfd3859f5380eff54715148444178be18edefa3d1ceae275982f1a2824a91),
    ([12], 0xb76ffa778026e1884a6b1d105d37a8722b9310227094886f86f8c983e6614796),
    ([13], 0x8e3221f59407cb4520ca562fda22dde22edfed2c102c536f11b7464cd8a0c65d),
    ([0, 1, 2, 3, 4, 5, 6, 7, 8, 9],
      0x87fcf07cac5be3c91735b34e535c67286e4e7a63bf152d95f2cf4cd1a244758b)]

/-- BLAKE3 where the digest is known; elsewhere the bytes themselves, made longer than a digest. -/
def hash (bytes : Bytes) : Bytes :=
  match knownDigests.lookup bytes with
  | some digest => digestBytes digest
  | none => bytes ++ List.replicate 33 0

theorem knownDigests_injective : ∀ left ∈ knownDigests, ∀ right ∈ knownDigests,
    digestBytes left.2 = digestBytes right.2 → left.1 = right.1 := by
  decide

theorem length_digestBytes (digest : Nat) : (digestBytes digest).length = 32 := by
  simp [digestBytes]

theorem mem_of_lookup {bytes : Bytes} {digest : Nat}
    (found : knownDigests.lookup bytes = some digest) : (bytes, digest) ∈ knownDigests := by
  obtain ⟨before, after, split, -⟩ := List.lookup_eq_some_iff.mp found
  rw [split]
  simp

theorem hash_injective : Function.Injective hash := by
  intro left right same
  unfold hash at same
  cases left_known : knownDigests.lookup left with
  | none =>
      cases right_known : knownDigests.lookup right with
      | none =>
          rw [left_known, right_known] at same
          exact List.append_cancel_right same
      | some digest =>
          rw [left_known, right_known] at same
          have lengths := congrArg List.length same
          simp only [List.length_append, List.length_replicate, length_digestBytes] at lengths
          omega
  | some digest =>
      cases right_known : knownDigests.lookup right with
      | none =>
          rw [left_known, right_known] at same
          have lengths := congrArg List.length same
          simp only [List.length_append, List.length_replicate, length_digestBytes] at lengths
          omega
      | some other =>
          rw [left_known, right_known] at same
          exact knownDigests_injective (left, digest) (mem_of_lookup left_known) (right, other)
            (mem_of_lookup right_known) same

/-- The external functions of the reference cluster; its node has no coordinates. -/
noncomputable def externals : Externals :=
  { blake3 := hash
    reedSolomon := GaloisCode.crate
    distanceKm := fun _ _ => none }

theorem externals_lawful : externals.Lawful :=
  ⟨hash_injective, GaloisCode.crate_lawful⟩

/-- The gateway's encoder. -/
noncomputable def encoder : ErasureEncoder :=
  { config := .default
    encoder := GaloisCode.codec DATA_SHARDS PARITY_SHARDS }

theorem encoder_built : ErasureEncoder.new externals.reedSolomon = .ok encoder := by
  rw [ErasureEncoder.new, ErasureEncoder.withConfig]
  rfl

theorem encoder_gateway : GatewayEncoder encoder where
  valid :=
    { dataShards_positive := by decide
      isCode := GaloisCode.codec_isCode (by decide) (by decide) }
  config_eq := rfl

/-! ## Objects -/

/-- Ten bytes, one for each data shard. -/
def tenDigits : Bytes := [0, 1, 2, 3, 4, 5, 6, 7, 8, 9]

theorem encodedShards_tenDigits :
    encoder.encodedShards tenDigits =
      (List.range TOTAL_SHARDS).map fun shardIndex => [UInt8.ofNat shardIndex] := by
  have pieces : encoder.dataPieces tenDigits =
      (List.range DATA_SHARDS).map fun shardIndex => [UInt8.ofNat shardIndex] := by
    decide
  have size_eq : encoder.calculateShardSize tenDigits.length = 1 := by decide
  have blank : encoder.blankShards 1 (encoder.dataPieces tenDigits) =
      encoder.dataPieces tenDigits ++ List.replicate PARITY_SHARDS (List.replicate 1 0) := rfl
  rw [ErasureEncoder.encodedShards, size_eq, blank, pieces]
  have encoded : encoder.encoder.encode
      (((List.range DATA_SHARDS).map fun shardIndex => [UInt8.ofNat shardIndex]) ++
        List.replicate PARITY_SHARDS (List.replicate 1 0)) =
      .ok (GaloisCode.codeVector DATA_SHARDS PARITY_SHARDS 1
        ((List.range DATA_SHARDS).map fun shardIndex => [UInt8.ofNat shardIndex])) :=
    GaloisCode.codec_encode (by decide) (by decide) (by decide) ⟨by decide, by decide⟩ (by decide)
  rw [encoded]
  refine List.map_congr_left fun shardIndex _ => ?_
  exact GaloisCode.codeShard_identity (by decide) (by decide)

/-- The shards of the ten digits are the bytes below fourteen. -/
theorem shardOf_tenDigits {shardIndex : Nat} (inside : shardIndex < TOTAL_SHARDS) :
    shardOf encoder tenDigits 0 shardIndex = [UInt8.ofNat shardIndex] := by
  rw [shardOf, getD_chunkBlocks_zero (by decide) (by decide), encodedShards_tenDigits,
    List.getD_eq_getElem _ _ (by simpa using inside), List.getElem_map, List.getElem_range]

theorem chunkCountOf_tenDigits : chunkCountOf tenDigits = 1 :=
  chunkCountOf_eq_one (by decide) (by decide)

/-! ## Cluster -/

/-- An online node with a tebibyte of free storage. -/
def storageNode : Node :=
  { id := 1
    peerId := "peer"
    grpcAddress := "10.0.0.1:50051"
    storageTotal := 2 ^ 40
    storageReserved := 0
    storageUsed := 0
    bandwidthMbps := 1000
    datacenter := some "dc1"
    rack := some 0
    region := none
    latitude := none
    longitude := none
    status := .online
    lastHeartbeat := none
    failureCount := 0
    firstOfflineAt := none
    statusChangedAt := none
    version := none
    walletAddress := none
    publicKey := none
    createdAt := 0 }

/-- The node and a bucket, with nothing stored. -/
def emptyCluster : Cluster :=
  { db :=
      { buckets := [{ name := "photos", ownerId := 7 }]
        nodes := [storageNode]
        files := []
        chunks := []
        chunkLocations := []
        repairJobs := [] }
    kept := [] }

/-- Every request and every statement of a put succeeds. -/
def calmEnv (fileId : Uuid) : PutEnv :=
  { fileId
    now := 0
    schedule := .inOrder
    cachedNodes := none
    nodeOrder := .insertion
    bucketQuery := true
    nodesQuery := true
    fileInsert := .stored
    storeReply := fun _ _ _ => .stored
    registerChunk := fun _ _ => true
    recordLocation := fun _ _ => .up }

section

variable {ext : Externals} {coder : ErasureEncoder}

theorem catPath_text : Database.isText (objectPath "photos" "cat") = true := by
  decide

theorem imageType_text : Database.isText "image/png" = true := by
  decide

/-- A put whose queries succeed gets as far as registering the file. -/
theorem registers {env : PutEnv} {db : Database}
    (built : ErasureEncoder.new ext.reedSolomon = .ok coder) (no_cache : env.cachedNodes = none)
    (bucketQuery : env.bucketQuery = true) (nodesQuery : env.nodesQuery = true)
    (fileInsert : env.fileInsert = .stored) (buckets_eq : db.buckets = emptyCluster.db.buckets)
    (nodes_eq : db.nodes = [storageNode]) (fresh_id : db.hasFile env.fileId = false) :
    Registers ext env "photos" "cat" "image/png" db [storageNode] coder where
  bucketQuery := bucketQuery
  bucket_exists := by
    rw [Database.getBucket, buckets_eq]
    decide
  nodes_eq := by
    have listed : env.nodeOrder.arrange [storageNode] = [storageNode] :=
      List.perm_singleton.mp (env.nodeOrder.arrange_perm _)
    have online : [storageNode].filter (fun node => node.status == .online) = [storageNode] := by
      decide
    simp only [getOnlineNodes, no_cache, nodesQuery, if_true, Database.getOnlineNodes, nodes_eq,
      online, listed, List.mergeSort_singleton]
  nodes_ne := by simp
  built := built
  path_text := catPath_text
  contentType_text := imageType_text
  not_refused := by
    rw [fileInsert]
    decide
  answered := fileInsert
  fresh_id := fresh_id

variable (ext coder)

/-- The node is eligible for shards. -/
theorem decisions_ne_nil (env : PutEnv) (data : Bytes) :
    Upload.decisions ⟨ext, env, [storageNode], coder, data⟩ ≠ [] := by
  have available : (PlacementNode.fromNode storageNode).availableStorage ≥
      PlacementConfig.default.minAvailableStorage := by
    decide
  have some_eligible : (placementEngine ext).eligible
      ([storageNode].map PlacementNode.fromNode) ≠ [] :=
    List.ne_nil_of_mem (List.mem_filter.mpr ⟨List.mem_singleton_self _, decide_eq_true available⟩)
  intro no_decisions
  obtain ⟨length_eq, -⟩ := Upload.decisions_of_eligible
    ⟨ext, env, [storageNode], coder, data⟩ some_eligible
  rw [no_decisions] at length_eq
  cases length_eq

end

theorem calmEnv_undisturbed (fileId : Uuid) : (calmEnv fileId).Undisturbed :=
  ⟨fun _ _ _ => rfl, fun _ _ => rfl, fun _ _ => rfl⟩

/-- A calm put into the bucket succeeds. -/
theorem put_ok {before : Cluster} (buckets_eq : before.db.buckets = emptyCluster.db.buckets)
    (nodes_eq : before.db.nodes = [storageNode]) {fileId : Uuid}
    (fresh_id : before.db.hasFile fileId = false) (data : Bytes) :
    (putObject externals (calmEnv fileId) before 7 "photos" "cat" data "image/png").2 =
      .ok (hexEncode (externals.blake3 data)) :=
  putObject_undisturbed encoder_gateway
    (registers encoder_built rfl rfl rfl rfl buckets_eq nodes_eq fresh_id)
    (calmEnv_undisturbed fileId) (decisions_ne_nil _ _ _ _)

/-- A calm put into the empty cluster succeeds. -/
theorem first_put_ok (fileId : Uuid) (data : Bytes) :
    (putObject externals (calmEnv fileId) emptyCluster 7 "photos" "cat" data "image/png").2 =
      .ok (hexEncode (externals.blake3 data)) :=
  put_ok rfl rfl rfl data

end CyxCloud.Gateway.Reference
