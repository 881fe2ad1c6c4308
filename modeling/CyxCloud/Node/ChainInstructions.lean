import CyxCloud.Gateway.PoolAccounts
import CyxCloud.Node.RegistryAccounts
import CyxCloud.Node.RewardAddresses

/-!
# Instruction data

The data of the instructions that gateway and node send to the payment pool program, in
`payment_pool.rs` and `rewards.rs`, and to the storage node registry, in both `node_registry.rs`,
`registration.rs` and `heartbeat.rs`.  The hash function is a parameter.
-/

namespace CyxCloud.Node

open CyxCloud.Core Library

/-- Anchor discriminator of an instruction. -/
def getDiscriminator (sha256 : Bytes → Bytes) (instructionName : String) : Bytes :=
  (sha256 (stringSeed ("global:" ++ instructionName))).take 8

/-- A string with its length in front, of which four bytes are kept. -/
def lengthPrefixed (text : String) : Bytes :=
  toLeBytes 4 (stringSeed text).length ++ stringSeed text

/-- The length of a string fits its four bytes. -/
def FitsPrefix (text : String) : Prop := (stringSeed text).length < 256 ^ 4

instance (text : String) : Decidable (FitsPrefix text) :=
  inferInstanceAs (Decidable ((stringSeed text).length < 256 ^ 4))

/-- Specification of the storage that a node registers. -/
structure StorageSpec where
  totalCapacityBytes : UInt64
  diskType : DiskType
  region : String
  bandwidthMbps : UInt32
  deriving DecidableEq, Repr

/-- Answer to a proof-of-storage challenge; its Merkle path is not sent. -/
structure ProofOfStorage where
  challengeId : UInt64
  proofHash : { hash : Bytes // hash.length = 32 }
  deriving DecidableEq, Repr

/-- Convert to the on-chain byte. -/
def diskTypeToByte : DiskType → UInt8
  | .hdd => 0
  | .ssd => 1
  | .nvme => 2

theorem diskTypeFromByte_toByte (diskType : DiskType) :
    diskTypeFromByte (diskTypeToByte diskType) = diskType := by
  cases diskType <;> rfl

/-! ## Layouts of arguments -/

/-- Hashes. -/
def proofLayout : Layout ProofOfStorage :=
  (Layout.u64.seq (Layout.bytes 32)).same
    (fun proof => (proof.challengeId, proof.proofHash))
    (fun inner => ⟨inner.1, inner.2⟩) (fun _ => rfl) (fun _ => rfl)

/-- Metrics, as four words. -/
def metricsLayout : Layout Gateway.StorageMetrics :=
  (Layout.u64.seq (Layout.u64.seq (Layout.u64.seq Layout.u64))).same
    (fun metrics => (metrics.bytesStored, metrics.bytesServed, metrics.uptimeSeconds,
      metrics.requestsServed))
    (fun inner => ⟨inner.1, inner.2.1, inner.2.2.1, inner.2.2.2⟩) (fun _ => rfl) (fun _ => rfl)

/-- Nothing but the same string begins with the bytes of a string that fits its prefix. -/
theorem lengthPrefixed_append_inj {left right : String} {rest rest' : Bytes}
    (fits : FitsPrefix left) (fits' : FitsPrefix right) :
    lengthPrefixed left ++ rest = lengthPrefixed right ++ rest' ↔ left = right ∧ rest = rest' := by
  have written : Layout.counted.write ⟨stringSeed left, fits⟩ ++ rest =
      Layout.counted.write ⟨stringSeed right, fits'⟩ ++ rest' ↔ _ :=
    Layout.counted.write_append_inj
  have texts : stringSeed left = stringSeed right ↔ left = right :=
    ⟨stringSeed_inj, congrArg stringSeed⟩
  exact written.trans (and_congr_left' (Subtype.mk_eq_mk.trans texts))

/-! ## Discriminators -/

section

variable {sha256 : Bytes → Bytes} (digest_length : ∀ input, (sha256 input).length = 32)
include digest_length

theorem length_getDiscriminator (instructionName : String) :
    (getDiscriminator sha256 instructionName).length = 8 := by
  rw [getDiscriminator, List.length_take, digest_length]
  rfl

/-- Instructions with different discriminators share no beginning of their data. -/
theorem getDiscriminator_append_inj {names : List String}
    (distinct : (names.map (getDiscriminator sha256)).Nodup) {left right : String}
    (left_mem : left ∈ names) (right_mem : right ∈ names) {rest rest' : Bytes} :
    getDiscriminator sha256 left ++ rest = getDiscriminator sha256 right ++ rest' ↔
      left = right ∧ rest = rest' := by
  constructor
  · intro same
    have lengths := (length_getDiscriminator digest_length left).trans
      (length_getDiscriminator digest_length right).symm
    obtain ⟨heads, rests⟩ := List.append_inj same lengths
    exact ⟨List.inj_on_of_nodup_map distinct left_mem right_mem heads, rests⟩
  · rintro ⟨rfl, rfl⟩
    rfl

end

/-! ## The payment pool program -/

/-- The instructions that are sent to the payment pool program. -/
inductive PoolInstruction where
  | startNewEpoch
  | allocateNodeReward (epoch : UInt64) (nodeOwner : Pubkey) (nodeId : String)
      (rewardAmount : UInt64)
  | finalizeEpoch (epoch : UInt64)
  | claimPlatformShare (epoch : UInt64)
  | claimCommunityShare (epoch : UInt64)
  | claimNodeRewards (epoch : UInt64)
  deriving DecidableEq, Repr

namespace PoolInstruction

/-- The names of the instructions. -/
def names : List String :=
  ["start_new_epoch", "allocate_node_reward", "finalize_epoch", "claim_platform_share",
    "claim_community_share", "claim_node_rewards"]

/-- The name of an instruction. -/
def name : PoolInstruction → String
  | startNewEpoch => "start_new_epoch"
  | allocateNodeReward _ _ _ _ => "allocate_node_reward"
  | finalizeEpoch _ => "finalize_epoch"
  | claimPlatformShare _ => "claim_platform_share"
  | claimCommunityShare _ => "claim_community_share"
  | claimNodeRewards _ => "claim_node_rewards"

/-- What follows the discriminator. -/
def arguments : PoolInstruction → Bytes
  | startNewEpoch => []
  | allocateNodeReward epoch nodeOwner nodeId rewardAmount =>
      toLeBytes 8 epoch.toNat ++
        (nodeOwner.bytes ++ (lengthPrefixed nodeId ++ toLeBytes 8 rewardAmount.toNat))
  | finalizeEpoch epoch => toLeBytes 8 epoch.toNat
  | claimPlatformShare epoch => toLeBytes 8 epoch.toNat
  | claimCommunityShare epoch => toLeBytes 8 epoch.toNat
  | claimNodeRewards epoch => toLeBytes 8 epoch.toNat

/-- The data of an instruction. -/
def data (sha256 : Bytes → Bytes) (instruction : PoolInstruction) : Bytes :=
  getDiscriminator sha256 instruction.name ++ instruction.arguments

/-- The strings of an instruction fit their length prefixes. -/
def Fits : PoolInstruction → Prop
  | allocateNodeReward _ _ nodeId _ => FitsPrefix nodeId
  | _ => True

theorem name_mem (instruction : PoolInstruction) : instruction.name ∈ names := by
  cases instruction <;> simp [name, names]

/-- Instructions of one name whose arguments begin alike are the same. -/
theorem arguments_append_inj {left right : PoolInstruction} (fits : left.Fits)
    (fits' : right.Fits) (names_eq : left.name = right.name) {rest rest' : Bytes}
    (same : left.arguments ++ rest = right.arguments ++ rest') : left = right ∧ rest = rest' := by
  have words {epoch other : UInt64} {front back : Bytes} :
      toLeBytes 8 epoch.toNat ++ front = toLeBytes 8 other.toNat ++ back ↔
        epoch = other ∧ front = back := Layout.u64.write_append_inj
  cases left <;> cases right <;> simp only [name, String.reduceEq] at names_eq
  case startNewEpoch.startNewEpoch => exact ⟨rfl, same⟩
  case allocateNodeReward.allocateNodeReward =>
    simp only [arguments, List.append_assoc] at same
    obtain ⟨rfl, behind_epoch⟩ := words.mp same
    obtain ⟨rfl, behind_owner⟩ := Pubkey.layout.write_append_inj.mp behind_epoch
    obtain ⟨rfl, behind_id⟩ := (lengthPrefixed_append_inj fits fits').mp behind_owner
    obtain ⟨rfl, behind⟩ := words.mp behind_id
    exact ⟨rfl, behind⟩
  all_goals
    obtain ⟨rfl, behind⟩ := words.mp same
    exact ⟨rfl, behind⟩

end PoolInstruction

/-! ## The storage node registry -/

/-- The instructions that are sent to the storage node registry. -/
inductive RegistryInstruction where
  | registerNode (nodeId : String) (spec : StorageSpec)
  | addStake (amount : UInt64)
  | requestWithdraw (amount : UInt64)
  | completeWithdraw
  | heartbeat
  | submitProof (proof : ProofOfStorage)
  /-- Gateway and node send the same data. -/
  | updateMetrics (metrics : Gateway.StorageMetrics)
  | slashNode (amount : UInt64) (reason : String)
  deriving DecidableEq, Repr

namespace RegistryInstruction

/-- The names of the instructions. -/
def names : List String :=
  ["register_node", "add_stake", "request_withdraw", "complete_withdraw", "heartbeat",
    "submit_proof_of_storage", "update_metrics", "slash_node"]

/-- The name of an instruction. -/
def name : RegistryInstruction → String
  | registerNode _ _ => "register_node"
  | addStake _ => "add_stake"
  | requestWithdraw _ => "request_withdraw"
  | completeWithdraw => "complete_withdraw"
  | heartbeat => "heartbeat"
  | submitProof _ => "submit_proof_of_storage"
  | updateMetrics _ => "update_metrics"
  | slashNode _ _ => "slash_node"

/-- What follows the discriminator. -/
def arguments : RegistryInstruction → Bytes
  | registerNode nodeId spec =>
      lengthPrefixed nodeId ++ (toLeBytes 8 spec.totalCapacityBytes.toNat ++
        ([diskTypeToByte spec.diskType] ++
          (lengthPrefixed spec.region ++ toLeBytes 4 spec.bandwidthMbps.toNat)))
  | addStake amount => toLeBytes 8 amount.toNat
  | requestWithdraw amount => toLeBytes 8 amount.toNat
  | completeWithdraw => []
  | heartbeat => []
  | submitProof proof => toLeBytes 8 proof.challengeId.toNat ++ proof.proofHash.val
  | updateMetrics metrics =>
      toLeBytes 8 metrics.bytesStored.toNat ++ (toLeBytes 8 metrics.bytesServed.toNat ++
        (toLeBytes 8 metrics.uptimeSeconds.toNat ++ toLeBytes 8 metrics.requestsServed.toNat))
  | slashNode amount reason => toLeBytes 8 amount.toNat ++ lengthPrefixed reason

/-- The data of an instruction. -/
def data (sha256 : Bytes → Bytes) (instruction : RegistryInstruction) : Bytes :=
  getDiscriminator sha256 instruction.name ++ instruction.arguments

/-- The strings of an instruction fit their length prefixes. -/
def Fits : RegistryInstruction → Prop
  | registerNode nodeId spec => FitsPrefix nodeId ∧ FitsPrefix spec.region
  | slashNode _ reason => FitsPrefix reason
  | _ => True

theorem name_mem (instruction : RegistryInstruction) : instruction.name ∈ names := by
  cases instruction <;> simp [name, names]

/-- Instructions of one name whose arguments begin alike are the same. -/
theorem arguments_append_inj {left right : RegistryInstruction} (fits : left.Fits)
    (fits' : right.Fits) (names_eq : left.name = right.name) {rest rest' : Bytes}
    (same : left.arguments ++ rest = right.arguments ++ rest') : left = right ∧ rest = rest' := by
  have words {amount other : UInt64} {front back : Bytes} :
      toLeBytes 8 amount.toNat ++ front = toLeBytes 8 other.toNat ++ back ↔
        amount = other ∧ front = back := Layout.u64.write_append_inj
  cases left <;> cases right <;> simp only [name, String.reduceEq] at names_eq
  case registerNode.registerNode nodeId spec other otherSpec =>
    simp only [arguments, List.append_assoc] at same
    obtain ⟨rfl, behind_id⟩ := (lengthPrefixed_append_inj fits.1 fits'.1).mp same
    obtain ⟨capacities, behind_capacity⟩ := words.mp behind_id
    obtain ⟨diskTypes, behind_type⟩ := List.cons.inj behind_capacity
    obtain ⟨regions, behind_region⟩ := (lengthPrefixed_append_inj fits.2 fits'.2).mp behind_type
    obtain ⟨bandwidths, behind⟩ := Layout.u32.write_append_inj.mp behind_region
    have types := congrArg diskTypeFromByte diskTypes
    rw [diskTypeFromByte_toByte, diskTypeFromByte_toByte] at types
    cases spec
    cases otherSpec
    cases capacities
    cases types
    cases regions
    cases bandwidths
    exact ⟨rfl, behind⟩
  case completeWithdraw.completeWithdraw => exact ⟨rfl, same⟩
  case heartbeat.heartbeat => exact ⟨rfl, same⟩
  case submitProof.submitProof =>
    obtain ⟨rfl, behind⟩ := proofLayout.write_append_inj.mp same
    exact ⟨rfl, behind⟩
  case updateMetrics.updateMetrics =>
    obtain ⟨rfl, behind⟩ := metricsLayout.write_append_inj.mp same
    exact ⟨rfl, behind⟩
  case slashNode.slashNode =>
    simp only [arguments, List.append_assoc] at same
    obtain ⟨rfl, behind_amount⟩ := words.mp same
    obtain ⟨rfl, behind⟩ := (lengthPrefixed_append_inj fits fits').mp behind_amount
    exact ⟨rfl, behind⟩
  all_goals
    obtain ⟨rfl, behind⟩ := words.mp same
    exact ⟨rfl, behind⟩

end RegistryInstruction

/-! ## Both programs -/

/-- The hash function tells the instructions of each program apart. -/
structure Distinguishes (sha256 : Bytes → Bytes) : Prop where
  digest_length : ∀ input, (sha256 input).length = 32
  pool : (PoolInstruction.names.map (getDiscriminator sha256)).Nodup
  registry : (RegistryInstruction.names.map (getDiscriminator sha256)).Nodup

/-- No instruction begins with the data of another one for the same program: the data tell
instruction and arguments, whatever follows. -/
theorem instructionData_append_inj {sha256 : Bytes → Bytes} (distinguishes : Distinguishes sha256) :
    (∀ left right : PoolInstruction, left.Fits → right.Fits → ∀ rest rest',
      left.data sha256 ++ rest = right.data sha256 ++ rest' ↔ left = right ∧ rest = rest') ∧
    ∀ left right : RegistryInstruction, left.Fits → right.Fits → ∀ rest rest',
      left.data sha256 ++ rest = right.data sha256 ++ rest' ↔ left = right ∧ rest = rest' := by
  constructor
  · intro left right fits fits' rest rest'
    constructor
    · intro same
      rw [PoolInstruction.data, PoolInstruction.data, List.append_assoc, List.append_assoc,
        getDiscriminator_append_inj distinguishes.digest_length distinguishes.pool left.name_mem
          right.name_mem] at same
      exact PoolInstruction.arguments_append_inj fits fits' same.1 same.2
    · rintro ⟨rfl, rfl⟩
      rfl
  · intro left right fits fits' rest rest'
    constructor
    · intro same
      rw [RegistryInstruction.data, RegistryInstruction.data, List.append_assoc,
        List.append_assoc, getDiscriminator_append_inj distinguishes.digest_length
          distinguishes.registry left.name_mem right.name_mem] at same
      exact RegistryInstruction.arguments_append_inj fits fits' same.1 same.2
    · rintro ⟨rfl, rfl⟩
      rfl

/-! ## The digests of the names -/

/-- Digests of the names behind their common beginning, as numbers in little-endian order. -/
def instructionDigests : List (String × Nat) :=
  [("start_new_epoch",
      0x88bcaa7ec96eee87419f2b895046f6fc686496dcc5c0828fde163cfd0c907c25),
    ("allocate_node_reward",
      0xba833002140df7c2522c956dbfe43175d18bbbb8b2c8ac3938e5f873b4d131d3),
    ("finalize_epoch",
      0x9a333db1f8b356053ed842bdac9eecaad8977deeb6db8d6a4cf92c3fd9755d9f),
    ("claim_platform_share",
      0x409373a40c41d5f8b5e60e3127f2f899ff920fa83f671277194822440f1cdcdc),
    ("claim_community_share",
      0x39d40bc5311b10c42dfdf08bf4e5d54d8c1ea8d36d532b483ea5da04d5ebc39e),
    ("claim_node_rewards",
      0xc7fa96daf333947133a43022650d1dffe2780283417d43c401d66468a192c997),
    ("register_node",
      0x3b53671a0453ae2b55ad290359bab0674fbef0fc8a092924a8d3bcc272755566),
    ("add_stake",
      0xff1ac9bb6a6b4a1f851316e70f4ed6b7705ce2cb4ad6b058e0a578a069bd873a),
    ("request_withdraw",
      0xb66ed4a4a7a1aa35086523163ac5c46c29d68e3cd8ac9d6db61f8afa60bb5f89),
    ("complete_withdraw",
      0xcfbf9ac575f2afebd7113bf748419055d889e7510b021d2562fbfd5f118d81ac),
    ("heartbeat",
      0xc587d62bf84583130c2590d2adb4d66499659d7938d06e53863faaf0063868ca),
    ("submit_proof_of_storage",
      0x30cc6dba202ead02e36c60e69c7fb0fea390a0c4abc7dc325a67865320f9bbc0),
    ("update_metrics",
      0x0cb5e0e247eff1a6b71f8e9a721e46182ad70447ae21862eb9ac89948780724f),
    ("slash_node",
      0x57a8801c0eb70fc7c7b20c6d37fcad07724f8d32863189c0ec72a6f11699b2a5)]

/-- The digests of these, and zeros for all other inputs. -/
def digestOf (input : Bytes) : Bytes :=
  match instructionDigests.find? fun entry => stringSeed ("global:" ++ entry.1) == input with
  | some entry => toLeBytes 32 entry.2
  | none => List.replicate 32 0

theorem distinguishes_digestOf : Distinguishes digestOf := by
  constructor
  · intro input
    rw [digestOf]
    split
    · exact length_toLeBytes 32 _
    · exact List.length_replicate
  · decide
  · decide

/-- Rewards of different nodes, and a stake and a slash of the same amount, have different data. -/
theorem instructionData_ne :
    (PoolInstruction.allocateNodeReward 7 Reference.owner "storage-1" 250).data digestOf ≠
        (PoolInstruction.allocateNodeReward 7 Reference.owner "storage-12" 250).data digestOf ∧
      (RegistryInstruction.addStake 5).data digestOf ≠
        (RegistryInstruction.slashNode 5 "downtime").data digestOf := by
  have unambiguous := instructionData_append_inj distinguishes_digestOf
  constructor
  · intro same
    have shorter : FitsPrefix "storage-1" := by decide
    have longer : FitsPrefix "storage-12" := by decide
    have equal := (unambiguous.1 (.allocateNodeReward 7 Reference.owner "storage-1" 250)
      (.allocateNodeReward 7 Reference.owner "storage-12" 250) shorter longer [] []).mp
        (congrArg (· ++ []) same)
    exact absurd equal.1 (by decide)
  · intro same
    have fits : FitsPrefix "downtime" := by decide
    have equal := (unambiguous.2 (.addStake 5) (.slashNode 5 "downtime") trivial fits [] []).mp
      (congrArg (· ++ []) same)
    exact absurd equal.1 (by decide)

end CyxCloud.Node
