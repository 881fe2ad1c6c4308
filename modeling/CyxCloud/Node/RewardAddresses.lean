import CyxCloud.Gateway.NodeRegistry

/-!
# Addresses of reward accounts

The addresses that `payment_pool.rs` and `node_registry.rs` of the gateway derive for the reward of
a node, and those that `claim_rewards` in `rewards.rs` of the node derives for the same reward.  The
type of addresses is a parameter, as 32 bytes have no room for an injective image of all seeds.
-/

namespace CyxCloud

open CyxCloud.Core Library

/-- The address and the bump that seeds have under a program. -/
abbrev FindProgramAddress (α : Type) := List Bytes → Pubkey → α × UInt8

/-- Addresses are the same exactly for the same program and the same concatenated seeds. -/
def FindProgramAddress.Injective {α : Type} (findProgramAddress : FindProgramAddress α) : Prop :=
  ∀ (seeds others : List Bytes) (programId otherId : Pubkey),
    (findProgramAddress seeds programId).1 = (findProgramAddress others otherId).1 ↔
      programId = otherId ∧ seeds.flatten = others.flatten

/-- The seed that a string is. -/
def stringSeed (text : String) : Bytes := text.toUTF8.data.toList

/-- The seed of an epoch, its eight bytes in little-endian order. -/
def epochSeed (epoch : UInt64) : Bytes := toLeBytes 8 epoch.toNat

/-- The accounts of a reward. -/
structure RewardAccounts (α : Type) where
  pool : α
  epochRewards : α
  nodeClaim : α
  storageNode : α
  deriving DecidableEq, Repr

/-! ## The gateway -/

namespace Gateway

/-- The payment pool operations of the gateway. -/
structure PaymentPoolOps where
  programId : Pubkey

/-- The node registry operations of the gateway. -/
structure NodeRegistryOps where
  programId : Pubkey

section Derivations

variable {α : Type} (findProgramAddress : FindProgramAddress α)

namespace PaymentPoolOps

/-- Get pool PDA. -/
def getPoolPda (ops : PaymentPoolOps) : α × UInt8 :=
  findProgramAddress [stringSeed "pool"] ops.programId

/-- Get epoch rewards PDA. -/
def getEpochRewardsPda (ops : PaymentPoolOps) (epoch : UInt64) : α × UInt8 :=
  findProgramAddress [stringSeed "epoch_rewards", epochSeed epoch] ops.programId

/-- The seeds of a node claim. -/
def nodeClaimSeeds (epoch : UInt64) (nodeOwner : Pubkey) (nodeId : String) : List Bytes :=
  [stringSeed "node_claim", epochSeed epoch, nodeOwner.bytes, stringSeed nodeId]

/-- Get node claim PDA. -/
def getNodeClaimPda (ops : PaymentPoolOps) (epoch : UInt64) (nodeOwner : Pubkey)
    (nodeId : String) : α × UInt8 :=
  findProgramAddress (nodeClaimSeeds epoch nodeOwner nodeId) ops.programId

end PaymentPoolOps

/-- Get storage node PDA. -/
def NodeRegistryOps.getNodePda (ops : NodeRegistryOps) (owner : Pubkey) (nodeId : String) :
    α × UInt8 :=
  findProgramAddress [stringSeed "storage_node", owner.bytes, stringSeed nodeId] ops.programId

/-- The accounts that the gateway derives for the reward that it allocates to a node: those of
`allocate_node_reward`, and the node under which its registry operations know it. -/
def allocationAccounts (pool : PaymentPoolOps) (registry : NodeRegistryOps) (epoch : UInt64)
    (nodeOwner : Pubkey) (nodeId : String) : RewardAccounts α :=
  { pool := (pool.getPoolPda findProgramAddress).1
    epochRewards := (pool.getEpochRewardsPda findProgramAddress epoch).1
    nodeClaim := (pool.getNodeClaimPda findProgramAddress epoch nodeOwner nodeId).1
    storageNode := (registry.getNodePda findProgramAddress nodeOwner nodeId).1 }

end Derivations

end Gateway

/-! ## The node -/

namespace Node

/-- The reward claiming operations of a node. -/
structure RewardsOps where
  paymentPoolProgramId : Pubkey
  nodeRegistryProgramId : Pubkey

namespace RewardsOps

variable {α : Type} (findProgramAddress : FindProgramAddress α)

/-- Derive the payment pool PDA. -/
def derivePoolPda (ops : RewardsOps) : α × UInt8 :=
  findProgramAddress [stringSeed "pool"] ops.paymentPoolProgramId

/-- Derive the epoch rewards PDA. -/
def deriveEpochPda (ops : RewardsOps) (epoch : UInt64) : α × UInt8 :=
  -- the gateway has `epoch_rewards` here
  findProgramAddress [stringSeed "epoch", epochSeed epoch] ops.paymentPoolProgramId

/-- The seeds of a node epoch claim. -/
def claimSeeds (epoch : UInt64) (owner : Pubkey) (nodeId : String) : List Bytes :=
  [stringSeed "node_claim", epochSeed epoch, owner.bytes, stringSeed nodeId]

/-- Derive the node epoch claim PDA. -/
def deriveClaimPda (ops : RewardsOps) (epoch : UInt64) (owner : Pubkey) (nodeId : String) :
    α × UInt8 :=
  findProgramAddress (claimSeeds epoch owner nodeId) ops.paymentPoolProgramId

/-- Derive the storage node PDA. -/
def deriveNodePda (ops : RewardsOps) (owner : Pubkey) (nodeId : String) : α × UInt8 :=
  findProgramAddress [stringSeed "storage_node", owner.bytes, stringSeed nodeId]
    ops.nodeRegistryProgramId

/-- The accounts that `claim_rewards` derives and names in its instruction. -/
def claimAccounts (ops : RewardsOps) (owner : Pubkey) (nodeId : String) (epoch : UInt64) :
    RewardAccounts α :=
  { pool := (ops.derivePoolPda findProgramAddress).1
    epochRewards := (ops.deriveEpochPda findProgramAddress epoch).1
    nodeClaim := (ops.deriveClaimPda findProgramAddress epoch owner nodeId).1
    storageNode := (ops.deriveNodePda findProgramAddress owner nodeId).1 }

end RewardsOps

/-! ## Seeds -/

theorem stringSeed_inj {left right : String} (same : stringSeed left = stringSeed right) :
    left = right := by
  have bytes : left.toUTF8.data = right.toUTF8.data := Array.toList_inj.mp same
  exact String.toByteArray_inj.mp (ByteArray.ext bytes)

theorem length_epochSeed (epoch : UInt64) : (epochSeed epoch).length = 8 :=
  length_toLeBytes 8 _

theorem epochSeed_inj {left right : UInt64} (same : epochSeed left = epochSeed right) :
    left = right :=
  UInt64.toNat_inj.mp (toLeBytes_inj left.toNat_lt right.toNat_lt same)

/-- The identifier is the only seed of a node claim without a fixed length, and the last one. -/
theorem claimSeeds_inj {epoch otherEpoch : UInt64} {owner other : Pubkey} {nodeId otherId : String}
    (same : (RewardsOps.claimSeeds epoch owner nodeId).flatten =
      (RewardsOps.claimSeeds otherEpoch other otherId).flatten) :
    epoch = otherEpoch ∧ owner = other ∧ nodeId = otherId := by
  simp only [RewardsOps.claimSeeds, List.flatten_cons, List.flatten_nil, List.append_nil] at same
  have behind_name := List.append_cancel_left same
  have epoch_length : (epochSeed epoch).length = (epochSeed otherEpoch).length := by
    rw [length_epochSeed, length_epochSeed]
  obtain ⟨epochs, behind_epoch⟩ := List.append_inj behind_name epoch_length
  have owner_length : owner.bytes.length = other.bytes.length :=
    owner.length_eq.trans other.length_eq.symm
  obtain ⟨owners, identifiers⟩ := List.append_inj behind_epoch owner_length
  refine ⟨epochSeed_inj epochs, ?_, stringSeed_inj identifiers⟩
  cases owner
  cases other
  simpa using owners

/-- The names of the epoch account on both sides differ in length, the epochs do not. -/
theorem epoch_seeds_ne (epoch otherEpoch : UInt64) :
    [stringSeed "epoch", epochSeed epoch].flatten ≠
      [stringSeed "epoch_rewards", epochSeed otherEpoch].flatten := by
  intro same
  have lengths := congrArg List.length same
  have short : (stringSeed "epoch").length = 5 := by decide
  have long : (stringSeed "epoch_rewards").length = 13 := by decide
  simp only [List.flatten_cons, List.flatten_nil, List.append_nil, List.length_append,
    length_epochSeed, short, long] at lengths
  omega

/-! ## Agreement -/

section Agreement

variable {α : Type} (findProgramAddress : FindProgramAddress α)
  (pool : Gateway.PaymentPoolOps) (registry : Gateway.NodeRegistryOps) (rewards : RewardsOps)

/-- The node names the accounts under which the gateway allocated the reward, and the seeds of its
claim are those of no other reward. -/
def NamesSameAccounts (epoch : UInt64) (owner : Pubkey) (nodeId : String) : Prop :=
  rewards.claimAccounts findProgramAddress owner nodeId epoch =
      Gateway.allocationAccounts findProgramAddress pool registry epoch owner nodeId ∧
    ∀ otherEpoch other otherId,
      (RewardsOps.claimSeeds epoch owner nodeId).flatten =
          (Gateway.PaymentPoolOps.nodeClaimSeeds otherEpoch other otherId).flatten →
        epoch = otherEpoch ∧ owner = other ∧ nodeId = otherId

/-- The account of the epoch aside, the two sides name the same accounts. -/
structure NamesSameOthers (claimed allocated : RewardAccounts α) : Prop where
  pool : claimed.pool = allocated.pool
  nodeClaim : claimed.nodeClaim = allocated.nodeClaim
  storageNode : claimed.storageNode = allocated.storageNode

variable {findProgramAddress} {pool registry rewards}

/-- No epoch account of the node is one of the gateway, for the same epoch or for another. -/
theorem epochAccount_ne (injective : findProgramAddress.Injective) (epoch otherEpoch : UInt64) :
    (rewards.deriveEpochPda findProgramAddress epoch).1 ≠
      (pool.getEpochRewardsPda findProgramAddress otherEpoch).1 := by
  intro same
  have seeds := ((injective _ _ _ _).mp same).2
  exact epoch_seeds_ne epoch otherEpoch seeds

theorem namesSameOthers_iff (injective : findProgramAddress.Injective) (epoch : UInt64)
    (owner : Pubkey) (nodeId : String) :
    NamesSameOthers (rewards.claimAccounts findProgramAddress owner nodeId epoch)
        (Gateway.allocationAccounts findProgramAddress pool registry epoch owner nodeId) ↔
      rewards.paymentPoolProgramId = pool.programId ∧
        rewards.nodeRegistryProgramId = registry.programId := by
  constructor
  · rintro ⟨pools, -, nodes⟩
    exact ⟨((injective _ _ _ _).mp pools).1, ((injective _ _ _ _).mp nodes).1⟩
  · rintro ⟨pools, registries⟩
    exact ⟨(injective _ _ _ _).mpr ⟨pools, rfl⟩, (injective _ _ _ _).mpr ⟨pools, rfl⟩,
      (injective _ _ _ _).mpr ⟨registries, rfl⟩⟩

/-- Node and gateway never name the same accounts, as their epoch accounts differ.  Under the same
programs all others agree, and the seeds of different claims differ. -/
theorem namesSameAccounts_never (injective : findProgramAddress.Injective) :
    (∀ epoch owner nodeId,
        ¬ NamesSameAccounts findProgramAddress pool registry rewards epoch owner nodeId) ∧
      (∀ epoch owner nodeId,
        NamesSameOthers (rewards.claimAccounts findProgramAddress owner nodeId epoch)
            (Gateway.allocationAccounts findProgramAddress pool registry epoch owner nodeId) ↔
          rewards.paymentPoolProgramId = pool.programId ∧
            rewards.nodeRegistryProgramId = registry.programId) ∧
        ∀ epoch owner nodeId otherEpoch other otherId,
          (RewardsOps.claimSeeds epoch owner nodeId).flatten =
              (Gateway.PaymentPoolOps.nodeClaimSeeds otherEpoch other otherId).flatten →
            epoch = otherEpoch ∧ owner = other ∧ nodeId = otherId := by
  refine ⟨?_, namesSameOthers_iff injective, ?_⟩
  · rintro epoch owner nodeId ⟨same, -⟩
    exact epochAccount_ne injective epoch epoch (congrArg RewardAccounts.epochRewards same)
  · intro epoch owner nodeId otherEpoch other otherId same
    exact claimSeeds_inj same

end Agreement

namespace Reference

/-- A derivation that keeps program and seeds. -/
def findProgramAddress : FindProgramAddress (Pubkey × Bytes) :=
  fun seeds programId => ((programId, seeds.flatten), 255)

theorem findProgramAddress_injective : findProgramAddress.Injective := by
  intro seeds others programId otherId
  simp [findProgramAddress]

/-- The payment pool program of both configurations. -/
def paymentPoolProgram : Pubkey :=
  ⟨[58, 120, 201, 81, 99, 226, 213, 181, 172, 83, 152, 209, 191, 97, 237, 179, 148, 5, 21, 159,
    197, 107, 234, 234, 71, 134, 80, 26, 179, 75, 59, 82], rfl⟩

/-- The node registry program of both configurations. -/
def nodeRegistryProgram : Pubkey :=
  ⟨[139, 182, 217, 12, 155, 134, 31, 3, 154, 67, 163, 18, 223, 251, 206, 106, 49, 118, 250, 65, 58,
    74, 50, 141, 141, 133, 179, 79, 86, 48, 70, 170], rfl⟩

theorem length_owner : (List.replicate 32 (9 : UInt8)).length = 32 := rfl

/-- The owner of a node. -/
def owner : Pubkey := ⟨List.replicate 32 9, length_owner⟩

end Reference

/-- Under the programs of both configurations, the accounts for a reward of "node-1" differ. -/
theorem namesSameAccounts_never_default :
    Reference.findProgramAddress.Injective ∧
      ¬ NamesSameAccounts Reference.findProgramAddress ⟨Reference.paymentPoolProgram⟩
          ⟨Reference.nodeRegistryProgram⟩
          ⟨Reference.paymentPoolProgram, Reference.nodeRegistryProgram⟩ 1 Reference.owner "node-1" :=
  ⟨Reference.findProgramAddress_injective,
    (namesSameAccounts_never Reference.findProgramAddress_injective).1 1 Reference.owner "node-1"⟩

/-- The node claims the reward of an epoch from an account that the gateway never derives. -/
theorem not_namesSameAccounts :
    ¬ NamesSameAccounts Reference.findProgramAddress ⟨Reference.paymentPoolProgram⟩
        ⟨Reference.nodeRegistryProgram⟩
        ⟨Reference.paymentPoolProgram, Reference.nodeRegistryProgram⟩ 1 Reference.owner "node-1" := by
  rintro ⟨same, -⟩
  have epochs := congrArg RewardAccounts.epochRewards same
  revert epochs
  decide

end Node

end CyxCloud
