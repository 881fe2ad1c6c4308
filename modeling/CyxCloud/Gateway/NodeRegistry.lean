import CyxCloud.Core.Erasure
import CyxCloud.Library.ByteLayout

/-!
# Storage nodes on the chain, as the gateway reads them

`get_node` and `parse_node_data` of `cyxcloud-gateway/src/blockchain/node_registry.rs`.  Indices are
64-bit, so that sums of offsets do not overflow.
-/

namespace CyxCloud

open CyxCloud.Core Library

/-- A public key. -/
structure Pubkey where
  bytes : Bytes
  length_eq : bytes.length = 32
  deriving DecidableEq, Repr

namespace Pubkey

/-- The first 32 bytes, followed by zeros if there are fewer. -/
def ofBytes (bytes : Bytes) : Pubkey :=
  ⟨(bytes ++ List.replicate 32 0).take 32, by simp⟩

/-- A slice as a key; it must have the right length. -/
def tryFrom (bytes : Bytes) : Parsed Pubkey :=
  if bytes.length = 32 then .ok (ofBytes bytes)
  else .error (.error "could not convert slice to array")

theorem ofBytes_bytes (key : Pubkey) : ofBytes key.bytes = key := by
  obtain ⟨bytes, length_eq⟩ := key
  simp [ofBytes, ← length_eq]

/-- A slice of the right length is a key. -/
theorem tryFrom_between {data : Bytes} {start : Nat} (reaches : start + 32 ≤ data.length) :
    tryFrom (between data start (start + 32)) =
      inReach data (start + 32) (ofBytes (between data start (start + 32))) := by
  have length_eq : (between data start (start + 32)).length = 32 := by
    rw [length_between reaches, Nat.add_sub_cancel_left]
  rw [tryFrom, if_pos length_eq, inReach, if_pos reaches]

end Pubkey

/-- Status of a storage node on the chain, declared alike by gateway and node. -/
inductive StorageNodeStatus where
  | active
  | inactive
  | slashed
  deriving DecidableEq, Repr

/-- Disk type of a storage node, declared alike by gateway and node. -/
inductive DiskType where
  | hdd
  | ssd
  | nvme
  deriving DecidableEq, Repr

/-- What gateway and node both read of a storage node. -/
structure NodeRecord where
  owner : Pubkey
  stakeAmount : UInt64
  totalCapacityBytes : UInt64
  allocatedCapacityBytes : UInt64
  totalProofs : UInt64
  failedProofs : UInt64
  reputationScore : UInt16
  status : StorageNodeStatus
  lastHeartbeat : Int64
  lastProofTimestamp : Int64
  pendingRewards : UInt64
  registeredAt : Int64
  deriving DecidableEq, Repr

/-- The record of account data in which the owner stands at one offset and the reputation at
another, with a reading of the status. -/
def recordAt (statusOf : UInt8 → StorageNodeStatus) (data : Bytes) (owner reputation : Nat) :
    NodeRecord :=
  { owner := .ofBytes (between data owner (owner + 32))
    stakeAmount := u64FromLeBytes (between data (owner + 32) (owner + 40))
    totalCapacityBytes := u64FromLeBytes (between data (owner + 40) (owner + 48))
    allocatedCapacityBytes := u64FromLeBytes (between data (owner + 48) (owner + 56))
    totalProofs := u64FromLeBytes (between data reputation (reputation + 8))
    failedProofs := u64FromLeBytes (between data (reputation + 8) (reputation + 16))
    reputationScore := u16FromLeBytes (between data (reputation + 25) (reputation + 27))
    status := statusOf (data.getD (reputation + 27) 0)
    lastHeartbeat := i64FromLeBytes (between data (reputation + 28) (reputation + 36))
    lastProofTimestamp := i64FromLeBytes (between data (reputation + 36) (reputation + 44))
    pendingRewards := u64FromLeBytes (between data (reputation + 44) (reputation + 52))
    registeredAt := i64FromLeBytes (between data (reputation + 52) (reputation + 60)) }

namespace Gateway

/-- Storage specification of a node. -/
structure StorageSpec where
  totalCapacityBytes : UInt64
  allocatedCapacityBytes : UInt64
  diskType : DiskType
  region : String
  bandwidthMbps : UInt32
  deriving DecidableEq, Repr

/-- Storage metrics of a node. -/
structure StorageMetrics where
  bytesStored : UInt64
  bytesServed : UInt64
  uptimeSeconds : UInt64
  requestsServed : UInt64
  deriving DecidableEq, Repr

/-- Reputation of a node. -/
structure StorageReputation where
  totalProofs : UInt64
  failedProofs : UInt64
  dataLossEvents : UInt32
  retrievalSuccessRate : UInt8
  slashes : UInt32
  reputationScore : UInt16
  deriving DecidableEq, Repr

/-- What the gateway knows about a node on the chain. -/
structure StorageNodeInfo where
  nodeId : String
  owner : Pubkey
  stakeAmount : UInt64
  spec : StorageSpec
  metrics : StorageMetrics
  reputation : StorageReputation
  status : StorageNodeStatus
  lastHeartbeat : Int64
  lastProofTimestamp : Int64
  pendingRewards : UInt64
  registeredAt : Int64
  deriving DecidableEq, Repr

/-- What the node reads as well. -/
def StorageNodeInfo.record (info : StorageNodeInfo) : NodeRecord :=
  { owner := info.owner
    stakeAmount := info.stakeAmount
    totalCapacityBytes := info.spec.totalCapacityBytes
    allocatedCapacityBytes := info.spec.allocatedCapacityBytes
    totalProofs := info.reputation.totalProofs
    failedProofs := info.reputation.failedProofs
    reputationScore := info.reputation.reputationScore
    status := info.status
    lastHeartbeat := info.lastHeartbeat
    lastProofTimestamp := info.lastProofTimestamp
    pendingRewards := info.pendingRewards
    registeredAt := info.registeredAt }

namespace NodeRegistryOps

/-- A disk type by its byte; an unknown one is taken for a hard disk. -/
def diskTypeOf (byte : UInt8) : DiskType :=
  if byte = 1 then .ssd else if byte = 2 then .nvme else .hdd

/-- A status by its byte; an unknown one is taken for inactive. -/
def statusOf (byte : UInt8) : StorageNodeStatus :=
  if byte = 0 then .active else if byte = 2 then .slashed else .inactive

/-- The specification; the region is not read. -/
def parseSpec (data : Bytes) (offset : Nat) : Parsed StorageSpec := do
  let totalCapacity ← slice data offset (offset + 8)
  let allocatedCapacity ← slice data (offset + 8) (offset + 16)
  let diskType ← byteAt data (offset + 16)
  return {
    totalCapacityBytes := u64FromLeBytes totalCapacity
    allocatedCapacityBytes := u64FromLeBytes allocatedCapacity
    diskType := diskTypeOf diskType
    region := "unknown"
    bandwidthMbps := 0 }

/-- The metrics, four words. -/
def parseMetrics (data : Bytes) (offset : Nat) : Parsed StorageMetrics := do
  let bytesStored ← slice data offset (offset + 8)
  let bytesServed ← slice data (offset + 8) (offset + 16)
  let uptimeSeconds ← slice data (offset + 16) (offset + 24)
  let requestsServed ← slice data (offset + 24) (offset + 32)
  return {
    bytesStored := u64FromLeBytes bytesStored
    bytesServed := u64FromLeBytes bytesServed
    uptimeSeconds := u64FromLeBytes uptimeSeconds
    requestsServed := u64FromLeBytes requestsServed }

/-- The reputation, 27 bytes. -/
def parseReputation (data : Bytes) (offset : Nat) : Parsed StorageReputation := do
  let totalProofs ← slice data offset (offset + 8)
  let failedProofs ← slice data (offset + 8) (offset + 16)
  let dataLossEvents ← slice data (offset + 16) (offset + 20)
  let retrievalSuccessRate ← byteAt data (offset + 20)
  let slashes ← slice data (offset + 21) (offset + 25)
  let reputationScore ← slice data (offset + 25) (offset + 27)
  return {
    totalProofs := u64FromLeBytes totalProofs
    failedProofs := u64FromLeBytes failedProofs
    dataLossEvents := u32FromLeBytes dataLossEvents
    retrievalSuccessRate
    slashes := u32FromLeBytes slashes
    reputationScore := u16FromLeBytes reputationScore }

/-- Parse storage node data from the bytes after the discriminator. -/
def parseNodeData (data : Bytes) (nodeId : String) : Parsed StorageNodeInfo :=
  if data.length < 200 then
    .error (.error "Node data too short")
  else do
    let idLength ← slice data 0 4
    let offset := 4 + fromLeBytes idLength
    let owner ← slice data offset (offset + 32)
    let owner ← Pubkey.tryFrom owner
    let offset := offset + 32
    let stakeAmount ← slice data offset (offset + 8)
    let offset := offset + 8
    let spec ← parseSpec data offset
    -- the source skips 64 bytes for the specification, whatever the length of its region
    let offset := offset + 64
    let metrics ← parseMetrics data offset
    let offset := offset + 32
    let reputation ← parseReputation data offset
    let offset := offset + 27
    let status ← byteAt data offset
    let offset := offset + 1
    let lastHeartbeat ← slice data offset (offset + 8)
    let lastProofTimestamp ← slice data (offset + 8) (offset + 16)
    let pendingRewards ← slice data (offset + 16) (offset + 24)
    let registeredAt ← slice data (offset + 24) (offset + 32)
    return {
      nodeId
      owner
      stakeAmount := u64FromLeBytes stakeAmount
      spec
      metrics
      reputation
      status := statusOf status
      lastHeartbeat := i64FromLeBytes lastHeartbeat
      lastProofTimestamp := i64FromLeBytes lastProofTimestamp
      pendingRewards := u64FromLeBytes pendingRewards
      registeredAt := i64FromLeBytes registeredAt }

/-- A node from the data of its account, if there is one. -/
def getNode (account : Option Bytes) (nodeId : String) : Parsed (Option StorageNodeInfo) :=
  match account with
  | some data =>
      if data.length < 8 then
        .ok none
      else do
        let node ← parseNodeData (data.drop 8) nodeId
        return some node
  | none => .ok none

/-! ## What is read -/

/-- What stands where the specification is looked for. -/
def readSpec (data : Bytes) (offset : Nat) : StorageSpec :=
  { totalCapacityBytes := u64FromLeBytes (between data offset (offset + 8))
    allocatedCapacityBytes := u64FromLeBytes (between data (offset + 8) (offset + 16))
    diskType := diskTypeOf (data.getD (offset + 16) 0)
    region := "unknown"
    bandwidthMbps := 0 }

def readMetrics (data : Bytes) (offset : Nat) : StorageMetrics :=
  { bytesStored := u64FromLeBytes (between data offset (offset + 8))
    bytesServed := u64FromLeBytes (between data (offset + 8) (offset + 16))
    uptimeSeconds := u64FromLeBytes (between data (offset + 16) (offset + 24))
    requestsServed := u64FromLeBytes (between data (offset + 24) (offset + 32)) }

def readReputation (data : Bytes) (offset : Nat) : StorageReputation :=
  { totalProofs := u64FromLeBytes (between data offset (offset + 8))
    failedProofs := u64FromLeBytes (between data (offset + 8) (offset + 16))
    dataLossEvents := u32FromLeBytes (between data (offset + 16) (offset + 20))
    retrievalSuccessRate := data.getD (offset + 20) 0
    slashes := u32FromLeBytes (between data (offset + 21) (offset + 25))
    reputationScore := u16FromLeBytes (between data (offset + 25) (offset + 27)) }

/-- The same for a node whose owner stands at an offset. -/
def readNodeData (data : Bytes) (nodeId : String) (owner : Nat) : StorageNodeInfo :=
  { nodeId
    owner := .ofBytes (between data owner (owner + 32))
    stakeAmount := u64FromLeBytes (between data (owner + 32) (owner + 40))
    spec := readSpec data (owner + 40)
    metrics := readMetrics data (owner + 104)
    reputation := readReputation data (owner + 136)
    status := statusOf (data.getD (owner + 163) 0)
    lastHeartbeat := i64FromLeBytes (between data (owner + 164) (owner + 172))
    lastProofTimestamp := i64FromLeBytes (between data (owner + 172) (owner + 180))
    pendingRewards := u64FromLeBytes (between data (owner + 180) (owner + 188))
    registeredAt := i64FromLeBytes (between data (owner + 188) (owner + 196)) }

variable {data : Bytes}

theorem parseSpec_inReach (data : Bytes) (offset : Nat) :
    parseSpec data offset = inReach data (offset + 17) (readSpec data offset) := by
  rw [parseSpec, slice_eq (by omega), slice_eq (by omega), byteAt_eq]
  refine inReach_bind (by omega) fun _ => inReach_bind (by omega) fun _ => ?_
  exact inReach_bind le_rfl fun reaches => inReach_return reaches _

theorem parseMetrics_inReach (data : Bytes) (offset : Nat) :
    parseMetrics data offset = inReach data (offset + 32) (readMetrics data offset) := by
  rw [parseMetrics, slice_eq (by omega), slice_eq (by omega), slice_eq (by omega),
    slice_eq (by omega)]
  refine inReach_bind (by omega) fun _ => inReach_bind (by omega) fun _ => ?_
  exact inReach_bind (by omega) fun _ => inReach_bind le_rfl fun reaches => inReach_return reaches _

theorem parseReputation_inReach (data : Bytes) (offset : Nat) :
    parseReputation data offset = inReach data (offset + 27) (readReputation data offset) := by
  rw [parseReputation, slice_eq (by omega), slice_eq (by omega), slice_eq (by omega), byteAt_eq,
    slice_eq (by omega), slice_eq (by omega)]
  refine inReach_bind (by omega) fun _ => inReach_bind (by omega) fun _ => ?_
  refine inReach_bind (by omega) fun _ => inReach_bind (by omega) fun _ => ?_
  exact inReach_bind (by omega) fun _ => inReach_bind le_rfl fun reaches => inReach_return reaches _

/-- Where the owner stands in the bytes after the discriminator. -/
def ownerOffset (data : Bytes) : Nat := 4 + fromLeBytes (between data 0 4)

/-- Data that are not too short are read up to 196 bytes behind the start of the owner, as if the
specification took 64 bytes. -/
theorem parseNodeData_inReach (data : Bytes) (nodeId : String) (enough : ¬ data.length < 200) :
    parseNodeData data nodeId =
      inReach data (ownerOffset data + 196) (readNodeData data nodeId (ownerOffset data)) := by
  have ordered : 4 ≤ ownerOffset data := Nat.le_add_right _ _
  rw [parseNodeData, if_neg enough, slice_eq (by omega)]
  refine inReach_bind (by omega) fun _ => ?_
  simp only [show 4 + fromLeBytes (between data 0 4) = ownerOffset data from rfl]
  generalize ownerOffset data = owner
  rw [slice_eq (by omega)]
  refine inReach_bind (by omega) fun reaches => ?_
  rw [Pubkey.tryFrom_between reaches, slice_eq (by omega), parseSpec_inReach, parseMetrics_inReach,
    parseReputation_inReach, byteAt_eq, slice_eq (by omega), slice_eq (by omega),
    slice_eq (by omega), slice_eq (by omega)]
  refine inReach_bind (by omega) fun _ => inReach_bind (by omega) fun _ => ?_
  refine inReach_bind (by omega) fun _ => inReach_bind (by omega) fun _ => ?_
  refine inReach_bind (by omega) fun _ => inReach_bind (by omega) fun _ => ?_
  refine inReach_bind (by omega) fun _ => inReach_bind (by omega) fun _ => ?_
  exact inReach_bind (by omega) fun _ => inReach_bind le_rfl fun reaches => inReach_return reaches _

theorem getNode_eq (data : Bytes) (nodeId : String) :
    getNode (some data) nodeId =
      if data.length < 8 then .ok none
      else if (data.drop 8).length < 200 then .error (.error "Node data too short")
      else inReach (data.drop 8) (ownerOffset (data.drop 8) + 196)
        (some (readNodeData (data.drop 8) nodeId (ownerOffset (data.drop 8)))) := by
  simp only [getNode]
  by_cases short : data.length < 8
  · rw [if_pos short, if_pos short]
  · rw [if_neg short, if_neg short]
    by_cases enough : (data.drop 8).length < 200
    · rw [if_pos enough, parseNodeData, if_pos enough]
      rfl
    · rw [if_neg enough, parseNodeData_inReach _ _ enough]
      exact inReach_bind le_rfl fun reaches => inReach_return reaches _

/-- The gateway looks for the reputation 136 bytes behind the start of the owner. -/
theorem readNodeData_record (data : Bytes) (nodeId : String) (owner : Nat) :
    (readNodeData data nodeId owner).record = recordAt statusOf data owner (owner + 136) := rfl

end NodeRegistryOps

end Gateway

end CyxCloud
