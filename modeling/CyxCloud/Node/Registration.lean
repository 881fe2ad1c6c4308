import CyxCloud.Gateway.NodeRegistry

/-!
# Storage nodes on the chain, as the node reads them

`get_node_info` of `cyxcloud-node/src/blockchain/registration.rs`.
-/

namespace CyxCloud.Node

open CyxCloud.Core Library

/-! ## Strings -/

/-- Number of bytes of a character by the first one; none starts with any other byte. -/
def sequenceLength (first : UInt8) : Nat :=
  if first < 0x80 then 1
  else if 0xC2 ≤ first ∧ first ≤ 0xDF then 2
  else if 0xE0 ≤ first ∧ first ≤ 0xEF then 3
  else if 0xF0 ≤ first ∧ first ≤ 0xF4 then 4
  else 0

/-- A byte after the first one. -/
def isContinuation (byte : UInt8) : Bool := decide (0x80 ≤ byte ∧ byte ≤ 0xBF)

/-- A second byte, which excludes overlong forms, surrogates and what lies beyond Unicode. -/
def isSecond (first second : UInt8) : Bool :=
  isContinuation second &&
    if first = 0xE0 then decide (0xA0 ≤ second)
    else if first = 0xED then decide (second ≤ 0x9F)
    else if first = 0xF0 then decide (0x90 ≤ second)
    else if first = 0xF4 then decide (second ≤ 0x8F)
    else true

/-- How many of the following bytes belong to the character that a byte starts. -/
def following (first : UInt8) : Bytes → Nat
  | [] => 0
  | second :: rest =>
      if 2 ≤ sequenceLength first ∧ isSecond first second then
        1 + ((rest.take (sequenceLength first - 2)).takeWhile isContinuation).length
      else
        0

/-- The character of a complete sequence. -/
def charOf (first : UInt8) (rest : Bytes) : Char :=
  let lead := if rest.length = 0 then first.toNat else first.toNat % 2 ^ (6 - rest.length)
  Char.ofNat (rest.foldl (fun number byte => number * 64 + byte.toNat % 64) lead)

/-- The characters of a byte string; the longest part of a character that breaks off becomes one
replacement character. -/
def lossyChars : Nat → Bytes → List Char
  | 0, _ => []
  | _, [] => []
  | fuel + 1, first :: rest =>
      let more := following first rest
      let char :=
        if more + 1 = sequenceLength first then charOf first (rest.take more) else '\uFFFD'
      char :: lossyChars fuel (rest.drop more)

/-- A byte string as a string. -/
def fromUtf8Lossy (bytes : Bytes) : String := .ofList (lossyChars bytes.length bytes)

example : fromUtf8Lossy [0x61, 0xC3, 0xA9, 0xE2, 0x82, 0xAC, 0xE2, 0x82, 0xFF] =
    "aé€\uFFFD\uFFFD" := by
  decide

/-! ## Accounts -/

/-- What the node knows about a storage node on the chain. -/
structure StorageNodeInfo where
  nodeId : String
  owner : Pubkey
  stakeAmount : UInt64
  totalCapacityBytes : UInt64
  allocatedCapacityBytes : UInt64
  diskType : DiskType
  region : String
  bandwidthMbps : UInt32
  status : StorageNodeStatus
  lastHeartbeat : Int64
  lastProofTimestamp : Int64
  totalProofs : UInt64
  failedProofs : UInt64
  reputationScore : UInt16
  pendingRewards : UInt64
  registeredAt : Int64
  deriving DecidableEq, Repr

/-- What the gateway reads as well. -/
def StorageNodeInfo.record (info : StorageNodeInfo) : NodeRecord :=
  { owner := info.owner
    stakeAmount := info.stakeAmount
    totalCapacityBytes := info.totalCapacityBytes
    allocatedCapacityBytes := info.allocatedCapacityBytes
    totalProofs := info.totalProofs
    failedProofs := info.failedProofs
    reputationScore := info.reputationScore
    status := info.status
    lastHeartbeat := info.lastHeartbeat
    lastProofTimestamp := info.lastProofTimestamp
    pendingRewards := info.pendingRewards
    registeredAt := info.registeredAt }

/-- A disk type by its byte. -/
def diskTypeFromByte (byte : UInt8) : DiskType :=
  if byte = 0 then .hdd else if byte = 1 then .ssd else .nvme

/-- A status by its byte; an unknown one is taken for slashed. -/
def statusFromByte (byte : UInt8) : StorageNodeStatus :=
  if byte = 0 then .active else if byte = 1 then .inactive else .slashed

namespace RegistrationOps

/-- Parse account data, the discriminator included. -/
def parseAccount (data : Bytes) : Parsed StorageNodeInfo := do
  let offset := 8
  let nodeIdLength ← slice data offset (offset + 4)
  let nodeIdLength := fromLeBytes nodeIdLength
  let offset := offset + 4
  let nodeId ← slice data offset (offset + nodeIdLength)
  let offset := offset + nodeIdLength
  let owner ← slice data offset (offset + 32)
  let owner ← Pubkey.tryFrom owner
  let offset := offset + 32
  let stakeAmount ← slice data offset (offset + 8)
  let offset := offset + 8
  let totalCapacityBytes ← slice data offset (offset + 8)
  let offset := offset + 8
  let allocatedCapacityBytes ← slice data offset (offset + 8)
  let offset := offset + 8
  let diskType ← byteAt data offset
  let offset := offset + 1
  let regionLength ← slice data offset (offset + 4)
  let regionLength := fromLeBytes regionLength
  let offset := offset + 4
  let region ← slice data offset (offset + regionLength)
  let offset := offset + regionLength
  let bandwidthMbps ← slice data offset (offset + 4)
  let offset := offset + 4
  -- four words of metrics
  let offset := offset + 8 * 4
  let totalProofs ← slice data offset (offset + 8)
  let offset := offset + 8
  let failedProofs ← slice data offset (offset + 8)
  let offset := offset + 8
  -- losses, success rate and slashes
  let offset := offset + 4 + 1 + 4
  let reputationScore ← slice data offset (offset + 2)
  let offset := offset + 2
  let status ← byteAt data offset
  let offset := offset + 1
  let lastHeartbeat ← slice data offset (offset + 8)
  let offset := offset + 8
  let lastProofTimestamp ← slice data offset (offset + 8)
  let offset := offset + 8
  let pendingRewards ← slice data offset (offset + 8)
  let offset := offset + 8
  let registeredAt ← slice data offset (offset + 8)
  return {
    nodeId := fromUtf8Lossy nodeId
    owner
    stakeAmount := u64FromLeBytes stakeAmount
    totalCapacityBytes := u64FromLeBytes totalCapacityBytes
    allocatedCapacityBytes := u64FromLeBytes allocatedCapacityBytes
    diskType := diskTypeFromByte diskType
    region := fromUtf8Lossy region
    bandwidthMbps := u32FromLeBytes bandwidthMbps
    status := statusFromByte status
    lastHeartbeat := i64FromLeBytes lastHeartbeat
    lastProofTimestamp := i64FromLeBytes lastProofTimestamp
    totalProofs := u64FromLeBytes totalProofs
    failedProofs := u64FromLeBytes failedProofs
    reputationScore := u16FromLeBytes reputationScore
    pendingRewards := u64FromLeBytes pendingRewards
    registeredAt := i64FromLeBytes registeredAt }

/-- A storage node from the data of its account, if there is one. -/
def getNodeInfo (account : Option Bytes) : Parsed (Option StorageNodeInfo) :=
  match account with
  | some data =>
      if data.length < 8 then
        .ok none
      else do
        let info ← parseAccount data
        return some info
  | none => .ok none

/-! ## What is read -/

/-- Where the owner stands in account data. -/
def ownerOffset (data : Bytes) : Nat := 12 + fromLeBytes (between data 8 12)

/-- Declared length of the region when the owner stands at an offset. -/
def regionLength (data : Bytes) (owner : Nat) : Nat :=
  fromLeBytes (between data (owner + 57) (owner + 61))

/-- Where the bandwidth stands, behind the region. -/
def bandwidthOffset (data : Bytes) (owner : Nat) : Nat := owner + 61 + regionLength data owner

/-- What account data hold when owner and bandwidth stand at two offsets. -/
def readAccount (data : Bytes) (owner bandwidth : Nat) : StorageNodeInfo :=
  { nodeId := fromUtf8Lossy (between data 12 owner)
    owner := .ofBytes (between data owner (owner + 32))
    stakeAmount := u64FromLeBytes (between data (owner + 32) (owner + 40))
    totalCapacityBytes := u64FromLeBytes (between data (owner + 40) (owner + 48))
    allocatedCapacityBytes := u64FromLeBytes (between data (owner + 48) (owner + 56))
    diskType := diskTypeFromByte (data.getD (owner + 56) 0)
    region := fromUtf8Lossy (between data (owner + 61) bandwidth)
    bandwidthMbps := u32FromLeBytes (between data bandwidth (bandwidth + 4))
    totalProofs := u64FromLeBytes (between data (bandwidth + 36) (bandwidth + 44))
    failedProofs := u64FromLeBytes (between data (bandwidth + 44) (bandwidth + 52))
    reputationScore := u16FromLeBytes (between data (bandwidth + 61) (bandwidth + 63))
    status := statusFromByte (data.getD (bandwidth + 63) 0)
    lastHeartbeat := i64FromLeBytes (between data (bandwidth + 64) (bandwidth + 72))
    lastProofTimestamp := i64FromLeBytes (between data (bandwidth + 72) (bandwidth + 80))
    pendingRewards := u64FromLeBytes (between data (bandwidth + 80) (bandwidth + 88))
    registeredAt := i64FromLeBytes (between data (bandwidth + 88) (bandwidth + 96)) }

/-- Account data are read up to 96 bytes behind the start of the bandwidth. -/
theorem parseAccount_inReach (data : Bytes) :
    parseAccount data = inReach data (bandwidthOffset data (ownerOffset data) + 96)
      (readAccount data (ownerOffset data) (bandwidthOffset data (ownerOffset data))) := by
  have owner_le : 12 ≤ ownerOffset data := Nat.le_add_right _ _
  have bandwidth_le : ownerOffset data + 61 ≤ bandwidthOffset data (ownerOffset data) :=
    Nat.le_add_right _ _
  rw [parseAccount]
  simp only [Nat.reduceAdd, Nat.reduceMul]
  rw [slice_eq (by omega)]
  refine inReach_bind (by omega) fun _ => ?_
  simp only [show 12 + fromLeBytes (between data 8 12) = ownerOffset data from rfl]
  generalize ownerOffset data = owner at *
  rw [slice_eq (by omega), slice_eq (by omega)]
  refine inReach_bind (by omega) fun _ => inReach_bind (by omega) fun reaches => ?_
  rw [Pubkey.tryFrom_between reaches, slice_eq (by omega), slice_eq (by omega),
    slice_eq (by omega), byteAt_eq, slice_eq (by omega)]
  refine inReach_bind (by omega) fun _ => inReach_bind (by omega) fun _ => ?_
  refine inReach_bind (by omega) fun _ => inReach_bind (by omega) fun _ => ?_
  refine inReach_bind (by omega) fun _ => inReach_bind (by omega) fun _ => ?_
  simp only [show owner + 32 + 8 + 8 + 8 + 1 + 4 + fromLeBytes (between data
    (owner + 32 + 8 + 8 + 8 + 1) (owner + 32 + 8 + 8 + 8 + 1 + 4)) = bandwidthOffset data owner
    from rfl]
  generalize bandwidthOffset data owner = bandwidth at *
  rw [slice_eq (by omega), slice_eq (by omega), slice_eq (by omega), slice_eq (by omega),
    slice_eq (by omega), byteAt_eq, slice_eq (by omega), slice_eq (by omega), slice_eq (by omega),
    slice_eq (by omega)]
  refine inReach_bind (by omega) fun _ => inReach_bind (by omega) fun _ => ?_
  refine inReach_bind (by omega) fun _ => inReach_bind (by omega) fun _ => ?_
  refine inReach_bind (by omega) fun _ => inReach_bind (by omega) fun _ => ?_
  refine inReach_bind (by omega) fun _ => inReach_bind (by omega) fun _ => ?_
  exact inReach_bind (by omega) fun _ => inReach_bind le_rfl fun reaches => inReach_return reaches _

theorem getNodeInfo_eq (data : Bytes) :
    getNodeInfo (some data) =
      if data.length < 8 then .ok none
      else inReach data (bandwidthOffset data (ownerOffset data) + 96)
        (some (readAccount data (ownerOffset data) (bandwidthOffset data (ownerOffset data)))) := by
  simp only [getNodeInfo]
  by_cases short : data.length < 8
  · rw [if_pos short, if_pos short]
  · rw [if_neg short, if_neg short, parseAccount_inReach]
    exact inReach_bind le_rfl fun reaches => inReach_return reaches _

/-- The node looks for the reputation 36 bytes behind the start of the bandwidth. -/
theorem readAccount_record (data : Bytes) (owner bandwidth : Nat) :
    (readAccount data owner bandwidth).record =
      recordAt statusFromByte data owner (bandwidth + 36) := rfl

end RegistrationOps

end CyxCloud.Node
