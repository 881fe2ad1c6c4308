import CyxCloud.Node.Registration

/-!
# The layout of a storage node account

The account layout that `get_node_info` documents, and what the parsers of gateway and node make of
it.  The gateway skips 64 bytes for the specification, which takes 25 and those of its region.
-/

namespace CyxCloud.Node

open CyxCloud.Core Library

/-- A string on the chain: the length of its UTF-8 form has four bytes. -/
structure ChainString where
  text : String
  fits : text.toUTF8.data.toList.length < 256 ^ 4

namespace ChainString

/-- The UTF-8 form. -/
def bytes (string : ChainString) : Bytes := string.text.toUTF8.data.toList

theorem length_lt (string : ChainString) : string.bytes.length < 256 ^ 4 := string.fits

end ChainString

/-- A storage node account. -/
structure StorageNodeAccount where
  discriminator : Bytes
  discriminator_length : discriminator.length = 8
  nodeId : ChainString
  owner : Pubkey
  stakeAmount : UInt64
  totalCapacityBytes : UInt64
  allocatedCapacityBytes : UInt64
  diskType : DiskType
  region : ChainString
  bandwidthMbps : UInt32
  metrics : Gateway.StorageMetrics
  reputation : Gateway.StorageReputation
  status : StorageNodeStatus
  lastHeartbeat : Int64
  lastProofTimestamp : Int64
  pendingRewards : UInt64
  registeredAt : Int64

namespace StorageNodeAccount

/-- The byte of a disk type. -/
def diskByte : DiskType → UInt8
  | .hdd => 0
  | .ssd => 1
  | .nvme => 2

/-- The byte of a status. -/
def statusByte : StorageNodeStatus → UInt8
  | .active => 0
  | .inactive => 1
  | .slashed => 2

/-- Four words. -/
def encodeMetrics (metrics : Gateway.StorageMetrics) : Bytes :=
  toLeBytes 8 metrics.bytesStored.toNat ++ toLeBytes 8 metrics.bytesServed.toNat ++
    toLeBytes 8 metrics.uptimeSeconds.toNat ++ toLeBytes 8 metrics.requestsServed.toNat

/-- Losses, success rate and slashes. -/
def encodeRates (reputation : Gateway.StorageReputation) : Bytes :=
  toLeBytes 4 reputation.dataLossEvents.toNat ++ [reputation.retrievalSuccessRate] ++
    toLeBytes 4 reputation.slashes.toNat

variable (account : StorageNodeAccount) (rest : Bytes)

/-- Status and timestamps, before further bytes. -/
def encodeStatus : Bytes :=
  statusByte account.status ::
    (toLeBytes 8 account.lastHeartbeat.toUInt64.toNat ++
      (toLeBytes 8 account.lastProofTimestamp.toUInt64.toNat ++
        (toLeBytes 8 account.pendingRewards.toNat ++
          (toLeBytes 8 account.registeredAt.toUInt64.toNat ++ rest))))

/-- Reputation, status and timestamps, before further bytes. -/
def encodeReputation : Bytes :=
  toLeBytes 8 account.reputation.totalProofs.toNat ++
    (toLeBytes 8 account.reputation.failedProofs.toNat ++
      (encodeRates account.reputation ++
        (toLeBytes 2 account.reputation.reputationScore.toNat ++ account.encodeStatus rest)))

/-- Specification and all that follows it, before further bytes. -/
def encodeSpec : Bytes :=
  toLeBytes 8 account.totalCapacityBytes.toNat ++
    (toLeBytes 8 account.allocatedCapacityBytes.toNat ++
      (diskByte account.diskType ::
        (toLeBytes 4 account.region.bytes.length ++
          (account.region.bytes ++
            (toLeBytes 4 account.bandwidthMbps.toNat ++
              (encodeMetrics account.metrics ++ account.encodeReputation rest))))))

/-- Account data, with the bytes that the account has behind its fields. -/
def encode : Bytes :=
  account.discriminator ++
    (toLeBytes 4 account.nodeId.bytes.length ++
      (account.nodeId.bytes ++
        (account.owner.bytes ++
          (toLeBytes 8 account.stakeAmount.toNat ++ account.encodeSpec rest))))

/-- The encoded fields that gateway and node both read. -/
def record : NodeRecord :=
  { owner := account.owner
    stakeAmount := account.stakeAmount
    totalCapacityBytes := account.totalCapacityBytes
    allocatedCapacityBytes := account.allocatedCapacityBytes
    totalProofs := account.reputation.totalProofs
    failedProofs := account.reputation.failedProofs
    reputationScore := account.reputation.reputationScore
    status := account.status
    lastHeartbeat := account.lastHeartbeat
    lastProofTimestamp := account.lastProofTimestamp
    pendingRewards := account.pendingRewards
    registeredAt := account.registeredAt }

/-- Where the owner stands. -/
def ownerAt : Nat := 12 + account.nodeId.bytes.length

/-- Where the reputation stands. -/
def reputationAt : Nat := account.ownerAt + 97 + account.region.bytes.length

/-! ## Where the fields stand -/

theorem length_encode :
    (account.encode rest).length = account.reputationAt + 60 + rest.length := by
  simp only [encode, encodeSpec, encodeReputation, encodeStatus, encodeMetrics, encodeRates,
    List.length_append, List.length_cons, List.length_nil, length_toLeBytes,
    account.discriminator_length, account.owner.length_eq, reputationAt, ownerAt]
  omega

theorem drop_nodeId : (account.encode rest).drop 8 =
    toLeBytes 4 account.nodeId.bytes.length ++ (account.nodeId.bytes ++ (account.owner.bytes ++
      (toLeBytes 8 account.stakeAmount.toNat ++ account.encodeSpec rest))) := by
  rw [encode, ← account.discriminator_length, List.drop_left]

theorem drop_owner : (account.encode rest).drop account.ownerAt =
    account.owner.bytes ++ (toLeBytes 8 account.stakeAmount.toNat ++ account.encodeSpec rest) :=
  drop_field (drop_word (account.drop_nodeId rest))

theorem drop_spec :
    (account.encode rest).drop (account.ownerAt + 40) = account.encodeSpec rest := by
  have stake := drop_field (account.drop_owner rest)
  rw [account.owner.length_eq] at stake
  have spec := drop_word stake
  exact spec

theorem drop_regionLength : (account.encode rest).drop (account.ownerAt + 57) =
    toLeBytes 4 account.region.bytes.length ++ (account.region.bytes ++
      (toLeBytes 4 account.bandwidthMbps.toNat ++
        (encodeMetrics account.metrics ++ account.encodeReputation rest))) := by
  have length := drop_byte (drop_word (drop_word (account.drop_spec rest)))
  exact length

theorem drop_reputation :
    (account.encode rest).drop account.reputationAt = account.encodeReputation rest := by
  have metrics := drop_word (drop_field (drop_word (account.drop_regionLength rest)))
  have reputation := drop_field metrics
  have offset_eq : account.ownerAt + 57 + 4 + account.region.bytes.length + 4 +
      (encodeMetrics account.metrics).length = account.reputationAt := by
    simp only [encodeMetrics, List.length_append, length_toLeBytes, reputationAt]
    omega
  rw [offset_eq] at reputation
  exact reputation

theorem drop_status :
    (account.encode rest).drop (account.reputationAt + 27) = account.encodeStatus rest := by
  have score := drop_field (drop_word (drop_word (account.drop_reputation rest)))
  have offset_eq : account.reputationAt + 8 + 8 + (encodeRates account.reputation).length =
      account.reputationAt + 25 := by
    simp only [encodeRates, List.length_append, List.length_cons, List.length_nil,
      length_toLeBytes]
  rw [offset_eq] at score
  have status := drop_word score
  exact status

/-! ## What is read of an account -/

theorem statusFromByte_statusByte (status : StorageNodeStatus) :
    statusFromByte (statusByte status) = status := by
  cases status with
  | active | inactive | slashed => rfl

/-- The gateway takes the bytes of the three statuses for the same. -/
theorem statusOf_statusByte (status : StorageNodeStatus) :
    Gateway.NodeRegistryOps.statusOf (statusByte status) = status := by
  cases status with
  | active | inactive | slashed => rfl

theorem ownerOffset_encode :
    RegistrationOps.ownerOffset (account.encode rest) = account.ownerAt := by
  have length_eq := between_word (account.drop_nodeId rest)
  rw [RegistrationOps.ownerOffset, length_eq, fromLeBytes_toLeBytes account.nodeId.length_lt,
    ownerAt]

theorem regionLength_encode :
    RegistrationOps.regionLength (account.encode rest) account.ownerAt =
      account.region.bytes.length := by
  have length_eq := between_word (account.drop_regionLength rest)
  rw [RegistrationOps.regionLength, length_eq, fromLeBytes_toLeBytes account.region.length_lt]

/-- Read at their places, the fields are the encoded ones. -/
theorem recordAt_encode {statusOf : UInt8 → StorageNodeStatus}
    (reads : ∀ status, statusOf (statusByte status) = status) :
    recordAt statusOf (account.encode rest) account.ownerAt account.reputationAt =
      account.record := by
  have owner := account.drop_owner rest
  have stake := drop_field owner
  rw [account.owner.length_eq] at stake
  have total := account.drop_spec rest
  have allocated := drop_word total
  have proofs := account.drop_reputation rest
  have failed := drop_word proofs
  have score := drop_field (drop_word failed)
  have status := account.drop_status rest
  have heartbeat := drop_byte status
  have proof_time := drop_word heartbeat
  have pending := drop_word proof_time
  have registered := drop_word pending
  have offset_eq : account.reputationAt + 8 + 8 + (encodeRates account.reputation).length =
      account.reputationAt + 25 := by
    simp only [encodeRates, List.length_append, List.length_cons, List.length_nil,
      length_toLeBytes]
  rw [offset_eq] at score
  have owner_eq : between (account.encode rest) account.ownerAt (account.ownerAt + 32) =
      account.owner.bytes :=
    between_field owner (by rw [account.owner.length_eq])
  simp only [recordAt, record, NodeRecord.mk.injEq]
  refine ⟨by rw [owner_eq, Pubkey.ofBytes_bytes], u64_field stake, u64_field total,
    u64_field allocated, u64_field proofs, u64_field failed, u16_field score, ?_,
    i64_field heartbeat, i64_field proof_time, u64_field pending, i64_field registered⟩
  rw [getD_field status, reads]

end StorageNodeAccount

/-! ## Agreement -/

open Gateway.NodeRegistryOps (getNode statusOf)
open RegistrationOps (getNodeInfo)

/-- Gateway and node both read the encoded fields of an account. -/
def DecodesAlike (account : StorageNodeAccount) (rest : Bytes) (nodeId : String) : Prop :=
  (getNode (some (account.encode rest)) nodeId).map (Option.map Gateway.StorageNodeInfo.record) =
      .ok (some account.record) ∧
    (getNodeInfo (some (account.encode rest))).map (Option.map StorageNodeInfo.record) =
      .ok (some account.record)

/-- Gateway and node both return for some account data. -/
def ReturnsOn (data : Bytes) (nodeId : String) : Prop :=
  getNode (some data) nodeId ≠ .error .panic ∧ getNodeInfo (some data) ≠ .error .panic

/-- At two places the data hold the same counts, score, status and times. -/
structure HoldAlike (data : Bytes) (here there : Nat) : Prop where
  words : ∀ field ∈ [(0, 8), (8, 16), (25, 27), (28, 36), (36, 44), (44, 52), (52, 60)],
    between data (here + field.1) (here + field.2) =
      between data (there + field.1) (there + field.2)
  status : statusOf (data.getD (here + 27) 0) = statusOf (data.getD (there + 27) 0)

/-- The region takes 39 bytes, so that the specification takes 64.  Otherwise there are at least
39 bytes in the region and behind the fields, and what happens to stand 136 bytes behind the start
of the owner is what the reputation and the fields after it hold. -/
def StorageNodeAccount.LinesUp (account : StorageNodeAccount) (rest : Bytes) : Prop :=
  account.region.bytes.length = 39 ∨
    39 ≤ account.region.bytes.length + rest.length ∧
      HoldAlike (account.encode rest) (account.ownerAt + 136) account.reputationAt

/-- The data are too short to be looked at, or reach as far as the lengths in them demand. -/
def FarEnough (data : Bytes) : Prop :=
  (data.length < 208 ∨ 208 + fromLeBytes (between data 8 12) ≤ data.length) ∧
    (data.length < 8 ∨
      169 + fromLeBytes (between data 8 12) +
          fromLeBytes (between data (69 + fromLeBytes (between data 8 12))
            (73 + fromLeBytes (between data 8 12))) ≤
        data.length)

/-- Two readings of the same owner agree exactly when the data hold alike. -/
theorem recordAt_eq_iff {data : Bytes} (owner : Nat) {here there : Nat}
    (here_in : here + 60 ≤ data.length) (there_in : there + 60 ≤ data.length) :
    recordAt statusOf data owner here = recordAt statusOf data owner there ↔
      HoldAlike data here there := by
  have length_eq : ∀ {place : Nat}, place + 60 ≤ data.length → ∀ start stop, stop ≤ 60 →
      (between data (place + start) (place + stop)).length = stop - start := by
    intro place inside start stop bound
    rw [length_between (by omega), Nat.add_sub_add_left]
  have word : ∀ start, start + 8 ≤ 60 →
      (u64FromLeBytes (between data (here + start) (here + (start + 8))) =
          u64FromLeBytes (between data (there + start) (there + (start + 8))) ↔
        between data (here + start) (here + (start + 8)) =
          between data (there + start) (there + (start + 8))) := by
    intro start bound
    refine u64FromLeBytes_inj ?_ ?_
    · rw [length_eq here_in _ _ bound, Nat.add_sub_cancel_left]
    · rw [length_eq there_in _ _ bound, Nat.add_sub_cancel_left]
  have time : ∀ start, start + 8 ≤ 60 →
      (i64FromLeBytes (between data (here + start) (here + (start + 8))) =
          i64FromLeBytes (between data (there + start) (there + (start + 8))) ↔
        between data (here + start) (here + (start + 8)) =
          between data (there + start) (there + (start + 8))) := by
    intro start bound
    refine i64FromLeBytes_inj ?_ ?_
    · rw [length_eq here_in _ _ bound, Nat.add_sub_cancel_left]
    · rw [length_eq there_in _ _ bound, Nat.add_sub_cancel_left]
  have score := u16FromLeBytes_inj (length_eq here_in 25 27 (by decide))
    (length_eq there_in 25 27 (by decide))
  simp only [recordAt, NodeRecord.mk.injEq, true_and]
  constructor
  · rintro ⟨proofs, failed, score_eq, status, heartbeat, proof_time, pending, registered⟩
    refine ⟨?_, status⟩
    simp only [List.forall_mem_cons]
    exact ⟨(word 0 (by decide)).mp proofs, (word 8 (by decide)).mp failed, score.mp score_eq,
      (time 28 (by decide)).mp heartbeat, (time 36 (by decide)).mp proof_time,
      (word 44 (by decide)).mp pending, (time 52 (by decide)).mp registered, by simp⟩
  · rintro ⟨words, status⟩
    simp only [List.forall_mem_cons] at words
    obtain ⟨proofs, failed, score_eq, heartbeat, proof_time, pending, registered, -⟩ := words
    exact ⟨(word 0 (by decide)).mpr proofs, (word 8 (by decide)).mpr failed, score.mpr score_eq,
      status, (time 28 (by decide)).mpr heartbeat, (time 36 (by decide)).mpr proof_time,
      (word 44 (by decide)).mpr pending, (time 52 (by decide)).mpr registered⟩

theorem StorageNodeAccount.linesUp_iff {account : StorageNodeAccount} {rest : Bytes} :
    account.LinesUp rest ↔ 39 ≤ account.region.bytes.length + rest.length ∧
      HoldAlike (account.encode rest) (account.ownerAt + 136) account.reputationAt := by
  constructor
  · rintro (exact_length | both)
    · have same : account.reputationAt = account.ownerAt + 136 := by
        rw [reputationAt, exact_length]
      rw [same]
      exact ⟨by omega, fun _ _ => rfl, rfl⟩
    · exact both
  · exact .inr

/-- The node reads the encoded fields of every account. -/
theorem getNodeInfo_encode (account : StorageNodeAccount) (rest : Bytes) :
    (getNodeInfo (some (account.encode rest))).map (Option.map StorageNodeInfo.record) =
      .ok (some account.record) := by
  have length_eq := account.length_encode rest
  have bandwidth_eq : RegistrationOps.bandwidthOffset (account.encode rest) account.ownerAt + 36 =
      account.reputationAt := by
    rw [RegistrationOps.bandwidthOffset, account.regionLength_encode,
      StorageNodeAccount.reputationAt]
    omega
  have long : ¬ (account.encode rest).length < 8 := by
    rw [length_eq, StorageNodeAccount.reputationAt]
    omega
  rw [RegistrationOps.getNodeInfo_eq, if_neg long, account.ownerOffset_encode, inReach,
    if_pos (by omega)]
  have read := account.recordAt_encode rest StorageNodeAccount.statusFromByte_statusByte
  rw [← bandwidth_eq] at read
  exact congrArg (fun record => Except.ok (some record)) read

theorem recordAt_drop (data : Bytes) (skipped owner reputation : Nat) :
    recordAt statusOf (data.drop skipped) owner reputation =
      recordAt statusOf data (skipped + owner) (skipped + reputation) := by
  simp only [recordAt, between_drop, List.getD_eq_getElem?_getD, List.getElem?_drop, Nat.add_assoc]

/-- The gateway reads the encoded fields of an account exactly when they line up. -/
theorem getNode_encode_iff (account : StorageNodeAccount) (rest : Bytes) (nodeId : String) :
    (getNode (some (account.encode rest)) nodeId).map
        (Option.map Gateway.StorageNodeInfo.record) = .ok (some account.record) ↔
      account.LinesUp rest := by
  have length_eq := account.length_encode rest
  have reputation_eq : account.reputationAt =
      account.ownerAt + 97 + account.region.bytes.length := rfl
  have owner_eq : 8 + Gateway.NodeRegistryOps.ownerOffset ((account.encode rest).drop 8) =
      account.ownerAt := by
    have offset_eq := account.ownerOffset_encode rest
    rw [RegistrationOps.ownerOffset] at offset_eq
    rw [Gateway.NodeRegistryOps.ownerOffset, between_drop, ← offset_eq, ← Nat.add_assoc]
  have long : ¬ (account.encode rest).length < 8 := by omega
  rw [StorageNodeAccount.linesUp_iff, Gateway.NodeRegistryOps.getNode_eq, if_neg long]
  by_cases enough : 39 ≤ account.region.bytes.length + rest.length
  · have not_short : ¬ ((account.encode rest).drop 8).length < 200 := by
      rw [List.length_drop]
      have : 12 ≤ account.ownerAt := Nat.le_add_right _ _
      omega
    rw [if_neg not_short, inReach, if_pos (by rw [List.length_drop]; omega)]
    have read := account.recordAt_encode rest StorageNodeAccount.statusOf_statusByte
    have looked : recordAt statusOf ((account.encode rest).drop 8)
        (Gateway.NodeRegistryOps.ownerOffset ((account.encode rest).drop 8))
        (Gateway.NodeRegistryOps.ownerOffset ((account.encode rest).drop 8) + 136) =
        recordAt statusOf (account.encode rest) account.ownerAt (account.ownerAt + 136) := by
      rw [recordAt_drop, ← Nat.add_assoc, owner_eq]
    have here_in : account.ownerAt + 136 + 60 ≤ (account.encode rest).length := by omega
    have there_in : account.reputationAt + 60 ≤ (account.encode rest).length := by omega
    have alike := recordAt_eq_iff account.ownerAt here_in there_in
    rw [read, ← looked] at alike
    simp only [Except.map, Option.map_some, Except.ok.injEq, Option.some.injEq,
      Gateway.NodeRegistryOps.readNodeData_record, enough, true_and]
    exact alike
  · refine iff_of_false (fun reads => ?_) fun both => enough both.1
    split at reads
    · cases reads
    · rw [inReach, if_neg (by rw [List.length_drop]; omega)] at reads
      cases reads

/-- Gateway and node return exactly for data that reach far enough. -/
theorem returnsOn_iff (data : Bytes) (nodeId : String) :
    ReturnsOn data nodeId ↔ FarEnough data := by
  have region_eq : RegistrationOps.bandwidthOffset data (RegistrationOps.ownerOffset data) + 96 =
      169 + fromLeBytes (between data 8 12) +
        fromLeBytes (between data (69 + fromLeBytes (between data 8 12))
          (73 + fromLeBytes (between data 8 12))) := by
    have start_eq : 12 + fromLeBytes (between data 8 12) + 57 =
        69 + fromLeBytes (between data 8 12) := by omega
    have stop_eq : 12 + fromLeBytes (between data 8 12) + 61 =
        73 + fromLeBytes (between data 8 12) := by omega
    rw [RegistrationOps.bandwidthOffset, RegistrationOps.regionLength, RegistrationOps.ownerOffset,
      start_eq, stop_eq]
    omega
  have owner_eq : Gateway.NodeRegistryOps.ownerOffset (data.drop 8) =
      4 + fromLeBytes (between data 8 12) := by
    rw [Gateway.NodeRegistryOps.ownerOffset, between_drop]
  refine and_congr ?_ ?_
  · rw [Gateway.NodeRegistryOps.getNode_eq, owner_eq]
    split
    · exact iff_of_true nofun (.inl (by omega))
    · rename_i long
      split
      · rename_i short
        rw [List.length_drop] at short
        exact iff_of_true nofun (.inl (by omega))
      · rename_i enough
        rw [List.length_drop] at enough
        rw [inReach_ne_panic_iff, List.length_drop]
        omega
  · rw [RegistrationOps.getNodeInfo_eq, region_eq]
    split
    · rename_i short
      exact iff_of_true nofun (.inl short)
    · rename_i long
      rw [inReach_ne_panic_iff]
      omega

/-- Gateway and node both read the encoded fields of an account exactly when its fields line up,
and both return on account data exactly when these reach far enough. -/
theorem decoders_agree_iff (account : StorageNodeAccount) (rest data : Bytes) (nodeId : String) :
    (DecodesAlike account rest nodeId ↔ account.LinesUp rest) ∧
      (ReturnsOn data nodeId ↔ FarEnough data) := by
  refine ⟨?_, returnsOn_iff data nodeId⟩
  rw [DecodesAlike, getNode_encode_iff]
  exact and_iff_left (getNodeInfo_encode account rest)

namespace Reference

/-- An active node in "us-east-1" with some proofs, all of them passed. -/
def account : StorageNodeAccount :=
  { discriminator := List.replicate 8 7
    discriminator_length := rfl
    nodeId := ⟨"node-1", by decide⟩
    owner := ⟨List.replicate 32 9, rfl⟩
    stakeAmount := 500000000000
    totalCapacityBytes := 1099511627776
    allocatedCapacityBytes := 0
    diskType := .ssd
    region := ⟨"us-east-1", by decide⟩
    bandwidthMbps := 1000
    metrics :=
      { bytesStored := 0
        bytesServed := 0
        uptimeSeconds := 0
        requestsServed := 0 }
    reputation :=
      { totalProofs := 12
        failedProofs := 0
        dataLossEvents := 0
        retrievalSuccessRate := 100
        slashes := 0
        reputationScore := 5000 }
    status := .active
    lastHeartbeat := 1700000000
    lastProofTimestamp := 1700000000
    pendingRewards := 0
    registeredAt := 1690000000 }

end Reference

/-- The gateway misreads an account with a region of nine bytes and a hundred bytes behind its
fields, it panics at an identifier that claims four billion bytes, and the node panics at an
account of nine bytes. -/
theorem not_decoders_agree :
    ¬ DecodesAlike Reference.account (List.replicate 100 0) "node-1" ∧
      getNode (some (List.replicate 8 7 ++ List.replicate 200 255)) "node-1" = .error .panic ∧
        getNodeInfo (some (List.replicate 9 7)) = .error .panic := by
  refine ⟨fun alike => ?_, by decide +kernel, by decide +kernel⟩
  rcases (getNode_encode_iff _ _ _).mp alike.1 with exact_length | ⟨-, hold⟩
  · revert exact_length
    decide
  · have proofs := hold.words (0, 8) List.mem_cons_self
    revert proofs
    decide

end CyxCloud.Node
