import CyxCloud.Gateway.Reference
import CyxCloud.Gateway.StreamFraming

/-!
# The client of the data stream

`verify_batch` of `cyxcloud-node/src/datastream_client.rs` and the loop around it, against the
batches that the gateway sends.  Both sides hash each item in the same way, but the client hashes
the items of a batch where the gateway hashes their hashes.
-/

namespace CyxCloud.Node

open CyxCloud.Core hiding Chunk
open Library Metadata Gateway

/-! ## Verification -/

/-- A hash that is not the expected one. -/
structure HashMismatch where
  expected : String
  actual : String
  deriving DecidableEq, Repr

/-- A batch whose hashes were checked. -/
structure VerifiedBatch where
  index : Nat
  items : List Bytes
  itemCount : Nat
  isLast : Bool
  totalBatches : Nat
  deriving DecidableEq, Repr

/-- A batch as the client passes it on. -/
def VerifiedBatch.ofResponse (batch : BatchResponse) : VerifiedBatch :=
  { index := batch.batchIndex
    items := batch.items
    itemCount := batch.items.length
    isLast := batch.isLast
    totalBatches := batch.totalBatches }

section Verification

variable (blake3 : Bytes → Bytes)

/-- Compare items with their hashes, up to the first that differs. -/
def verifyItems : List (Bytes × Bytes) → Except HashMismatch Unit
  | [] => .ok ()
  | (item, expectedHash) :: rest =>
      let actualHash := blake3 item
      if actualHash ≠ expectedHash then
        .error
          { expected := hexEncode expectedHash
            actual := hexEncode actualHash }
      else
        verifyItems rest

/-- Verify a batch: the number of its hashes, the hash of each item, and the hash of the items. -/
def verifyBatch (batch : BatchResponse) : Except HashMismatch VerifiedBatch :=
  if batch.items.length ≠ batch.itemHashes.length then
    .error
      { expected := toString batch.items.length ++ " item hashes"
        actual := toString batch.itemHashes.length ++ " hashes provided" }
  else
    match verifyItems blake3 (batch.items.zip batch.itemHashes) with
    | .error mismatch => .error mismatch
    | .ok () =>
        let computedBatchHash := blake3 batch.items.flatten
        if computedBatchHash ≠ batch.batchHash then
          .error
            { expected := hexEncode batch.batchHash
              actual := hexEncode computedBatchHash }
        else
          .ok (.ofResponse batch)

/-- What the client passes on: verified batches up to the first failure, which ends the stream. -/
def receiveBatches : List BatchResponse → List (Except HashMismatch VerifiedBatch)
  | [] => []
  | batch :: rest =>
      match verifyBatch blake3 batch with
      | .ok verified => .ok verified :: receiveBatches rest
      | .error mismatch => [.error mismatch]

variable {blake3}

theorem verifyItems_ok_iff {items itemHashes : List Bytes}
    (lengths : items.length = itemHashes.length) :
    verifyItems blake3 (items.zip itemHashes) = .ok () ↔ itemHashes = items.map blake3 := by
  induction items generalizing itemHashes with
  | nil =>
      rw [List.length_nil, eq_comm, List.length_eq_zero_iff] at lengths
      subst lengths
      exact iff_of_true rfl rfl
  | cons item rest induction =>
      cases itemHashes with
      | nil => exact absurd lengths (Nat.succ_ne_zero _)
      | cons expectedHash others =>
          have lengths_rest : rest.length = others.length := Nat.succ.inj lengths
          rw [List.zip_cons_cons, verifyItems, List.map_cons, List.cons.injEq]
          by_cases same : blake3 item = expectedHash
          · rw [if_neg (not_not.mpr same), induction lengths_rest, and_iff_right same.symm]
          · rw [if_pos same]
            exact iff_of_false nofun fun both => same both.1.symm

/-- A batch is accepted exactly if it carries the hashes of its items and the hash of their
concatenation. -/
theorem verifyBatch_ok_iff {batch : BatchResponse} {verified : VerifiedBatch} :
    verifyBatch blake3 batch = .ok verified ↔
      batch.itemHashes = batch.items.map blake3 ∧ batch.batchHash = blake3 batch.items.flatten ∧
        verified = .ofResponse batch := by
  rw [verifyBatch]
  by_cases lengths : batch.items.length = batch.itemHashes.length
  · rw [if_neg (not_not.mpr lengths)]
    cases items_eq : verifyItems blake3 (batch.items.zip batch.itemHashes) with
    | error mismatch =>
        refine iff_of_false nofun fun accepted => ?_
        rw [(verifyItems_ok_iff lengths).mpr accepted.1] at items_eq
        cases items_eq
    | ok _ =>
        rw [and_iff_right ((verifyItems_ok_iff lengths).mp items_eq)]
        by_cases same : blake3 batch.items.flatten = batch.batchHash
        · simp only [same, ne_eq, not_true_eq_false, if_false, true_and, Except.ok.injEq]
          exact eq_comm
        · simp only [ne_eq, same, not_false_eq_true, if_true]
          exact iff_of_false nofun fun accepted => same accepted.1.symm
  · rw [if_pos lengths]
    refine iff_of_false nofun fun accepted => lengths ?_
    rw [accepted.1, List.length_map]

end Verification

/-! ## Agreement with the gateway -/

section Agreement

variable {blake3 : Bytes → Bytes}

/-- The client accepts a message as it was sent, and rejects it with any other items. -/
def Agreed (blake3 : Bytes → Bytes) (message : BatchResponse) : Prop :=
  verifyBatch blake3 message = .ok (.ofResponse message) ∧
    ∀ items, items ≠ message.items →
      ∃ mismatch, verifyBatch blake3 { message with items } = .error mismatch

/-- The files that are sent, in batches. -/
def retrievedBatches (env : StreamBatchesEnv) (db : DatasetDatabase)
    (request : StreamBatchesRequest) : List (List Bytes) :=
  blocks request.size (retrievedFiles env request db.toDatabase
    (db.getDatasetFiles env.fileOrder request.datasetId)).reduceOption

/-- Items that are not the ones sent are rejected by their hashes. -/
theorem verifyBatch_other_items (injective : Function.Injective blake3) {message : BatchResponse}
    (hashed : message.itemHashes = message.items.map blake3) {items : List Bytes}
    (different : items ≠ message.items) :
    ∃ mismatch, verifyBatch blake3 { message with items } = .error mismatch := by
  cases verified_eq : verifyBatch blake3 { message with items } with
  | error mismatch => exact ⟨mismatch, rfl⟩
  | ok verified =>
      have hashes_eq : message.itemHashes = items.map blake3 :=
        (verifyBatch_ok_iff.mp verified_eq).1
      rw [hashed] at hashes_eq
      exact absurd (List.map_injective_iff.mpr injective hashes_eq).symm different

theorem agreed_iff (injective : Function.Injective blake3) (totalBatches : Nat) (isLast : Bool)
    (number : Nat) (items : List Bytes) :
    Agreed blake3 (batchMessage blake3 totalBatches isLast number items) ↔
      (items.map blake3).flatten = items.flatten := by
  have hashes_iff : blake3 (items.map blake3).flatten = blake3 items.flatten ↔
      (items.map blake3).flatten = items.flatten := injective.eq_iff
  rw [← hashes_iff]
  constructor
  · rintro ⟨accepted, -⟩
    exact (verifyBatch_ok_iff.mp accepted).2.1
  · intro same
    exact ⟨verifyBatch_ok_iff.mpr ⟨rfl, same, rfl⟩,
      fun _ different => verifyBatch_other_items injective rfl different⟩

/-- Each message carries a batch of the retrieved files. -/
theorem message_eq {env : StreamBatchesEnv} {db : DatasetDatabase} {request : StreamBatchesRequest}
    {messages : List BatchResponse} (ok : streamBatches blake3 env db request = .ok messages)
    {number : Nat} {message : BatchResponse} (sent : messages[number]? = some message) :
    ∃ items totalBatches isLast, (retrievedBatches env db request)[number]? = some items ∧
      message = batchMessage blake3 totalBatches isLast number items := by
  obtain ⟨files_ne, messages_eq⟩ := streamBatches_ok ok
  have first_hashed : CurrentBatch.first.Hashed blake3 := rfl
  have prefixed := sendBatches_prefix blake3 env.accepts request.size
    (divCeil (db.getDatasetFiles env.fileOrder request.datasetId).length request.size) .first
    (retrievedFiles env request db.toDatabase (db.getDatasetFiles env.fileOrder request.datasetId))
  rw [← messages_eq, sendBatches_eq (fun _ => rfl) request.size_positive first_hashed
    request.size_positive (retrievedFiles_ne_nil files_ne)] at prefixed
  obtain ⟨unsent, all_eq⟩ := prefixed
  have bound : number < messages.length := (List.getElem?_eq_some_iff.mp sent).1
  rw [← List.getElem?_append_left bound, all_eq] at sent
  obtain ⟨items, isLast, found, message_eq⟩ := getElem?_batchMessages sent
  rw [show CurrentBatch.first.batchIndex + number = number from Nat.zero_add number] at message_eq
  exact ⟨items, _, isLast, found, message_eq⟩

/-- The client accepts exactly the messages whose items concatenate to the same bytes as their
hashes. -/
theorem agreed_messages_iff (blake3 : Bytes → Bytes) (injective : Function.Injective blake3) :
    ∀ (env : StreamBatchesEnv) (db : DatasetDatabase) (request : StreamBatchesRequest)
      (messages : List BatchResponse), streamBatches blake3 env db request = .ok messages →
        ∀ (number : Nat) (message : BatchResponse), messages[number]? = some message →
          ∃ items, (retrievedBatches env db request)[number]? = some items ∧
            (Agreed blake3 message ↔ (items.map blake3).flatten = items.flatten) := by
  intro env db request messages ok number message sent
  obtain ⟨items, totalBatches, isLast, found, rfl⟩ := message_eq ok sent
  exact ⟨items, found, agreed_iff injective totalBatches isLast number items⟩

/-- A client that cannot verify the first batch passes nothing else on than its failure. -/
theorem receiveBatches_first_rejected (injective : Function.Injective blake3)
    {env : StreamBatchesEnv} {db : DatasetDatabase} {request : StreamBatchesRequest}
    {message : BatchResponse} {messages : List BatchResponse}
    (ok : streamBatches blake3 env db request = .ok (message :: messages))
    (hashes_differ : (message.items.map blake3).flatten ≠ message.items.flatten) :
    receiveBatches blake3 (message :: messages) =
      [.error
        { expected := hexEncode message.batchHash
          actual := hexEncode (blake3 message.items.flatten) }] := by
  have sent : (message :: messages)[0]? = some message := rfl
  obtain ⟨items, totalBatches, isLast, -, rfl⟩ := message_eq ok sent
  have items_ok : verifyItems blake3 (items.zip (items.map blake3)) = .ok () :=
    (verifyItems_ok_iff (List.length_map blake3).symm).mpr rfl
  have batch_differs : blake3 items.flatten ≠ blake3 (items.map blake3).flatten := fun same =>
    hashes_differ (injective same).symm
  rw [receiveBatches, verifyBatch]
  simp [batchMessage, items_ok, batch_differs]

end Agreement

namespace TwoFiles

open Gateway.TwoFiles

/-- The digest of the digest of the byte 1. -/
def secondDigest : Bytes :=
  Reference.digestBytes 0x3dd9095821f26a18b5622743d2d15961dfd70fe403f2758dca00a7d1cb466196

/-- The reference hash, which also agrees with BLAKE3 on the digest of the byte 1. -/
def hash (bytes : Bytes) : Bytes :=
  if bytes = Reference.hash [1] then secondDigest else Reference.hash bytes

theorem reference_hash_ne (bytes : Bytes) : Reference.hash bytes ≠ secondDigest := by
  have unknown : ∀ known ∈ Reference.knownDigests, Reference.digestBytes known.2 ≠ secondDigest := by
    decide
  rw [Reference.hash]
  cases known : Reference.knownDigests.lookup bytes with
  | some digest => exact unknown _ (Reference.mem_of_lookup known)
  | none =>
      intro same
      have lengths := congrArg List.length same
      simp only [secondDigest, List.length_append, List.length_replicate,
        Reference.length_digestBytes] at lengths
      omega

theorem hash_injective : Function.Injective hash := by
  intro left right same
  rw [hash, hash] at same
  split at same
  · rename_i left_eq
    split at same
    · rename_i right_eq
      rw [left_eq, right_eq]
    · exact absurd same.symm (reference_hash_ne right)
  · split at same
    · exact absurd same (reference_hash_ne left)
    · exact Reference.hash_injective same

theorem retrievedBatches_eq : retrievedBatches (env 2) db request = [[[1]], [[2]]] := by
  rw [retrievedBatches, getDatasetFiles_eq, retrievedFiles_all]
  rfl

/-- The first batch of the two files is not accepted. -/
theorem first_batch_not_agreed :
    ¬ Agreed hash (batchMessage hash 2 false 0 [[1]]) := by
  obtain ⟨items, found, agreed⟩ := agreed_messages_iff hash hash_injective (env 2) db request _
    (streamBatches_all hash) 0 _ rfl
  rw [retrievedBatches_eq] at found
  cases found
  rw [agreed]
  decide

/-- Not every batch that the gateway sends is accepted. -/
theorem batches_not_agreed :
    ¬ ∀ (blake3 : Bytes → Bytes), Function.Injective blake3 →
      ∀ (env : StreamBatchesEnv) (db : DatasetDatabase) (request : StreamBatchesRequest)
        (messages : List BatchResponse), streamBatches blake3 env db request = .ok messages →
          ∀ message ∈ messages, Agreed blake3 message := by
  intro agreed
  have accepted := (agreed hash hash_injective (env 2) db request _ (streamBatches_all hash)
    (batchMessage hash 2 false 0 [[1]]) List.mem_cons_self).1
  have batch_hash := (verifyBatch_ok_iff.mp accepted).2.1
  revert batch_hash
  decide

end TwoFiles

end CyxCloud.Node
