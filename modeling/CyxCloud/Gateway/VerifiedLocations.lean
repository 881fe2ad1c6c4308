import CyxCloud.Gateway.DataStream
import CyxCloud.Metadata.Catalog
import CyxCloud.Metadata.FaultTolerance

/-!
# Locations that are verified

Four queries of `cyxcloud-metadata/src/postgres.rs` read the chunk locations, and all of them take
the rows with status `stored` only.  `update_chunk_verification` leaves a row that has passed with
status `verified`, so a location that they list is lost to them once it passes, and otherwise with
its third failure.
-/

namespace CyxCloud.Metadata

open CyxCloud.Core hiding Chunk
open Library

namespace Database

/-- The queries for chunk locations return the same from both databases. -/
structure SameReads (before after : Database) : Prop where
  chunkLocations : ∀ order chunkId,
    after.getChunkLocations order chunkId = before.getChunkLocations order chunkId
  chunkNodeAddresses : ∀ order chunkId,
    after.getChunkNodeAddresses order chunkId = before.getChunkNodeAddresses order chunkId
  fileChunkLocations : ∀ order fileId chunkId,
    after.getFileChunkLocations order fileId chunkId =
      before.getFileChunkLocations order fileId chunkId
  chunksOnNode : ∀ order nodeId,
    after.getChunksOnNode order nodeId = before.getChunksOnNode order nodeId

/-- The queries list the location: those for rows have its row, and those for addresses the address
of its node where the node is online and the chunk is one of the file. -/
structure Listed (chunkId : Bytes) (nodeId : Uuid) (db : Database) : Prop where
  chunkLocations : ∀ order, ∃ row ∈ db.getChunkLocations order chunkId, row.nodeId = nodeId
  chunkNodeAddresses : ∀ order, ∀ node ∈ db.nodes, node.id = nodeId → node.status = .online →
    node.grpcAddress ∈ db.getChunkNodeAddresses order chunkId
  fileChunkLocations : ∀ order, ∀ chunk ∈ db.chunks, chunk.chunkId = chunkId →
    ∀ node ∈ db.nodes, node.id = nodeId → node.status = .online →
      node.grpcAddress ∈ db.getFileChunkLocations order chunk.fileId chunkId
  chunksOnNode : ∀ order, ∃ row ∈ db.getChunksOnNode order nodeId, row.chunkId = chunkId

/-- A verification of a location, with its outcome and its time. -/
def verify (chunkId : Bytes) (nodeId : Uuid) (db : Database) (outcome : Bool × Time) : Database :=
  db.updateChunkVerification chunkId nodeId outcome.1 outcome.2

/-- Verifications keep a location visible: one that passes changes no query, and those that do not
fail three times in a row leave it where it is listed. -/
def KeepsVisible (chunkId : Bytes) (nodeId : Uuid) (db : Database) : Prop :=
  (∀ now, SameReads db (db.updateChunkVerification chunkId nodeId true now)) ∧
    ∀ outcomes : List (Bool × Time), ¬ [false, false, false] <:+: outcomes.map Prod.fst →
      Listed chunkId nodeId db →
        EveryState (verify chunkId nodeId) (Listed chunkId nodeId) db outcomes

/-- The location is stored, and a number of further failures are at most the second. -/
def storedFor (db : Database) (chunkId : Bytes) (nodeId : Uuid) (failures : Nat) : Prop :=
  ∃ row ∈ db.chunkLocations, row.chunkId = chunkId ∧ row.nodeId = nodeId ∧
    row.status = .stored ∧ row.verificationFailures + failures ≤ 2

theorem storedFor.storedOn {db : Database} {chunkId : Bytes} {nodeId : Uuid} {failures : Nat}
    (stored : db.storedFor chunkId nodeId failures) : db.storedOn chunkId nodeId := by
  obtain ⟨row, member, chunk_eq, node_eq, is_stored, -⟩ := stored
  exact ⟨row, member, chunk_eq, node_eq, is_stored⟩

/-! ## Queries -/

/-- The rows that the queries take. -/
def storedRows (db : Database) : List ChunkLocation :=
  db.chunkLocations.filter fun row => row.status == .stored

theorem sameReads_of_storedRows {before after : Database}
    (same_rows : after.storedRows = before.storedRows) (same_nodes : after.nodes = before.nodes)
    (same_chunks : after.chunks = before.chunks) : SameReads before after := by
  have filtered : ∀ condition : ChunkLocation → Bool,
      (after.chunkLocations.filter fun row => condition row && row.status == .stored) =
        before.chunkLocations.filter fun row => condition row && row.status == .stored := by
    intro condition
    rw [← List.filter_filter, ← List.filter_filter]
    exact congrArg (List.filter condition) same_rows
  refine ⟨?_, ?_, ?_, ?_⟩
  · intro order chunkId
    exact congrArg order.arrange (filtered fun row => row.chunkId == chunkId)
  · intro order chunkId
    simp only [getChunkNodeAddresses, filtered, same_nodes]
  · intro order fileId chunkId
    have registered := filtered fun row => (row.chunkId == chunkId && after.chunks.any fun chunk =>
      chunk.chunkId == chunkId && chunk.fileId == fileId)
    simp only [getFileChunkLocations, same_nodes, same_chunks] at registered ⊢
    simp only [Bool.and_right_comm] at registered ⊢
    rw [registered]
  · intro order nodeId
    exact congrArg order.arrange (filtered fun row => row.nodeId == nodeId)

/-- What the query for the locations of a chunk delivers is stored. -/
theorem storedOn_of_mem_getChunkLocations {db : Database} {order : RowOrder ChunkLocation}
    {chunkId : Bytes} {row : ChunkLocation} (member : row ∈ db.getChunkLocations order chunkId) :
    db.storedOn chunkId row.nodeId := by
  obtain ⟨row_mem, taken⟩ := List.mem_filter.mp (order.mem_arrange.mp member)
  simp only [Bool.and_eq_true, beq_iff_eq] at taken
  exact ⟨row, row_mem, taken.1, rfl, taken.2⟩

/-- The queries list exactly the locations that are marked as stored. -/
theorem listed_iff {db : Database} {chunkId : Bytes} {nodeId : Uuid} :
    Listed chunkId nodeId db ↔ db.storedOn chunkId nodeId := by
  constructor
  · intro listed
    obtain ⟨row, member, rfl⟩ := listed.chunkLocations .insertion
    exact storedOn_of_mem_getChunkLocations member
  · rintro ⟨row, row_mem, rfl, rfl, stored⟩
    refine ⟨?_, ?_, ?_, ?_⟩
    · intro order
      refine ⟨row, order.mem_arrange.mpr (List.mem_filter.mpr ⟨row_mem, ?_⟩), rfl⟩
      simp [stored]
    · intro order node node_mem same online
      refine order.mem_arrange.mpr (List.mem_flatMap.mpr ⟨row, List.mem_filter.mpr ⟨row_mem, ?_⟩,
        List.mem_map.mpr ⟨node, List.mem_filter.mpr ⟨node_mem, ?_⟩, rfl⟩⟩)
      · simp [stored]
      · simp [same, online]
    · intro order chunk chunk_mem same_chunk node node_mem same online
      exact mem_getFileChunkLocations.mpr ⟨⟨chunk, chunk_mem, same_chunk, rfl⟩, node, node_mem,
        online, rfl, row, row_mem, rfl, same.symm, stored⟩
    · intro order
      refine ⟨row, order.mem_arrange.mpr (List.mem_filter.mpr ⟨row_mem, ?_⟩), rfl⟩
      simp [stored]

/-! ## One verification -/

section Verification

variable {db : Database} {chunkId : Bytes} {nodeId : Uuid}

/-- A location that has passed is not stored any more. -/
theorem not_storedOn_of_passed (now : Time) :
    ¬ (db.updateChunkVerification chunkId nodeId true now).storedOn chunkId nodeId := by
  rintro ⟨row, member, chunk_eq, node_eq, stored⟩
  obtain ⟨before, -, rfl⟩ := List.mem_map.mp member
  split at chunk_eq
  · rename_i same
    simp [same] at stored
  · rename_i other
    rw [if_neg other] at node_eq
    simp [chunk_eq, node_eq] at other

/-- The row of a location that has failed. -/
def failedRow (row : ChunkLocation) : ChunkLocation :=
  { row with
    verificationFailures := row.verificationFailures + 1
    status := if row.verificationFailures ≥ 2 then .failed else row.status }

theorem failedRow_stored {row : ChunkLocation} :
    (failedRow row).status = .stored ↔ row.status = .stored ∧ row.verificationFailures + 1 ≤ 2 := by
  simp only [failedRow]
  split
  · rename_i many
    constructor
    · intro stored
      cases stored
    · rintro ⟨-, few⟩
      omega
  · rename_i few
    constructor
    · intro stored
      exact ⟨stored, by omega⟩
    · exact And.left

/-- The rows of a location that has failed are its rows before, with the failure. -/
theorem exists_row_of_failed (now : Time) (property : ChunkLocation → Prop) :
    (∃ row ∈ (db.updateChunkVerification chunkId nodeId false now).chunkLocations,
        row.chunkId = chunkId ∧ row.nodeId = nodeId ∧ property row) ↔
      ∃ row ∈ db.chunkLocations,
        row.chunkId = chunkId ∧ row.nodeId = nodeId ∧ property (failedRow row) := by
  constructor
  · rintro ⟨row, member, chunk_eq, node_eq, holds⟩
    obtain ⟨before, before_mem, rfl⟩ := List.mem_map.mp member
    by_cases own : (before.chunkId == chunkId && before.nodeId == nodeId) = true
    · rw [if_pos own] at holds
      simp only [Bool.and_eq_true, beq_iff_eq] at own
      exact ⟨before, before_mem, own.1, own.2, holds⟩
    · rw [if_neg own] at chunk_eq node_eq
      simp [chunk_eq, node_eq] at own
  · rintro ⟨row, member, rfl, rfl, holds⟩
    refine ⟨failedRow row, List.mem_map.mpr ⟨row, member, ?_⟩, rfl, rfl, holds⟩
    rw [if_pos (by simp)]
    rfl

/-- A location that fails stays stored as long as it stands one failure more. -/
theorem storedFor_of_failed (now : Time) (failures : Nat) :
    (db.updateChunkVerification chunkId nodeId false now).storedFor chunkId nodeId failures ↔
      db.storedFor chunkId nodeId (failures + 1) := by
  rw [storedFor, exists_row_of_failed now fun row =>
    row.status = .stored ∧ row.verificationFailures + failures ≤ 2]
  refine exists_congr fun row => and_congr_right fun _ => and_congr_right fun _ =>
    and_congr_right fun _ => ?_
  rw [failedRow_stored]
  simp only [failedRow]
  constructor
  · rintro ⟨⟨stored, -⟩, few⟩
    exact ⟨stored, by omega⟩
  · rintro ⟨stored, few⟩
    exact ⟨⟨stored, by omega⟩, by omega⟩

theorem storedOn_of_failed (now : Time) :
    (db.updateChunkVerification chunkId nodeId false now).storedOn chunkId nodeId ↔
      db.storedFor chunkId nodeId 1 := by
  rw [storedOn, exists_row_of_failed now fun row => row.status = .stored]
  refine exists_congr fun row => and_congr_right fun _ => and_congr_right fun _ =>
    and_congr_right fun _ => ?_
  exact failedRow_stored

/-- A passing verification leaves the queries alone exactly if they do not list the location. -/
theorem sameReads_passed_iff (now : Time) :
    SameReads db (db.updateChunkVerification chunkId nodeId true now) ↔
      ¬ db.storedOn chunkId nodeId := by
  constructor
  · intro same stored
    obtain ⟨row, member, rfl⟩ := (listed_iff.mpr stored).chunkLocations .insertion
    rw [← same.chunkLocations] at member
    exact not_storedOn_of_passed now (storedOn_of_mem_getChunkLocations member)
  · intro not_stored
    refine sameReads_of_storedRows ?_ rfl rfl
    refine filter_map_of_unselected fun row member => ?_
    by_cases own : (row.chunkId == chunkId && row.nodeId == nodeId) = true
    · right
      rw [if_pos own]
      simp only [Bool.and_eq_true, beq_iff_eq] at own
      constructor
      · rw [beq_eq_false_iff_ne]
        intro stored
        exact not_stored ⟨row, member, own.1, own.2, stored⟩
      · rfl
    · left
      rw [if_neg own]

end Verification

/-! ## Sequences of verifications -/

section Sequences

variable {chunkId : Bytes} {nodeId : Uuid}

/-- A sequence of verifications leaves a location listed exactly if none passes and, with the
failures on its row, at most two fail. -/
theorem listed_throughout_iff {db : Database} (stored : db.storedOn chunkId nodeId)
    (outcomes : List (Bool × Time)) :
    EveryState (verify chunkId nodeId) (Listed chunkId nodeId) db outcomes ↔
      outcomes = [] ∨ (∀ outcome ∈ outcomes, outcome.1 = false) ∧
        db.storedFor chunkId nodeId outcomes.length := by
  induction outcomes generalizing db with
  | nil => simp [EveryState, listed_iff, stored]
  | cons outcome outcomes induction =>
      obtain ⟨valid, now⟩ := outcome
      rw [EveryState, verify]
      cases valid with
      | true =>
          constructor
          · rintro ⟨-, later⟩
            exact absurd (listed_iff.mp later.first) (not_storedOn_of_passed now)
          · rintro (none | ⟨all_fail, -⟩)
            · cases none
            · cases all_fail _ List.mem_cons_self
      | false =>
          rw [listed_iff]
          constructor
          · rintro ⟨-, later⟩
            have still := listed_iff.mp later.first
            right
            rcases (induction still).mp later with rfl | ⟨all_fail, few⟩
            · refine ⟨?_, (storedOn_of_failed now).mp still⟩
              intro outcome member
              rw [List.mem_singleton.mp member]
            · refine ⟨?_, (storedFor_of_failed now _).mp few⟩
              intro outcome member
              rcases List.mem_cons.mp member with rfl | later
              · rfl
              · exact all_fail outcome later
          · rintro (none | ⟨all_fail, few⟩)
            · cases none
            · have few_later := (storedFor_of_failed now _).mpr few
              have still := few_later.storedOn
              refine ⟨stored, (induction still).mpr (.inr ⟨?_, few_later⟩)⟩
              intro outcome member
              exact all_fail outcome (List.mem_cons_of_mem _ member)

/-- Verifications keep a location visible exactly if nothing lists it. -/
theorem keepsVisible_iff {db : Database} :
    KeepsVisible chunkId nodeId db ↔ ¬ db.storedOn chunkId nodeId := by
  constructor
  · intro keeps
    exact (sameReads_passed_iff 0).mp (keeps.1 0)
  · intro not_stored
    refine ⟨fun now => (sameReads_passed_iff now).mpr not_stored, ?_⟩
    intro outcomes _ listed
    exact absurd (listed_iff.mp listed) not_stored

/-- In every run, verifications keep a location visible throughout exactly if it is never stored,
and a sequence of verifications leaves a stored location listed exactly if none passes and, with
the failures on its row, at most two fail. -/
theorem verification_keeps_visible_iff (chunkId : Bytes) (nodeId : Uuid) (db : Database)
    (ops : List ReplicaOp) :
    (EveryState ReplicaOp.apply (KeepsVisible chunkId nodeId) db ops ↔
        EveryState ReplicaOp.apply (fun db => ¬ db.storedOn chunkId nodeId) db ops) ∧
      EveryState ReplicaOp.apply (fun db => db.storedOn chunkId nodeId →
        ∀ outcomes : List (Bool × Time),
          EveryState (verify chunkId nodeId) (Listed chunkId nodeId) db outcomes ↔
            outcomes = [] ∨ (∀ outcome ∈ outcomes, outcome.1 = false) ∧
              db.storedFor chunkId nodeId outcomes.length) db ops := by
  refine ⟨⟨?_, ?_⟩, ?_⟩
  · intro every
    exact every.mono fun _ => keepsVisible_iff.mp
  · intro every
    exact every.mono fun _ => keepsVisible_iff.mpr
  · have each : ∀ (db : Database) (op : ReplicaOp), True → True := fun _ _ _ => trivial
    exact (everyState_of_keeps each trivial ops).mono fun _ _ stored => listed_throughout_iff stored

/-- A location that passes its first verification is listed no more. -/
theorem passed_location_hidden :
    ¬ EveryState ReplicaOp.apply (KeepsVisible [5] 1) threeNodes
      [.createChunk firstShard, .addChunkLocation .up [5] 1] := by
  intro every
  have same := (every.last.1 3).chunkLocations .insertion [5]
  exact absurd same (by decide)

end Sequences

end Database

end CyxCloud.Metadata
