import CyxCloud.Library.Runs
import CyxCloud.Metadata.Database

/-!
# Replica counters

`chunks.current_replicas` is a denormalised count of the rows of `chunk_locations`.  It is changed
by a statement of its own in `add_chunk_location` and by nothing else, so it follows the rows
through a run exactly when no step adds a row without counting it, counts a row it did not add, or
takes a row away.
-/

namespace CyxCloud.Metadata

open CyxCloud.Core hiding Chunk
open Library

/-! ## Operations -/

/-- The calls that create chunk rows or change chunk locations. -/
inductive ReplicaOp where
  | createChunk (chunk : CreateChunk)
  | addChunkLocation (statements : Database.LocationStatements) (chunkId : Bytes) (nodeId : Uuid)
  | removeChunkLocation (chunkId : Bytes) (nodeId : Uuid)
  | updateChunkVerification (chunkId : Bytes) (nodeId : Uuid) (valid : Bool) (now : Time)
  | deleteNode (nodeId : Uuid)

namespace ReplicaOp

/-- The database a call leaves behind. -/
def apply (db : Database) : ReplicaOp → Database
  | .createChunk chunk => (db.createChunk chunk).1
  | .addChunkLocation statements chunkId nodeId =>
      (db.addChunkLocation statements chunkId nodeId).1
  | .removeChunkLocation chunkId nodeId => db.removeChunkLocation chunkId nodeId
  | .updateChunkVerification chunkId nodeId valid now =>
      db.updateChunkVerification chunkId nodeId valid now
  | .deleteNode nodeId => (db.deleteNode nodeId).1

end ReplicaOp

namespace Database

/-- Number of location rows of a chunk. -/
def locationCount (db : Database) (chunkId : Bytes) : Nat :=
  db.chunkLocations.countP fun row => row.chunkId == chunkId

/-- Every replica counter is the number of location rows. -/
def CountsReplicas (db : Database) : Prop :=
  ∀ chunk ∈ db.chunks, chunk.currentReplicas = db.locationCount chunk.chunkId

instance (db : Database) : Decidable db.CountsReplicas :=
  inferInstanceAs (Decidable (∀ chunk ∈ db.chunks, _))

end Database

/-- The state before a call lets the call keep the replica counters right. -/
def ReplicaOp.KeepsCount (db : Database) : ReplicaOp → Prop
  | .createChunk chunk =>
      db.hasChunk chunk.chunkId ∨ db.hasFile chunk.fileId = false ∨
        db.locationCount chunk.chunkId = 0
  | .addChunkLocation statements chunkId nodeId =>
      statements.upsert = false ∨ db.hasNode nodeId = false ∨ db.hasChunk chunkId = false ∨
        db.hasLocation chunkId nodeId = !statements.increment
  | .removeChunkLocation chunkId nodeId =>
      db.hasLocation chunkId nodeId = false ∨ db.hasChunk chunkId = false
  | .updateChunkVerification _ _ _ _ => True
  | .deleteNode nodeId =>
      db.hasRepairJob nodeId ∨
        ∀ row ∈ db.chunkLocations, row.nodeId = nodeId → db.hasChunk row.chunkId = false

instance ReplicaOp.decidableKeepsCount (db : Database) : DecidablePred (KeepsCount db)
  | .createChunk _ => inferInstanceAs (Decidable (_ ∨ _ ∨ _))
  | .addChunkLocation _ _ _ => inferInstanceAs (Decidable (_ ∨ _ ∨ _ ∨ _))
  | .removeChunkLocation _ _ => inferInstanceAs (Decidable (_ ∨ _))
  | .updateChunkVerification _ _ _ _ => inferInstanceAs (Decidable True)
  | .deleteNode _ => inferInstanceAs (Decidable (_ ∨ ∀ row ∈ db.chunkLocations, _))

/-! ## What each call does to counters and locations -/

namespace Database

/-- An upsert adds a row exactly when the pair has none. -/
theorem locationCount_upsertLocation (db : Database) (chunkId : Bytes) (nodeId : Uuid)
    (counted : Bytes) :
    (db.upsertLocation chunkId nodeId).locationCount counted =
      db.locationCount counted +
        if chunkId = counted ∧ db.hasLocation chunkId nodeId = false then 1 else 0 := by
  unfold upsertLocation
  cases located : db.hasLocation chunkId nodeId with
  | true =>
      simp only [if_true, locationCount, List.countP_map, Bool.true_eq_false, and_false, if_false,
        Nat.add_zero]
      congr 1
      funext row
      simp only [Function.comp_apply]
      split <;> rfl
  | false =>
      simp only [Bool.false_eq_true, if_false, locationCount, List.countP_append,
        List.countP_singleton, beq_iff_eq, and_true]

/-- Recording a location with these statements counts the first replica of a chunk. -/
def activates (db : Database) (statements : LocationStatements) (chunkId : Bytes) : Bool :=
  statements.activate && (db.getChunkById chunkId).any fun chunk => chunk.currentReplicas == 0

/-- A chunk row with one replica of a chunk more. -/
def countReplica (active : Bool) (chunkId : Bytes) (row : Chunk) : Chunk :=
  if row.chunkId == chunkId then
    { row with
      currentReplicas := row.currentReplicas + 1
      status := if active then .active else row.status }
  else
    row

@[simp]
theorem countReplica_chunkId (active : Bool) (chunkId : Bytes) (row : Chunk) :
    (countReplica active chunkId row).chunkId = row.chunkId := by
  unfold countReplica
  split <;> rfl

@[simp]
theorem countReplica_currentReplicas (active : Bool) (chunkId : Bytes) (row : Chunk) :
    (countReplica active chunkId row).currentReplicas =
      row.currentReplicas + if row.chunkId = chunkId then 1 else 0 := by
  simp only [countReplica, beq_iff_eq]
  split <;> rfl

@[simp]
theorem countReplica_replicationFactor (active : Bool) (chunkId : Bytes) (row : Chunk) :
    (countReplica active chunkId row).replicationFactor = row.replicationFactor := by
  unfold countReplica
  split <;> rfl

theorem countReplica_false (chunkId : Bytes) :
    (fun row : Chunk =>
      if row.chunkId == chunkId then
        { row with currentReplicas := row.currentReplicas + 1 }
      else
        row) = countReplica false chunkId := rfl

theorem updateChunkStatus_countReplica (db : Database) (rows : List Chunk) (chunkId : Bytes) :
    updateChunkStatus { db with chunks := rows.map (countReplica false chunkId) } chunkId .active =
      { db with chunks := rows.map (countReplica true chunkId) } := by
  unfold updateChunkStatus
  congr 1
  rw [List.map_map]
  refine List.map_congr_left fun row _ => ?_
  simp only [Function.comp_apply, countReplica]
  split <;> rfl

theorem getChunkById_of_mem {db : Database} (unique : (db.chunks.map Chunk.chunkId).Nodup)
    {chunk : Chunk} (member : chunk ∈ db.chunks) : db.getChunkById chunk.chunkId = some chunk := by
  cases found : db.getChunkById chunk.chunkId with
  | none => exact absurd (List.find?_eq_none.mp found chunk member) (by simp)
  | some first =>
      have first_mem := List.mem_of_find?_eq_some found
      have same : first.chunkId = chunk.chunkId := by simpa using List.find?_some found
      rw [List.inj_on_of_nodup_map unique first_mem member same]

theorem map_countReplica_of_absent {db : Database} {chunkId : Bytes}
    (absent : db.getChunkById chunkId = none) (active : Bool) :
    db.chunks.map (countReplica active chunkId) = db.chunks := by
  rw [List.map_congr_left, List.map_id]
  intro row member
  have other := List.find?_eq_none.mp absent row member
  exact if_neg other

/-- Recording a location changes nothing, or upserts the row and counts it if the increment
reaches the database. -/
theorem addChunkLocation_effect (db : Database) (statements : LocationStatements)
    (chunkId : Bytes) (nodeId : Uuid) :
    ((statements.upsert = false ∨ db.hasNode nodeId = false) ∧
        (db.addChunkLocation statements chunkId nodeId).1 = db) ∨
      (statements.upsert = true ∧ db.hasNode nodeId = true ∧
        (db.addChunkLocation statements chunkId nodeId).1 =
          { db.upsertLocation chunkId nodeId with
            chunks :=
              if statements.increment then
                db.chunks.map (countReplica (db.activates statements chunkId) chunkId)
              else
                db.chunks }) := by
  unfold addChunkLocation
  cases statements.upsert with
  | false => exact .inl ⟨.inl rfl, rfl⟩
  | true =>
      cases db.hasNode nodeId with
      | false => exact .inl ⟨.inr rfl, rfl⟩
      | true =>
          refine .inr ⟨rfl, rfl, ?_⟩
          have found_eq : (db.upsertLocation chunkId nodeId).getChunkById chunkId =
              db.getChunkById chunkId := by
            rw [getChunkById, upsertLocation_chunks, getChunkById]
          cases statements.increment with
          | false =>
              simp only [Bool.false_eq_true, if_false, if_true, Bool.true_eq_false]
              rw [← upsertLocation_chunks db chunkId nodeId]
          | true =>
              simp only [Bool.true_eq_false, if_false, if_true, incrementChunkReplicas, found_eq,
                activates]
              cases found : db.getChunkById chunkId with
              | none =>
                  rw [map_countReplica_of_absent found, ← upsertLocation_chunks db chunkId nodeId]
              | some chunk =>
                  simp only [upsertLocation_chunks, Option.any_some, Nat.add_eq_right,
                    countReplica_false]
                  by_cases first : chunk.currentReplicas = 0
                  · cases statements.activate with
                    | false => simp [first]
                    | true => simp [first, updateChunkStatus_countReplica]
                  · have later : (chunk.currentReplicas == 0) = false := by simpa using first
                    simp [first, later]

@[simp]
theorem locationCount_updateChunkVerification (db : Database) (chunkId counted : Bytes)
    (nodeId : Uuid) (valid : Bool) (now : Time) :
    (db.updateChunkVerification chunkId nodeId valid now).locationCount counted =
      db.locationCount counted := by
  simp only [locationCount, updateChunkVerification, List.countP_map]
  congr 1
  funext row
  simp only [Function.comp_apply]
  split_ifs <;> rfl

/-- Taking location rows away keeps the counters right exactly when no chunk row counts them. -/
theorem countsReplicas_filter_iff {db : Database} (accurate : db.CountsReplicas)
    (nodes : List Node) (kept : ChunkLocation → Bool) :
    Database.CountsReplicas
        { db with
          nodes
          chunkLocations := db.chunkLocations.filter kept } ↔
      ∀ row ∈ db.chunkLocations, kept row = false → db.hasChunk row.chunkId = false := by
  have counted : Database.CountsReplicas
      { db with
        nodes
        chunkLocations := db.chunkLocations.filter kept } ↔
      ∀ chunk ∈ db.chunks, ∀ row ∈ db.chunkLocations, row.chunkId == chunk.chunkId → kept row := by
    refine forall₂_congr fun chunk member => ?_
    rw [accurate chunk member, ← countP_filter_eq_iff, eq_comm]
    rfl
  rw [counted]
  constructor
  · intro keeps row row_mem dropped
    by_contra present
    obtain ⟨chunk, chunk_mem, same⟩ := List.any_eq_true.mp (Bool.eq_true_of_not_eq_false present)
    have := keeps chunk chunk_mem row row_mem (by simpa using (beq_iff_eq.mp same).symm)
    simp [dropped] at this
  · intro absent chunk chunk_mem row row_mem same
    by_contra dropped
    have missing := absent row row_mem (Bool.eq_false_of_not_eq_true dropped)
    have present : db.hasChunk row.chunkId = true :=
      List.any_eq_true.mpr ⟨chunk, chunk_mem, by simpa using (beq_iff_eq.mp same).symm⟩
    rw [missing] at present
    cases present

end Database

/-! ## One call -/

namespace ReplicaOp

open Database

theorem createChunk_keepsCount {db : Database} (accurate : db.CountsReplicas)
    (chunk : CreateChunk) :
    (db.createChunk chunk).1.CountsReplicas ↔ KeepsCount db (.createChunk chunk) := by
  unfold Database.createChunk KeepsCount
  cases present : db.hasChunk chunk.chunkId with
  | true => simp [present, accurate]
  | false =>
      cases known : db.hasFile chunk.fileId with
      | false => simp [present, known, accurate]
      | true =>
          simp only [present, known, Bool.false_eq_true, Bool.true_eq_false, if_false, if_true,
            false_or]
          constructor
          · intro counts
            exact (counts _ (List.mem_append_right _ (List.mem_singleton_self _))).symm
          · intro unlocated row member
            rcases List.mem_append.mp member with old | new
            · exact accurate row old
            · rw [List.mem_singleton.mp new]
              exact unlocated.symm

theorem addChunkLocation_keepsCount {db : Database} (accurate : db.CountsReplicas)
    (statements : LocationStatements) (chunkId : Bytes) (nodeId : Uuid) :
    (db.addChunkLocation statements chunkId nodeId).1.CountsReplicas ↔
      KeepsCount db (.addChunkLocation statements chunkId nodeId) := by
  simp only [KeepsCount]
  rcases db.addChunkLocation_effect statements chunkId nodeId with
    ⟨blocked, unchanged⟩ | ⟨upserted, known, effect⟩
  · rw [unchanged]
    tauto
  · simp only [upserted, known, Bool.true_eq_false, false_or]
    have balanced : (db.addChunkLocation statements chunkId nodeId).1.CountsReplicas ↔
        ∀ chunk ∈ db.chunks, chunk.chunkId = chunkId →
          db.hasLocation chunkId nodeId = !statements.increment := by
      have count_eq : ∀ counted, (db.addChunkLocation statements chunkId nodeId).1.locationCount
          counted = (db.upsertLocation chunkId nodeId).locationCount counted := by
        intro counted
        rw [effect]
        rfl
      unfold CountsReplicas
      simp only [count_eq, locationCount_upsertLocation]
      rw [effect]
      cases statements.increment with
      | true =>
          simp only [if_true, List.forall_mem_map]
          refine forall₂_congr fun chunk member => ?_
          have before := accurate chunk member
          simp only [countReplica_chunkId, countReplica_currentReplicas]
          split_ifs <;> grind
      | false =>
          simp only [Bool.false_eq_true, if_false]
          refine forall₂_congr fun chunk member => ?_
          have before := accurate chunk member
          split_ifs <;> grind
    rw [balanced, ← Bool.not_eq_true]
    simp only [hasChunk, List.any_eq_true, beq_iff_eq]
    constructor
    · intro even
      by_cases present : ∃ chunk ∈ db.chunks, chunk.chunkId = chunkId
      · obtain ⟨chunk, member, same⟩ := present
        exact .inr (even chunk member same)
      · exact .inl present
    · rintro (absent | even) chunk member same
      · exact absurd ⟨chunk, member, same⟩ absent
      · exact even

theorem removeChunkLocation_keepsCount {db : Database} (accurate : db.CountsReplicas)
    (chunkId : Bytes) (nodeId : Uuid) :
    (db.removeChunkLocation chunkId nodeId).CountsReplicas ↔
      KeepsCount db (.removeChunkLocation chunkId nodeId) := by
  refine (countsReplicas_filter_iff accurate db.nodes
    fun row => !(row.chunkId == chunkId && row.nodeId == nodeId)).trans ?_
  simp only [KeepsCount, hasLocation, List.any_eq_false]
  grind

theorem deleteNode_keepsCount {db : Database} (accurate : db.CountsReplicas) (nodeId : Uuid) :
    (db.deleteNode nodeId).1.CountsReplicas ↔ KeepsCount db (.deleteNode nodeId) := by
  unfold Database.deleteNode KeepsCount
  cases blocked : db.hasRepairJob nodeId with
  | true => simp [blocked, accurate]
  | false =>
      simp only [blocked, Bool.false_eq_true, if_false, false_or]
      refine (countsReplicas_filter_iff accurate _ fun row => row.nodeId != nodeId).trans ?_
      simp

/-- A call keeps right counters right exactly under its condition. -/
theorem countsReplicas_apply_iff (db : Database) (op : ReplicaOp) (accurate : db.CountsReplicas) :
    (apply db op).CountsReplicas ↔ KeepsCount db op := by
  cases op with
  | createChunk chunk => exact createChunk_keepsCount accurate chunk
  | addChunkLocation statements chunkId nodeId =>
      exact addChunkLocation_keepsCount accurate statements chunkId nodeId
  | removeChunkLocation chunkId nodeId =>
      exact removeChunkLocation_keepsCount accurate chunkId nodeId
  | updateChunkVerification chunkId nodeId valid now =>
      refine iff_of_true ?_ trivial
      intro chunk member
      rw [apply, locationCount_updateChunkVerification]
      exact accurate chunk member
  | deleteNode nodeId => exact deleteNode_keepsCount accurate nodeId

end ReplicaOp

/-! ## Runs -/

open Database

/-- From a database without chunk rows, the replica counters are right in every state of a run
exactly when each call meets its condition in the state it finds. -/
theorem replica_counters_accurate_iff (db : Database) (no_chunks : db.chunks = [])
    (ops : List ReplicaOp) :
    EveryState ReplicaOp.apply CountsReplicas db ops ↔
      EveryStep ReplicaOp.apply ReplicaOp.KeepsCount db ops := by
  have start : db.CountsReplicas := by
    intro chunk member
    rw [no_chunks] at member
    cases member
  exact everyState_iff_everyStep (fun _ => True) (fun _ _ _ => trivial)
    (fun state op _ accurate => ReplicaOp.countsReplicas_apply_iff state op accurate) trivial start
    ops

/-- Three online nodes and one file without chunks. -/
def threeNodes : Database :=
  let node (id : Uuid) (peerId : String) : Node :=
    { id
      peerId
      grpcAddress := peerId
      storageTotal := 1000
      storageReserved := 0
      storageUsed := 0
      bandwidthMbps := 100
      datacenter := none
      rack := some 0
      region := none
      latitude := none
      longitude := none
      status := .online
      lastHeartbeat := none
      failureCount := 0
      firstOfflineAt := none
      statusChangedAt := none
      version := none
      walletAddress := none
      publicKey := none
      createdAt := 0 }
  { buckets := []
    nodes := [node 1 "a", node 2 "b", node 3 "c"]
    files :=
      [{ id := 7
         name := "k"
         path := "b/k"
         contentHash := [9]
         sizeBytes := 1
         chunkCount := 1
         dataShards := 10
         parityShards := 4
         chunkSize := 1
         ownerId := none
         bucket := some "b"
         status := .pending
         contentType := none
         createdAt := 0
         updatedAt := 0
         deletedAt := none }]
    chunks := []
    chunkLocations := []
    repairJobs := [] }

/-- The first shard of the file of `threeNodes`. -/
def firstShard : CreateChunk :=
  { chunkId := [5]
    fileId := 7
    chunkIndex := 0
    shardIndex := 0
    isParity := false
    sizeBytes := 1
    replicationFactor := 3 }

/-- The counters follow two locations of a chunk and a verification of one of them. -/
theorem replica_counters_accurate_two_locations :
    EveryState ReplicaOp.apply CountsReplicas threeNodes
      [.createChunk firstShard, .addChunkLocation .up [5] 1, .addChunkLocation .up [5] 2,
        .updateChunkVerification [5] 1 false 3] :=
  (replica_counters_accurate_iff threeNodes rfl _).mpr
    (by decide)

/-- Recording the same location twice counts two replicas of one row. -/
theorem replica_counter_repeated_location :
    ¬ ∀ db : Database, db.chunks = [] → ∀ ops : List ReplicaOp,
      EveryState ReplicaOp.apply CountsReplicas db ops := by
  intro accurate
  have run := accurate threeNodes rfl
    [.createChunk firstShard, .addChunkLocation .up [5] 1, .addChunkLocation .up [5] 1]
  exact absurd run (by decide)

end CyxCloud.Metadata
