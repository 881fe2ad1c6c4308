import CyxCloud.Core.Chunk
import CyxCloud.Library.Ranking
import CyxCloud.Library.Words

/-!
# Reassembly

`reassemble_chunks` of `cyxcloud-core/src/chunk.rs`.  Chunks are sorted by their indices, and only
the complete sequence of them is accepted.
-/

namespace CyxCloud.Core

open Library

/-- Chunks in the order of their indices, those of one index as they came. -/
def sortByIndex (chunks : List Chunk) : List Chunk :=
  chunks.mergeSort fun left right => left.metadata.index ≤ right.metadata.index

/-- Reassemble chunks into the original data. -/
def reassembleChunks (chunks : List Chunk) : Except CyxCloudError Bytes :=
  match sortByIndex chunks with
  -- The source returns here before it sorts.
  | [] => .ok []
  | first :: rest =>
      let sorted := first :: rest
      let expectedTotal := first.metadata.totalChunks
      if sorted.length ≠ expectedTotal then
        .error (.insufficientShards sorted.length expectedTotal)
      else
        match sorted.zipIdx.find? fun placed => placed.1.metadata.index ≠ narrowed 32 placed.2 with
        | some (chunk, _) => .error (.invalidShardIndex chunk.metadata.index (expectedTotal - 1))
        | none => .ok (sorted.flatMap Chunk.data)

/-- Each chunk has its position for an index, and knows how many there are. -/
def Complete (chunks : List Chunk) : Prop :=
  ∀ i (bound : i < chunks.length),
    chunks[i].metadata.index = i ∧ chunks[i].metadata.totalChunks = chunks.length

/-! ## Complete sequences -/

section

variable {chunks received : List Chunk}

/-- An index belongs to one chunk only. -/
theorem Complete.eq_of_index (complete : Complete chunks) {chunk other : Chunk}
    (member : chunk ∈ chunks) (member' : other ∈ chunks)
    (same : chunk.metadata.index = other.metadata.index) : chunk = other := by
  obtain ⟨i, bound, rfl⟩ := List.getElem_of_mem member
  obtain ⟨j, bound', rfl⟩ := List.getElem_of_mem member'
  rw [(complete i bound).1, (complete j bound').1] at same
  subst same
  rfl

theorem Complete.totalChunks_eq (complete : Complete chunks) {chunk : Chunk}
    (member : chunk ∈ chunks) : chunk.metadata.totalChunks = chunks.length := by
  obtain ⟨i, bound, rfl⟩ := List.getElem_of_mem member
  exact (complete i bound).2

theorem Complete.pairwise (complete : Complete chunks) :
    chunks.Pairwise fun left right => left.metadata.index ≤ right.metadata.index := by
  rw [List.pairwise_iff_getElem]
  intro i j bound bound' before
  rw [(complete i bound).1, (complete j bound').1]
  exact Nat.le_of_lt before

theorem sortByIndex_perm (received : List Chunk) : (sortByIndex received).Perm received :=
  List.mergeSort_perm received _

theorem sortByIndex_pairwise (received : List Chunk) :
    (sortByIndex received).Pairwise fun left right =>
      left.metadata.index ≤ right.metadata.index :=
  pairwise_mergeSort_by (fun chunk : Chunk => chunk.metadata.index) received

/-- Sorting brings back the sequence from any order. -/
theorem Complete.sortByIndex_eq (complete : Complete chunks) (order : received.Perm chunks) :
    sortByIndex received = chunks := by
  have order' := (sortByIndex_perm received).trans order
  refine order'.eq_of_pairwise ?_ (sortByIndex_pairwise received) complete.pairwise
  intro chunk other member member' before after
  exact complete.eq_of_index (order'.mem_iff.mp member) member' (Nat.le_antisymm before after)

/-- A sequence of chunks whose indices are their positions is the complete one. -/
theorem Complete.eq_of_positions (complete : Complete chunks) {sorted : List Chunk}
    (members : ∀ chunk ∈ sorted, chunk ∈ chunks) (length_eq : sorted.length = chunks.length)
    (positions : ∀ i (bound : i < sorted.length), sorted[i].metadata.index = i) :
    sorted = chunks := by
  refine List.ext_getElem length_eq fun i bound bound' => ?_
  refine complete.eq_of_index (members _ (List.getElem_mem bound)) (List.getElem_mem bound') ?_
  rw [positions i bound, (complete i bound').1]

theorem find?_position_eq_none_iff {sorted : List Chunk} (small : sorted.length ≤ 2 ^ 32) :
    (sorted.zipIdx.find? fun placed => placed.1.metadata.index ≠ narrowed 32 placed.2) = none ↔
      ∀ i (bound : i < sorted.length), sorted[i].metadata.index = i := by
  rw [List.find?_eq_none]
  constructor
  · intro none i bound
    have position := none (sorted[i], i) (List.mem_zipIdx_iff_getElem?.mpr
      (List.getElem?_eq_getElem bound))
    simp only [narrowed_of_lt (Nat.lt_of_lt_of_le bound small)] at position
    simpa using position
  · rintro positions ⟨chunk, i⟩ member
    obtain ⟨bound, chunk_eq⟩ := List.getElem?_eq_some_iff.mp
      (List.mem_zipIdx_iff_getElem?.mp member)
    simp only at bound chunk_eq
    rw [← chunk_eq, narrowed_of_lt (Nat.lt_of_lt_of_le bound small)]
    simpa using positions i bound

/-- In any order the complete sequence is reassembled. -/
theorem Complete.reassembleChunks_eq (complete : Complete chunks) (small : chunks.length < 2 ^ 32)
    (order : received.Perm chunks) :
    reassembleChunks received = .ok (chunks.flatMap Chunk.data) := by
  rw [reassembleChunks, complete.sortByIndex_eq order]
  cases chunks with
  | nil => rfl
  | cons first rest =>
      have counted : (first :: rest).length = first.metadata.totalChunks :=
        (complete.totalChunks_eq List.mem_cons_self).symm
      have positions := (find?_position_eq_none_iff (Nat.le_of_lt small)).mpr
        fun i bound => (complete i bound).1
      simp only [ne_eq, counted, not_true_eq_false, if_false, positions]

/-- Nothing but the complete sequence is reassembled. -/
theorem Complete.perm_of_reassembleChunks (complete : Complete chunks)
    (small : chunks.length < 2 ^ 32) (nonempty : received ≠ [])
    (members : ∀ chunk ∈ received, chunk ∈ chunks) {data : Bytes}
    (reassembled : reassembleChunks received = .ok data) : received.Perm chunks := by
  have order := sortByIndex_perm received
  rw [reassembleChunks] at reassembled
  split at reassembled
  · rename_i empty
    rw [empty] at order
    exact absurd order.nil_eq.symm nonempty
  · rename_i first rest sorted_eq
    rw [sorted_eq] at order
    have members' : ∀ chunk ∈ first :: rest, chunk ∈ chunks :=
      fun chunk member => members chunk (order.mem_iff.mp member)
    simp only at reassembled
    split at reassembled
    · exact absurd reassembled (by simp)
    · rename_i counted
      have length_eq : (first :: rest).length = chunks.length := by
        rw [Classical.not_not.mp counted]
        exact complete.totalChunks_eq (members' first List.mem_cons_self)
      split at reassembled
      · exact absurd reassembled (by simp)
      · rename_i positions
        have positions' := (find?_position_eq_none_iff (by omega)).mp positions
        rw [← complete.eq_of_positions members' length_eq positions']
        exact order.symm

end

/-! ## Split data -/

section

variable (blake3 : Bytes → Bytes) (now : Time) (data : Bytes) (chunkSize : Nat)
  (parentId : Option Uuid)

/-- The chunks of a byte string. -/
def chunksOf : List Chunk :=
  (blocks (clampChunkSize chunkSize) data).zipIdx.map
    (chunkOfBlock blake3 now (divCeil data.length (clampChunkSize chunkSize)) parentId)

theorem clampChunkSize_positive : 0 < clampChunkSize chunkSize := by
  have minimum : 0 < MIN_CHUNK_SIZE := by decide
  have maximum : 0 < MAX_CHUNK_SIZE := by decide
  rw [clampChunkSize]
  omega

@[simp]
theorem length_chunksOf : (chunksOf blake3 now data chunkSize parentId).length =
    divCeil data.length (clampChunkSize chunkSize) := by
  simp [chunksOf]

theorem getElem_chunksOf {i : Nat}
    (bound : i < (chunksOf blake3 now data chunkSize parentId).length) :
    (chunksOf blake3 now data chunkSize parentId)[i] =
      chunkOfBlock blake3 now (divCeil data.length (clampChunkSize chunkSize)) parentId
        ((data.drop (i * clampChunkSize chunkSize)).take (clampChunkSize chunkSize), i) := by
  simp [chunksOf, blocks]

theorem complete_chunksOf : Complete (chunksOf blake3 now data chunkSize parentId) := by
  intro i bound
  rw [getElem_chunksOf, length_chunksOf]
  exact ⟨rfl, rfl⟩

theorem flatMap_chunksOf :
    (chunksOf blake3 now data chunkSize parentId).flatMap Chunk.data = data := by
  rw [chunksOf, List.flatMap_def, List.map_map]
  have contents : Chunk.data ∘ chunkOfBlock blake3 now
      (divCeil data.length (clampChunkSize chunkSize)) parentId = Prod.fst := rfl
  rw [contents, List.zipIdx_map_fst]
  exact flatten_blocks (clampChunkSize_positive chunkSize) data

theorem length_of_mem_dropLast {chunk : Chunk}
    (member : chunk ∈ (chunksOf blake3 now data chunkSize parentId).dropLast) :
    chunk.data.length = clampChunkSize chunkSize := by
  obtain ⟨i, bound, rfl⟩ := List.getElem_of_mem member
  rw [List.length_dropLast, length_chunksOf] at bound
  rw [List.getElem_dropLast, getElem_chunksOf]
  exact length_block_of_succ_lt (clampChunkSize_positive chunkSize) (by omega)

/-- With fewer than `2 ^ 32` chunks the indices and the count fit the words of the source. -/
theorem narrowed_of_mem_chunksOf
    (few : divCeil data.length (clampChunkSize chunkSize) < 2 ^ 32) {chunk : Chunk}
    (member : chunk ∈ chunksOf blake3 now data chunkSize parentId) :
    narrowed 32 chunk.metadata.index = chunk.metadata.index ∧
      narrowed 32 chunk.metadata.totalChunks = chunk.metadata.totalChunks := by
  obtain ⟨i, bound, rfl⟩ := List.getElem_of_mem member
  obtain ⟨index_eq, total_eq⟩ := complete_chunksOf blake3 now data chunkSize parentId i bound
  rw [index_eq, total_eq]
  rw [length_chunksOf] at bound ⊢
  exact ⟨narrowed_of_lt (by omega), narrowed_of_lt few⟩

/-- Splitting succeeds, all orders of the chunks are reassembled to the data, and no other list of
them is reassembled to anything. -/
theorem splitIntoChunks_reassembled
    (few : divCeil data.length (clampChunkSize chunkSize) < 2 ^ 32) :
    ∃ chunks, splitIntoChunks blake3 now data chunkSize parentId = .ok chunks ∧
      chunks.flatMap Chunk.data = data ∧
      (∀ chunk ∈ chunks.dropLast, chunk.data.length = clampChunkSize chunkSize) ∧
      (∀ received : List Chunk, received.Perm chunks → reassembleChunks received = .ok data) ∧
      ∀ received : List Chunk, received ≠ [] → (∀ chunk ∈ received, chunk ∈ chunks) →
        ¬ received.Perm chunks → ∃ cause, reassembleChunks received = .error cause := by
  have complete := complete_chunksOf blake3 now data chunkSize parentId
  have small : (chunksOf blake3 now data chunkSize parentId).length < 2 ^ 32 := by
    rwa [length_chunksOf]
  refine ⟨chunksOf blake3 now data chunkSize parentId,
    splitIntoChunks_eq blake3 now data chunkSize parentId,
    flatMap_chunksOf blake3 now data chunkSize parentId,
    fun chunk member => length_of_mem_dropLast blake3 now data chunkSize parentId member,
    fun received order => ?_, fun received nonempty members other => ?_⟩
  · rw [complete.reassembleChunks_eq small order, flatMap_chunksOf]
  · cases reassembled : reassembleChunks received with
    | error cause => exact ⟨cause, rfl⟩
    | ok whole =>
        exact absurd (complete.perm_of_reassembleChunks small nonempty members reassembled) other

end

/-- Two whole chunks, and three bytes. -/
def threeChunks : Bytes :=
  List.replicate MIN_CHUNK_SIZE 1 ++ List.replicate MIN_CHUNK_SIZE 2 ++ [3, 4, 5]

theorem splitIntoChunks_reassembled_three :
    ∃ first second last, splitIntoChunks id 0 threeChunks 0 none = .ok [first, second, last] ∧
      first.data.length = MIN_CHUNK_SIZE ∧ second.data.length = MIN_CHUNK_SIZE ∧
      last.data.length = 3 ∧ reassembleChunks [last, first, second] = .ok threeChunks ∧
      ∃ cause, reassembleChunks [last, first] = .error cause := by
  have size : clampChunkSize 0 = MIN_CHUNK_SIZE := by decide
  have length_eq : threeChunks.length = 2 * MIN_CHUNK_SIZE + 3 := by
    rw [threeChunks, List.length_append, List.length_append, List.length_replicate,
      List.length_replicate, ← Nat.two_mul]
    rfl
  have count : divCeil threeChunks.length (clampChunkSize 0) = 3 := by
    rw [length_eq, size]
    decide
  obtain ⟨chunks, split, whole, full, reassembled, refused⟩ :=
    splitIntoChunks_reassembled id 0 threeChunks 0 none (by rw [count]; decide)
  have chunks_eq : chunks = chunksOf id 0 threeChunks 0 none :=
    Except.ok.inj (split.symm.trans (splitIntoChunks_eq id 0 threeChunks 0 none))
  have three : chunks.length = 3 := by rw [chunks_eq, length_chunksOf, count]
  obtain ⟨first, second, last, rfl⟩ := List.length_eq_three.mp three
  have first_length := full first (by simp)
  have second_length := full second (by simp)
  rw [size] at first_length second_length
  have lengths := congrArg List.length whole
  simp only [List.flatMap_cons, List.flatMap_nil, List.length_append, List.length_nil,
    length_eq, first_length, second_length] at lengths
  refine ⟨first, second, last, split, first_length, second_length, by omega,
    reassembled _ ?_, refused _ (by simp) (by simp +contextual) fun order => ?_⟩
  · exact @List.perm_append_comm _ [last] [first, second]
  · exact absurd order.length_eq (by simp)

end CyxCloud.Core
