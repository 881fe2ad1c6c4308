import CyxCloud.Storage.Backends

/-!
# One backend for the other

The two backends side by side: the same operations on both, and when they answer the same.
-/

namespace CyxCloud.Storage

open CyxCloud.Core Library

/-- An operation on chunks, or the database flushing and compacting its files. -/
inductive ChunkOp where
  | put (id data : Bytes)
  | get (id : Bytes)
  | delete (id : Bytes)
  | chunkExists (id : Bytes)
  | flushed (totalSstFilesSize : Nat)

/-- The answer to an operation. -/
inductive ChunkAnswer where
  | put (result : Except StorageError Unit)
  | get (result : Except StorageError (Option Bytes))
  | delete (result : Except StorageError Bool)
  | chunkExists (result : Except StorageError Bool)
  | flushed
  deriving DecidableEq

/-- An error without the bytes in use, of which each backend reports its own estimate. -/
def StorageError.withoutUsed : StorageError → StorageError
  | .storage message => .storage message
  | .storageFull _ capacity => .storageFull 0 capacity

/-- An answer without the bytes in use. -/
def ChunkAnswer.withoutUsed : ChunkAnswer → ChunkAnswer
  | .put result => .put (result.mapError StorageError.withoutUsed)
  | .get result => .get (result.mapError StorageError.withoutUsed)
  | .delete result => .delete (result.mapError StorageError.withoutUsed)
  | .chunkExists result => .chunkExists (result.mapError StorageError.withoutUsed)
  | .flushed => .flushed

/-- An operation on the backend in memory, which the database's files do not concern. -/
def MemoryBackend.step (backend : MemoryBackend) : ChunkOp → MemoryBackend × ChunkAnswer
  | .put id data => ((backend.put id data).1, .put (backend.put id data).2)
  | .get id => ((backend.get id).1, .get (backend.get id).2)
  | .delete id => ((backend.delete id).1, .delete (backend.delete id).2)
  | .chunkExists id => (backend, .chunkExists (backend.chunkExists id))
  | .flushed _ => (backend, .flushed)

/-- An operation on the backend over the database. -/
def RocksDbBackend.step (backend : RocksDbBackend) : ChunkOp → RocksDbBackend × ChunkAnswer
  | .put id data => ((backend.put id data).1, .put (backend.put id data).2)
  | .get id => ((backend.get id).1, .get (backend.get id).2)
  | .delete id => ((backend.delete id).1, .delete (backend.delete id).2)
  | .chunkExists id => (backend, .chunkExists (backend.chunkExists id))
  | .flushed totalSstFilesSize => ({ backend with totalSstFilesSize }, .flushed)

/-- Both backends. -/
structure Backends where
  memory : MemoryBackend
  rocks : RocksDbBackend

namespace Backends

/-- Both backends, empty and with one capacity. -/
def start (filter : KeyFilter) (maxCapacity : Nat) : Backends where
  memory := .withCapacity maxCapacity
  rocks := .openNew filter maxCapacity

/-- Both backends after an operation. -/
def apply (backends : Backends) (op : ChunkOp) : Backends where
  memory := (backends.memory.step op).1
  rocks := (backends.rocks.step op).1

/-- Whether the chunks after a write take more bytes than a capacity allows. -/
def Exceeds (chunks : ChunkMap) (maxCapacity : Nat) (id data : Bytes) : Prop :=
  0 < maxCapacity ∧ maxCapacity < ChunkMap.bytes (chunks.insert id data)

/-- Whether a put failed for lack of room. -/
def Full (result : Except StorageError Unit) : Prop :=
  ∃ used capacity, result = .error (.storageFull used capacity)

/-- An operation has the same result on both backends, and a put fails on each exactly when the
chunks after it would take more than the capacity. -/
def Interchangeable (backends : Backends) (op : ChunkOp) : Prop :=
  (backends.memory.step op).2.withoutUsed = (backends.rocks.step op).2.withoutUsed ∧
    ∀ id data, op = .put id data →
      (Full (backends.memory.put id data).2 ↔
          Exceeds backends.memory.chunks backends.memory.maxCapacity id data) ∧
        (Full (backends.rocks.put id data).2 ↔
          Exceeds backends.rocks.chunks backends.rocks.maxCapacity id data)

/-- At a put under a capacity: when the chunks after it would fit, the new one fits beside all old
ones, the replaced one included, and beside the flushed files; when they would not, the new chunk
and the flushed files alone are too much. -/
def RoomAgrees (backends : Backends) : ChunkOp → Prop
  | .put id data =>
      let capacity := backends.memory.maxCapacity
      0 < capacity →
        if ChunkMap.bytes (backends.memory.chunks.insert id data) ≤ capacity then
          backends.memory.chunks.bytes + data.length ≤ capacity ∧
            backends.rocks.totalSstFilesSize + data.length ≤ capacity
        else
          capacity < backends.rocks.totalSstFilesSize + data.length
  | _ => True

/-- Both backends hold the same chunks under the same capacity, and the counter in memory is the sum
of their sizes. -/
structure Paired (backends : Backends) : Prop where
  chunks : backends.rocks.chunks = backends.memory.chunks
  maxCapacity : backends.rocks.maxCapacity = backends.memory.maxCapacity
  bytesUsed : backends.memory.bytesUsed = backends.memory.chunks.bytes

theorem paired_start (filter : KeyFilter) (maxCapacity : Nat) :
    Paired (start filter maxCapacity) := by
  constructor <;> rfl

section

variable {backends : Backends} {id data : Bytes}

/-- The backend in memory refuses a put that does not fit beside the bytes in use. -/
theorem full_memory_put : Full (backends.memory.put id data).2 ↔
    0 < backends.memory.maxCapacity ∧
      backends.memory.maxCapacity < backends.memory.bytesUsed + data.length := by
  by_cases exceeds : 0 < backends.memory.maxCapacity ∧
      backends.memory.maxCapacity < backends.memory.bytesUsed + data.length
  · simp [MemoryBackend.put, exceeds, Full]
  · rw [MemoryBackend.put, if_neg exceeds]
    simp [Full, exceeds]

/-- The backend over the database refuses a put that does not fit beside the flushed files. -/
theorem full_rocks_put : Full (backends.rocks.put id data).2 ↔
    0 < backends.rocks.maxCapacity ∧
      backends.rocks.maxCapacity < backends.rocks.totalSstFilesSize + data.length := by
  by_cases exceeds : 0 < backends.rocks.maxCapacity ∧
      backends.rocks.maxCapacity < backends.rocks.totalSstFilesSize + data.length
  · simp [RocksDbBackend.put, RocksDbBackend.approximateSize, exceeds, Full]
  · rw [RocksDbBackend.put, RocksDbBackend.approximateSize, if_neg exceeds]
    simp [Full, exceeds]

/-- Puts into the two backends have the same result when both find room or neither does. -/
theorem withoutUsed_put_eq_iff (paired : Paired backends) :
    (backends.memory.step (.put id data)).2.withoutUsed =
        (backends.rocks.step (.put id data)).2.withoutUsed ↔
      (Full (backends.memory.put id data).2 ↔ Full (backends.rocks.put id data).2) := by
  rw [full_memory_put, full_rocks_put]
  simp only [MemoryBackend.step, RocksDbBackend.step, MemoryBackend.put, RocksDbBackend.put,
    RocksDbBackend.approximateSize, paired.maxCapacity, gt_iff_lt]
  split <;> rename_i memory <;> split <;> rename_i rocks
  · exact iff_of_true rfl (iff_of_true memory rocks)
  · exact iff_of_false (by simp [ChunkAnswer.withoutUsed, Except.mapError])
      fun both => rocks (both.mp memory)
  · exact iff_of_false (by simp [ChunkAnswer.withoutUsed, Except.mapError])
      fun both => memory (both.mpr rocks)
  · exact iff_of_true rfl (iff_of_false memory rocks)

/-- A put is interchangeable exactly when the room agrees. -/
theorem Paired.interchangeable_put_iff (paired : Paired backends) :
    backends.Interchangeable (.put id data) ↔ backends.RoomAgrees (.put id data) := by
  have inserted := backends.memory.chunks.bytes_insert id data
  have bounded := backends.memory.chunks.bytesAt_le_bytes id
  have unfolded : backends.Interchangeable (.put id data) ↔
      (Full (backends.memory.put id data).2 ↔ Full (backends.rocks.put id data).2) ∧
        (Full (backends.memory.put id data).2 ↔
          Exceeds backends.memory.chunks backends.memory.maxCapacity id data) ∧
        (Full (backends.rocks.put id data).2 ↔
          Exceeds backends.rocks.chunks backends.rocks.maxCapacity id data) := by
    rw [Interchangeable, withoutUsed_put_eq_iff paired]
    simp
  rw [unfolded, full_memory_put, full_rocks_put]
  simp only [Exceeds, RoomAgrees, paired.chunks, paired.maxCapacity, paired.bytesUsed]
  split <;> omega

end

/-- Where the backends are paired, an operation is interchangeable exactly when the room agrees. -/
theorem Paired.interchangeable_iff {backends : Backends} {op : ChunkOp}
    (paired : Paired backends) : backends.Interchangeable op ↔ backends.RoomAgrees op := by
  cases op with
  | put id data => exact paired.interchangeable_put_iff
  | get id =>
      simp [Interchangeable, RoomAgrees, MemoryBackend.step, RocksDbBackend.step,
        MemoryBackend.get, RocksDbBackend.get, paired.chunks]
  | delete id =>
      cases stored : backends.memory.chunks.lookup id <;>
        simp [Interchangeable, RoomAgrees, MemoryBackend.step, RocksDbBackend.step,
          MemoryBackend.delete, RocksDbBackend.delete, RocksDbBackend.chunkExists_eq,
          paired.chunks, stored]
  | chunkExists id =>
      simp [Interchangeable, RoomAgrees, MemoryBackend.step, RocksDbBackend.step,
        MemoryBackend.chunkExists, RocksDbBackend.chunkExists_eq, paired.chunks]
  | flushed totalSstFilesSize =>
      simp [Interchangeable, RoomAgrees, MemoryBackend.step, RocksDbBackend.step]

/-- Where the room agrees at a put, both backends find room or neither does. -/
theorem Paired.put_agrees {backends : Backends} {id data : Bytes} (paired : Paired backends)
    (agrees : backends.RoomAgrees (.put id data)) :
    (backends.memory.maxCapacity > 0 ∧
        backends.memory.bytesUsed + data.length > backends.memory.maxCapacity) ↔
      (backends.rocks.maxCapacity > 0 ∧
        backends.rocks.approximateSize + data.length > backends.rocks.maxCapacity) := by
  have same := (withoutUsed_put_eq_iff paired).mp (paired.interchangeable_put_iff.mpr agrees).1
  rwa [full_memory_put, full_rocks_put] at same

/-- An operation at which the room agrees keeps the backends paired. -/
theorem Paired.apply {backends : Backends} {op : ChunkOp} (paired : Paired backends)
    (agrees : backends.RoomAgrees op) : Paired (backends.apply op) := by
  cases op with
  | put id data =>
      have same := paired.put_agrees agrees
      by_cases exceeds : backends.memory.maxCapacity > 0 ∧
          backends.memory.bytesUsed + data.length > backends.memory.maxCapacity
      · simpa only [Backends.apply, MemoryBackend.step, RocksDbBackend.step, MemoryBackend.put,
          RocksDbBackend.put, if_pos exceeds, if_pos (same.mp exceeds)] using paired
      · simp only [Backends.apply, MemoryBackend.step, RocksDbBackend.step, MemoryBackend.put,
          RocksDbBackend.put, if_neg exceeds, if_neg (mt same.mpr exceeds)]
        constructor
        · simp only [paired.chunks]
        · exact paired.maxCapacity
        · simp only [ChunkMap.bytes_insert, paired.bytesUsed]
          rfl
  | get id => exact ⟨paired.chunks, paired.maxCapacity, paired.bytesUsed⟩
  | delete id =>
      cases stored : backends.memory.chunks.lookup id with
      | none =>
          simpa [Backends.apply, MemoryBackend.step, RocksDbBackend.step, MemoryBackend.delete,
            RocksDbBackend.delete, RocksDbBackend.chunkExists_eq, paired.chunks, stored]
            using paired
      | some old =>
          simp only [Backends.apply, MemoryBackend.step, RocksDbBackend.step,
            MemoryBackend.delete, RocksDbBackend.delete, RocksDbBackend.chunkExists_eq,
            paired.chunks, stored, Option.isSome_some]
          constructor
          · rfl
          · exact paired.maxCapacity
          · have removed : backends.memory.chunks.bytesAt id = old.length :=
              Dictionary.sizeAt_of_lookup List.length stored
            simp only [ChunkMap.bytes_erase, paired.bytesUsed, removed]
  | chunkExists id => exact paired
  | flushed totalSstFilesSize => exact ⟨paired.chunks, paired.maxCapacity, paired.bytesUsed⟩

/-- The backends are interchangeable throughout a run exactly when the room agrees at every put. -/
theorem everyStep_interchangeable_iff (filter : KeyFilter) (maxCapacity : Nat)
    (ops : List ChunkOp) :
    EveryStep apply Interchangeable (start filter maxCapacity) ops ↔
      EveryStep apply RoomAgrees (start filter maxCapacity) ops :=
  everyStep_iff_of_restores Paired (fun _ _ => Paired.interchangeable_iff)
    (fun _ _ => Paired.apply) (paired_start filter maxCapacity) ops

/-- A filter that never excludes a key. -/
def passAll : KeyFilter where
  keyMayExist := fun _ _ => true
  complete := fun _ _ _ => rfl

/-- Under a capacity of four bytes, overwriting a chunk of three bytes is refused in memory although
it would fit, and a second one goes to the unflushed database although it does not. -/
theorem not_interchangeable_of_replacement_of_unflushed :
    ¬ EveryStep apply Interchangeable (start passAll 4)
        [.put [1] [7, 7, 7], .put [1] [8, 8, 8]] ∧
      ¬ EveryStep apply Interchangeable (start passAll 4)
        [.put [1] [7, 7, 7], .put [2] [8, 8, 8]] := by
  constructor
  · intro every
    have same := every.2.1.1
    revert same
    decide
  · intro every
    have same := every.2.1.1
    revert same
    decide

end Backends

end CyxCloud.Storage
