import CyxCloud.Core.Erasure
import CyxCloud.Library.Dictionaries
import CyxCloud.Library.Runs

/-!
# The chunk stores

The two backends of the storage crate that hold chunks: the map in memory of
`cyxcloud-storage/src/memory.rs` and the database of `cyxcloud-storage/src/rocks.rs`.  Sizes are
natural numbers; `WordBackend` counts in words, and `Agrees` relates its operations to those of the
map here as long as the stored bytes fit a word.
-/

namespace CyxCloud.Storage

open CyxCloud.Core Library

/-- What an operation of the storage crate fails with. -/
inductive StorageError where
  | storage (message : String)
  | storageFull (used capacity : Nat)
  deriving DecidableEq, Repr

/-- Chunks by identifier. -/
abbrev ChunkMap := Dictionary Bytes Bytes

namespace ChunkMap

/-- Bytes of all chunks. -/
def bytes (chunks : ChunkMap) : Nat := Dictionary.total List.length chunks

/-- Bytes of the chunk with an identifier, zero if it is not stored. -/
def bytesAt (chunks : ChunkMap) (id : Bytes) : Nat := Dictionary.sizeAt List.length chunks id

theorem bytes_insert (chunks : ChunkMap) (id data : Bytes) :
    bytes (chunks.insert id data) = chunks.bytes - chunks.bytesAt id + data.length :=
  Dictionary.total_insert_eq List.length chunks id data

theorem bytes_erase (chunks : ChunkMap) (id : Bytes) :
    bytes (chunks.erase id) = chunks.bytes - chunks.bytesAt id :=
  Dictionary.total_erase_eq List.length chunks id

theorem bytesAt_le_bytes (chunks : ChunkMap) (id : Bytes) : chunks.bytesAt id ≤ chunks.bytes :=
  Dictionary.sizeAt_le_total List.length chunks id

end ChunkMap

/-- Statistics of a backend, latencies left out. -/
structure StorageStats where
  chunkCount : Nat
  bytesUsed : Nat
  bytesCapacity : Nat
  reads : Nat
  writes : Nat
  deletes : Nat
  deriving DecidableEq, Repr

/-! ## The map in memory -/

/-- The backend in memory. -/
structure MemoryBackend where
  /-- Chunk storage. -/
  chunks : ChunkMap
  /-- Largest number of bytes, unlimited when zero. -/
  maxCapacity : Nat
  /-- Bytes used. -/
  bytesUsed : Nat
  reads : Nat
  writes : Nat
  deletes : Nat

namespace MemoryBackend

/-- An empty backend with a capacity. -/
def withCapacity (maxBytes : Nat) : MemoryBackend :=
  { chunks := ∅
    maxCapacity := maxBytes
    bytesUsed := 0
    reads := 0
    writes := 0
    deletes := 0 }

variable (backend : MemoryBackend)

/-- Store a chunk, over an earlier one with the identifier. -/
def put (id data : Bytes) : MemoryBackend × Except StorageError Unit :=
  if backend.maxCapacity > 0 ∧ backend.bytesUsed + data.length > backend.maxCapacity then
    (backend, .error (.storageFull backend.bytesUsed backend.maxCapacity))
  else
    -- the replaced chunk is taken off the counter first
    let bytesUsed := backend.bytesUsed - ((backend.chunks.lookup id).map List.length).getD 0
    ({ backend with
        chunks := backend.chunks.insert id data
        bytesUsed := bytesUsed + data.length
        writes := backend.writes + 1 }, .ok ())

/-- Retrieve a chunk. -/
def get (id : Bytes) : MemoryBackend × Except StorageError (Option Bytes) :=
  ({ backend with reads := backend.reads + 1 }, .ok (backend.chunks.lookup id))

/-- Delete a chunk; the result says whether it was stored. -/
def delete (id : Bytes) : MemoryBackend × Except StorageError Bool :=
  match backend.chunks.lookup id with
  | some old =>
      ({ backend with
          chunks := backend.chunks.erase id
          bytesUsed := backend.bytesUsed - old.length
          deletes := backend.deletes + 1 }, .ok true)
  | none => (backend, .ok false)

/-- Whether a chunk is stored. -/
def chunkExists (id : Bytes) : Except StorageError Bool := .ok (backend.chunks.lookup id).isSome

/-- Statistics. -/
def stats : StorageStats :=
  { chunkCount := backend.chunks.keys.length
    bytesUsed := backend.bytesUsed
    bytesCapacity := backend.maxCapacity
    reads := backend.reads
    writes := backend.writes
    deletes := backend.deletes }

end MemoryBackend

/-! ## The database -/

/-- The filter of the database that tells whether a key may be there: it errs on one side only. -/
structure KeyFilter where
  keyMayExist : ChunkMap → Bytes → Bool
  complete : ∀ chunks id, (chunks.lookup id).isSome → keyMayExist chunks id = true

/-- The backend over RocksDB.  The database reads what it wrote; `totalSstFilesSize` is its property
`rocksdb.total-sst-files-size`, which writes leave alone until the database flushes them. -/
structure RocksDbBackend where
  /-- The column family `chunks`. -/
  chunks : ChunkMap
  totalSstFilesSize : Nat
  filter : KeyFilter
  /-- Largest number of bytes, unlimited when zero. -/
  maxCapacity : Nat
  reads : Nat
  writes : Nat
  deletes : Nat

namespace RocksDbBackend

/-- A fresh database with a capacity. -/
def openNew (filter : KeyFilter) (maxCapacity : Nat) : RocksDbBackend :=
  { chunks := ∅
    totalSstFilesSize := 0
    filter
    maxCapacity
    reads := 0
    writes := 0
    deletes := 0 }

variable (backend : RocksDbBackend)

/-- Approximate bytes stored. -/
def approximateSize : Nat := backend.totalSstFilesSize

/-- Store a chunk, over an earlier one with the identifier. -/
def put (id data : Bytes) : RocksDbBackend × Except StorageError Unit :=
  if backend.maxCapacity > 0 ∧ backend.approximateSize + data.length > backend.maxCapacity then
    (backend, .error (.storageFull backend.approximateSize backend.maxCapacity))
  else
    ({ backend with
        chunks := backend.chunks.insert id data
        writes := backend.writes + 1 }, .ok ())

/-- Retrieve a chunk. -/
def get (id : Bytes) : RocksDbBackend × Except StorageError (Option Bytes) :=
  ({ backend with reads := backend.reads + 1 }, .ok (backend.chunks.lookup id))

/-- Whether a chunk is stored: what the filter does not exclude is read. -/
def chunkExists (id : Bytes) : Except StorageError Bool :=
  if !backend.filter.keyMayExist backend.chunks id then
    .ok false
  else
    .ok (backend.chunks.lookup id).isSome

/-- Delete a chunk; the result says whether it was stored. -/
def delete (id : Bytes) : RocksDbBackend × Except StorageError Bool :=
  match backend.chunkExists id with
  | .error cause => (backend, .error cause)
  | .ok false => (backend, .ok false)
  | .ok true =>
      ({ backend with
          chunks := backend.chunks.erase id
          deletes := backend.deletes + 1 }, .ok true)

/-- Statistics, the chunks counted one by one. -/
def stats : StorageStats :=
  { chunkCount := backend.chunks.keys.length
    bytesUsed := backend.chunks.bytes
    bytesCapacity := backend.maxCapacity
    reads := backend.reads
    writes := backend.writes
    deletes := backend.deletes }

theorem chunkExists_eq (id : Bytes) :
    backend.chunkExists id = .ok (backend.chunks.lookup id).isSome := by
  by_cases present : (backend.chunks.lookup id).isSome
  · simp [chunkExists, backend.filter.complete _ _ present, present]
  · simp [chunkExists, present]

end RocksDbBackend

end CyxCloud.Storage
