import CyxCloud.Core.Erasure
import CyxCloud.Library.Tables

/-!
# Chunks

Splitting an object into content-addressed chunks, as in `cyxcloud-core/src/chunk.rs`.  The Blake3
hash is an external function and enters as a parameter.  Chunk indices and counts are natural
numbers: the body limit of the gateway's router (256 MiB) keeps them far below the 32-bit types of
the source.
-/

namespace CyxCloud.Core

open Library

/-- Identifiers of files, nodes and users. -/
abbrev Uuid := Nat

/-- Timestamps. -/
abbrev Time := Nat

/-- Smallest chunk size. -/
def MIN_CHUNK_SIZE : Nat := 256 * 1024

/-- Chunk size of the gateway. -/
def DEFAULT_CHUNK_SIZE : Nat := 4 * 1024 * 1024

/-- Largest chunk size. -/
def MAX_CHUNK_SIZE : Nat := 64 * 1024 * 1024

/-- Metadata kept alongside the contents of a chunk. -/
structure ChunkMetadata where
  /-- Content hash. -/
  id : Bytes
  /-- Bytes of the chunk. -/
  size : Nat
  /-- Position within the parent file. -/
  index : Nat
  /-- Chunks of the parent file. -/
  totalChunks : Nat
  /-- The parent file. -/
  parentId : Option Uuid
  /-- Creation time. -/
  createdAt : Time
  /-- Whether the contents are encrypted. -/
  encrypted : Bool
  /-- Shard index; absent before sharding. -/
  shardIndex : Option UInt8
  deriving DecidableEq, Repr

namespace ChunkMetadata

/-- Metadata of a fresh chunk. -/
def new (id : Bytes) (size index totalChunks : Nat) (now : Time) : ChunkMetadata :=
  { id
    size
    index
    totalChunks
    parentId := none
    createdAt := now
    encrypted := false
    shardIndex := none }

/-- Record the parent file. -/
def withParent (metadata : ChunkMetadata) (parentId : Uuid) : ChunkMetadata :=
  { metadata with parentId := some parentId }

end ChunkMetadata

/-- A chunk: contents and metadata. -/
structure Chunk where
  /-- Metadata. -/
  metadata : ChunkMetadata
  /-- Contents. -/
  data : Bytes
  deriving DecidableEq, Repr

section

variable (blake3 : Bytes → Bytes)

/-- A chunk from its contents, unless these are too large. -/
def Chunk.new (now : Time) (data : Bytes) (index totalChunks : Nat) :
    Except CyxCloudError Chunk :=
  if MAX_CHUNK_SIZE < data.length then
    .error (.chunkTooLarge data.length MAX_CHUNK_SIZE)
  else
    .ok
      { metadata := ChunkMetadata.new (blake3 data) data.length index totalChunks now
        data }

/-- The chunk size actually used for a requested one. -/
def clampChunkSize (chunkSize : Nat) : Nat :=
  min (max chunkSize MIN_CHUNK_SIZE) MAX_CHUNK_SIZE

/-- Split a byte string into chunks. -/
def splitIntoChunks (now : Time) (data : Bytes) (chunkSize : Nat) (parentId : Option Uuid) :
    Except CyxCloudError (List Chunk) :=
  let size := clampChunkSize chunkSize
  let totalChunks := divCeil data.length size
  (blocks size data).zipIdx.mapM fun (chunkData, index) =>
    match Chunk.new blake3 now chunkData index totalChunks with
    | .error cause => .error cause
    | .ok chunk =>
        match parentId with
        | none => .ok chunk
        | some parent => .ok { chunk with metadata := chunk.metadata.withParent parent }

/-- The chunk that `splitIntoChunks` makes of one block. -/
def chunkOfBlock (now : Time) (totalChunks : Nat) (parentId : Option Uuid)
    (block : Bytes × Nat) : Chunk :=
  let metadata := ChunkMetadata.new (blake3 block.1) block.1.length block.2 totalChunks now
  { metadata := { metadata with parentId }
    data := block.1 }

theorem clampChunkSize_le (chunkSize : Nat) : clampChunkSize chunkSize ≤ MAX_CHUNK_SIZE := by
  simp only [clampChunkSize]
  omega

/-- Splitting never fails, and yields one chunk for each block. -/
theorem splitIntoChunks_eq (now : Time) (data : Bytes) (chunkSize : Nat)
    (parentId : Option Uuid) :
    splitIntoChunks blake3 now data chunkSize parentId =
      .ok ((blocks (clampChunkSize chunkSize) data).zipIdx.map
        (chunkOfBlock blake3 now (divCeil data.length (clampChunkSize chunkSize)) parentId)) := by
  apply mapM_eq_ok
  rintro ⟨block, index⟩ member
  have fits : ¬MAX_CHUNK_SIZE < block.length := by
    have small : block.length ≤ clampChunkSize chunkSize :=
      length_of_mem_blocks_le (List.fst_mem_of_mem_zipIdx member)
    have clamped := clampChunkSize_le chunkSize
    omega
  simp only [Chunk.new, fits, ↓reduceIte, chunkOfBlock]
  cases parentId with
  | none => rfl
  | some parent => rfl

end

end CyxCloud.Core
