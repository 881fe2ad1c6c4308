import CyxCloud.Metadata.Replicas
import CyxCloud.Metadata.Topology

/-!
# The gateway's view of a cluster

What the object operations of `cyxcloud-gateway/src/state.rs` share: their errors, the functions
of external crates, the state of the database and of the storage nodes, and the node client of
`node_client.rs`.
-/

namespace CyxCloud.Gateway

open CyxCloud.Core hiding Chunk
open Library Metadata

/-! ## Errors and external functions -/

/-- Causes of an internal error. -/
inductive InternalError where
  | database (cause : DbError)
  | noStorageNodes
  | encoderUnavailable (cause : CyxCloudError)
  | chunking (cause : CyxCloudError)
  | encoding (cause : CyxCloudError)
  | insufficientStored (stored needed : Nat)
  | noShards
  | noShardsForChunk (chunk : Nat)
  | insufficientShards (chunk retrieved required : Nat)
  | decoding (chunk : Nat) (cause : CyxCloudError)
  | hashMismatch (bucket key : String) (expected actual : Bytes)
  | memoryLimit (megabytes : Nat)
  deriving DecidableEq, Repr

/-- Errors of the object operations. -/
inductive S3Error where
  | noSuchBucket (bucket : String)
  | noSuchKey (key : String)
  | internal (cause : InternalError)
  deriving DecidableEq, Repr

/-- The functions of external crates that the gateway calls. -/
structure Externals where
  blake3 : Bytes → Bytes
  reedSolomon : ReedSolomonCrate
  distanceKm : PlacementNode → PlacementNode → Option ℚ

/-- What the gateway relies on: hashes do not collide, and the erasure code is one. -/
structure Externals.Lawful (ext : Externals) : Prop where
  blake3_injective : Function.Injective ext.blake3
  reedSolomon_lawful : ext.reedSolomon.Lawful

/-- Two lower-case digits for each byte. -/
def hexEncode (bytes : Bytes) : String :=
  String.ofList (bytes.flatMap fun byte =>
    [Nat.digitChar (byte.toNat / 16), Nat.digitChar (byte.toNat % 16)])

/-- The path of an object in the table of files. -/
def objectPath (bucket key : String) : String := bucket ++ "/" ++ key

/-! ## Storage nodes -/

/-- Metadata sent along with a shard. -/
structure ChunkMeta where
  size : Nat
  index : Nat
  totalChunks : Nat
  parentId : Option Uuid
  createdAt : Time
  encrypted : Bool
  shardIndex : Option Nat
  deriving DecidableEq, Repr

/-- A shard as a storage node keeps it. -/
structure StoredShard where
  address : String
  chunkId : Bytes
  data : Bytes
  metadata : ChunkMeta
  deriving DecidableEq, Repr

/-- Outcome of a request to store a shard or a row.  After a `lost` reply it is stored although the
client sees a failure. -/
inductive StoreReply where
  | stored
  | lost
  | refused
  deriving DecidableEq, Repr

/-- Database and storage nodes. -/
structure Cluster where
  db : Database
  /-- The shards that the nodes keep, the newest first. -/
  kept : List StoredShard

/-- What the node at an address answers when asked for a chunk. -/
def Cluster.chunkAt (cluster : Cluster) (address : String) (chunkId : Bytes) : Option Bytes :=
  (cluster.kept.find? fun shard => shard.address == address && shard.chunkId == chunkId).map
    StoredShard.data

/-- The shards kept by the nodes once one of them has answered a request. -/
def StoreReply.keep (reply : StoreReply) (shard : StoredShard) (kept : List StoredShard) :
    List StoredShard :=
  match reply with
  | .stored | .lost => shard :: kept
  | .refused => kept

/-- Retrieve a chunk from the first node that answers; `reply` is the answer to the request made
at a position of the address list. -/
def getChunkFromAny (reply : Nat → String → Option Bytes) (addresses : List String) :
    Option Bytes :=
  addresses.zipIdx.findSome? fun (address, position) => reply position address

end CyxCloud.Gateway
