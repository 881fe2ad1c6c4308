import CyxCloud.Core.Chunk
import Mathlib.Logic.Function.Basic

/-!
# The chunk service of a storage node

The store of a node (`cyxcloud-storage/src/rocks.rs`), the requests that its service answers
(`cyxcloud-network/src/grpc_server.rs`), and the client that repeats a request until it succeeds
(`grpc_client.rs`).  A call of the store fails with a text that the environment gives, or goes
through.
-/

namespace CyxCloud.Node

open CyxCloud.Core

/-! ## Stores -/

/-- The text of a failure of the store, if the call fails. -/
abbrev Fault := Option String

/-- The chunks that a node stores, by identifier. -/
abbrev ChunkStore := Bytes → Option Bytes

namespace ChunkStore

variable (store : ChunkStore)

/-- Store a chunk, over an earlier one with the identifier. -/
def put (fault : Fault) (id data : Bytes) : ChunkStore × Except String Unit :=
  match fault with
  | some cause => (store, .error cause)
  | none => (Function.update store id (some data), .ok ())

/-- Read a chunk. -/
def get (fault : Fault) (id : Bytes) : Except String (Option Bytes) :=
  match fault with
  | some cause => .error cause
  | none => .ok (store id)

/-- Whether a chunk is stored. -/
def chunkExists (fault : Fault) (id : Bytes) : Except String Bool :=
  match fault with
  | some cause => .error cause
  | none => .ok (store id).isSome

/-- Delete a chunk if it is stored; the result says whether it was. -/
def delete (existsFault deleteFault : Fault) (id : Bytes) : ChunkStore × Except String Bool :=
  match store.chunkExists existsFault id with
  | .error cause => (store, .error cause)
  | .ok false => (store, .ok false)
  | .ok true =>
      match deleteFault with
      | some cause => (store, .error cause)
      | none => (Function.update store id none, .ok true)

end ChunkStore

/-! ## Requests -/

/-- Failures of a request. -/
inductive Status where
  | invalidArgument (message : String)
  | internal (message : String)
  deriving DecidableEq, Repr

/-- The answer to a request to store a chunk. -/
structure StoreChunkResponse where
  success : Bool
  error : String
  deriving DecidableEq, Repr

/-- The answer to a request to verify a chunk. -/
structure VerifyChunkResponse where
  valid : Bool
  size : Nat
  deriving DecidableEq, Repr

/-- Identifiers have 32 bytes. -/
def bytesToChunkId (bytes : Bytes) : Except Status Bytes :=
  if bytes.length ≠ 32 then
    .error (.invalidArgument
      ("Invalid chunk ID length: expected 32, got " ++ toString bytes.length))
  else
    .ok bytes

section Requests

variable (blake3 : Bytes → Bytes) (store : ChunkStore)

/-- Store a chunk under the hash of its data. -/
def storeChunk (fault : Fault) (requestId data : Bytes) :
    ChunkStore × Except Status StoreChunkResponse :=
  match bytesToChunkId requestId with
  | .error status => (store, .error status)
  | .ok chunkId =>
      if data.isEmpty then
        (store, .error (.invalidArgument "Chunk data cannot be empty"))
      else if blake3 data ≠ chunkId then
        (store, .error (.invalidArgument "Chunk ID doesn't match data hash"))
      else
        match store.put fault chunkId data with
        | (after, .ok ()) => (after, .ok { success := true, error := "" })
        | (after, .error cause) => (after, .ok { success := false, error := cause })

/-- Retrieve a chunk. -/
def getChunk (fault : Fault) (requestId : Bytes) : Except Status (Option Bytes) :=
  match bytesToChunkId requestId with
  | .error status => .error status
  | .ok chunkId =>
      match store.get fault chunkId with
      | .ok found => .ok found
      | .error cause => .error (.internal ("Storage error: " ++ cause))

/-- Delete a chunk; the answer says whether it was stored. -/
def deleteChunk (existsFault deleteFault : Fault) (requestId : Bytes) :
    ChunkStore × Except Status Bool :=
  match bytesToChunkId requestId with
  | .error status => (store, .error status)
  | .ok chunkId =>
      match store.delete existsFault deleteFault chunkId with
      | (after, .ok deleted) => (after, .ok deleted)
      | (after, .error cause) => (after, .error (.internal ("Storage error: " ++ cause)))

/-- Compare a stored chunk with its identifier. -/
def verifyChunk (fault : Fault) (requestId : Bytes) : Except Status VerifyChunkResponse :=
  match bytesToChunkId requestId with
  | .error status => .error status
  | .ok chunkId =>
      match store.get fault chunkId with
      | .ok (some data) => .ok { valid := decide (blake3 data = chunkId), size := data.length }
      | .ok none => .ok { valid := false, size := 0 }
      | .error cause => .error (.internal ("Storage error: " ++ cause))

end Requests

/-! ## The client -/

/-- What happens to one attempt of a request. -/
structure Attempt where
  /-- The request reaches the node. -/
  arrives : Bool
  fault : Fault
  /-- The answer reaches the client. -/
  answered : Bool
  /-- The text of the failure that the client sees otherwise. -/
  cause : String
  deriving DecidableEq, Repr

/-- Store a chunk on a node, with a new attempt after each that fails. -/
def clientStoreChunk (blake3 : Bytes → Bytes) (chunkId data : Bytes) :
    ChunkStore → Except String Unit → List Attempt → ChunkStore × Except String Unit
  | store, lastError, [] => (store, lastError)
  | store, _, attempt :: rest =>
      if attempt.arrives then
        match storeChunk blake3 store attempt.fault chunkId data with
        | (after, .ok response) =>
            if response.success && attempt.answered then
              (after, .ok ())
            else
              clientStoreChunk blake3 chunkId data after (.error attempt.cause) rest
        | (after, .error _) => clientStoreChunk blake3 chunkId data after (.error attempt.cause) rest
      else
        clientStoreChunk blake3 chunkId data store (.error attempt.cause) rest

/-- The client makes four attempts. -/
def MAX_RETRIES : Nat := 3

/-- Store a chunk on a node with the attempts of the client's configuration. -/
def sendChunk (blake3 : Bytes → Bytes) (attempts : List Attempt) (store : ChunkStore)
    (chunkId data : Bytes) : ChunkStore × Except String Unit :=
  clientStoreChunk blake3 chunkId data store
    (.error "Operation failed with unknown error") (attempts.take (MAX_RETRIES + 1))

/-! ## What the requests keep -/

/-- Every chunk is stored under the hash of its data. -/
def ContentAddressed (blake3 : Bytes → Bytes) (store : ChunkStore) : Prop :=
  ∀ id data, store id = some data → id = blake3 data

section Keeps

variable {blake3 : Bytes → Bytes} {store : ChunkStore}

/-- A new chunk has to have its hash as identifier. -/
theorem contentAddressed_update_iff (addressed : ContentAddressed blake3 store) (id data : Bytes) :
    ContentAddressed blake3 (Function.update store id (some data)) ↔ id = blake3 data := by
  constructor
  · intro updated
    exact updated id data (Function.update_self id _ store)
  · intro hashed other found stored
    by_cases same : other = id
    · subst same
      rw [Function.update_self, Option.some.injEq] at stored
      rw [← stored]
      exact hashed
    · rw [Function.update_of_ne same] at stored
      exact addressed other found stored

theorem contentAddressed_delete (addressed : ContentAddressed blake3 store)
    (existsFault deleteFault : Fault) (id : Bytes) :
    ContentAddressed blake3 (store.delete existsFault deleteFault id).1 := by
  unfold ChunkStore.delete
  split
  · exact addressed
  · exact addressed
  · split
    · exact addressed
    · intro other found stored
      change Function.update store id none other = some found at stored
      by_cases same : other = id
      · rw [same, Function.update_self] at stored
        cases stored
      · rw [Function.update_of_ne same] at stored
        exact addressed other found stored

theorem contentAddressed_deleteChunk (addressed : ContentAddressed blake3 store)
    (existsFault deleteFault : Fault) (requestId : Bytes) :
    ContentAddressed blake3 (deleteChunk store existsFault deleteFault requestId).1 := by
  have deleted := contentAddressed_delete addressed existsFault deleteFault
  rw [deleteChunk]
  split
  · exact addressed
  · rename_i chunkId _
    have kept := deleted chunkId
    split <;> rename_i result_eq <;> rw [result_eq] at kept <;> exact kept

theorem contentAddressed_storeChunk (addressed : ContentAddressed blake3 store) (fault : Fault)
    (requestId data : Bytes) :
    ContentAddressed blake3 (storeChunk blake3 store fault requestId data).1 := by
  rw [storeChunk]
  split
  · exact addressed
  · rename_i chunkId _
    split
    · exact addressed
    · split
      · exact addressed
      · rename_i hashed
        cases fault with
        | some cause => exact addressed
        | none =>
            exact (contentAddressed_update_iff addressed chunkId data).mpr
              (not_not.mp hashed).symm

theorem contentAddressed_clientStoreChunk (addressed : ContentAddressed blake3 store)
    (chunkId data : Bytes) (lastError : Except String Unit) (attempts : List Attempt) :
    ContentAddressed blake3
      (clientStoreChunk blake3 chunkId data store lastError attempts).1 := by
  induction attempts generalizing store lastError with
  | nil => exact addressed
  | cons attempt rest induction =>
      have kept := contentAddressed_storeChunk addressed attempt.fault chunkId data
      rw [clientStoreChunk]
      split
      · split
        · rename_i result_eq
          rw [result_eq] at kept
          split
          · exact kept
          · exact induction kept _
        · rename_i result_eq
          rw [result_eq] at kept
          exact induction kept _
      · exact induction addressed _

end Keeps

end CyxCloud.Node
