import CyxCloud.Gateway.Reference
import CyxCloud.Library.Runs
import CyxCloud.Node.ChunkService

/-!
# Commands of storage nodes

`cyxcloud-node/src/command_executor.rs`: repair, delete and transfer commands, next to the requests
that others send to the nodes.  A repair stores what the first source sends, whatever its hash.  The
check for the chunk and the write of a repair are one step here: a repair between which others run
is one whose check failed.
-/

namespace CyxCloud.Node

open CyxCloud.Core Library

/-! ## Commands -/

/-- Type of a command. -/
inductive CommandType where
  | repairChunk
  | deleteChunk
  | transferChunk
  deriving DecidableEq, Repr

/-- Result of a command. -/
structure CommandResult where
  commandType : CommandType
  success : Bool
  error : Option String
  deriving DecidableEq, Repr

/-- Parse an identifier. -/
def parseChunkId (bytes : Bytes) : Option Bytes := if bytes.length ≠ 32 then none else some bytes

/-- Whether a source sent a chunk. -/
def sentData : Except String (Option Bytes) → Option Bytes
  | .ok found => found
  | .error _ => none

/-- The first chunk that a source sends. -/
def fetchFromSources (reply : Nat → String → Except String (Option Bytes))
    (sources : List String) : Except String Bytes :=
  if sources.isEmpty then
    .error "No source nodes provided"
  else
    match sources.zipIdx.findSome? fun (source, position) => sentData (reply position source) with
    | some data => .ok data
    | none =>
        .error ("Failed to fetch chunk from any of " ++ toString sources.length ++ " sources")

/-- What a repair meets. -/
structure RepairEnv where
  existsFault : Fault
  /-- The answer of the source at a position of the list. -/
  reply : Nat → String → Except String (Option Bytes)
  putFault : Fault

/-- Fetch a chunk from the sources and store it. -/
def executeRepair (env : RepairEnv) (store : ChunkStore) (requestId : Bytes)
    (sourceNodes : List String) : ChunkStore × CommandResult :=
  match parseChunkId requestId with
  | none =>
      (store,
        { commandType := .repairChunk
          success := false
          error := some "Invalid chunk ID" })
  | some chunkId =>
      match store.chunkExists env.existsFault chunkId with
      | .ok true =>
          (store,
            { commandType := .repairChunk
              success := true
              error := none })
      | _ =>
          match fetchFromSources env.reply sourceNodes with
          | .error cause =>
              (store,
                { commandType := .repairChunk
                  success := false
                  error := some ("Failed to fetch: " ++ cause) })
          | .ok data =>
              match store.put env.putFault chunkId data with
              | (after, .ok ()) =>
                  (after,
                    { commandType := .repairChunk
                      success := true
                      error := none })
              | (after, .error cause) =>
                  (after,
                    { commandType := .repairChunk
                      success := false
                      error := some ("Failed to store: " ++ cause) })

/-- Delete a chunk; one that is not stored counts as deleted. -/
def executeDelete (existsFault deleteFault : Fault) (store : ChunkStore) (requestId : Bytes) :
    ChunkStore × CommandResult :=
  match parseChunkId requestId with
  | none =>
      (store,
        { commandType := .deleteChunk
          success := false
          error := some "Invalid chunk ID" })
  | some chunkId =>
      match store.delete existsFault deleteFault chunkId with
      | (after, .ok _) =>
          (after,
            { commandType := .deleteChunk
              success := true
              error := none })
      | (after, .error cause) =>
          (after,
            { commandType := .deleteChunk
              success := false
              error := some ("Failed to delete: " ++ cause) })

/-- Send a chunk to the store of another node. -/
def executeTransfer (blake3 : Bytes → Bytes) (readFault : Fault) (attempts : List Attempt)
    (store target : ChunkStore) (requestId : Bytes) : ChunkStore × CommandResult :=
  match parseChunkId requestId with
  | none =>
      (target,
        { commandType := .transferChunk
          success := false
          error := some "Invalid chunk ID" })
  | some chunkId =>
      match store.get readFault chunkId with
      | .ok none =>
          (target,
            { commandType := .transferChunk
              success := false
              error := some "Chunk not found" })
      | .error cause =>
          (target,
            { commandType := .transferChunk
              success := false
              error := some ("Failed to read: " ++ cause) })
      | .ok (some data) =>
          match sendChunk blake3 attempts target chunkId data with
          | (after, .ok ()) =>
              (after,
                { commandType := .transferChunk
                  success := true
                  error := none })
          | (after, .error cause) =>
              (after,
                { commandType := .transferChunk
                  success := false
                  error := some ("Failed to transfer: " ++ cause) })

/-! ## Nodes -/

/-- The stores of the nodes, by address. -/
abbrev Stores := String → ChunkStore

/-- What changes the stores: requests from anyone, and commands. -/
inductive NodeOp where
  | storeChunk (address : String) (fault : Fault) (chunkId data : Bytes)
  | deleteChunk (address : String) (existsFault deleteFault : Fault) (chunkId : Bytes)
  | repair (address : String) (env : RepairEnv) (chunkId : Bytes) (sourceNodes : List String)
  | delete (address : String) (existsFault deleteFault : Fault) (chunkId : Bytes)
  | transfer (address : String) (readFault : Fault) (attempts : List Attempt) (chunkId : Bytes)
      (targetNode : String)
  /-- A message without a command. -/
  | empty (address : String)

/-- The stores after a request or a command. -/
def NodeOp.apply (blake3 : Bytes → Bytes) (stores : Stores) : NodeOp → Stores
  | .storeChunk address fault chunkId data =>
      Function.update stores address
        (Node.storeChunk blake3 (stores address) fault chunkId data).1
  | .deleteChunk address existsFault deleteFault chunkId =>
      Function.update stores address
        (Node.deleteChunk (stores address) existsFault deleteFault chunkId).1
  | .repair address env chunkId sourceNodes =>
      Function.update stores address (executeRepair env (stores address) chunkId sourceNodes).1
  | .delete address existsFault deleteFault chunkId =>
      Function.update stores address
        (executeDelete existsFault deleteFault (stores address) chunkId).1
  | .transfer address readFault attempts chunkId targetNode =>
      Function.update stores targetNode
        (executeTransfer blake3 readFault attempts (stores address) (stores targetNode) chunkId).1
  | .empty _ => stores

/-! ## Content addressing -/

/-- Every node stores chunks under the hash of their data. -/
def AllAddressed (blake3 : Bytes → Bytes) (stores : Stores) : Prop :=
  ∀ address, ContentAddressed blake3 (stores address)

/-- A repair writes data: its identifier is valid, the check does not find the chunk, the data is
what the first source sends, and the write goes through. -/
structure RepairEnv.Writes (env : RepairEnv) (store : ChunkStore) (chunkId : Bytes)
    (sourceNodes : List String) (data : Bytes) : Prop where
  valid : chunkId.length = 32
  missing : env.existsFault = none → store chunkId = none
  fetched : fetchFromSources env.reply sourceNodes = .ok data
  written : env.putFault = none

/-- A repair that writes gets data with the right hash. -/
def RepairHashed (blake3 : Bytes → Bytes) (stores : Stores) : NodeOp → Prop
  | .repair address env chunkId sourceNodes =>
      ∀ data, env.Writes (stores address) chunkId sourceNodes data → chunkId = blake3 data
  | _ => True

section Steps

variable {blake3 : Bytes → Bytes} {stores : Stores} {store : ChunkStore}

theorem allAddressed_update_iff (addressed : AllAddressed blake3 stores) (address : String)
    (store : ChunkStore) :
    AllAddressed blake3 (Function.update stores address store) ↔ ContentAddressed blake3 store := by
  constructor
  · intro updated
    have stored := updated address
    rwa [Function.update_self] at stored
  · intro stored other
    by_cases same : other = address
    · rw [same, Function.update_self]
      exact stored
    · rw [Function.update_of_ne same]
      exact addressed other

theorem chunkExists_ne_true {env : RepairEnv} {chunkId : Bytes}
    (missing : env.existsFault = none → store chunkId = none) :
    store.chunkExists env.existsFault chunkId ≠ .ok true := by
  cases fault_eq : env.existsFault with
  | some cause => exact fun present => nomatch present
  | none =>
      rw [ChunkStore.chunkExists, missing fault_eq]
      exact fun present => nomatch present

theorem executeRepair_of_writes {env : RepairEnv} {chunkId data : Bytes}
    {sourceNodes : List String} (writes : env.Writes store chunkId sourceNodes data) :
    (executeRepair env store chunkId sourceNodes).1 = Function.update store chunkId (some data) := by
  have parsed : parseChunkId chunkId = some chunkId := by simp [parseChunkId, writes.valid]
  rw [executeRepair, parsed]
  dsimp only
  split
  · rename_i present
    exact absurd present (chunkExists_ne_true writes.missing)
  · rw [writes.fetched, writes.written]
    rfl

theorem executeRepair_of_not_writes {env : RepairEnv} {chunkId : Bytes} {sourceNodes : List String}
    (idle : ∀ data, ¬ env.Writes store chunkId sourceNodes data) :
    (executeRepair env store chunkId sourceNodes).1 = store := by
  by_cases valid : chunkId.length = 32
  · have parsed : parseChunkId chunkId = some chunkId := by simp [parseChunkId, valid]
    rw [executeRepair, parsed]
    dsimp only
    split
    · rfl
    · rename_i absent
      have missing : env.existsFault = none → store chunkId = none := by
        intro checked
        by_contra stored
        refine absent ?_
        rw [checked]
        exact congrArg Except.ok (Option.isSome_iff_ne_none.mpr stored)
      cases fetched : fetchFromSources env.reply sourceNodes with
      | error cause => rfl
      | ok data =>
          cases written : env.putFault with
          | some cause => rfl
          | none => exact absurd ⟨valid, missing, fetched, written⟩ (idle data)
  · have parsed : parseChunkId chunkId = none := by simp [parseChunkId, valid]
    rw [executeRepair, parsed]

/-- A repair keeps the store content-addressed exactly if it writes data with the right hash. -/
theorem contentAddressed_executeRepair_iff (addressed : ContentAddressed blake3 store)
    (env : RepairEnv) (chunkId : Bytes) (sourceNodes : List String) :
    ContentAddressed blake3 (executeRepair env store chunkId sourceNodes).1 ↔
      ∀ data, env.Writes store chunkId sourceNodes data → chunkId = blake3 data := by
  by_cases some_written : ∃ data, env.Writes store chunkId sourceNodes data
  · obtain ⟨data, writes⟩ := some_written
    rw [executeRepair_of_writes writes, contentAddressed_update_iff addressed]
    constructor
    · intro hashed other writes'
      obtain rfl : data = other := by
        have same := writes.fetched.symm.trans writes'.fetched
        injection same
      exact hashed
    · exact fun hashed => hashed data writes
  · have idle := not_exists.mp some_written
    rw [executeRepair_of_not_writes idle]
    exact iff_of_true addressed fun data writes => absurd writes (idle data)

theorem contentAddressed_executeDelete (addressed : ContentAddressed blake3 store)
    (existsFault deleteFault : Fault) (chunkId : Bytes) :
    ContentAddressed blake3 (executeDelete existsFault deleteFault store chunkId).1 := by
  have deleted := contentAddressed_delete addressed existsFault deleteFault
  rw [executeDelete]
  split
  · exact addressed
  · rename_i id _
    have kept := deleted id
    split <;> rename_i result_eq <;> rw [result_eq] at kept <;> exact kept

theorem contentAddressed_executeTransfer {target : ChunkStore}
    (addressed : ContentAddressed blake3 target) (readFault : Fault) (attempts : List Attempt)
    (chunkId : Bytes) :
    ContentAddressed blake3
      (executeTransfer blake3 readFault attempts store target chunkId).1 := by
  rw [executeTransfer]
  split
  · exact addressed
  · rename_i id _
    split
    · exact addressed
    · exact addressed
    · rename_i data _
      have kept : ContentAddressed blake3 (sendChunk blake3 attempts target id data).1 :=
        contentAddressed_clientStoreChunk addressed id data _ _
      split <;> rename_i result_eq <;> rw [result_eq] at kept <;> exact kept

/-- A step keeps the stores content-addressed exactly if it is not a repair that writes other
data. -/
theorem allAddressed_apply_iff (addressed : AllAddressed blake3 stores) (op : NodeOp) :
    AllAddressed blake3 (op.apply blake3 stores) ↔ RepairHashed blake3 stores op := by
  cases op with
  | storeChunk address fault chunkId data =>
      refine iff_of_true ((allAddressed_update_iff addressed address _).mpr ?_) trivial
      exact contentAddressed_storeChunk (addressed address) fault chunkId data
  | deleteChunk address existsFault deleteFault chunkId =>
      refine iff_of_true ((allAddressed_update_iff addressed address _).mpr ?_) trivial
      exact contentAddressed_deleteChunk (addressed address) existsFault deleteFault chunkId
  | repair address env chunkId sourceNodes =>
      exact (allAddressed_update_iff addressed address _).trans
        (contentAddressed_executeRepair_iff (addressed address) env chunkId sourceNodes)
  | delete address existsFault deleteFault chunkId =>
      refine iff_of_true ((allAddressed_update_iff addressed address _).mpr ?_) trivial
      exact contentAddressed_executeDelete (addressed address) existsFault deleteFault chunkId
  | transfer address readFault attempts chunkId targetNode =>
      refine iff_of_true ((allAddressed_update_iff addressed targetNode _).mpr ?_) trivial
      exact contentAddressed_executeTransfer (addressed targetNode) readFault attempts chunkId
  | empty address => exact iff_of_true addressed trivial

end Steps

/-- Nodes without chunks. -/
def Stores.empty : Stores := fun _ _ => none

/-- The stores stay content-addressed throughout a run exactly if every repair that writes gets data
with the right hash. -/
theorem content_addressing_iff (blake3 : Bytes → Bytes) (ops : List NodeOp) :
    EveryState (NodeOp.apply blake3) (AllAddressed blake3) Stores.empty ops ↔
      EveryStep (NodeOp.apply blake3) (RepairHashed blake3) Stores.empty ops := by
  have empty_addressed : AllAddressed blake3 Stores.empty := by
    intro address id data stored
    cases stored
  have step : ∀ stores op, True → AllAddressed blake3 stores →
      (AllAddressed blake3 (NodeOp.apply blake3 stores op) ↔ RepairHashed blake3 stores op) :=
    fun _ op _ addressed => allAddressed_apply_iff addressed op
  exact everyState_iff_everyStep (fun _ => True) (fun _ _ _ => trivial) step trivial
    empty_addressed ops

namespace LyingSource

/-- A source sends one byte for the identifier of zeros. -/
def env : RepairEnv :=
  { existsFault := none
    reply := fun _ _ => .ok (some [1])
    putFault := none }

/-- The repair of that chunk. -/
def repair : NodeOp :=
  .repair "http://node-1:50051" env (List.replicate 32 0) ["http://node-2:50051"]

/-- The byte is stored under an identifier that is not its hash. -/
theorem stores_not_addressed :
    ¬ ∀ (blake3 : Bytes → Bytes) (ops : List NodeOp),
      EveryState (NodeOp.apply blake3) (AllAddressed blake3) Stores.empty ops := by
  intro addressed
  have reached := (addressed Gateway.Reference.hash [repair]).2
  have stored : (repair.apply Gateway.Reference.hash Stores.empty) "http://node-1:50051"
      (List.replicate 32 0) = some [1] := by
    decide
  have hashed := reached "http://node-1:50051" _ _ stored
  revert hashed
  decide

end LyingSource

end CyxCloud.Node
