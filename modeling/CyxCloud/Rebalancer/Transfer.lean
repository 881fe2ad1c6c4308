import CyxCloud.Metadata.Catalog
import CyxCloud.Node.ChunkService
import CyxCloud.Rebalancer.Executor

/-!
# Chunk transfers

`cyxcloud-rebalancer/src/transfer.rs` over the client of `cyxcloud-network/src/grpc_client.rs` and
the three statements of `add_chunk_location`.  A transfer sends one request after the other and
goes on with the reply.  A reply can be lost, and a transfer can be dropped; a request that was to
write something can then still arrive at any later time, or never.  An address that does not answer
a probe answers no request.
-/

namespace CyxCloud.Rebalancer

open CyxCloud.Core Library Metadata
open Node (ChunkStore Fault MAX_RETRIES)

/-! ## Data -/

/-- Transfer errors. -/
inductive TransferError where
  | sourceNotFound (peerId : String)
  | targetNotFound (peerId : String)
  /-- The message prints the identifier in hexadecimal. -/
  | chunkNotFound (chunkId : Bytes)
  | transferFailed (message : String)
  | verificationFailed
  | database
  | network
  deriving DecidableEq, Repr

/-- The requests that write something. -/
inductive Request where
  | storeChunk (address : String) (chunkId data : Bytes)
  | upsertLocation (chunkId : Bytes) (nodeId : Uuid)
  | incrementReplicas (chunkId : Bytes)
  | activateChunk (chunkId : Bytes)
  deriving DecidableEq, Repr

/-- What transfers act on: the database, the stores of the nodes by address, and the requests that
can still arrive although nothing waits for a reply.  The confirmations are those that nodes have
given so far; no function reads them. -/
structure TransferWorld where
  db : Database
  stores : String → ChunkStore
  inFlight : List Request
  confirmations : List (Uuid × Bytes)

/-- The reply that a transfer waits for. -/
inductive Reply where
  | answered (fault : Fault)
  | lost
  deriving DecidableEq, Repr

/-- What happens to transfers: a reply, or the arrival of a request that was left in flight. -/
inductive TransferEvent where
  | reply (reply : Reply)
  | arrival (index : Nat) (fault : Fault)
  deriving DecidableEq, Repr

/-- The request on whose reply a transfer to one target waits. -/
inductive Stage where
  | sourceNode
  | targetNode (source : Metadata.Node)
  | getChunk (source target : Metadata.Node) (attempt : Nat)
  | storeChunk (target : Metadata.Node) (data : Bytes) (attempt : Nat)
  | verifyChunk (target : Metadata.Node) (attempt : Nat)
  | upsertLocation (target : Metadata.Node)
  | incrementReplicas (target : Metadata.Node)
  | activateChunk (target : Metadata.Node)

/-- How a transfer to one target goes on. -/
inductive Continuation where
  | next (stage : Stage)
  | done (result : Except TransferError Unit)

/-- A call of the transfer function: the targets that are left, the first of them with the stage of
its transfer, and those that succeeded. -/
structure TransferCall where
  chunkId : Bytes
  source : String
  remaining : List String
  stage : Stage
  successful : List String

/-! ## Requests -/

namespace TransferWorld

variable (blake3 : Bytes → Bytes) (isReachable : String → Bool)

/-- Leave a request in flight. -/
def send (world : TransferWorld) (request : Request) : TransferWorld :=
  { world with inFlight := world.inFlight ++ [request] }

/-- A node has confirmed a chunk. -/
def confirm (world : TransferWorld) (nodeId : Uuid) (chunkId : Bytes) : TransferWorld :=
  { world with confirmations := world.confirmations ++ [(nodeId, chunkId)] }

/-- Store a chunk at an address. -/
def storeAt (world : TransferWorld) (fault : Fault) (address : String) (chunkId data : Bytes) :
    TransferWorld × Except Node.Status Node.StoreChunkResponse :=
  let (store, response) := Node.storeChunk blake3 (world.stores address) fault chunkId data
  ({ world with stores := Function.update world.stores address store }, response)

/-- The first statement of `add_chunk_location`; the node has to exist. -/
def upsertLocation (world : TransferWorld) (chunkId : Bytes) (nodeId : Uuid) :
    TransferWorld × Except DbError Unit :=
  if world.db.hasNode nodeId then
    ({ world with db := world.db.upsertLocation chunkId nodeId }, .ok ())
  else
    (world, .error .foreignKeyViolation)

/-- The second statement of `add_chunk_location`. -/
def incrementReplicas (world : TransferWorld) (chunkId : Bytes) :
    TransferWorld × Except DbError Nat :=
  let (db, result) := world.db.incrementChunkReplicas chunkId
  ({ world with db }, result)

/-- The third statement of `add_chunk_location`. -/
def activateChunk (world : TransferWorld) (chunkId : Bytes) : TransferWorld :=
  { world with db := world.db.updateChunkStatus chunkId .active }

/-- A request arrives for which nothing waits any more. -/
def perform (world : TransferWorld) (fault : Fault) : Request → TransferWorld
  | .storeChunk address chunkId data =>
      if isReachable address then (world.storeAt blake3 fault address chunkId data).1 else world
  | .upsertLocation chunkId nodeId => (world.upsertLocation chunkId nodeId).1
  | .incrementReplicas chunkId => (world.incrementReplicas chunkId).1
  | .activateChunk chunkId => world.activateChunk chunkId

end TransferWorld

/-- The writing request that waits for its reply at a stage. -/
def Stage.request (chunkId : Bytes) : Stage → Option Request
  | .storeChunk target data _ => some (.storeChunk target.grpcAddress chunkId data)
  | .upsertLocation target => some (.upsertLocation chunkId target.id)
  | .incrementReplicas _ => some (.incrementReplicas chunkId)
  | .activateChunk _ => some (.activateChunk chunkId)
  | _ => none

/-- Nothing waits any more for the reply to the request of a stage. -/
def TransferWorld.leave (world : TransferWorld) (chunkId : Bytes) (stage : Stage) :
    TransferWorld :=
  match stage.request chunkId with
  | none => world
  | some request => world.send request

/-! ## Transfers -/

/-- Send a request to a node again, unless this was the last attempt. -/
def again (attempt : Nat) (stage : Nat → Stage) : Continuation :=
  if attempt < MAX_RETRIES then .next (stage (attempt + 1)) else .done (.error .network)

section Transfer

variable (blake3 : Bytes → Bytes) (isReachable : String → Bool)

/-- Transfer a chunk from a source to a target node, one reply at a time. -/
def transferChunk (world : TransferWorld) (chunkId : Bytes) (sourcePeerId targetPeerId : String)
    (stage : Stage) (reply : Reply) : TransferWorld × Continuation :=
  match stage, reply with
  | .sourceNode, .answered _ =>
      match world.db.getNodeByPeerId sourcePeerId with
      | none => (world, .done (.error (.sourceNotFound sourcePeerId)))
      | some source => (world, .next (.targetNode source))
  | .targetNode source, .answered _ =>
      match world.db.getNodeByPeerId targetPeerId with
      | none => (world, .done (.error (.targetNotFound targetPeerId)))
      | some target =>
          if chunkId.length ≠ 32 then
            (world, .done (.error (.transferFailed ("Invalid chunk ID length: " ++
              toString chunkId.length ++ " (expected 32)"))))
          else
            (world, .next (.getChunk source target 0))
  | .getChunk source target attempt, .answered fault =>
      if isReachable source.grpcAddress then
        match Node.getChunk (world.stores source.grpcAddress) fault chunkId with
        | .ok (some data) => (world, .next (.storeChunk target data 0))
        | .ok none => (world, .done (.error (.chunkNotFound chunkId)))
        | .error _ => (world, again attempt (.getChunk source target))
      else
        (world, again attempt (.getChunk source target))
  | .getChunk source target attempt, .lost => (world, again attempt (.getChunk source target))
  | .storeChunk target data attempt, .answered fault =>
      if isReachable target.grpcAddress then
        match world.storeAt blake3 fault target.grpcAddress chunkId data with
        | (world, .ok response) =>
            if response.success then (world, .next (.verifyChunk target 0))
            else (world, again attempt (.storeChunk target data))
        | (world, .error _) => (world, again attempt (.storeChunk target data))
      else
        (world, again attempt (.storeChunk target data))
  | .storeChunk target data attempt, .lost =>
      (world.leave chunkId (.storeChunk target data attempt),
        again attempt (.storeChunk target data))
  | .verifyChunk target attempt, .answered fault =>
      if isReachable target.grpcAddress then
        match Node.verifyChunk blake3 (world.stores target.grpcAddress) fault chunkId with
        | .ok response =>
            if response.valid then
              (world.confirm target.id chunkId, .next (.upsertLocation target))
            else
              (world, .done (.error .verificationFailed))
        | .error _ => (world, again attempt (.verifyChunk target))
      else
        (world, again attempt (.verifyChunk target))
  | .verifyChunk target attempt, .lost => (world, again attempt (.verifyChunk target))
  | .upsertLocation target, .answered _ =>
      match world.upsertLocation chunkId target.id with
      | (world, .ok ()) => (world, .next (.incrementReplicas target))
      | (world, .error _) => (world, .done (.error .database))
  | .incrementReplicas target, .answered _ =>
      match world.incrementReplicas chunkId with
      | (world, .ok newCount) =>
          if newCount = 1 then (world, .next (.activateChunk target)) else (world, .done (.ok ()))
      | (world, .error _) => (world, .done (.error .database))
  | .activateChunk _, .answered _ => (world.activateChunk chunkId, .done (.ok ()))
  | stage, .lost => (world.leave chunkId stage, .done (.error .database))

/-- Go on with a transfer to several targets: with the first that is left, or with the result if
there is none. -/
def transferToMultiple (world : TransferWorld) (call : TransferCall) (reply : Reply) :
    TransferWorld × (TransferCall ⊕ Except String (List String)) :=
  match call.remaining with
  | [] =>
      (world, .inr
        (if call.successful.isEmpty then .error "All transfers failed" else .ok call.successful))
  | target :: remaining =>
      match transferChunk blake3 isReachable world call.chunkId call.source target call.stage
        reply with
      | (world, .next stage) => (world, .inl { call with stage })
      | (world, .done (.ok ())) =>
          (world, .inl
            { call with
              remaining
              stage := .sourceNode
              successful := call.successful ++ [target] })
      | (world, .done (.error _)) =>
          (world, .inl
            { call with
              remaining
              stage := .sourceNode })

/-- Create a transfer function for use with the executor. -/
def createTransferFn : TransferFn TransferWorld TransferCall TransferEvent where
  call sourceNode _ chunkId targetNodes :=
    { chunkId
      source := sourceNode
      remaining := targetNodes
      stage := .sourceNode
      successful := [] }
  resume world call event :=
    match event with
    | .reply reply => transferToMultiple blake3 isReachable world call reply
    | .arrival _ _ => (world, .inl call)
  abandon world call :=
    match call.remaining with
    | [] => world
    | _ :: _ => world.leave call.chunkId call.stage
  background world event :=
    match event with
    | .reply _ => world
    | .arrival index fault =>
        match world.inFlight[index]? with
        | none => world
        | some request =>
            TransferWorld.perform blake3 isReachable
              { world with inFlight := world.inFlight.eraseIdx index } fault request

end Transfer

end CyxCloud.Rebalancer
