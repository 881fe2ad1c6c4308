import CyxCloud.Library.Channels
import CyxCloud.Library.FairRounds
import CyxCloud.Node.ChunkService

/-!
# Streams of chunks

The request of `cyxcloud-network/src/grpc_server.rs` that streams chunks, and its reader in
`grpc_client.rs`.  A task of the node reads one chunk after the other and sends what it finds over a
bounded channel, while other requests store and delete chunks.
-/

namespace CyxCloud.Node

open CyxCloud.Core Library

/-! ## The stream -/

/-- A chunk of a stream; the index has 32 bits. -/
structure ChunkData where
  chunkId : Bytes
  data : Bytes
  index : Nat
  deriving DecidableEq, Repr

/-- What the task sends. -/
abbrev StreamMessage := Except Status ChunkData

/-- The task of the node. -/
inductive StreamTask where
  /-- The next chunk is to be read. -/
  | reading (index : Nat) (rest : List Bytes)
  /-- A message waits for room in the channel. -/
  | sending (message : StreamMessage) (index : Nat) (rest : List Bytes)
  | finished

/-- The message for what the store gives, if there is one: missing chunks are skipped. -/
def streamMessage (index : Nat) (chunkId : Bytes) :
    Except String (Option Bytes) → Option StreamMessage
  | .ok (some data) => some (.ok { chunkId, data, index := index % 2 ^ 32 })
  | .ok none => none
  | .error cause => some (.error (.internal ("Storage error: " ++ cause)))

/-- The task once it has read the next chunk. -/
def StreamTask.next (store : ChunkStore) (fault : Fault) (index : Nat) : List Bytes → StreamTask
  | [] => .finished
  | chunkId :: rest =>
      match streamMessage index chunkId (store.get fault chunkId) with
      | some message => .sending message (index + 1) rest
      | none => .reading (index + 1) rest

/-- Why the client has no chunks. -/
inductive StreamFailure where
  | status (status : Status)
  | transport (cause : String)
  deriving DecidableEq, Repr

/-- The reader of the stream. -/
inductive StreamReader where
  | collecting (results : List (Bytes × Bytes))
  | returned (answer : Except StreamFailure (List (Bytes × Bytes)))
  deriving DecidableEq

/-- The chunks of the client, after another one. -/
def collectChunk (results : List (Bytes × Bytes)) (chunk : ChunkData) : List (Bytes × Bytes) :=
  if chunk.chunkId.length = 32 then results ++ [(chunk.chunkId, chunk.data)] else results

/-- A node, a stream of its chunks, and the reader of the stream. -/
structure ChunkStream where
  store : ChunkStore
  task : StreamTask
  channel : Channel StreamMessage
  reader : StreamReader

namespace ChunkStream

/-- Messages that the channel holds. -/
def CAPACITY : Nat := 32

/-- Start to stream chunks. -/
def streamChunks (store : ChunkStore) (requestIds : List Bytes) : Except Status ChunkStream := do
  let chunkIds ← requestIds.mapM bytesToChunkId
  .ok
    { store
      task := .reading 0 chunkIds
      channel := .fresh CAPACITY
      reader := .collecting [] }

/-- Another request to the node. -/
inductive Request where
  | storeChunk (fault : Fault) (requestId data : Bytes)
  | deleteChunk (existsFault deleteFault : Fault) (requestId : Bytes)
  deriving DecidableEq

/-- What happens. -/
inductive Step where
  /-- Another request is answered. -/
  | request (request : Request)
  /-- The task reads the next chunk. -/
  | read (fault : Fault)
  /-- The task tries to send a message. -/
  | send
  /-- The client tries to receive a message. -/
  | receive
  /-- The connection breaks. -/
  | broken (cause : String)
  deriving DecidableEq

/-- The store after another request. -/
def serve (blake3 : Bytes → Bytes) (store : ChunkStore) : Request → ChunkStore
  | .storeChunk fault requestId data => (Node.storeChunk blake3 store fault requestId data).1
  | .deleteChunk existsFault deleteFault requestId =>
      (Node.deleteChunk store existsFault deleteFault requestId).1

/-- The stream once its task has come to a point; a finished task drops its sender. -/
def goOn (stream : ChunkStream) (task : StreamTask) (channel : Channel StreamMessage) :
    ChunkStream :=
  match task with
  | .finished => { stream with task := .finished, channel := channel.close }
  | .reading _ _ | .sending _ _ _ => { stream with task, channel }

/-- The stream once the client has an answer and has dropped its receiver. -/
def answer (stream : ChunkStream) (answer : Except StreamFailure (List (Bytes × Bytes))) :
    ChunkStream :=
  { stream with
    channel := stream.channel.drop
    reader := .returned answer }

/-- One step. -/
def apply (blake3 : Bytes → Bytes) (stream : ChunkStream) : Step → ChunkStream
  | .request request => { stream with store := serve blake3 stream.store request }
  | .read fault =>
      match stream.task with
      | .reading index rest =>
          stream.goOn (.next stream.store fault index rest) stream.channel
      | .sending _ _ _ | .finished => stream
  | .send =>
      match stream.task with
      | .sending message index rest =>
          match stream.channel.send message with
          | (.accepted, channel) => stream.goOn (.reading index rest) channel
          -- the client is gone
          | (.refused, channel) => stream.goOn .finished channel
          | (.waiting, _) => stream
      | .reading _ _ | .finished => stream
  | .receive =>
      match stream.reader with
      | .collecting results =>
          match stream.channel.receive with
          | (.item (.ok chunk), channel) =>
              { stream with
                channel
                reader := .collecting (collectChunk results chunk) }
          | (.item (.error status), channel) =>
              answer { stream with channel } (.error (.status status))
          | (.ended, channel) => answer { stream with channel } (.ok results)
          | (.waiting, _) => stream
      | .returned _ => stream
  | .broken cause =>
      match stream.reader with
      | .collecting _ => stream.answer (.error (.transport cause))
      | .returned _ => stream

end ChunkStream

/-! ## What is sent -/

/-- A chunk that was looked up, and what the store gave. -/
abbrev Lookup := Bytes × Except String (Option Bytes)

/-- The messages for lookups, the first with a given index. -/
def messagesOf : Nat → List Lookup → List StreamMessage
  | _, [] => []
  | index, lookup :: rest =>
      (streamMessage index lookup.1 lookup.2).toList ++ messagesOf (index + 1) rest

/-- The chunks that were found. -/
def foundChunks : List Lookup → List (Bytes × Bytes)
  | [] => []
  | (chunkId, .ok (some data)) :: rest => (chunkId, data) :: foundChunks rest
  | (_, .ok none) :: rest | (_, .error _) :: rest => foundChunks rest

theorem messagesOf_concat (index : Nat) (lookups : List Lookup) (lookup : Lookup) :
    messagesOf index (lookups ++ [lookup]) = messagesOf index lookups ++
      (streamMessage (index + lookups.length) lookup.1 lookup.2).toList := by
  induction lookups generalizing index with
  | nil => exact List.append_nil _
  | cons first rest induction =>
      rw [List.cons_append, messagesOf, induction, messagesOf, List.append_assoc, List.length_cons,
        Nat.add_assoc, Nat.add_comm 1]

/-- If no lookup failed, the client collects the chunks that were found. -/
theorem foldl_collectChunk {lookups : List Lookup} {index : Nat} {chunks : List ChunkData}
    (ids : ∀ lookup ∈ lookups, lookup.1.length = 32)
    (delivered : messagesOf index lookups = chunks.map .ok) (results : List (Bytes × Bytes)) :
    chunks.foldl collectChunk results = results ++ foundChunks lookups ∧
      ∀ lookup ∈ lookups, ∃ found, lookup.2 = .ok found := by
  induction lookups generalizing index chunks results with
  | nil =>
      obtain rfl := List.map_eq_nil_iff.mp delivered.symm
      exact ⟨(List.append_nil results).symm, by simp⟩
  | cons lookup rest induction =>
      have later := fun next member => ids next (List.mem_cons_of_mem lookup member)
      obtain ⟨chunkId, _ | _ | data⟩ := lookup
      · cases chunks with
        | nil => cases delivered
        | cons chunk chunks => cases delivered
      · obtain ⟨folded, fine⟩ := induction later delivered results
        exact ⟨folded, List.forall_mem_cons.mpr ⟨⟨none, rfl⟩, fine⟩⟩
      · cases chunks with
        | nil => cases delivered
        | cons chunk chunks =>
            obtain ⟨same, delivered_rest⟩ := List.cons.inj delivered
            obtain rfl := Except.ok.inj same
            have long : chunkId.length = 32 := ids _ List.mem_cons_self
            obtain ⟨folded, fine⟩ := induction later delivered_rest (results ++ [(chunkId, data)])
            refine ⟨?_, List.forall_mem_cons.mpr ⟨⟨some data, rfl⟩, fine⟩⟩
            rw [List.foldl_cons, collectChunk, if_pos long, folded, List.append_assoc]
            rfl

/-! ## What is delivered -/

/-- The lookups of a task so far, of which it has sent all messages but the one that waits. -/
def StreamTask.Follows (ids : List Bytes) (lookups : List Lookup) (sent : List StreamMessage) :
    StreamTask → Prop
  | .reading index rest =>
      index = lookups.length ∧ lookups.map Prod.fst ++ rest = ids ∧ sent = messagesOf 0 lookups
  | .sending message index rest =>
      index = lookups.length ∧ lookups.map Prod.fst ++ rest = ids ∧
        sent ++ [message] = messagesOf 0 lookups
  | .finished => lookups.map Prod.fst = ids ∧ sent = messagesOf 0 lookups

/-- A lookup gave what the store can have given. -/
def Lookup.Possible (possible : Bytes → Option Bytes → Prop) (lookup : Lookup) : Prop :=
  ∀ found, lookup.2 = .ok found → possible lookup.1 found

namespace ChunkStream

/-- The client collects what the lookups gave, from a channel that its task closes at the end. -/
structure Collecting (possible : Bytes → Option Bytes → Prop) (ids : List Bytes)
    (results : List (Bytes × Bytes)) (stream : ChunkStream) : Prop where
  kept : stream.channel.dropped = false
  closed : stream.channel.closed = true → stream.task = .finished
  followed : ∃ lookups, stream.task.Follows ids lookups stream.channel.sent ∧
    ∀ lookup ∈ lookups, Lookup.Possible possible lookup
  taken : ∃ chunks : List ChunkData, stream.channel.taken = chunks.map .ok ∧
    results = chunks.foldl collectChunk []

/-- The client has the chunks that were found in one lookup of each. -/
def Returned (possible : Bytes → Option Bytes → Prop) (ids : List Bytes)
    (results : List (Bytes × Bytes)) : Prop :=
  ∃ lookups : List Lookup, lookups.map Prod.fst = ids ∧
    (∀ lookup ∈ lookups, ∃ found, lookup.2 = .ok found ∧ possible lookup.1 found) ∧
      results = foundChunks lookups

/-- What the client has is right so far. -/
def Delivers (possible : Bytes → Option Bytes → Prop) (ids : List Bytes) (stream : ChunkStream) :
    Prop :=
  match stream.reader with
  | .collecting results => Collecting possible ids results stream
  | .returned (.ok results) => Returned possible ids results
  | .returned (.error _) => True

section Delivery

variable {possible : Bytes → Option Bytes → Prop} {ids : List Bytes} {stream : ChunkStream}
  {results : List (Bytes × Bytes)}

/-- A read adds its lookup. -/
theorem Collecting.read (collecting : Collecting possible ids results stream)
    (given : ∀ id, possible id (stream.store id)) {index : Nat} {rest : List Bytes}
    (reading : stream.task = .reading index rest) (fault : Fault) :
    Collecting possible ids results
      (stream.goOn (.next stream.store fault index rest) stream.channel) := by
  obtain ⟨kept, closed, ⟨lookups, follows, gave⟩, taken⟩ := collecting
  rw [reading] at closed follows
  obtain ⟨rfl, listed, sent⟩ := follows
  have still_open : stream.channel.closed = true → False := fun is_closed => by cases closed is_closed
  cases rest with
  | nil =>
      rw [List.append_nil] at listed
      exact ⟨kept, fun _ => rfl, ⟨lookups, ⟨listed, sent⟩, gave⟩, taken⟩
  | cons chunkId rest =>
      have gave' : ∀ lookup ∈ lookups ++ [(chunkId, stream.store.get fault chunkId)],
          Lookup.Possible possible lookup := by
        intro lookup member
        rcases List.mem_append.mp member with before | last
        · exact gave lookup before
        · obtain rfl := List.mem_singleton.mp last
          intro found is_found
          cases fault with
          | some cause => cases is_found
          | none =>
              obtain rfl := Except.ok.inj is_found
              exact given chunkId
      have listed' : (lookups ++ [(chunkId, stream.store.get fault chunkId)]).map Prod.fst ++ rest =
          ids := by
        rw [List.map_append, List.append_assoc]
        exact listed
      have messages := messagesOf_concat 0 lookups (chunkId, stream.store.get fault chunkId)
      rw [Nat.zero_add] at messages
      have length_eq : lookups.length + 1 =
          (lookups ++ [(chunkId, stream.store.get fault chunkId)]).length := by
        rw [List.length_append, List.length_singleton]
      rw [StreamTask.next]
      cases message : streamMessage lookups.length chunkId (stream.store.get fault chunkId) with
      | none =>
          rw [message, Option.toList_none, List.append_nil] at messages
          refine ⟨kept, fun is_closed => (still_open is_closed).elim, ⟨_, ?_, gave'⟩, taken⟩
          exact ⟨length_eq, listed', sent.trans messages.symm⟩
      | some message' =>
          rw [message, Option.toList_some] at messages
          refine ⟨kept, fun is_closed => (still_open is_closed).elim, ⟨_, ?_, gave'⟩, taken⟩
          exact ⟨length_eq, listed', by rw [messages, ← sent]; rfl⟩

/-- A message that the channel accepts is sent. -/
theorem Collecting.send (collecting : Collecting possible ids results stream)
    {message : StreamMessage} {index : Nat} {rest : List Bytes}
    (sending : stream.task = .sending message index rest) :
    Collecting possible ids results
      (stream.goOn (.reading index rest) (stream.channel.push message)) := by
  obtain ⟨kept, closed, ⟨lookups, follows, gave⟩, taken⟩ := collecting
  rw [sending] at closed follows
  refine ⟨kept, fun is_closed => ?_, ⟨lookups, follows, gave⟩, ?_⟩
  · cases closed is_closed
  · obtain ⟨chunks, taken_eq, results_eq⟩ := taken
    exact ⟨chunks, (Channel.taken_push _ _).trans taken_eq, results_eq⟩

/-- A client that sees the end has every message. -/
theorem Collecting.returned (collecting : Collecting possible ids results stream)
    (long : ∀ id ∈ ids, id.length = 32) (closed : stream.channel.closed = true)
    (all : stream.channel.taken = stream.channel.sent) : Returned possible ids results := by
  obtain ⟨-, finished, ⟨lookups, follows, gave⟩, chunks, taken_eq, rfl⟩ := collecting
  rw [finished closed] at follows
  obtain ⟨rfl, sent⟩ := follows
  have delivered := sent.symm.trans (all.symm.trans taken_eq)
  obtain ⟨folded, fine⟩ := foldl_collectChunk
    (fun lookup member => long lookup.1 (List.mem_map_of_mem member)) delivered []
  refine ⟨lookups, rfl, fun lookup member => ?_, folded⟩
  obtain ⟨found, found_eq⟩ := fine lookup member
  exact ⟨found, found_eq, gave lookup member found found_eq⟩

theorem delivers_of_collecting {results : List (Bytes × Bytes)}
    (reader : stream.reader = .collecting results)
    (collecting : Collecting possible ids results stream) : Delivers possible ids stream := by
  rw [Delivers, reader]
  exact collecting

@[simp]
theorem reader_goOn (task : StreamTask) (channel : Channel StreamMessage) :
    (stream.goOn task channel).reader = stream.reader := by
  cases task <;> rfl

/-- Only a client that collects is left to be served. -/
theorem Delivers.of_reader_eq {reached : ChunkStream} (delivers : Delivers possible ids stream)
    (reader : reached.reader = stream.reader)
    (collects : ∀ results, stream.reader = .collecting results →
      Collecting possible ids results stream → Collecting possible ids results reached) :
    Delivers possible ids reached := by
  rw [Delivers] at delivers ⊢
  rw [reader]
  cases is_reader : stream.reader with
  | collecting results =>
      rw [is_reader] at delivers
      exact collects results is_reader delivers
  | returned answer =>
      rw [is_reader] at delivers
      cases answer <;> exact delivers

/-- A step keeps what the client has right. -/
theorem Delivers.apply (delivers : Delivers possible ids stream)
    (long : ∀ id ∈ ids, id.length = 32) (given : ∀ id, possible id (stream.store id))
    (blake3 : Bytes → Bytes) (step : Step) : Delivers possible ids (stream.apply blake3 step) := by
  cases step with
  | request request =>
      exact delivers.of_reader_eq rfl fun _ _ collecting => { collecting with }
  | read fault =>
      simp only [ChunkStream.apply]
      split
      · rename_i index rest reading
        exact delivers.of_reader_eq (reader_goOn _ _) fun _ _ collecting =>
          collecting.read given reading fault
      · exact delivers
      · exact delivers
  | send =>
      simp only [ChunkStream.apply]
      split
      · rename_i message index rest sending
        split
        · rename_i channel accepted
          obtain ⟨-, rfl⟩ := Channel.send_eq_accepted accepted
          exact delivers.of_reader_eq (reader_goOn _ _) fun _ _ collecting =>
            collecting.send sending
        · rename_i channel refused
          refine delivers.of_reader_eq (reader_goOn _ _) fun _ _ collecting => ?_
          have dropped := (Channel.send_eq_refused refused).1
          rw [collecting.kept] at dropped
          cases dropped
        · exact delivers
      · exact delivers
      · exact delivers
  | receive =>
      simp only [ChunkStream.apply]
      split
      · rename_i results reader
        have collecting : Collecting possible ids results stream := by
          rw [Delivers, reader] at delivers
          exact delivers
        split
        · rename_i chunk channel received
          obtain ⟨more, rfl, taken_eq⟩ := Channel.receive_eq_item received
          obtain ⟨chunks, before, results_eq⟩ := collecting.taken
          refine delivers_of_collecting rfl
            { kept := collecting.kept
              closed := collecting.closed
              followed := collecting.followed
              taken := ⟨chunks ++ [chunk], ?_, ?_⟩ }
          · rw [taken_eq, before, List.map_append]
            rfl
          · rw [List.foldl_append, ← results_eq]
            rfl
        · trivial
        · rename_i channel ended
          obtain ⟨closed, all, -⟩ := Channel.receive_eq_ended ended
          exact collecting.returned long closed all
        · exact delivers
      · exact delivers
  | broken cause =>
      simp only [ChunkStream.apply]
      split
      · trivial
      · exact delivers

/-- The stream that a request starts. -/
theorem streamChunks_eq_ok {store : ChunkStore} {requestIds : List Bytes}
    (opened : streamChunks store requestIds = .ok stream) :
    (∀ id ∈ requestIds, id.length = 32) ∧
      stream = ⟨store, .reading 0 requestIds, .fresh CAPACITY, .collecting []⟩ := by
  have decoded : ∀ (ids chunkIds : List Bytes), ids.mapM bytesToChunkId = .ok chunkIds →
      (∀ id ∈ ids, id.length = 32) ∧ chunkIds = ids := by
    intro ids
    induction ids with
    | nil =>
        intro chunkIds mapped
        obtain rfl := Except.ok.inj mapped
        exact ⟨by simp, rfl⟩
    | cons id ids induction =>
        intro chunkIds mapped
        rw [List.mapM_cons, bytesToChunkId] at mapped
        split at mapped
        · cases mapped
        · rename_i long
          cases rest : ids.mapM bytesToChunkId with
          | error status =>
              rw [rest] at mapped
              cases mapped
          | ok chunkIds' =>
              rw [rest] at mapped
              obtain rfl := Except.ok.inj mapped
              obtain ⟨longs, rfl⟩ := induction chunkIds' rest
              exact ⟨List.forall_mem_cons.mpr ⟨not_not.mp long, longs⟩, rfl⟩
  rw [streamChunks] at opened
  cases mapped : requestIds.mapM bytesToChunkId with
  | error status =>
      rw [mapped] at opened
      cases opened
  | ok chunkIds =>
      rw [mapped] at opened
      obtain ⟨long, rfl⟩ := decoded requestIds chunkIds mapped
      exact ⟨long, (Except.ok.inj opened).symm⟩

/-- In every run, the chunks that the client returns come from one lookup of each chunk, in the
order of the request, that gave what the store can have held then. -/
theorem returned_of_run {requestIds : List Bytes} {store : ChunkStore}
    (opened : streamChunks store requestIds = .ok stream) {blake3 : Bytes → Bytes}
    {steps : List Step}
    (given : EveryState (apply blake3) (fun reached => ∀ id, possible id (reached.store id))
      stream steps)
    (returned : (runAll (apply blake3) stream steps).reader = .returned (.ok results)) :
    Returned possible requestIds results := by
  obtain ⟨long, rfl⟩ := streamChunks_eq_ok opened
  have start : Delivers possible requestIds
      ⟨store, .reading 0 requestIds, .fresh CAPACITY, .collecting []⟩ :=
    { kept := rfl
      closed := fun closed => by cases closed
      followed := ⟨[], ⟨rfl, rfl, rfl⟩, by simp⟩
      taken := ⟨[], rfl, rfl⟩ }
  have met : EveryStep (ChunkStream.apply blake3)
      (fun reached _ => ∀ id, possible id (reached.store id)) _ steps :=
    given.everyStep fun _ _ held => held
  have keeps : ∀ (reached : ChunkStream) (step : Step), Delivers possible requestIds reached →
      (∀ id, possible id (reached.store id)) →
        Delivers possible requestIds (reached.apply blake3 step) :=
    fun _ step inv held => inv.apply long held blake3 step
  have reached := (everyState_of_everyStep keeps start met).last
  rw [Delivers, returned] at reached
  exact reached

end Delivery

/-! ## Chunks that stay, and chunks that are right -/

theorem contentAddressed_apply {blake3 : Bytes → Bytes} {stream : ChunkStream}
    (addressed : ContentAddressed blake3 stream.store) (step : Step) :
    ContentAddressed blake3 (stream.apply blake3 step).store := by
  have same : ∀ task channel, (stream.goOn task channel).store = stream.store := by
    intro task channel
    cases task <;> rfl
  cases step with
  | request request =>
      cases request with
      | storeChunk fault requestId data =>
          exact contentAddressed_storeChunk addressed fault requestId data
      | deleteChunk existsFault deleteFault requestId =>
          exact contentAddressed_deleteChunk addressed existsFault deleteFault requestId
  | read fault =>
      simp only [ChunkStream.apply]
      split
      · rw [same]
        exact addressed
      · exact addressed
      · exact addressed
  | send =>
      simp only [ChunkStream.apply]
      split
      · split
        · rw [same]
          exact addressed
        · rw [same]
          exact addressed
        · exact addressed
      · exact addressed
      · exact addressed
  | receive =>
      simp only [ChunkStream.apply]
      split
      · split <;> exact addressed
      · exact addressed
  | broken cause =>
      simp only [ChunkStream.apply]
      split <;> exact addressed

theorem foundChunks_sublist (lookups : List Lookup) :
    ((foundChunks lookups).map Prod.fst).Sublist (lookups.map Prod.fst) := by
  induction lookups with
  | nil => exact .slnil
  | cons lookup rest induction =>
      obtain ⟨chunkId, _ | _ | data⟩ := lookup
      · exact induction.cons chunkId
      · exact induction.cons chunkId
      · exact induction.cons_cons chunkId

theorem mem_of_mem_foundChunks {lookups : List Lookup} {chunk : Bytes × Bytes}
    (member : chunk ∈ foundChunks lookups) : (chunk.1, .ok (some chunk.2)) ∈ lookups := by
  induction lookups with
  | nil => cases member
  | cons lookup rest induction =>
      obtain ⟨chunkId, _ | _ | data⟩ := lookup
      · exact List.mem_cons_of_mem _ (induction member)
      · exact List.mem_cons_of_mem _ (induction member)
      · rcases List.mem_cons.mp member with rfl | later
        · exact List.mem_cons_self
        · exact List.mem_cons_of_mem _ (induction later)

/-- Chunks that every lookup found are among those found, in their order. -/
theorem filter_sublist_foundChunks {kept : Bytes → Bool} {lookups : List Lookup}
    (always : ∀ lookup ∈ lookups, kept lookup.1 = true → ∃ data, lookup.2 = .ok (some data)) :
    ((lookups.map Prod.fst).filter kept).Sublist ((foundChunks lookups).map Prod.fst) := by
  induction lookups with
  | nil => exact .slnil
  | cons lookup rest induction =>
      have later := induction fun next member => always next (List.mem_cons_of_mem _ member)
      have here := always lookup List.mem_cons_self
      obtain ⟨chunkId, found⟩ := lookup
      rw [List.map_cons, List.filter_cons]
      split
      · rename_i is_kept
        obtain ⟨data, rfl⟩ := here is_kept
        exact later.cons_cons chunkId
      · cases found with
        | error cause => exact later
        | ok found =>
            cases found with
            | none => exact later
            | some data => exact later.cons chunkId

/-- However a stream is interleaved with requests that store and delete chunks, a client that gets
an answer has chunks of the request in its order, each under the hash of its data, and all those
that stayed in the store throughout, as often as they were requested. -/
theorem stream_chunks_answer {blake3 : Bytes → Bytes} {store : ChunkStore}
    {requestIds : List Bytes} {stream : ChunkStream} {steps : List Step}
    {results : List (Bytes × Bytes)} (addressed : ContentAddressed blake3 store)
    (opened : streamChunks store requestIds = .ok stream)
    (returned : (runAll (apply blake3) stream steps).reader = .returned (.ok results)) :
    (results.map Prod.fst).Sublist requestIds ∧
      (∀ chunk ∈ results, chunk.1 = blake3 chunk.2) ∧
        ∀ kept : Bytes → Bool, EveryState (apply blake3)
          (fun reached => ∀ id, kept id = true → (reached.store id).isSome) stream steps →
            (requestIds.filter kept).Sublist (results.map Prod.fst) := by
  have addressed' : ContentAddressed blake3 stream.store := by
    obtain ⟨-, rfl⟩ := streamChunks_eq_ok opened
    exact addressed
  have keeps : ∀ (reached : ChunkStream) (step : Step), ContentAddressed blake3 reached.store →
      ContentAddressed blake3 (reached.apply blake3 step).store :=
    fun _ step inv => contentAddressed_apply inv step
  have every := everyState_of_keeps keeps addressed' steps
  have right : EveryState (apply blake3)
      (fun reached => ∀ id, ∀ data ∈ reached.store id, id = blake3 data) stream steps :=
    every.mono fun reached inv id data stored => inv id data stored
  obtain ⟨lookups, listed, gave, results_eq⟩ := @returned_of_run
    (fun id found => ∀ data ∈ found, id = blake3 data) _ _ _ _ opened _ _ right returned
  refine ⟨?_, fun chunk member => ?_, fun kept stays => ?_⟩
  · rw [← listed, results_eq]
    exact foundChunks_sublist lookups
  · rw [results_eq] at member
    obtain ⟨found, is_found, hashed⟩ := gave _ (mem_of_mem_foundChunks member)
    obtain rfl := Except.ok.inj is_found
    exact hashed chunk.2 rfl
  · obtain ⟨lookups, listed, gave, results_eq⟩ := @returned_of_run
      (fun id found => kept id = true → found.isSome) _ _ _ _ opened _ _ stays returned
    rw [← listed, results_eq]
    refine filter_sublist_foundChunks fun lookup member is_kept => ?_
    obtain ⟨found, is_found, held⟩ := gave lookup member
    obtain ⟨data, rfl⟩ := Option.isSome_iff_exists.mp (held is_kept)
    exact ⟨data, is_found⟩

/-- Thirty-two bytes that stand for a hash. -/
def paddedHash (data : Bytes) : Bytes := (data ++ List.replicate 32 0).take 32

/-- A node with one chunk. -/
def oneChunk : ChunkStore := fun id => if id = paddedHash [1] then some [1] else none

/-- A stream of that chunk and one that is missing. -/
def oneChunkStream : ChunkStream :=
  { store := oneChunk
    task := .reading 0 [paddedHash [1], paddedHash [2]]
    channel := .fresh CAPACITY
    reader := .collecting [] }

/-- The chunk is deleted once it is on its way, and the client has it. -/
theorem stream_chunks_answer_of_deleted :
    ([paddedHash [1]].Sublist [paddedHash [1], paddedHash [2]]) ∧
      (∀ chunk ∈ [(paddedHash [1], ([1] : Bytes))], chunk.1 = paddedHash chunk.2) ∧
        ∀ kept : Bytes → Bool, EveryState (apply paddedHash)
          (fun reached => ∀ id, kept id = true → (reached.store id).isSome) oneChunkStream
          [.read none, .request (.deleteChunk none none (paddedHash [1])), .send, .read none,
            .receive, .read none, .receive] →
            ([paddedHash [1], paddedHash [2]].filter kept).Sublist [paddedHash [1]] := by
  have addressed : ContentAddressed paddedHash oneChunk := by
    intro id data stored
    rw [oneChunk] at stored
    split at stored
    · rename_i same
      obtain rfl := Option.some.inj stored
      exact same
    · cases stored
  have opened : streamChunks oneChunk [paddedHash [1], paddedHash [2]] = .ok oneChunkStream := rfl
  have returned : (runAll (apply paddedHash) oneChunkStream
      [.read none, .request (.deleteChunk none none (paddedHash [1])), .send, .read none,
        .receive, .read none, .receive]).reader =
          .returned (.ok [(paddedHash [1], [1])]) := by decide
  exact stream_chunks_answer addressed opened returned

/-! ## Streams end -/

/-- Who moves a stream on: the task reads or sends, or the client receives. -/
inductive Mover where
  | reader
  | sender
  | receiver
  deriving DecidableEq

/-- Who makes a step. -/
def Step.mover : Step → Option Mover
  | .read _ => some .reader
  | .send => some .sender
  | .receive => some .receiver
  | .request _ | .broken _ => none

/-- What is left of a stream, as long as its client collects. -/
def ongoing (stream : ChunkStream) :
    Option (StreamTask × Channel StreamMessage × List (Bytes × Bytes)) :=
  match stream.reader with
  | .collecting results => some (stream.task, stream.channel, results)
  | .returned _ => none

/-- Steps that the task has to make. -/
def taskSteps : StreamTask → Nat
  | .reading _ rest => 3 * rest.length + 1
  | .sending _ _ rest => 3 * rest.length + 3
  | .finished => 0

/-- Messages in a channel. -/
def queued (channel : Channel StreamMessage) : Nat := channel.sent.length - channel.received

/-- Steps that are left until the client has an answer. -/
def stepsLeft (stream : ChunkStream) : Nat :=
  match stream.ongoing with
  | some (task, channel, _) => taskSteps task + queued channel + 1
  | none => 0

/-- While the client collects, the channel is open at its end, and the task closes it. -/
structure Open (stream : ChunkStream) : Prop where
  room : 0 < stream.channel.capacity
  kept : ∀ results, stream.reader = .collecting results → stream.channel.dropped = false
  closed : stream.task = .finished → stream.channel.closed = true

section Ends

variable {stream : ChunkStream} {results : List (Bytes × Bytes)} {blake3 : Bytes → Bytes}

theorem stepsLeft_of_collecting (reader : stream.reader = .collecting results) :
    stream.stepsLeft = taskSteps stream.task + queued stream.channel + 1 := by
  rw [stepsLeft, ongoing, reader]

theorem stepsLeft_of_returned {answer : Except StreamFailure (List (Bytes × Bytes))}
    (reader : stream.reader = .returned answer) : stream.stepsLeft = 0 := by
  rw [stepsLeft, ongoing, reader]

theorem stepsLeft_goOn (reader : stream.reader = .collecting results) (task : StreamTask)
    (channel : Channel StreamMessage) :
    (stream.goOn task channel).stepsLeft = taskSteps task + queued channel + 1 := by
  rw [stepsLeft_of_collecting ((reader_goOn task channel).trans reader)]
  cases task <;> rfl

theorem taskSteps_next_lt (store : ChunkStore) (fault : Fault) (index : Nat) (rest : List Bytes) :
    taskSteps (.next store fault index rest) < taskSteps (.reading index rest) := by
  cases rest with
  | nil => exact Nat.zero_lt_succ 0
  | cons chunkId rest =>
      rw [StreamTask.next]
      split <;> simp only [taskSteps, List.length_cons] <;> omega

/-- A read leaves fewer steps. -/
theorem stepsLeft_read (reader : stream.reader = .collecting results) {index : Nat}
    {rest : List Bytes} (reading : stream.task = .reading index rest) (fault : Fault) :
    (stream.apply blake3 (.read fault)).stepsLeft < stream.stepsLeft := by
  have after : stream.apply blake3 (.read fault) =
      stream.goOn (.next stream.store fault index rest) stream.channel := by
    simp only [ChunkStream.apply, reading]
  have fewer := taskSteps_next_lt stream.store fault index rest
  rw [after, stepsLeft_goOn reader, stepsLeft_of_collecting reader, reading]
  omega

/-- So does a message that finds room. -/
theorem stepsLeft_send (reader : stream.reader = .collecting results) {message : StreamMessage}
    {index : Nat} {rest : List Bytes} (sending : stream.task = .sending message index rest)
    (kept : stream.channel.dropped = false)
    (room : queued stream.channel < stream.channel.capacity) :
    (stream.apply blake3 .send).stepsLeft < stream.stepsLeft := by
  have accepted : stream.channel.send message = (.accepted, stream.channel.push message) := by
    rw [Channel.send, kept, if_neg Bool.false_ne_true]
    exact if_pos room
  have after : stream.apply blake3 .send =
      stream.goOn (.reading index rest) (stream.channel.push message) := by
    simp only [ChunkStream.apply, sending, accepted]
  have one_more : queued (stream.channel.push message) = queued stream.channel + 1 := by
    have inside := stream.channel.received_le
    simp only [queued, Channel.push, List.length_append, List.length_singleton]
    omega
  rw [after, stepsLeft_goOn reader, stepsLeft_of_collecting reader, sending, one_more]
  simp only [taskSteps]
  omega

/-- So does a receive that finds a message or the end. -/
theorem stepsLeft_receive (reader : stream.reader = .collecting results)
    (something : 0 < queued stream.channel ∨ stream.channel.closed = true) :
    (stream.apply blake3 .receive).stepsLeft < stream.stepsLeft := by
  rw [stepsLeft_of_collecting reader]
  by_cases more : stream.channel.received < stream.channel.sent.length
  · have received : stream.channel.receive = (.item (stream.channel.sent.get
        ⟨stream.channel.received, more⟩), stream.channel.advance more) := dif_pos more
    have one_less : queued (stream.channel.advance more) + 1 = queued stream.channel := by
      simp only [queued, Channel.advance]
      omega
    cases message : stream.channel.sent.get ⟨stream.channel.received, more⟩ with
    | error status =>
        rw [message] at received
        simp only [ChunkStream.apply, reader, received]
        exact Nat.zero_lt_succ _
    | ok chunk =>
        rw [message] at received
        have after : stream.apply blake3 .receive =
            { stream with
              channel := stream.channel.advance more
              reader := .collecting (collectChunk results chunk) } := by
          simp only [ChunkStream.apply, reader, received]
        rw [after]
        change taskSteps stream.task + queued (stream.channel.advance more) + 1 < _
        omega
  · have closed : stream.channel.closed = true := by
      refine something.resolve_left fun left => ?_
      rw [queued] at left
      omega
    have received : stream.channel.receive = (.ended, stream.channel) := by
      rw [Channel.receive, dif_neg more, if_pos closed]
    simp only [ChunkStream.apply, reader, received]
    exact Nat.zero_lt_succ _

/-- A stream is done when nothing is left. -/
theorem exists_returned (done : stream.stepsLeft = 0) :
    ∃ answer, stream.reader = .returned answer := by
  cases reader : stream.reader with
  | returned answer => exact ⟨answer, rfl⟩
  | collecting results =>
      rw [stepsLeft_of_collecting reader] at done
      cases done

theorem Open.goOn (is_open : stream.Open) (task : StreamTask) {channel : Channel StreamMessage}
    (capacity : channel.capacity = stream.channel.capacity)
    (dropped : channel.dropped = stream.channel.dropped) : (stream.goOn task channel).Open where
  room := by
    cases task <;> exact capacity ▸ is_open.room
  kept results reader := by
    rw [reader_goOn] at reader
    have kept := dropped.trans (is_open.kept results reader)
    cases task <;> exact kept
  closed finished := by
    cases task with
    | reading index rest | sending message index rest => cases finished
    | finished => rfl

theorem Open.answer (is_open : stream.Open) {channel : Channel StreamMessage}
    (capacity : channel.capacity = stream.channel.capacity)
    (closed : channel.closed = stream.channel.closed)
    (answer : Except StreamFailure (List (Bytes × Bytes))) :
    (ChunkStream.answer { stream with channel } answer).Open where
  room := capacity ▸ is_open.room
  kept results reader := by cases reader
  closed finished := closed.trans (is_open.closed finished)

/-- Steps keep the channel open at the end of the client. -/
theorem Open.apply (is_open : stream.Open) (step : Step) : (stream.apply blake3 step).Open := by
  cases step with
  | request request => exact { is_open with }
  | read fault =>
      simp only [ChunkStream.apply]
      split
      · exact is_open.goOn _ rfl rfl
      · exact is_open
      · exact is_open
  | send =>
      simp only [ChunkStream.apply]
      split
      · split
        · rename_i channel accepted
          obtain ⟨-, rfl⟩ := Channel.send_eq_accepted accepted
          exact is_open.goOn _ rfl rfl
        · rename_i channel refused
          obtain ⟨-, rfl⟩ := Channel.send_eq_refused refused
          exact is_open.goOn _ rfl rfl
        · exact is_open
      · exact is_open
      · exact is_open
  | receive =>
      simp only [ChunkStream.apply]
      split
      · rename_i results reader
        split
        · rename_i chunk channel received
          obtain ⟨more, rfl, -⟩ := Channel.receive_eq_item received
          exact ⟨is_open.room, fun _ _ => is_open.kept results reader, is_open.closed⟩
        · rename_i status channel received
          obtain ⟨more, rfl, -⟩ := Channel.receive_eq_item received
          exact @Open.answer stream is_open (stream.channel.advance more) rfl rfl _
        · rename_i channel ended
          obtain ⟨-, -, rfl⟩ := Channel.receive_eq_ended ended
          exact is_open.answer rfl rfl _
        · exact is_open
      · exact is_open
  | broken cause =>
      simp only [ChunkStream.apply]
      split
      · exact is_open.answer rfl rfl _
      · exact is_open

/-- A step leaves what is ongoing alone or leaves fewer steps. -/
theorem ongoing_eq_or_stepsLeft_lt (is_open : stream.Open) (step : Step) :
    (stream.apply blake3 step).ongoing = stream.ongoing ∨
      (stream.apply blake3 step).stepsLeft < stream.stepsLeft := by
  cases reader : stream.reader with
  | returned answer =>
      have still : (stream.apply blake3 step).reader = .returned answer := by
        cases step with
        | request request => exact reader
        | read fault =>
            simp only [ChunkStream.apply]
            split <;> simp [reader]
        | send =>
            simp only [ChunkStream.apply]
            split
            · split <;> simp [reader]
            · exact reader
            · exact reader
        | receive | broken cause => simp only [ChunkStream.apply, reader]
      left
      rw [ongoing, ongoing, still, reader]
  | collecting results =>
      cases step with
      | request request => exact .inl rfl
      | read fault =>
          cases task : stream.task with
          | reading index rest => exact .inr (stepsLeft_read reader task fault)
          | sending message index rest | finished =>
              left
              simp only [ChunkStream.apply, task]
      | send =>
          cases task : stream.task with
          | sending message index rest =>
              have kept := is_open.kept results reader
              by_cases room : queued stream.channel < stream.channel.capacity
              · exact .inr (stepsLeft_send reader task kept room)
              · have waiting : stream.channel.send message = (.waiting, stream.channel) := by
                  rw [Channel.send, kept, if_neg Bool.false_ne_true]
                  exact if_neg room
                left
                simp only [ChunkStream.apply, task, waiting]
          | reading index rest | finished =>
              left
              simp only [ChunkStream.apply, task]
      | receive =>
          by_cases something : 0 < queued stream.channel ∨ stream.channel.closed = true
          · exact .inr (stepsLeft_receive reader something)
          · obtain ⟨nothing, not_closed⟩ := not_or.mp something
            have waiting : stream.channel.receive = (.waiting, stream.channel) := by
              rw [queued] at nothing
              rw [Channel.receive, dif_neg (by omega), if_neg not_closed]
            left
            simp only [ChunkStream.apply, reader, waiting]
      | broken cause =>
          right
          rw [stepsLeft_of_collecting reader]
          simp only [ChunkStream.apply, reader]
          exact Nat.zero_lt_succ _

theorem reader_of_ongoing_eq {other : ChunkStream} (reader : stream.reader = .collecting results)
    (same : other.ongoing = stream.ongoing) :
    other.reader = .collecting results ∧ other.task = stream.task ∧
      other.channel = stream.channel := by
  rw [ongoing, ongoing, reader] at same
  cases reader' : other.reader with
  | returned answer =>
      rw [reader'] at same
      cases same
  | collecting results' =>
      rw [reader'] at same
      obtain ⟨task_eq, rest_eq⟩ := Prod.mk.inj (Option.some.inj same)
      obtain ⟨channel_eq, rfl⟩ := Prod.mk.inj rest_eq
      exact ⟨rfl, task_eq, channel_eq⟩

/-- Someone can always move an open stream on. -/
theorem progress (blake3 : Bytes → Bytes) :
    Progress (ChunkStream.apply blake3) Step.mover Open ongoing stepsLeft where
  keeps stream step is_open := is_open.apply step
  congr stream other same := by rw [stepsLeft, stepsLeft, same]
  idle_or_less stream step is_open := ongoing_eq_or_stepsLeft_lt is_open step
  driven stream is_open left := by
    cases reader : stream.reader with
    | returned answer =>
        rw [stepsLeft_of_returned reader] at left
        cases left
    | collecting results =>
        have kept := is_open.kept results reader
        cases task : stream.task with
        | reading index rest =>
            refine ⟨.reader, fun other op same moved => ?_⟩
            obtain ⟨reader', task', -⟩ := reader_of_ongoing_eq reader same
            cases op with
            | read fault => exact stepsLeft_read reader' (task'.trans task) fault
            | request request | send | receive | broken cause => cases moved
        | sending message index rest =>
            by_cases room : queued stream.channel < stream.channel.capacity
            · refine ⟨.sender, fun other op same moved => ?_⟩
              obtain ⟨reader', task', channel'⟩ := reader_of_ongoing_eq reader same
              cases op with
              | send =>
                  exact stepsLeft_send reader' (task'.trans task) (channel' ▸ kept)
                    (channel' ▸ room)
              | request request | read fault | receive | broken cause => cases moved
            · refine ⟨.receiver, fun other op same moved => ?_⟩
              obtain ⟨reader', -, channel'⟩ := reader_of_ongoing_eq reader same
              have something : 0 < queued stream.channel :=
                is_open.room.trans_le (Nat.le_of_not_lt room)
              cases op with
              | receive => exact stepsLeft_receive reader' (.inl (channel' ▸ something))
              | request request | read fault | send | broken cause => cases moved
        | finished =>
            refine ⟨.receiver, fun other op same moved => ?_⟩
            obtain ⟨reader', -, channel'⟩ := reader_of_ongoing_eq reader same
            cases op with
            | receive => exact stepsLeft_receive reader' (.inr (channel' ▸ is_open.closed task))
            | request request | read fault | send | broken cause => cases moved

end Ends

/-! ## Nothing fails -/

/-- A step in which a read fails or the connection breaks. -/
def Step.fails : Step → Bool
  | .read fault => fault.isSome
  | .broken _ => true
  | .request _ | .send | .receive => false

/-- Nothing has failed. -/
structure Unfailed (stream : ChunkStream) : Prop where
  sent : ∀ status, .error status ∉ stream.channel.sent
  sending : ∀ message index rest, stream.task = .sending message index rest →
    ∃ chunk, message = .ok chunk
  reader : ∀ failure, stream.reader ≠ .returned (.error failure)

section Unfailed

variable {stream : ChunkStream} {blake3 : Bytes → Bytes}

theorem Unfailed.goOn (unfailed : stream.Unfailed) {task : StreamTask}
    {channel : Channel StreamMessage} (sent : ∀ status, .error status ∉ channel.sent)
    (sending : ∀ message index rest, task = .sending message index rest →
      ∃ chunk, message = .ok chunk) : (stream.goOn task channel).Unfailed where
  sent := by cases task <;> exact sent
  sending := by cases task <;> exact sending
  reader failure := by
    rw [reader_goOn]
    exact unfailed.reader failure

theorem sending_next {store : ChunkStore} {index : Nat} {ids : List Bytes} :
    ∀ message index' rest, StreamTask.next store none index ids = .sending message index' rest →
      ∃ chunk, message = .ok chunk := by
  intro message index' rest is_sending
  cases ids with
  | nil => cases is_sending
  | cons chunkId ids =>
      rw [StreamTask.next, ChunkStore.get] at is_sending
      cases stored : store chunkId with
      | none =>
          rw [stored] at is_sending
          cases is_sending
      | some data =>
          rw [stored] at is_sending
          cases is_sending
          exact ⟨_, rfl⟩

theorem Unfailed.apply (unfailed : stream.Unfailed) {step : Step} (fine : step.fails = false) :
    (stream.apply blake3 step).Unfailed := by
  cases step with
  | request request => exact { unfailed with }
  | read fault =>
      cases fault with
      | some cause => cases fine
      | none =>
          simp only [ChunkStream.apply]
          split
          · exact unfailed.goOn unfailed.sent sending_next
          · exact unfailed
          · exact unfailed
  | send =>
      simp only [ChunkStream.apply]
      split
      · rename_i message index rest task
        split
        · rename_i channel accepted
          obtain ⟨-, rfl⟩ := Channel.send_eq_accepted accepted
          obtain ⟨chunk, rfl⟩ := unfailed.sending message index rest task
          refine unfailed.goOn (fun status member => ?_) fun _ _ _ reading => by cases reading
          rcases List.mem_append.mp member with before | last
          · exact unfailed.sent status before
          · cases List.mem_singleton.mp last
        · rename_i channel refused
          obtain ⟨-, rfl⟩ := Channel.send_eq_refused refused
          exact unfailed.goOn unfailed.sent fun _ _ _ finished => by cases finished
        · exact unfailed
      · exact unfailed
      · exact unfailed
  | receive =>
      simp only [ChunkStream.apply]
      split
      · split
        · rename_i chunk channel received
          obtain ⟨more, rfl, -⟩ := Channel.receive_eq_item received
          exact ⟨unfailed.sent, unfailed.sending, fun failure failed => by cases failed⟩
        · rename_i status channel received
          obtain ⟨more, rfl, taken_eq⟩ := Channel.receive_eq_item received
          have member : .error status ∈ (stream.channel.advance more).taken := by
            rw [taken_eq]
            exact List.mem_append_right _ List.mem_cons_self
          exact absurd ((Channel.taken_prefix _).subset member) (unfailed.sent status)
        · rename_i channel ended
          obtain ⟨-, -, rfl⟩ := Channel.receive_eq_ended ended
          exact ⟨unfailed.sent, unfailed.sending, fun failure failed => by cases failed⟩
        · exact unfailed
      · exact unfailed
  | broken cause => cases fine

end Unfailed

/-- A stream of some chunks ends within three rounds for each and two more, in which the task and
the client get their turns in any order, whatever else happens.  If nothing fails, the client then
has its chunks. -/
theorem stream_chunks_ends {blake3 : Bytes → Bytes} {store : ChunkStore}
    {requestIds : List Bytes} {stream : ChunkStream} {rounds : List (List Step)}
    (opened : streamChunks store requestIds = .ok stream)
    (fair : ∀ round ∈ rounds, IsRound Step.mover round)
    (enough : 3 * requestIds.length + 2 ≤ rounds.length) :
    (∃ answer, (runAll (apply blake3) stream rounds.flatten).reader = .returned answer) ∧
      ((∀ round ∈ rounds, ∀ step ∈ round, step.fails = false) →
        ∃ results, (runAll (apply blake3) stream rounds.flatten).reader =
          .returned (.ok results)) := by
  obtain ⟨-, rfl⟩ := streamChunks_eq_ok opened
  have start : Open ⟨store, .reading 0 requestIds, .fresh CAPACITY, .collecting []⟩ :=
    { room := Nat.zero_lt_succ 31
      kept := fun _ _ => rfl
      closed := fun finished => by cases finished }
  have done := (progress blake3).runAll_rounds fair start enough
  obtain ⟨answer, answered⟩ := exists_returned done
  refine ⟨⟨answer, answered⟩, fun fine => ?_⟩
  have unfailed : Unfailed ⟨store, .reading 0 requestIds, .fresh CAPACITY, .collecting []⟩ :=
    { sent := fun status member => by cases member
      sending := fun message index rest sending => by cases sending
      reader := fun failure failed => by cases failed }
  have met : EveryStep (ChunkStream.apply blake3) (fun _ step => step.fails = false)
      ⟨store, .reading 0 requestIds, .fresh CAPACITY, .collecting []⟩ rounds.flatten := by
    refine everyStep_of_forall (fun step member _ => ?_) _
    obtain ⟨round, listed, inside⟩ := List.mem_flatten.mp member
    exact fine round listed step inside
  have keeps : ∀ (reached : ChunkStream) (step : Step), reached.Unfailed → step.fails = false →
      (reached.apply blake3 step).Unfailed := fun _ _ inv fine => inv.apply fine
  have last := (everyState_of_everyStep keeps unfailed met).last
  cases answer with
  | ok results => exact ⟨results, answered⟩
  | error failure => exact absurd answered (last.reader failure)

/-- The rounds of a stream of two chunks end it, whoever comes first in a round. -/
theorem stream_chunks_ends_for_two :
    (∃ answer, (runAll (apply paddedHash) oneChunkStream
      (List.replicate 8 [Step.receive, .send, .read none]).flatten).reader = .returned answer) ∧
      ((∀ round ∈ List.replicate 8 [Step.receive, .send, .read none], ∀ step ∈ round,
        step.fails = false) → ∃ results, (runAll (apply paddedHash) oneChunkStream
          (List.replicate 8 [Step.receive, .send, .read none]).flatten).reader =
            .returned (.ok results)) := by
  have opened : streamChunks oneChunk [paddedHash [1], paddedHash [2]] = .ok oneChunkStream := rfl
  refine stream_chunks_ends opened (fun round member wanted => ?_) (by decide)
  obtain rfl := List.eq_of_mem_replicate member
  cases wanted <;> decide

end ChunkStream

end CyxCloud.Node
