import CyxCloud.Gateway.DataStream
import CyxCloud.Library.CacheAside
import CyxCloud.Metadata.FileCache
import CyxCloud.Metadata.Placement

/-!
# Cached lists of nodes and addresses

`MetadataService` reads the online nodes and the addresses of a chunk through the cache.  Nobody
drops the cached nodes, and only `record_chunk_location` drops the cached addresses of a chunk,
while the database changes all the time.
-/

namespace CyxCloud.Metadata

open CyxCloud.Core hiding Chunk
open Library

/-! ## Reading through the cache -/

/-- How long the online nodes and the addresses of a chunk are cached. -/
def listTtl : Duration := .fromSecs 60

section

variable {χ β : Type}

/-- Try the cache first, then query the database and cache the result. -/
def readThrough (query : χ → Database → β) (ttl : Duration) (cache : Option (ExpiringKey β))
    (now : Time) (reply : Option χ) (db : Database) :
    Option (ExpiringKey β) × Except DbError β :=
  match OptionalCache.tryGet cache now with
  | some value => (cache, .ok value)
  | none =>
      match reply with
      | some choice =>
          let value := query choice db
          (OptionalCache.trySet cache now value ttl, .ok value)
      | none => (cache, .error .unavailable)

/-- The database as the source of a cached list; it changes in any way. -/
def listUse (query : χ → Database → β) : CacheUse Database (Database → Database) χ β where
  query := query
  change db _ op := op db
  lifetime := listTtl.toNanos

theorem trySet_listTtl (cache : Option (ExpiringKey β)) (now : Time) (value : β) :
    OptionalCache.trySet cache now value listTtl =
      cache.map fun _ => .lapsing value (now + listTtl.toNanos) := by
  have accepted : 0 < listTtl.asSecs ∧ listTtl.asSecs.toNat ≤ maxExpireSecs := by decide
  have same : RedisKey.expiry now listTtl.asSecs.toNat = now + listTtl.toNanos := rfl
  simp only [OptionalCache.trySet, RedisKey.setEx, if_pos accepted, same]

/-- What a reader is served, if anything. -/
def served : CacheReader β → Option β
  | .got value _ => some value
  | .lookUp | .query | .store _ _ | .failed => none

/-- A reader that runs alone does what the call does. -/
theorem runAll_alone (query : χ → Database → β) (cache : Option (ExpiringKey β)) (now : Time)
    (choice : χ) (reply : Option χ) (db : Database) :
    let ended := runAll (CacheAside.apply (listUse query))
      { source := db, cache, now, readers := [] }
      [.read, .advance 0 (some choice), .advance 0 reply, .advance 0 (some choice)]
    ended.cache = (readThrough query listTtl cache now reply db).1 ∧
      ended.readers.map served = [(readThrough query listTtl cache now reply db).2.toOption] := by
  have same : OptionalCache.tryGet cache now = cache.bind fun key => key.get now := by
    cases cache <;> rfl
  cases found : cache.bind fun key => key.get now with
  | some value =>
      simp [CacheAside.apply, CacheAside.next, CacheAside.fill, CacheAside.cached, readThrough,
        same, found, served, Except.toOption]
  | none =>
      cases reply with
      | some choice' =>
          simp [CacheAside.apply, CacheAside.next, CacheAside.fill, CacheAside.cached, readThrough,
            same, found, served, Except.toOption, trySet_listTtl, listUse]
      | none =>
          simp [CacheAside.apply, CacheAside.next, CacheAside.fill, CacheAside.cached, readThrough,
            same, found, served, Except.toOption]

end

namespace MetadataService

/-- Get online nodes. -/
def getOnlineNodes (cache : Option (ExpiringKey (List Node))) (now : Time)
    (reply : Option (RowOrder Node)) (db : Database) :
    Option (ExpiringKey (List Node)) × Except DbError (List Node) :=
  readThrough (fun order db => db.getOnlineNodes order)
    (if cache.isSome then .fromSecs 60 else .fromSecs 0) cache now reply db

/-- Get chunk locations, as node addresses. -/
def getChunkLocations (chunkId : Bytes) (cache : Option (ExpiringKey (List String)))
    (now : Time) (reply : Option (RowOrder String)) (db : Database) :
    Option (ExpiringKey (List String)) × Except DbError (List String) :=
  readThrough (fun order db => db.getChunkNodeAddresses order chunkId) (.fromSecs 60) cache now
    reply db

/-- Select nodes for placement, once the online nodes are known. -/
def selectPlacementNodes (engine : PlacementEngine) (nodes : List Node)
    (numShards replicasPerShard : Nat) : List (List String) :=
  (engine.selectNodes (nodes.map PlacementNode.fromNode) numShards replicasPerShard none).map
    fun decision => decision.nodes.map PlacementNode.grpcAddress

/-- Without a cache the expiry does not matter. -/
theorem getOnlineNodes_eq_readThrough (cache : Option (ExpiringKey (List Node))) (now : Time)
    (reply : Option (RowOrder Node)) (db : Database) :
    getOnlineNodes cache now reply db =
      readThrough (fun order db => db.getOnlineNodes order) listTtl cache now reply db := by
  cases cache with
  | some key => rfl
  | none => cases reply <;> rfl

end MetadataService

/-! ## Placement on cached nodes -/

namespace PlacementEngine

variable {engine : PlacementEngine} {nodes : List PlacementNode} {origin : Option PlacementNode}

theorem foldl_consider_subset (config : PlacementConfig) (count : Nat)
    (ranking : List (ℚ × PlacementNode)) (state : List PlacementNode × Usage) :
    (ranking.foldl (consider config count) state).1 ⊆ state.1 ++ ranking.map Prod.snd := by
  induction ranking generalizing state with
  | nil => simp
  | cons ranked ranking induction =>
      have one : (consider config count state ranked).1 ⊆ state.1 ++ [ranked.2] := by
        unfold consider
        split
        · exact List.subset_append_left _ _
        · split
          · exact List.Subset.refl _
          · exact List.subset_append_left _ _
      intro node member
      rcases List.mem_append.mp (induction _ member) with selected | later
      · rcases List.mem_append.mp (one selected) with earlier | next
        · exact List.mem_append_left _ earlier
        · rw [List.mem_singleton.mp next]
          exact List.mem_append_right _ List.mem_cons_self
      · exact List.mem_append_right _ (List.mem_cons_of_mem _ later)

theorem selectForShard_subset (engine : PlacementEngine) (nodes : List PlacementNode)
    (count : Nat) (origin : Option PlacementNode) (usage : Usage) :
    engine.selectForShard nodes count origin usage ⊆ nodes := by
  unfold selectForShard
  split
  · exact List.Subset.refl nodes
  · intro node member
    have ranked := foldl_consider_subset _ _ _ _ member
    rw [List.nil_append, rankByScore] at ranked
    obtain ⟨scored, scored_mem, rfl⟩ := List.mem_map.mp ranked
    obtain ⟨node, node_mem, rfl⟩ :=
      List.mem_map.mp ((List.mergeSort_perm _ _).mem_iff.mp scored_mem)
    exact node_mem

/-- Only eligible nodes are selected. -/
theorem eligible_of_selectNodes {numShards replicasPerShard : Nat} {decision : PlacementDecision}
    (decided : decision ∈ engine.selectNodes nodes numShards replicasPerShard origin)
    {node : PlacementNode} (selected : node ∈ decision.nodes) : node ∈ engine.eligible nodes := by
  rw [selectNodes] at decided
  split at decided
  · exact absurd decided List.not_mem_nil
  · induction numShards with
    | zero => exact absurd decided List.not_mem_nil
    | succ numShards induction =>
        rw [List.range_succ, List.foldl_append] at decided
        rcases List.mem_append.mp decided with earlier | last
        · exact induction earlier
        · rw [List.mem_singleton.mp last] at selected
          exact selectForShard_subset _ _ _ _ _ selected

end PlacementEngine

/-- An online node with enough space has the address. -/
def HasRoomAt (engine : PlacementEngine) (db : Database) (address : String) : Prop :=
  ∃ node ∈ db.nodes, node.status = .online ∧ node.grpcAddress = address ∧
    engine.config.minAvailableStorage ≤ (PlacementNode.fromNode node).availableStorage

/-- The online nodes as the source of a cached list. -/
abbrev onlineUse : CacheUse Database (Database → Database) (RowOrder Node) (List Node) :=
  listUse fun order db => db.getOnlineNodes order

/-- The addresses of a chunk as the source of a cached list. -/
abbrev addressUse (chunkId : Bytes) :
    CacheUse Database (Database → Database) (RowOrder String) (List String) :=
  listUse fun order db => db.getChunkNodeAddresses order chunkId

theorem mem_getOnlineNodes {db : Database} {order : RowOrder Node} {node : Node} :
    node ∈ db.getOnlineNodes order ↔ node ∈ db.nodes ∧ node.status = .online := by
  simp [Database.getOnlineNodes]

/-- Every address that a placement on the online nodes selects has room. -/
theorem hasRoomAt_of_selectPlacementNodes {engine : PlacementEngine} {db : Database}
    {order : RowOrder Node} {numShards replicasPerShard : Nat} {addresses : List String}
    (placed : addresses ∈ MetadataService.selectPlacementNodes engine (db.getOnlineNodes order)
      numShards replicasPerShard)
    {address : String} (member : address ∈ addresses) : HasRoomAt engine db address := by
  obtain ⟨decision, decided, rfl⟩ := List.mem_map.mp placed
  obtain ⟨target, selected, rfl⟩ := List.mem_map.mp member
  have eligible := PlacementEngine.eligible_of_selectNodes decided selected
  obtain ⟨available, room⟩ := List.mem_filter.mp eligible
  obtain ⟨node, online, rfl⟩ := List.mem_map.mp available
  obtain ⟨known, status⟩ := mem_getOnlineNodes.mp online
  exact ⟨node, known, status, rfl, of_decide_eq_true room⟩

/-- All nodes go offline. -/
def allOffline (db : Database) : Database :=
  { db with nodes := db.nodes.map fun node => { node with status := .offline } }

theorem getOnlineNodes_allOffline (db : Database) (order : RowOrder Node) :
    (allOffline db).getOnlineNodes order = [] := by
  refine List.eq_nil_iff_forall_not_mem.mpr fun node member => ?_
  obtain ⟨known, online⟩ := mem_getOnlineNodes.mp member
  obtain ⟨before, -, rfl⟩ := List.mem_map.mp known
  cases online

/-- The readers of the online nodes after a run. -/
def onlineReads (db : Database) (hasCache : Bool) (now : Time)
    (ops : List (CacheStep (Database → Database) (RowOrder Node))) :
    CacheAside Database (List Node) :=
  runAll (CacheAside.apply onlineUse) (.start db hasCache now) ops

/-- Readers fill the cache within some time after they have asked. -/
def FillsSoon {χ β : Type} (use : CacheUse Database (Database → Database) χ β) (delay : Nat)
    (db : Database) (hasCache : Bool) (now : Time)
    (ops : List (CacheStep (Database → Database) χ)) : Prop :=
  EveryStep (CacheAside.apply use) (CacheAside.FillsWithin delay) (.start db hasCache now) ops

/-- If the readers fill the cache within some time after they have asked, then every node on which
a shard is placed was online with room at most that time and 60 seconds before.  Readers that take
their time are served nodes that were the online nodes as long ago as one likes. -/
theorem placed_on_recently_online (engine : PlacementEngine) (db : Database) (now : Time)
    (some_online : ∃ node ∈ db.nodes, node.status = .online) :
    (∀ hasCache delay ops, FillsSoon onlineUse delay db hasCache now ops →
      ∀ nodes seen, .got nodes seen ∈ (onlineReads db hasCache now ops).readers →
        ∀ numShards replicasPerShard,
          ∀ addresses ∈
            MetadataService.selectPlacementNodes engine nodes numShards replicasPerShard,
          ∀ address ∈ addresses, ∃ before after, ops = before ++ after ∧
            HasRoomAt engine (onlineReads db hasCache now before).source address ∧
            (onlineReads db hasCache now before).now ≤ seen ∧
            seen ≤ (onlineReads db hasCache now before).now + 60 * nanosPerSec + delay) ∧
    ∀ age, ∃ ops nodes, nodes ≠ [] ∧
      .got nodes (now + age) ∈ (onlineReads db true now ops).readers ∧
      ∀ before after, ops = before ++ after →
        (∃ order, (onlineReads db true now before).source.getOnlineNodes order = nodes) →
        (onlineReads db true now before).now + age ≤ now + age := by
  constructor
  · intro hasCache delay ops soon nodes seen served numShards replicasPerShard addresses placed
      address member
    obtain ⟨time, ⟨before, after, split, rfl, order, rfl⟩, past, -, bound⟩ :=
      CacheAside.served_recent soon served
    exact ⟨before, after, split, hasRoomAt_of_selectPlacementNodes placed member, past, bound⟩
  · intro age
    obtain ⟨node, known, online⟩ := some_online
    have listed : db.getOnlineNodes .insertion ≠ [] :=
      List.ne_nil_of_mem (mem_getOnlineNodes.mpr ⟨known, online⟩)
    have gone : ∀ other, onlineUse.query other (onlineUse.change db now allOffline) ≠
        onlineUse.query .insertion db := by
      intro other
      exact (getOnlineNodes_allOffline db other).trans_ne listed.symm
    obtain ⟨served, stale⟩ := CacheAside.served_lateFill (by decide) gone age
    refine ⟨_, _, listed, served, fun before after split answered => ?_⟩
    exact stale _ ⟨before, after, split, rfl, answered⟩

/-- A database with one node, which stores a chunk. -/
def oneHolder : Database :=
  Database.createNode
    { buckets := []
      nodes := []
      files := []
      chunks := []
      chunkLocations :=
        [{ chunkId := [7]
           nodeId := 1
           status := .stored
           lastVerified := none
           verificationFailures := 0 }]
      repairJobs := [] } 1 0
    { peerId := "n1"
      grpcAddress := "a1"
      storageTotal := 2000000000
      storageReserved := 0
      bandwidthMbps := 0
      datacenter := none
      region := none
      version := none
      walletAddress := none
      publicKey := none }

/-- A reader fills the cache, all nodes go offline, and 59 seconds later another reader looks the
list up. -/
def readersWithin {α : Type} : List (CacheStep (Database → Database) (RowOrder α)) :=
  [.read, .advance 0 (some .insertion), .advance 0 (some .insertion), .advance 0 (some .insertion),
    .change allOffline, .wait (59 * nanosPerSec), .read, .advance 1 (some .insertion)]

/-- A shard is placed on a node that has been offline for 59 seconds. -/
theorem placed_on_node_offline_since_59_secs :
    ∃ before after, readersWithin = before ++ after ∧
      HasRoomAt (.default fun _ _ => none) (onlineReads oneHolder true 0 before).source "a1" ∧
      (onlineReads oneHolder true 0 before).now ≤ 59 * nanosPerSec ∧
      59 * nanosPerSec ≤ (onlineReads oneHolder true 0 before).now + 60 * nanosPerSec + 0 := by
  have listed : oneHolder.getOnlineNodes .insertion = oneHolder.nodes :=
    List.mergeSort_singleton _
  refine (placed_on_recently_online (.default fun _ _ => none) oneHolder 0
    ⟨_, List.mem_singleton_self _, rfl⟩).1 true 0 readersWithin ?_ oneHolder.nodes _ ?_ 1 1
    ["a1"] ?_ "a1" List.mem_cons_self
  · simp [FillsSoon, EveryStep, readersWithin, CacheAside.FillsWithin, CacheAside.apply,
      CacheAside.start, CacheAside.next, CacheAside.cached]
  · simp [onlineReads, readersWithin, CacheAside.apply, CacheAside.start, CacheAside.next,
      CacheAside.fill, CacheAside.cached, listUse, listed, ExpiringKey.get_lapsing, nanosPerSec,
      listTtl, Duration.toNanos, Duration.fromSecs]
  · decide

/-! ## Addresses of a chunk -/

/-- The readers of the addresses of a chunk after a run. -/
def addressReads (chunkId : Bytes) (db : Database) (hasCache : Bool) (now : Time)
    (ops : List (CacheStep (Database → Database) (RowOrder String))) :
    CacheAside Database (List String) :=
  runAll (CacheAside.apply (addressUse chunkId)) (.start db hasCache now) ops

/-- An online node at the address stores the chunk. -/
def ServesAt (chunkId : Bytes) (db : Database) (address : String) : Prop :=
  ∃ row ∈ db.chunkLocations, row.chunkId = chunkId ∧ row.status = .stored ∧
    ∃ node ∈ db.nodes, node.id = row.nodeId ∧ node.status = .online ∧ node.grpcAddress = address

theorem mem_getChunkNodeAddresses {chunkId : Bytes} {db : Database} {order : RowOrder String}
    {address : String} :
    address ∈ db.getChunkNodeAddresses order chunkId ↔ ServesAt chunkId db address := by
  simp [Database.getChunkNodeAddresses, ServesAt, and_assoc]

/-- The contents of a chunk, from the first node that answers. -/
def getChunkData (reply : Nat → String → Option Bytes) (addresses : List String) : Option Bytes :=
  if addresses.isEmpty then none else Gateway.getChunkFromAny reply addresses

theorem getChunkData_eq_some {reply : Nat → String → Option Bytes} {addresses : List String}
    {bytes : Bytes} (read : getChunkData reply addresses = some bytes) :
    ∃ position, ∃ address ∈ addresses, reply position address = some bytes := by
  unfold getChunkData at read
  split at read
  · cases read
  · obtain ⟨⟨address, position⟩, listed, answer⟩ := List.exists_of_findSome?_eq_some read
    exact ⟨position, address, (List.mem_zipIdx listed).2.2 ▸ List.getElem_mem _, answer⟩

theorem isSome_getChunkData {reply : Nat → String → Option Bytes} {addresses : List String}
    {address : String} (listed : address ∈ addresses)
    (answers : ∀ position, (reply position address).isSome) :
    (getChunkData reply addresses).isSome := by
  unfold getChunkData
  rw [if_neg (by simpa using List.ne_nil_of_mem listed), Gateway.getChunkFromAny,
    List.findSome?_isSome_iff]
  obtain ⟨position, bound, here⟩ := List.getElem_of_mem listed
  exact ⟨(address, position), List.mem_zipIdx_iff_getElem?.mpr (by simp [here, bound]),
    answers position⟩

/-- Let the readers fill the cache within some time after they have asked, and look that time and 60
seconds back from the moment at which the addresses of a chunk are seen.  The chunk is read if a
node that answers has served it all the time since then, and what is read comes from an address
that has served the chunk at some moment since then. -/
theorem chunk_read_from_recent_locations (chunkId : Bytes) (db : Database) (hasCache : Bool)
    (now : Time) {delay : Nat} {ops : List (CacheStep (Database → Database) (RowOrder String))}
    (soon : FillsSoon (addressUse chunkId) delay db hasCache now ops)
    {addresses : List String} {seen : Time}
    (served : .got addresses seen ∈ (addressReads chunkId db hasCache now ops).readers)
    (reply : Nat → String → Option Bytes) :
    (∀ address, (∀ position, (reply position address).isSome) →
      (∀ before after, ops = before ++ after →
        (addressReads chunkId db hasCache now before).now ≤ seen →
        seen ≤ (addressReads chunkId db hasCache now before).now + 60 * nanosPerSec + delay →
        ServesAt chunkId (addressReads chunkId db hasCache now before).source address) →
      (getChunkData reply addresses).isSome) ∧
    ∀ bytes, getChunkData reply addresses = some bytes →
      ∃ position address before after, reply position address = some bytes ∧
        ops = before ++ after ∧
        (addressReads chunkId db hasCache now before).now ≤ seen ∧
        seen ≤ (addressReads chunkId db hasCache now before).now + 60 * nanosPerSec + delay ∧
        ServesAt chunkId (addressReads chunkId db hasCache now before).source address := by
  constructor
  · intro address answers lasting
    have listed : address ∈ addresses :=
      CacheAside.served_of_lasting soon served fun before after split past bound order =>
        mem_getChunkNodeAddresses.mpr (lasting before after split past bound)
    exact isSome_getChunkData listed answers
  · intro bytes read
    obtain ⟨position, address, listed, answer⟩ := getChunkData_eq_some read
    obtain ⟨time, ⟨before, after, split, rfl, order, rfl⟩, past, -, bound⟩ :=
      CacheAside.served_recent soon served
    exact ⟨position, address, before, after, answer, split, past, bound,
      mem_getChunkNodeAddresses.mp listed⟩

/-- A chunk is read from a node that has been offline for 59 seconds. -/
theorem chunk_read_from_node_offline_since_59_secs :
    ∃ position address before after, (fun _ _ => some [9] : Nat → String → Option Bytes)
        position address = some [9] ∧
      readersWithin = before ++ after ∧
      (addressReads [7] oneHolder true 0 before).now ≤ 59 * nanosPerSec ∧
      59 * nanosPerSec ≤ (addressReads [7] oneHolder true 0 before).now + 60 * nanosPerSec + 0 ∧
      ServesAt [7] (addressReads [7] oneHolder true 0 before).source address := by
  have listed : oneHolder.getChunkNodeAddresses .insertion [7] = ["a1"] := by decide
  have soon : FillsSoon (addressUse [7]) 0 oneHolder true 0 readersWithin := by
    simp [FillsSoon, EveryStep, readersWithin, CacheAside.FillsWithin, CacheAside.apply,
      CacheAside.start, CacheAside.next, CacheAside.cached]
  have served : .got ["a1"] (59 * nanosPerSec) ∈
      (addressReads [7] oneHolder true 0 readersWithin).readers := by
    simp [addressReads, readersWithin, CacheAside.apply, CacheAside.start, CacheAside.next,
      CacheAside.fill, CacheAside.cached, listUse, listed, ExpiringKey.get_lapsing, nanosPerSec,
      listTtl, Duration.toNanos, Duration.fromSecs]
  exact (chunk_read_from_recent_locations [7] oneHolder true 0 soon served
    fun _ _ => some [9]).2 [9] rfl

end CyxCloud.Metadata
