import CyxCloud.Rebalancer.Permits
import CyxCloud.Rebalancer.Transfer

/-!
# Locations that transfers add

While an executor works through a plan, a location is recorded only for a chunk and a target of the
plan, after the target has confirmed the chunk, and no location is lost.  A target leaves the list
of a task only once its location is recorded.
-/

namespace CyxCloud.Rebalancer

open CyxCloud.Core Library Metadata
open Node (ChunkStore Fault)

/-! ## Nodes that hold a chunk -/

section Holds

variable (blake3 : Bytes → Bytes)

/-- A store holds data that hash to an identifier. -/
def Holds (store : ChunkStore) (chunkId : Bytes) : Prop :=
  ∃ data, store chunkId = some data ∧ blake3 data = chunkId

variable {blake3} {store : ChunkStore} {chunkId : Bytes}

/-- Storing a chunk takes no chunk away, since the data have to hash to the identifier. -/
theorem Holds.storeChunk (holds : Holds blake3 store chunkId) (fault : Fault)
    (requestId data : Bytes) :
    Holds blake3 (Node.storeChunk blake3 store fault requestId data).1 chunkId := by
  unfold Node.storeChunk
  split
  · exact holds
  · rename_i storedId _
    split
    · exact holds
    · split
      · exact holds
      · rename_i hashed
        cases fault with
        | some cause => exact holds
        | none =>
            obtain ⟨kept, stored, kept_hash⟩ := holds
            by_cases same : chunkId = storedId
            · subst same
              exact ⟨data, Function.update_self _ _ _, not_not.mp hashed⟩
            · refine ⟨kept, ?_, kept_hash⟩
              exact (Function.update_of_ne same _ _).trans stored

/-- A node confirms a chunk exactly if it holds it. -/
theorem verifyChunk_valid {fault : Fault} {response : Node.VerifyChunkResponse}
    (answered : Node.verifyChunk blake3 store fault chunkId = .ok response) :
    response.valid = true ↔ Holds blake3 store chunkId := by
  unfold Node.verifyChunk at answered
  split at answered
  · cases answered
  · rename_i checkedId checked
    have same : checkedId = chunkId := by
      unfold Node.bytesToChunkId at checked
      split at checked
      · cases checked
      · exact (Except.ok.inj checked).symm
    subst same
    cases fault with
    | some cause => cases answered
    | none =>
        simp only [ChunkStore.get] at answered
        cases stored : store checkedId with
        | none =>
            rw [stored] at answered
            cases answered
            simp [Holds, stored]
        | some data =>
            rw [stored] at answered
            cases answered
            simp [Holds, stored]

end Holds

/-! ## What a repair keeps -/

/-- What a repair starts from. -/
structure Repair where
  blake3 : Bytes → Bytes
  isReachable : String → Bool
  db : Database
  plan : RepairPlan

namespace Repair

variable (repair : Repair)

/-- A node is the target of a task for the chunk, can be reached, and has confirmed that it holds
the chunk. -/
structure ConfirmedOn (world : TransferWorld) (chunkId : Bytes) (node : Metadata.Node) : Prop where
  known : node ∈ repair.db.nodes
  planned : ∃ task ∈ repair.plan.tasks, task.chunkId = chunkId ∧ node.peerId ∈ task.targetNodes
  reachable : repair.isReachable node.grpcAddress = true
  confirmed : (node.id, chunkId) ∈ world.confirmations
  holds : Holds repair.blake3 (world.stores node.grpcAddress) chunkId

/-- The chunk is recorded as stored on the node of a peer that can be reached. -/
def Located (world : TransferWorld) (chunkId : Bytes) (peerId : String) : Prop :=
  ∃ node ∈ repair.db.nodes, node.peerId = peerId ∧ repair.isReachable node.grpcAddress = true ∧
    world.db.storedOn chunkId node.id

/-- Every request in flight that records a location is for a confirmed one, the locations are the
former ones and confirmed ones, and none is lost. -/
structure WorldSound (world : TransferWorld) : Prop where
  extended : Database.Extends repair.db world.db
  unique : (world.db.chunkLocations.map Database.locationKey).Nodup
  rows : ∀ row ∈ world.db.chunkLocations, row ∈ repair.db.chunkLocations ∨
    row.status = .stored ∧
      ∃ node, node.id = row.nodeId ∧ repair.ConfirmedOn world row.chunkId node
  kept : ∀ row ∈ repair.db.chunkLocations, ∃ now ∈ world.db.chunkLocations,
    now.chunkId = row.chunkId ∧ now.nodeId = row.nodeId ∧ (now = row ∨ now.status = .stored)
  inFlight : ∀ chunkId nodeId, Request.upsertLocation chunkId nodeId ∈ world.inFlight →
    ∃ node, node.id = nodeId ∧ repair.ConfirmedOn world chunkId node

/-- A later world: no stored location, confirmation or chunk is lost. -/
structure Grows (before after : TransferWorld) : Prop where
  extended : Database.Extends before.db after.db
  confirmations : before.confirmations ⊆ after.confirmations
  holds : ∀ address chunkId, Holds repair.blake3 (before.stores address) chunkId →
    Holds repair.blake3 (after.stores address) chunkId

variable {repair} {before after world : TransferWorld} {chunkId : Bytes}

theorem Grows.refl (world : TransferWorld) : repair.Grows world world :=
  ⟨.refl _, List.Subset.refl _, fun _ _ holds => holds⟩

theorem ConfirmedOn.mono {node : Metadata.Node}
    (confirmed : repair.ConfirmedOn before chunkId node) (grows : repair.Grows before after) :
    repair.ConfirmedOn after chunkId node :=
  { confirmed with
    confirmed := grows.confirmations confirmed.confirmed
    holds := grows.holds _ _ confirmed.holds }

theorem Located.mono {peerId : String} (located : repair.Located before chunkId peerId)
    (grows : repair.Grows before after) : repair.Located after chunkId peerId := by
  obtain ⟨node, known, peer_eq, reachable, stored⟩ := located
  exact ⟨node, known, peer_eq, reachable, grows.extended.stored stored⟩

/-- The world stays sound where the locations stay the same and requests in flight are for
confirmed locations. -/
theorem WorldSound.of_same (sound : repair.WorldSound before) (grows : repair.Grows before after)
    (locations : after.db.chunkLocations = before.db.chunkLocations)
    (requests : ∀ chunkId nodeId, Request.upsertLocation chunkId nodeId ∈ after.inFlight →
      ∃ node, node.id = nodeId ∧ repair.ConfirmedOn before chunkId node) :
    repair.WorldSound after where
  extended := sound.extended.trans grows.extended
  unique := by
    rw [locations]
    exact sound.unique
  rows := by
    rw [locations]
    intro row member
    rcases sound.rows row member with former | ⟨stored, node, node_eq, confirmed⟩
    · exact .inl former
    · exact .inr ⟨stored, node, node_eq, confirmed.mono grows⟩
  kept := by
    rw [locations]
    exact sound.kept
  inFlight := by
    intro chunkId nodeId member
    obtain ⟨node, node_eq, confirmed⟩ := requests chunkId nodeId member
    exact ⟨node, node_eq, confirmed.mono grows⟩

/-! ## Requests -/

theorem incrementChunkReplicas_cases (db : Database) (chunkId : Bytes) :
    ∃ chunks, (db.incrementChunkReplicas chunkId).1 = { db with chunks } := by
  unfold Database.incrementChunkReplicas
  split
  · exact ⟨_, rfl⟩
  · exact ⟨_, rfl⟩

theorem grows_send (world : TransferWorld) (request : Request) :
    repair.Grows world (world.send request) :=
  ⟨.refl _, List.Subset.refl _, fun _ _ holds => holds⟩

theorem grows_confirm (world : TransferWorld) (nodeId : Uuid) (chunkId : Bytes) :
    repair.Grows world (world.confirm nodeId chunkId) :=
  ⟨.refl _, List.subset_append_left _ _, fun _ _ holds => holds⟩

theorem grows_storeAt (world : TransferWorld) (fault : Fault) (address : String)
    (chunkId data : Bytes) :
    repair.Grows world (world.storeAt repair.blake3 fault address chunkId data).1 := by
  refine ⟨.refl _, List.Subset.refl _, ?_⟩
  intro other otherId holds
  simp only [TransferWorld.storeAt]
  by_cases same : other = address
  · subst same
    rw [Function.update_self]
    exact holds.storeChunk fault chunkId data
  · rw [Function.update_of_ne same]
    exact holds

theorem grows_upsertLocation (world : TransferWorld) (chunkId : Bytes) (nodeId : Uuid) :
    repair.Grows world (world.upsertLocation chunkId nodeId).1 := by
  unfold TransferWorld.upsertLocation
  split
  · exact ⟨world.db.upsertLocation_extends chunkId nodeId, List.Subset.refl _,
      fun _ _ holds => holds⟩
  · exact .refl world

theorem grows_incrementReplicas (world : TransferWorld) (chunkId : Bytes) :
    repair.Grows world (world.incrementReplicas chunkId).1 := by
  obtain ⟨chunks, counted⟩ := incrementChunkReplicas_cases world.db chunkId
  simp only [TransferWorld.incrementReplicas, counted]
  exact ⟨⟨rfl, rfl, rfl, id⟩, List.Subset.refl _, fun _ _ holds => holds⟩

theorem grows_activateChunk (world : TransferWorld) (chunkId : Bytes) :
    repair.Grows world (world.activateChunk chunkId) :=
  ⟨⟨rfl, rfl, rfl, id⟩, List.Subset.refl _, fun _ _ holds => holds⟩

theorem WorldSound.send (sound : repair.WorldSound world) {request : Request}
    (confirmed : ∀ chunkId nodeId, request = .upsertLocation chunkId nodeId →
      ∃ node, node.id = nodeId ∧ repair.ConfirmedOn world chunkId node) :
    repair.WorldSound (world.send request) := by
  refine sound.of_same (grows_send world request) rfl ?_
  intro chunkId nodeId member
  rcases List.mem_append.mp member with earlier | sent
  · exact sound.inFlight chunkId nodeId earlier
  · exact confirmed chunkId nodeId (List.mem_singleton.mp sent).symm

theorem WorldSound.storeAt (sound : repair.WorldSound world) (fault : Fault) (address : String)
    (chunkId data : Bytes) :
    repair.WorldSound (world.storeAt repair.blake3 fault address chunkId data).1 :=
  sound.of_same (grows_storeAt world fault address chunkId data) rfl sound.inFlight

theorem WorldSound.incrementReplicas (sound : repair.WorldSound world) (chunkId : Bytes) :
    repair.WorldSound (world.incrementReplicas chunkId).1 := by
  refine sound.of_same (grows_incrementReplicas world chunkId) ?_ sound.inFlight
  obtain ⟨chunks, counted⟩ := incrementChunkReplicas_cases world.db chunkId
  simp only [TransferWorld.incrementReplicas, counted]

/-- A confirmed location may be recorded. -/
theorem WorldSound.upsertLocation (sound : repair.WorldSound world) {node : Metadata.Node}
    (confirmed : repair.ConfirmedOn world chunkId node) :
    repair.WorldSound (world.upsertLocation chunkId node.id).1 := by
  have grows := @grows_upsertLocation repair world chunkId node.id
  unfold TransferWorld.upsertLocation at grows ⊢
  split
  · rename_i known
    rw [if_pos known] at grows
    have still := confirmed.mono grows
    refine
      { extended := sound.extended.trans grows.extended
        unique := ?_
        rows := ?_
        kept := ?_
        inFlight := ?_ }
    · exact Database.upsertLocation_unique sound.unique chunkId node.id
    · intro row member
      rcases Database.mem_upsertLocation member with earlier | ⟨rfl, node_eq, stored⟩
      · rcases sound.rows row earlier with former | ⟨stored, other, other_eq, other_confirmed⟩
        · exact .inl former
        · exact .inr ⟨stored, other, other_eq, other_confirmed.mono grows⟩
      · exact .inr ⟨stored, node, node_eq.symm, still⟩
    · intro row member
      obtain ⟨now, now_mem, chunk_eq, node_eq, same⟩ := sound.kept row member
      obtain ⟨later, later_mem, later_chunk, later_node, later_same⟩ :=
        world.db.upsertLocation_keeps chunkId node.id now_mem
      refine ⟨later, later_mem, later_chunk.trans chunk_eq, later_node.trans node_eq, ?_⟩
      rcases later_same with rfl | stored
      · exact same
      · exact .inr stored
    · intro otherId nodeId member
      obtain ⟨other, node_eq, other_confirmed⟩ := sound.inFlight otherId nodeId member
      exact ⟨other, node_eq, other_confirmed.mono grows⟩
  · exact sound

/-- A request in flight may arrive at any time. -/
theorem WorldSound.perform (sound : repair.WorldSound world) {request : Request}
    (confirmed : ∀ chunkId nodeId, request = .upsertLocation chunkId nodeId →
      ∃ node, node.id = nodeId ∧ repair.ConfirmedOn world chunkId node) (fault : Fault) :
    repair.WorldSound (world.perform repair.blake3 repair.isReachable fault request) ∧
      repair.Grows world (world.perform repair.blake3 repair.isReachable fault request) := by
  cases request with
  | storeChunk address chunkId data =>
      simp only [TransferWorld.perform]
      split
      · exact ⟨sound.storeAt fault address chunkId data,
          grows_storeAt world fault address chunkId data⟩
      · exact ⟨sound, .refl world⟩
  | upsertLocation chunkId nodeId =>
      obtain ⟨node, rfl, on_node⟩ := confirmed chunkId nodeId rfl
      exact ⟨sound.upsertLocation on_node, grows_upsertLocation world chunkId node.id⟩
  | incrementReplicas chunkId =>
      exact ⟨sound.incrementReplicas chunkId, grows_incrementReplicas world chunkId⟩
  | activateChunk chunkId =>
      exact ⟨sound.of_same (grows_activateChunk world chunkId) rfl sound.inFlight,
        grows_activateChunk world chunkId⟩

/-! ## Transfers -/

/-- What a transfer to a peer has achieved at a stage. -/
def StageSound (repair : Repair) (world : TransferWorld) (chunkId : Bytes) (peerId : String) :
    Stage → Prop
  | .sourceNode | .targetNode _ => True
  | .getChunk _ target _ | .storeChunk target _ _ | .verifyChunk target _ =>
      target ∈ repair.db.nodes ∧ target.peerId = peerId
  | .upsertLocation target => target.peerId = peerId ∧ repair.ConfirmedOn world chunkId target
  | .incrementReplicas target | .activateChunk target =>
      target.peerId = peerId ∧ repair.ConfirmedOn world chunkId target ∧
        world.db.storedOn chunkId target.id

/-- What a transfer to a peer achieves with a reply. -/
def ContinuationSound (repair : Repair) (world : TransferWorld) (chunkId : Bytes)
    (peerId : String) : Continuation → Prop
  | .next stage => repair.StageSound world chunkId peerId stage
  | .done (.ok ()) => repair.Located world chunkId peerId
  | .done (.error _) => True

theorem StageSound.mono {peerId : String} {stage : Stage}
    (sound : repair.StageSound before chunkId peerId stage) (grows : repair.Grows before after) :
    repair.StageSound after chunkId peerId stage := by
  cases stage with
  | upsertLocation target => exact ⟨sound.1, sound.2.mono grows⟩
  | incrementReplicas target | activateChunk target =>
      exact ⟨sound.1, sound.2.1.mono grows, grows.extended.stored sound.2.2⟩
  | _ => exact sound

theorem continuationSound_again {peerId : String} {stage : Nat → Stage}
    (sound : ∀ attempt, repair.StageSound world chunkId peerId (stage attempt)) (attempt : Nat) :
    repair.ContinuationSound world chunkId peerId (again attempt stage) := by
  unfold again
  split
  · exact sound _
  · trivial

theorem upsertLocation_ok {nodeId : Uuid}
    (recorded : world.upsertLocation chunkId nodeId = (after, .ok ())) :
    after.db.storedOn chunkId nodeId := by
  unfold TransferWorld.upsertLocation at recorded
  split at recorded
  · cases recorded
    exact world.db.upsertLocation_storedOn chunkId nodeId
  · cases recorded

/-- A request that is left at a stage may arrive later. -/
theorem WorldSound.leave {peerId : String} {stage : Stage} (sound : repair.WorldSound world)
    (stage_sound : repair.StageSound world chunkId peerId stage) :
    repair.WorldSound (world.leave chunkId stage) ∧
      repair.Grows world (world.leave chunkId stage) := by
  unfold TransferWorld.leave
  split
  · exact ⟨sound, .refl world⟩
  · rename_i request left
    refine ⟨sound.send ?_, grows_send world request⟩
    rintro otherId nodeId rfl
    cases stage with
    | upsertLocation target =>
        cases left
        exact ⟨target, rfl, stage_sound.2⟩
    | _ => cases left

section Step

variable {peerId : String}

/-- What one reply does to a transfer. -/
structure Sound (repair : Repair) (world : TransferWorld) (chunkId : Bytes) (peerId : String)
    (result : TransferWorld × Continuation) : Prop where
  sound : repair.WorldSound result.1
  grows : repair.Grows world result.1
  continuation : repair.ContinuationSound result.1 chunkId peerId result.2

theorem Sound.unchanged (sound : repair.WorldSound world) {continuation : Continuation}
    (continues : repair.ContinuationSound world chunkId peerId continuation) :
    repair.Sound world chunkId peerId (world, continuation) :=
  ⟨sound, .refl world, continues⟩

theorem sound_lost {stage : Stage} (sound : repair.WorldSound world)
    (stage_sound : repair.StageSound world chunkId peerId stage) {continuation : Continuation}
    (continues : ∀ later, repair.Grows world later →
      repair.ContinuationSound later chunkId peerId continuation) :
    repair.Sound world chunkId peerId (world.leave chunkId stage, continuation) := by
  obtain ⟨left, grows⟩ := sound.leave stage_sound
  exact ⟨left, grows, continues _ grows⟩

theorem sound_storeChunk (sound : repair.WorldSound world) {target : Metadata.Node} {data : Bytes}
    {attempt : Nat}
    (stage_sound : repair.StageSound world chunkId peerId (.storeChunk target data attempt))
    (sourcePeerId : String) (reply : Reply) :
    repair.Sound world chunkId peerId (transferChunk repair.blake3 repair.isReachable world chunkId
      sourcePeerId peerId (.storeChunk target data attempt) reply) := by
  have once_more : ∀ later, repair.ContinuationSound later chunkId peerId
      (again attempt (.storeChunk target data)) := by
    intro later
    apply continuationSound_again
    intro _
    exact stage_sound
  cases reply with
  | lost => exact sound_lost sound stage_sound fun later _ => once_more later
  | answered fault =>
      simp only [transferChunk]
      split
      · have stored := sound.storeAt fault target.grpcAddress chunkId data
        have grows := @grows_storeAt repair world fault target.grpcAddress chunkId data
        split
        · rename_i answered
          rw [answered] at stored grows
          split
          · exact ⟨stored, grows, stage_sound⟩
          · exact ⟨stored, grows, once_more _⟩
        · rename_i answered
          rw [answered] at stored grows
          exact ⟨stored, grows, once_more _⟩
      · exact .unchanged sound (once_more world)

theorem sound_verifyChunk (sound : repair.WorldSound world) {target : Metadata.Node}
    {attempt : Nat}
    (planned : ∃ task ∈ repair.plan.tasks, task.chunkId = chunkId ∧ peerId ∈ task.targetNodes)
    (stage_sound : repair.StageSound world chunkId peerId (.verifyChunk target attempt))
    (sourcePeerId : String) (reply : Reply) :
    repair.Sound world chunkId peerId (transferChunk repair.blake3 repair.isReachable world chunkId
      sourcePeerId peerId (.verifyChunk target attempt) reply) := by
  have once_more : repair.ContinuationSound world chunkId peerId
      (again attempt (.verifyChunk target)) := by
    apply continuationSound_again
    intro _
    exact stage_sound
  cases reply with
  | lost => exact .unchanged sound once_more
  | answered fault =>
      simp only [transferChunk]
      split
      · rename_i reachable
        split
        · rename_i response answered
          split
          · rename_i valid
            have grows := @grows_confirm repair world target.id chunkId
            refine ⟨sound.of_same grows rfl sound.inFlight, grows, stage_sound.2, ?_⟩
            exact
              { known := stage_sound.1
                planned := stage_sound.2 ▸ planned
                reachable
                confirmed := List.mem_append_right _ (List.mem_singleton_self _)
                holds := (verifyChunk_valid answered).mp valid }
          · exact .unchanged sound trivial
        · exact .unchanged sound once_more
      · exact .unchanged sound once_more

theorem sound_getChunk (sound : repair.WorldSound world) {source target : Metadata.Node}
    {attempt : Nat}
    (stage_sound : repair.StageSound world chunkId peerId (.getChunk source target attempt))
    (sourcePeerId : String) (reply : Reply) :
    repair.Sound world chunkId peerId (transferChunk repair.blake3 repair.isReachable world chunkId
      sourcePeerId peerId (.getChunk source target attempt) reply) := by
  have once_more : repair.ContinuationSound world chunkId peerId
      (again attempt (.getChunk source target)) := by
    apply continuationSound_again
    intro _
    exact stage_sound
  cases reply with
  | lost => exact .unchanged sound once_more
  | answered fault =>
      simp only [transferChunk]
      split
      · split
        · exact .unchanged sound stage_sound
        · exact .unchanged sound trivial
        · exact .unchanged sound once_more
      · exact .unchanged sound once_more

/-- With a reply a transfer records no location but a confirmed one, and it ends well only once the
location of its target is recorded. -/
theorem sound_transferChunk (sound : repair.WorldSound world) {stage : Stage}
    (planned : ∃ task ∈ repair.plan.tasks, task.chunkId = chunkId ∧ peerId ∈ task.targetNodes)
    (stage_sound : repair.StageSound world chunkId peerId stage) (sourcePeerId : String)
    (reply : Reply) :
    repair.Sound world chunkId peerId (transferChunk repair.blake3 repair.isReachable world chunkId
      sourcePeerId peerId stage reply) := by
  cases stage with
  | getChunk source target attempt => exact sound_getChunk sound stage_sound sourcePeerId reply
  | storeChunk target data attempt => exact sound_storeChunk sound stage_sound sourcePeerId reply
  | verifyChunk target attempt =>
      exact sound_verifyChunk sound planned stage_sound sourcePeerId reply
  | sourceNode =>
      cases reply with
      | lost => exact .unchanged sound trivial
      | answered fault =>
          simp only [transferChunk]
          split
          · exact .unchanged sound trivial
          · exact .unchanged sound trivial
  | targetNode source =>
      cases reply with
      | lost => exact .unchanged sound trivial
      | answered fault =>
          simp only [transferChunk]
          split
          · exact .unchanged sound trivial
          · rename_i target found
            split
            · exact .unchanged sound trivial
            · refine .unchanged sound ⟨?_, by simpa using List.find?_some found⟩
              rw [← sound.extended.nodes_eq]
              exact List.mem_of_find?_eq_some found
  | upsertLocation target =>
      cases reply with
      | lost => exact sound_lost sound stage_sound fun _ _ => trivial
      | answered fault =>
          have recorded := sound.upsertLocation stage_sound.2
          have grows := @grows_upsertLocation repair world chunkId target.id
          simp only [transferChunk]
          split
          · rename_i answered
            rw [answered] at recorded grows
            exact ⟨recorded, grows, stage_sound.1, stage_sound.2.mono grows,
              upsertLocation_ok answered⟩
          · rename_i answered
            rw [answered] at recorded grows
            exact ⟨recorded, grows, trivial⟩
  | incrementReplicas target =>
      cases reply with
      | lost => exact sound_lost sound stage_sound fun _ _ => trivial
      | answered fault =>
          have counted := sound.incrementReplicas chunkId
          have grows := @grows_incrementReplicas repair world chunkId
          simp only [transferChunk]
          split
          · rename_i answered
            rw [answered] at counted grows
            have later := stage_sound.mono grows
            split
            · exact ⟨counted, grows, later⟩
            · exact ⟨counted, grows, target, later.2.1.known, later.1, later.2.1.reachable,
                later.2.2⟩
          · rename_i answered
            rw [answered] at counted grows
            exact ⟨counted, grows, trivial⟩
  | activateChunk target =>
      cases reply with
      | lost => exact sound_lost sound stage_sound fun _ _ => trivial
      | answered fault =>
          have grows := @grows_activateChunk repair world chunkId
          have later := stage_sound.mono grows
          exact ⟨sound.of_same grows rfl sound.inFlight, grows, target, later.2.1.known, later.1,
            later.2.1.reachable, later.2.2⟩

end Step

/-! ## Calls and tasks -/

/-- The chunk and the targets of a call are those of its task, and the targets that succeeded are
recorded. -/
structure CallSound (repair : Repair) (world : TransferWorld) (task : RepairTask)
    (call : TransferCall) : Prop where
  chunkId_eq : call.chunkId = task.chunkId
  remaining : call.remaining ⊆ task.targetNodes
  successful : ∀ peerId ∈ call.successful, repair.Located world task.chunkId peerId
  stage : ∀ peerId rest, call.remaining = peerId :: rest →
    repair.StageSound world task.chunkId peerId call.stage

/-- What a call achieves: it goes on, or the targets that it returns are recorded. -/
def ResumeSound (repair : Repair) (world : TransferWorld) (task : RepairTask) :
    TransferCall ⊕ Except String (List String) → Prop
  | .inl call => repair.CallSound world task call
  | .inr (.ok succeeded) => ∀ peerId ∈ succeeded, repair.Located world task.chunkId peerId
  | .inr (.error _) => True

/-- A target that is no longer left to a task is recorded. -/
structure AttemptsSound (repair : Repair) (world : TransferWorld) (task : RepairTask)
    (attempts : Attempts) : Prop where
  left : attempts.targetsFailed ⊆ task.targetNodes
  located : ∀ peerId ∈ task.targetNodes, peerId ∈ attempts.targetsFailed ∨
    repair.Located world task.chunkId peerId

/-- All targets of a task that is reported as successful are recorded. -/
def ResultSound (repair : Repair) (world : TransferWorld) (task : RepairTask)
    (result : Option TaskResult) : Prop :=
  ∀ reported, result = some reported → reported.success = true →
    ∀ peerId ∈ task.targetNodes, repair.Located world task.chunkId peerId

/-- What a task has achieved where it stands. -/
def PhaseSound (repair : Repair) (world : TransferWorld) (task : RepairTask) :
    Phase TransferCall → Prop
  | .transfer _ attempts call =>
      repair.AttemptsSound world task attempts ∧ repair.CallSound world task call
  | .reportRetry _ attempts | .sleep _ attempts | .reportCompletion _ attempts =>
      repair.AttemptsSound world task attempts
  | .returnSource _ result | .returnGlobal result | .finished result =>
      repair.ResultSound world task result
  | _ => True

section Monotone

variable {task : RepairTask} (grows : repair.Grows before after)

include grows

theorem CallSound.mono {call : TransferCall} (sound : repair.CallSound before task call) :
    repair.CallSound after task call :=
  { sound with
    successful := fun peerId member => (sound.successful peerId member).mono grows
    stage := fun peerId rest listed => (sound.stage peerId rest listed).mono grows }

theorem AttemptsSound.mono {attempts : Attempts}
    (sound : repair.AttemptsSound before task attempts) :
    repair.AttemptsSound after task attempts :=
  { sound with
    located := fun peerId member =>
      (sound.located peerId member).imp_right fun located => located.mono grows }

theorem PhaseSound.mono {phase : Phase TransferCall}
    (sound : repair.PhaseSound before task phase) : repair.PhaseSound after task phase := by
  cases phase with
  | transfer _ attempts call => exact ⟨sound.1.mono grows, sound.2.mono grows⟩
  | reportRetry _ attempts | sleep _ attempts | reportCompletion _ attempts =>
      exact AttemptsSound.mono grows sound
  | returnSource _ result | returnGlobal result | finished result =>
      intro reported result_eq success peerId member
      exact (sound reported result_eq success peerId member).mono grows
  | _ => trivial

end Monotone

section Calls

variable {task : RepairTask} (task_mem : task ∈ repair.plan.tasks)

include task_mem

theorem resume_sound (sound : repair.WorldSound world) {call : TransferCall}
    (call_sound : repair.CallSound world task call) {event : TransferEvent}
    {result : TransferCall ⊕ Except String (List String)}
    (resumed : (createTransferFn repair.blake3 repair.isReachable).resume world call event =
      (after, result)) :
    repair.WorldSound after ∧ repair.Grows world after ∧
      repair.ResumeSound after task result := by
  cases event with
  | arrival index fault =>
      cases resumed
      exact ⟨sound, .refl _, call_sound⟩
  | reply reply =>
      simp only [createTransferFn, transferToMultiple] at resumed
      split at resumed
      · cases resumed
        refine ⟨sound, .refl _, ?_⟩
        split
        · trivial
        · exact call_sound.successful
      · rename_i peerId rest listed
        have targeted : peerId ∈ task.targetNodes :=
          call_sound.remaining (by rw [listed]; exact List.mem_cons_self)
        have rest_targeted : rest ⊆ task.targetNodes := by
          intro other member
          exact call_sound.remaining (by rw [listed]; exact List.mem_cons_of_mem _ member)
        have replied := sound_transferChunk sound
          ⟨task, task_mem, rfl, targeted⟩ (call_sound.stage peerId rest listed) call.source reply
        rw [← call_sound.chunkId_eq] at replied
        -- The call goes on with its first target, or with the rest once that target is done.
        split at resumed
        · rename_i stage answered
          cases resumed
          rw [answered, call_sound.chunkId_eq] at replied
          refine ⟨replied.sound, replied.grows, call_sound.chunkId_eq, call_sound.remaining,
            (call_sound.mono replied.grows).successful, ?_⟩
          intro other others same
          obtain ⟨rfl, rfl⟩ := List.cons.inj (listed.symm.trans same)
          exact replied.continuation
        · rename_i answered
          cases resumed
          rw [answered, call_sound.chunkId_eq] at replied
          refine ⟨replied.sound, replied.grows, call_sound.chunkId_eq, rest_targeted, ?_,
            fun _ _ _ => trivial⟩
          intro other member
          rcases List.mem_append.mp member with earlier | last
          · exact (call_sound.mono replied.grows).successful other earlier
          · rw [List.mem_singleton.mp last]
            exact replied.continuation
        · rename_i answered
          cases resumed
          rw [answered, call_sound.chunkId_eq] at replied
          exact ⟨replied.sound, replied.grows, call_sound.chunkId_eq, rest_targeted,
            (call_sound.mono replied.grows).successful, fun _ _ _ => trivial⟩

end Calls

/-- A call that is dropped may leave a request in flight. -/
theorem abandon_sound {task : RepairTask} (sound : repair.WorldSound world) {call : TransferCall}
    (call_sound : repair.CallSound world task call) :
    repair.WorldSound ((createTransferFn repair.blake3 repair.isReachable).abandon world call) ∧
      repair.Grows world
        ((createTransferFn repair.blake3 repair.isReachable).abandon world call) := by
  simp only [createTransferFn]
  split
  · exact ⟨sound, .refl world⟩
  · rename_i peerId rest listed
    rw [call_sound.chunkId_eq]
    exact sound.leave (call_sound.stage peerId rest listed)

theorem background_sound (sound : repair.WorldSound world) (event : TransferEvent) :
    repair.WorldSound ((createTransferFn repair.blake3 repair.isReachable).background world event) ∧
      repair.Grows world
        ((createTransferFn repair.blake3 repair.isReachable).background world event) := by
  simp only [createTransferFn]
  split
  · exact ⟨sound, .refl world⟩
  · rename_i index fault
    split
    · exact ⟨sound, .refl world⟩
    · rename_i request found
      have taken_grows : repair.Grows world
          { world with inFlight := world.inFlight.eraseIdx index } :=
        ⟨.refl _, List.Subset.refl _, fun _ _ holds => holds⟩
      have taken : repair.WorldSound
          { world with inFlight := world.inFlight.eraseIdx index } :=
        sound.of_same taken_grows rfl fun chunkId nodeId member =>
          sound.inFlight chunkId nodeId (List.mem_of_mem_eraseIdx member)
      have confirmed : ∀ chunkId nodeId, request = .upsertLocation chunkId nodeId →
          ∃ node, node.id = nodeId ∧ repair.ConfirmedOn
            { world with inFlight := world.inFlight.eraseIdx index } chunkId node := by
        rintro chunkId nodeId rfl
        obtain ⟨node, node_eq, on_node⟩ :=
          sound.inFlight chunkId nodeId (List.mem_of_getElem? found)
        exact ⟨node, node_eq, on_node.mono taken_grows⟩
      obtain ⟨arrived, grows⟩ := taken.perform confirmed fault
      exact ⟨arrived, grows.extended, grows.confirmations, grows.holds⟩

end Repair

end CyxCloud.Rebalancer
