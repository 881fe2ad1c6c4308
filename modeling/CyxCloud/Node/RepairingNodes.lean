import CyxCloud.Library.Pools
import CyxCloud.Node.CommandExecutor

/-!
# Nodes that repair each other

The commands of `cyxcloud-node/src/command_executor.rs` statement by statement, on nodes that all
run this program: what a source sends is what its own store holds when the answer leaves.  Commands
on any nodes and requests of others run in any interleaving.
-/

namespace CyxCloud.Node

open CyxCloud.Core Library

/-! ## Commands under way -/

/-- A command that a node executes. -/
inductive RunningCommand where
  /-- A repair looks for the chunk in its own store. -/
  | checking (node : String) (chunkId : Bytes) (sources : List String)
  /-- A repair asks the sources that are left of all. -/
  | fetching (node : String) (chunkId : Bytes) (total : Nat) (sources : List String)
  /-- A repair stores what it got. -/
  | storing (node : String) (chunkId data : Bytes)
  | deleting (node : String) (chunkId : Bytes)
  /-- A transfer reads the chunk. -/
  | reading (node : String) (chunkId : Bytes) (target : String)
  /-- A transfer has attempts left to send the chunk. -/
  | sending (chunkId data : Bytes) (target : String) (attempts : Nat)
  | ended (result : CommandResult)
  deriving DecidableEq

/-- What a command meets next. -/
inductive CommandEvent where
  /-- A call of the node's own store. -/
  | storage (fault : Fault)
  | deletion (existsFault deleteFault : Fault)
  /-- The next source answers. -/
  | answered (fault : Fault)
  /-- The next source cannot be asked. -/
  | unreachable
  /-- An attempt to send a chunk. -/
  | attempt (attempt : Attempt)
  deriving DecidableEq

/-- A command ends, with an error or without. -/
def endedWith (commandType : CommandType) (error : Option String) : RunningCommand :=
  .ended
    { commandType
      success := error.isNone
      error }

namespace RunningCommand

/-- A repair command arrives. -/
def repairChunk (node : String) (requestId : Bytes) (sourceNodes : List String) : RunningCommand :=
  match parseChunkId requestId with
  | some chunkId => .checking node chunkId sourceNodes
  | none => endedWith .repairChunk (some "Invalid chunk ID")

/-- A delete command arrives. -/
def deleteChunk (node : String) (requestId : Bytes) : RunningCommand :=
  match parseChunkId requestId with
  | some chunkId => .deleting node chunkId
  | none => endedWith .deleteChunk (some "Invalid chunk ID")

/-- A transfer command arrives. -/
def transferChunk (node : String) (requestId : Bytes) (targetNode : String) : RunningCommand :=
  match parseChunkId requestId with
  | some chunkId => .reading node chunkId targetNode
  | none => endedWith .transferChunk (some "Invalid chunk ID")

/-- A repair that has not found the chunk yet. -/
def fetchFrom (node : String) (chunkId : Bytes) (total : Nat) : List String → RunningCommand
  | [] =>
      endedWith .repairChunk (some ("Failed to fetch: " ++
        if total = 0 then "No source nodes provided"
        else "Failed to fetch chunk from any of " ++ toString total ++ " sources"))
  | sources => .fetching node chunkId total sources

/-- A transfer whose attempt has failed. -/
def sendAgain (chunkId data : Bytes) (target cause : String) : Nat → RunningCommand
  | 0 => endedWith .transferChunk (some ("Failed to transfer: " ++ cause))
  | attempts => .sending chunkId data target attempts

/-- A command goes on. -/
def step (blake3 : Bytes → Bytes) (stores : Stores) :
    RunningCommand → CommandEvent → Option (Stores × RunningCommand)
  | .checking node chunkId sources, .storage fault =>
      match (stores node).chunkExists fault chunkId with
      | .ok true => some (stores, endedWith .repairChunk none)
      | .ok false | .error _ => some (stores, fetchFrom node chunkId sources.length sources)
  | .fetching node chunkId total (source :: rest), .answered fault =>
      match getChunk (stores source) fault chunkId with
      | .ok (some data) => some (stores, .storing node chunkId data)
      | .ok none | .error _ => some (stores, fetchFrom node chunkId total rest)
  | .fetching node chunkId total (_ :: rest), .unreachable =>
      some (stores, fetchFrom node chunkId total rest)
  | .storing node chunkId data, .storage fault =>
      match (stores node).put fault chunkId data with
      | (after, .ok ()) => some (Function.update stores node after, endedWith .repairChunk none)
      | (after, .error cause) =>
          some (Function.update stores node after,
            endedWith .repairChunk (some ("Failed to store: " ++ cause)))
  | .deleting node chunkId, .deletion existsFault deleteFault =>
      match (stores node).delete existsFault deleteFault chunkId with
      | (after, .ok _) => some (Function.update stores node after, endedWith .deleteChunk none)
      | (after, .error cause) =>
          some (Function.update stores node after,
            endedWith .deleteChunk (some ("Failed to delete: " ++ cause)))
  | .reading node chunkId target, .storage fault =>
      match (stores node).get fault chunkId with
      | .ok (some data) => some (stores, .sending chunkId data target (MAX_RETRIES + 1))
      | .ok none => some (stores, endedWith .transferChunk (some "Chunk not found"))
      | .error cause => some (stores, endedWith .transferChunk (some ("Failed to read: " ++ cause)))
  | .sending chunkId data target (left + 1), .attempt attempt =>
      if attempt.arrives then
        match storeChunk blake3 (stores target) attempt.fault chunkId data with
        | (after, .ok response) =>
            some (Function.update stores target after,
              if response.success && attempt.answered then endedWith .transferChunk none
              else sendAgain chunkId data target attempt.cause left)
        | (after, .error _) =>
            some (Function.update stores target after,
              sendAgain chunkId data target attempt.cause left)
      else
        some (stores, sendAgain chunkId data target attempt.cause left)
  | _, _ => none

end RunningCommand

/-- The stores of all nodes, and the commands that they execute. -/
abbrev Cluster := Pool Stores RunningCommand

/-- What happens among the nodes. -/
inductive ClusterStep where
  | repairCommand (node : String) (requestId : Bytes) (sourceNodes : List String)
  | deleteCommand (node : String) (requestId : Bytes)
  | transferCommand (node : String) (requestId : Bytes) (targetNode : String)
  | goOn (index : Nat) (event : CommandEvent)
  | storeRequest (node : String) (fault : Fault) (requestId data : Bytes)
  | deleteRequest (node : String) (existsFault deleteFault : Fault) (requestId : Bytes)
  deriving DecidableEq

namespace Cluster

/-- Nodes without chunks or commands. -/
def start : Cluster :=
  { shared := Stores.empty
    processes := [] }

/-- One step. -/
def apply (blake3 : Bytes → Bytes) (cluster : Cluster) : ClusterStep → Cluster
  | .repairCommand node requestId sourceNodes =>
      cluster.spawn (.repairChunk node requestId sourceNodes)
  | .deleteCommand node requestId => cluster.spawn (.deleteChunk node requestId)
  | .transferCommand node requestId targetNode =>
      cluster.spawn (.transferChunk node requestId targetNode)
  | .goOn index event => cluster.move (RunningCommand.step blake3) index event
  | .storeRequest node fault requestId data =>
      { cluster with
        shared := Function.update cluster.shared node
          (storeChunk blake3 (cluster.shared node) fault requestId data).1 }
  | .deleteRequest node existsFault deleteFault requestId =>
      { cluster with
        shared := Function.update cluster.shared node
          (Node.deleteChunk (cluster.shared node) existsFault deleteFault requestId).1 }

end Cluster

/-! ## What a command does -/

/-- The data of a command has the hash that it goes by. -/
def RunningCommand.Carries (blake3 : Bytes → Bytes) : RunningCommand → Prop
  | .storing _ chunkId data | .sending chunkId data _ _ => chunkId = blake3 data
  | .checking _ _ _ | .fetching _ _ _ _ | .deleting _ _ | .reading _ _ _ | .ended _ => True

/-- A command that succeeds has done what it says: the node that repairs and the target of a
transfer have the chunk, and a node that deletes does not. -/
def RunningCommand.Achieved (stores : Stores) : RunningCommand → Prop
  | .checking node chunkId _ | .fetching node chunkId _ _ | .storing node chunkId _
  | .sending chunkId _ node _ | .reading _ chunkId node => (stores node chunkId).isSome
  | .deleting node chunkId => stores node chunkId = none
  | .ended _ => False

/-- What a command does when it goes on: it keeps the stores and its data right, loses no chunk
unless it deletes it, and tells the truth when it succeeds. -/
structure RunningCommand.GoesOn (blake3 : Bytes → Bytes) (command : RunningCommand)
    (stores after : Stores) (moved : RunningCommand) : Prop where
  addressed : AllAddressed blake3 after
  carries : moved.Carries blake3
  keeps : ∀ node chunkId, (stores node chunkId).isSome →
    (after node chunkId).isSome ∨ command = .deleting node chunkId
  achieved : ∀ result, moved = .ended result → result.success = true → command.Achieved after

section Steps

variable {blake3 : Bytes → Bytes} {stores : Stores} {store : ChunkStore}

theorem chunkExists_eq_ok_true {fault : Fault} {chunkId : Bytes}
    (present : store.chunkExists fault chunkId = .ok true) : (store chunkId).isSome := by
  cases fault with
  | some cause => cases present
  | none => exact Except.ok.inj present

theorem getChunk_eq_found {fault : Fault} {chunkId data : Bytes}
    (sent : getChunk store fault chunkId = .ok (some data)) : store chunkId = some data := by
  rw [getChunk, bytesToChunkId] at sent
  split at sent
  · cases sent
  · rename_i id parsed
    split at parsed
    · cases parsed
    · obtain rfl := Except.ok.inj parsed
      cases fault with
      | some cause => cases sent
      | none => exact Except.ok.inj sent

theorem isSome_update {chunkId data other : Bytes} (held : (store other).isSome) :
    (Function.update store chunkId (some data) other).isSome := by
  by_cases same : other = chunkId
  · rw [same, Function.update_self]
    rfl
  · rwa [Function.update_of_ne same]

/-- A store request only adds chunks, and leaves the chunk in the store if it succeeds. -/
theorem storeChunk_keeps (blake3 : Bytes → Bytes) (store : ChunkStore) (fault : Fault)
    (requestId data : Bytes) :
    (∀ chunkId, (store chunkId).isSome →
      ((storeChunk blake3 store fault requestId data).1 chunkId).isSome) ∧
      ∀ response, (storeChunk blake3 store fault requestId data).2 = .ok response →
        response.success = true →
          ((storeChunk blake3 store fault requestId data).1 requestId).isSome := by
  by_cases long : requestId.length = 32
  · have parsed : bytesToChunkId requestId = .ok requestId := if_neg (not_not.mpr long)
    rw [storeChunk, parsed]
    dsimp only
    split
    · exact ⟨fun _ held => held, fun _ answered => by cases answered⟩
    · split
      · exact ⟨fun _ held => held, fun _ answered => by cases answered⟩
      · cases fault with
        | some cause =>
            refine ⟨fun _ held => held, fun response answered success => ?_⟩
            obtain rfl := Except.ok.inj answered
            cases success
        | none =>
            refine ⟨fun _ held => isSome_update held, fun _ _ _ => ?_⟩
            change (Function.update store requestId (some data) requestId).isSome
            rw [Function.update_self]
            rfl
  · have parsed : ∃ status, bytesToChunkId requestId = .error status := ⟨_, if_pos long⟩
    obtain ⟨status, parsed⟩ := parsed
    rw [storeChunk, parsed]
    exact ⟨fun _ held => held, fun _ answered => by cases answered⟩

/-- A deletion loses one chunk at most, and the store does not have it if it succeeds. -/
theorem delete_keeps (store : ChunkStore) (existsFault deleteFault : Fault) (chunkId : Bytes) :
    (∀ other, (store other).isSome →
      ((store.delete existsFault deleteFault chunkId).1 other).isSome ∨ other = chunkId) ∧
      ∀ deleted, (store.delete existsFault deleteFault chunkId).2 = .ok deleted →
        (store.delete existsFault deleteFault chunkId).1 chunkId = none := by
  cases existsFault with
  | some cause => exact ⟨fun _ held => .inl held, fun _ answered => by cases answered⟩
  | none =>
      cases stored : store chunkId with
      | none =>
          have same : store.delete none deleteFault chunkId = (store, .ok false) := by
            simp only [ChunkStore.delete, ChunkStore.chunkExists, stored, Option.isSome_none]
          rw [same]
          exact ⟨fun _ held => .inl held, fun _ _ => stored⟩
      | some data =>
          cases deleteFault with
          | some cause =>
              have same : store.delete none (some cause) chunkId = (store, .error cause) := by
                rw [ChunkStore.delete, ChunkStore.chunkExists, stored]
                rfl
              rw [same]
              exact ⟨fun _ held => .inl held, fun _ answered => by cases answered⟩
          | none =>
              have gone : store.delete none none chunkId =
                  (Function.update store chunkId none, .ok true) := by
                rw [ChunkStore.delete, ChunkStore.chunkExists, stored]
                rfl
              rw [gone]
              refine ⟨fun other held => ?_, fun _ _ => Function.update_self _ _ _⟩
              by_cases same : other = chunkId
              · exact .inr same
              · left
                change (Function.update store chunkId none other).isSome
                rwa [Function.update_of_ne same]

/-- A change of one store keeps the chunks that it keeps there. -/
theorem isSome_update_stores {node : String} {after : ChunkStore} {other : String} {id : Bytes}
    (held : (stores other id).isSome) {lost : Prop}
    (kept : (stores node id).isSome → (after id).isSome ∨ (node = other → lost)) :
    (Function.update stores node after other id).isSome ∨ lost := by
  by_cases same : other = node
  · subst same
    rw [Function.update_self]
    exact (kept held).imp_right fun loses => loses rfl
  · rw [Function.update_of_ne same]
    exact .inl held

theorem carries_fetchFrom (node : String) (chunkId : Bytes) (total : Nat) (sources : List String) :
    (RunningCommand.fetchFrom node chunkId total sources).Carries blake3 := by
  cases sources <;> trivial

theorem carries_sendAgain {chunkId data : Bytes} (hashed : chunkId = blake3 data)
    (target cause : String) (left : Nat) :
    (RunningCommand.sendAgain chunkId data target cause left).Carries blake3 := by
  cases left with
  | zero => trivial
  | succ left => exact hashed

/-- A repair that goes on to its sources has not succeeded. -/
theorem fetchFrom_not_success {node : String} {chunkId : Bytes} {total : Nat}
    {sources : List String} {result : CommandResult}
    (ended : RunningCommand.fetchFrom node chunkId total sources = .ended result) :
    result.success = false := by
  cases sources with
  | nil =>
      obtain rfl := RunningCommand.ended.inj ended
      rfl
  | cons source sources => cases ended

theorem sendAgain_not_success {chunkId data : Bytes} {target cause : String} {left : Nat}
    {result : CommandResult}
    (ended : RunningCommand.sendAgain chunkId data target cause left = .ended result) :
    result.success = false := by
  cases left with
  | zero =>
      obtain rfl := RunningCommand.ended.inj ended
      rfl
  | succ left => cases ended

/-- Going on without a change of the stores and without success. -/
theorem RunningCommand.GoesOn.quiet {command moved : RunningCommand}
    (addressed : AllAddressed blake3 stores) (carries : moved.Carries blake3)
    (unfinished : ∀ result, moved = .ended result → result.success = false) :
    command.GoesOn blake3 stores stores moved where
  addressed := addressed
  carries := carries
  keeps _ _ held := .inl held
  achieved result ended success := by
    rw [unfinished result ended] at success
    cases success

theorem endedWith_error_not_success {commandType : CommandType} {cause : String}
    {result : CommandResult} (ended : endedWith commandType (some cause) = .ended result) :
    result.success = false := by
  obtain rfl := RunningCommand.ended.inj ended
  rfl

theorem RunningCommand.goesOn_checking (addressed : AllAddressed blake3 stores) {node : String}
    {chunkId : Bytes} {sources : List String} {fault : Fault} {after : Stores}
    {moved : RunningCommand}
    (stepped : RunningCommand.step blake3 stores (.checking node chunkId sources)
      (.storage fault) = some (after, moved)) :
    RunningCommand.GoesOn blake3 (.checking node chunkId sources) stores after moved := by
  rw [RunningCommand.step] at stepped
  split at stepped
  · rename_i present
    obtain ⟨rfl, rfl⟩ := Prod.mk.inj (Option.some.inj stepped)
    exact
      { addressed
        carries := trivial
        keeps := fun _ _ held => .inl held
        achieved := fun _ _ _ => chunkExists_eq_ok_true present }
  · obtain ⟨rfl, rfl⟩ := Prod.mk.inj (Option.some.inj stepped)
    exact .quiet addressed (carries_fetchFrom _ _ _ _) fun _ => fetchFrom_not_success
  · obtain ⟨rfl, rfl⟩ := Prod.mk.inj (Option.some.inj stepped)
    exact .quiet addressed (carries_fetchFrom _ _ _ _) fun _ => fetchFrom_not_success

/-- What a source sends has the hash that it goes by. -/
theorem RunningCommand.goesOn_fetching (addressed : AllAddressed blake3 stores) {node : String}
    {chunkId : Bytes} {total : Nat} {source : String} {rest : List String} {fault : Fault}
    {after : Stores} {moved : RunningCommand}
    (stepped : RunningCommand.step blake3 stores (.fetching node chunkId total (source :: rest))
      (.answered fault) = some (after, moved)) :
    RunningCommand.GoesOn blake3 (.fetching node chunkId total (source :: rest)) stores after
      moved := by
  rw [RunningCommand.step] at stepped
  split at stepped
  · rename_i data sent
    obtain ⟨rfl, rfl⟩ := Prod.mk.inj (Option.some.inj stepped)
    have hashed := addressed source chunkId data (getChunk_eq_found sent)
    exact .quiet addressed hashed fun _ ended => by cases ended
  · obtain ⟨rfl, rfl⟩ := Prod.mk.inj (Option.some.inj stepped)
    exact .quiet addressed (carries_fetchFrom _ _ _ _) fun _ => fetchFrom_not_success
  · obtain ⟨rfl, rfl⟩ := Prod.mk.inj (Option.some.inj stepped)
    exact .quiet addressed (carries_fetchFrom _ _ _ _) fun _ => fetchFrom_not_success

theorem RunningCommand.goesOn_storing (addressed : AllAddressed blake3 stores) {node : String}
    {chunkId data : Bytes} (hashed : chunkId = blake3 data) {fault : Fault} {after : Stores}
    {moved : RunningCommand}
    (stepped : RunningCommand.step blake3 stores (.storing node chunkId data)
      (.storage fault) = some (after, moved)) :
    RunningCommand.GoesOn blake3 (.storing node chunkId data) stores after moved := by
  cases fault with
  | some cause =>
      obtain ⟨rfl, rfl⟩ := Prod.mk.inj (Option.some.inj stepped)
      rw [Function.update_eq_self]
      exact .quiet addressed trivial fun _ => endedWith_error_not_success
  | none =>
      obtain ⟨rfl, rfl⟩ := Prod.mk.inj (Option.some.inj stepped)
      refine
        { addressed := (allAddressed_update_iff addressed node _).mpr
            ((contentAddressed_update_iff (addressed node) chunkId data).mpr hashed)
          carries := trivial
          keeps := fun other id held => ?_
          achieved := fun _ _ _ => ?_ }
      · exact isSome_update_stores held fun before => .inl (isSome_update before)
      · change (Function.update stores node (Function.update (stores node) chunkId (some data))
          node chunkId).isSome
        rw [Function.update_self, Function.update_self]
        rfl

theorem RunningCommand.goesOn_deleting (addressed : AllAddressed blake3 stores) {node : String}
    {chunkId : Bytes} {existsFault deleteFault : Fault} {after : Stores} {moved : RunningCommand}
    (stepped : RunningCommand.step blake3 stores (.deleting node chunkId)
      (.deletion existsFault deleteFault) = some (after, moved)) :
    RunningCommand.GoesOn blake3 (.deleting node chunkId) stores after moved := by
  obtain ⟨keeps, gone⟩ := delete_keeps (stores node) existsFault deleteFault chunkId
  have kept_addressed :=
    contentAddressed_delete (addressed node) existsFault deleteFault chunkId
  rw [RunningCommand.step] at stepped
  split at stepped <;> rename_i result_eq <;> rw [result_eq] at keeps gone kept_addressed
  · obtain ⟨rfl, rfl⟩ := Prod.mk.inj (Option.some.inj stepped)
    refine
      { addressed := (allAddressed_update_iff addressed node _).mpr kept_addressed
        carries := trivial
        keeps := fun other id held => ?_
        achieved := fun _ _ _ => ?_ }
    · refine isSome_update_stores held fun before => (keeps id before).imp_right ?_
      rintro rfl rfl
      rfl
    · change Function.update stores node _ node chunkId = none
      rw [Function.update_self]
      exact gone _ rfl
  · obtain ⟨rfl, rfl⟩ := Prod.mk.inj (Option.some.inj stepped)
    refine
      { addressed := (allAddressed_update_iff addressed node _).mpr kept_addressed
        carries := trivial
        keeps := fun other id held => ?_
        achieved := fun result ended success => ?_ }
    · refine isSome_update_stores held fun before => (keeps id before).imp_right ?_
      rintro rfl rfl
      rfl
    · rw [endedWith_error_not_success ended] at success
      cases success

theorem RunningCommand.goesOn_reading (addressed : AllAddressed blake3 stores) {node : String}
    {chunkId : Bytes} {target : String} {fault : Fault} {after : Stores} {moved : RunningCommand}
    (stepped : RunningCommand.step blake3 stores (.reading node chunkId target)
      (.storage fault) = some (after, moved)) :
    RunningCommand.GoesOn blake3 (.reading node chunkId target) stores after moved := by
  cases fault with
  | some cause =>
      obtain ⟨rfl, rfl⟩ := Prod.mk.inj (Option.some.inj stepped)
      exact .quiet addressed trivial fun _ => endedWith_error_not_success
  | none =>
      rw [RunningCommand.step, ChunkStore.get] at stepped
      cases stored : stores node chunkId with
      | none =>
          rw [stored] at stepped
          obtain ⟨rfl, rfl⟩ := Prod.mk.inj (Option.some.inj stepped)
          exact .quiet addressed trivial fun _ => endedWith_error_not_success
      | some data =>
          rw [stored] at stepped
          obtain ⟨rfl, rfl⟩ := Prod.mk.inj (Option.some.inj stepped)
          exact .quiet addressed (addressed node chunkId data stored) fun _ ended => by cases ended

theorem RunningCommand.goesOn_sending (addressed : AllAddressed blake3 stores)
    {chunkId data : Bytes} (hashed : chunkId = blake3 data) {target : String} {left : Nat}
    {attempt : Attempt} {after : Stores} {moved : RunningCommand}
    (stepped : RunningCommand.step blake3 stores (.sending chunkId data target (left + 1))
      (.attempt attempt) = some (after, moved)) :
    RunningCommand.GoesOn blake3 (.sending chunkId data target (left + 1)) stores after moved := by
  obtain ⟨keeps, present⟩ := storeChunk_keeps blake3 (stores target) attempt.fault chunkId data
  have kept_addressed :=
    contentAddressed_storeChunk (addressed target) attempt.fault chunkId data
  rw [RunningCommand.step] at stepped
  split at stepped
  · split at stepped <;> rename_i result_eq <;> rw [result_eq] at keeps present kept_addressed
    · rename_i store response
      obtain ⟨rfl, rfl⟩ := Prod.mk.inj (Option.some.inj stepped)
      refine
        { addressed := (allAddressed_update_iff addressed target _).mpr kept_addressed
          carries := ?_
          keeps := fun other id held =>
            isSome_update_stores held fun before => .inl (keeps id before)
          achieved := fun result ended success => ?_ }
      · split
        · trivial
        · exact carries_sendAgain hashed _ _ _
      · split at ended
        · rename_i accepted
          change (Function.update stores target _ target chunkId).isSome
          rw [Function.update_self]
          exact present response rfl (Bool.and_eq_true _ _ ▸ accepted).1
        · rw [sendAgain_not_success ended] at success
          cases success
    · obtain ⟨rfl, rfl⟩ := Prod.mk.inj (Option.some.inj stepped)
      refine
        { addressed := (allAddressed_update_iff addressed target _).mpr kept_addressed
          carries := carries_sendAgain hashed _ _ _
          keeps := fun other id held =>
            isSome_update_stores held fun before => .inl (keeps id before)
          achieved := fun result ended success => ?_ }
      rw [sendAgain_not_success ended] at success
      cases success
  · obtain ⟨rfl, rfl⟩ := Prod.mk.inj (Option.some.inj stepped)
    exact .quiet addressed (carries_sendAgain hashed _ _ _) fun _ => sendAgain_not_success

/-- Whatever a command meets, it goes on as it should. -/
theorem RunningCommand.goesOn (addressed : AllAddressed blake3 stores) {command : RunningCommand}
    (carries : command.Carries blake3) {event : CommandEvent} {after : Stores}
    {moved : RunningCommand} (stepped : command.step blake3 stores event = some (after, moved)) :
    command.GoesOn blake3 stores after moved := by
  cases command with
  | checking node chunkId sources =>
      cases event with
      | storage fault => exact goesOn_checking addressed stepped
      | _ => cases stepped
  | fetching node chunkId total sources =>
      cases sources with
      | nil => cases event <;> cases stepped
      | cons source rest =>
          cases event with
          | answered fault => exact goesOn_fetching addressed stepped
          | unreachable =>
              obtain ⟨rfl, rfl⟩ := Prod.mk.inj (Option.some.inj stepped)
              exact .quiet addressed (carries_fetchFrom _ _ _ _) fun _ => fetchFrom_not_success
          | _ => cases stepped
  | storing node chunkId data =>
      cases event with
      | storage fault => exact goesOn_storing addressed carries stepped
      | _ => cases stepped
  | deleting node chunkId =>
      cases event with
      | deletion existsFault deleteFault => exact goesOn_deleting addressed stepped
      | _ => cases stepped
  | reading node chunkId target =>
      cases event with
      | storage fault => exact goesOn_reading addressed stepped
      | _ => cases stepped
  | sending chunkId data target attempts =>
      cases attempts with
      | zero => cases event <;> cases stepped
      | succ left =>
          cases event with
          | attempt attempt => exact goesOn_sending addressed carries stepped
          | _ => cases stepped
  | ended result => cases event <;> cases stepped

end Steps

/-! ## Runs -/

namespace Cluster

variable {blake3 : Bytes → Bytes} {cluster : Cluster} {step : ClusterStep}

/-- Every node stores chunks under the hash of their data, and every command carries such data. -/
structure Sound (blake3 : Bytes → Bytes) (cluster : Cluster) : Prop where
  addressed : AllAddressed blake3 cluster.shared
  carries : ∀ command ∈ cluster.processes, command.Carries blake3

/-- A step deletes a chunk from a node: a command or a request says so. -/
def Deletes (cluster : Cluster) (node : String) (chunkId : Bytes) : ClusterStep → Prop
  | .goOn index _ => cluster.processes[index]? = some (.deleting node chunkId)
  | .deleteRequest address _ _ requestId => address = node ∧ requestId = chunkId
  | .repairCommand _ _ _ | .deleteCommand _ _ | .transferCommand _ _ _ | .storeRequest _ _ _ _ =>
      False

/-- A step loses no chunk that it does not delete, and a command that it lets succeed has done what
it says. -/
structure Honest (blake3 : Bytes → Bytes) (cluster : Cluster) (step : ClusterStep) : Prop where
  keeps : ∀ node chunkId, (cluster.shared node chunkId).isSome →
    ((cluster.apply blake3 step).shared node chunkId).isSome ∨ cluster.Deletes node chunkId step
  achieved : ∀ index event command result, step = .goOn index event →
    cluster.processes[index]? = some command → (∀ earlier, command ≠ .ended earlier) →
      (cluster.apply blake3 step).processes[index]? = some (.ended result) →
        result.success = true → command.Achieved (cluster.apply blake3 step).shared

theorem carries_arrived {node : String} {requestId : Bytes} {sources : List String}
    {target : String} :
    (RunningCommand.repairChunk node requestId sources).Carries blake3 ∧
      (RunningCommand.deleteChunk node requestId).Carries blake3 ∧
        (RunningCommand.transferChunk node requestId target).Carries blake3 := by
  rw [RunningCommand.repairChunk, RunningCommand.deleteChunk, RunningCommand.transferChunk]
  cases parseChunkId requestId <;> exact ⟨trivial, trivial, trivial⟩

theorem Sound.spawn (sound : cluster.Sound blake3) {command : RunningCommand}
    (carries : command.Carries blake3) : Sound blake3 (cluster.spawn command) where
  addressed := sound.addressed
  carries other member := by
    rcases Pool.mem_spawn.mp member with before | rfl
    · exact sound.carries other before
    · exact carries

/-- A move of a command, if it makes one. -/
theorem Sound.move_cases (sound : cluster.Sound blake3) (index : Nat) (event : CommandEvent) :
    cluster.apply blake3 (.goOn index event) = cluster ∨
      ∃ command after moved, cluster.processes[index]? = some command ∧
        command.GoesOn blake3 cluster.shared after moved ∧
          cluster.apply blake3 (.goOn index event) =
            ⟨after, cluster.processes.set index moved⟩ := by
  rcases @Pool.move_eq_or_step _ _ _ (RunningCommand.step blake3) cluster index event with
    same | ⟨command, after, moved, found, stepped⟩
  · exact .inl same
  · refine .inr ⟨command, after, moved, found, ?_, Pool.move_of_step found stepped⟩
    exact RunningCommand.goesOn sound.addressed
      (sound.carries command (List.mem_of_getElem? found)) stepped

theorem Sound.apply (sound : cluster.Sound blake3) (step : ClusterStep) :
    (cluster.apply blake3 step).Sound blake3 := by
  cases step with
  | repairCommand node requestId sources =>
      exact sound.spawn (@carries_arrived blake3 node requestId sources "").1
  | deleteCommand node requestId =>
      exact sound.spawn (@carries_arrived blake3 node requestId [] "").2.1
  | transferCommand node requestId target =>
      exact sound.spawn (@carries_arrived blake3 node requestId [] target).2.2
  | goOn index event =>
      rcases sound.move_cases index event with same | ⟨command, after, moved, -, goesOn, moved_eq⟩
      · rw [same]
        exact sound
      · rw [moved_eq]
        refine ⟨goesOn.addressed, fun other member => ?_⟩
        rcases List.mem_or_eq_of_mem_set member with before | rfl
        · exact sound.carries other before
        · exact goesOn.carries
  | storeRequest node fault requestId data =>
      exact
        { sound with
          addressed := (allAddressed_update_iff sound.addressed node _).mpr
            (contentAddressed_storeChunk (sound.addressed node) fault requestId data) }
  | deleteRequest node existsFault deleteFault requestId =>
      exact
        { sound with
          addressed := (allAddressed_update_iff sound.addressed node _).mpr
            (contentAddressed_deleteChunk (sound.addressed node) existsFault deleteFault
              requestId) }

theorem deleteChunk_keeps (store : ChunkStore) (existsFault deleteFault : Fault)
    (requestId other : Bytes) (held : (store other).isSome) :
    ((Node.deleteChunk store existsFault deleteFault requestId).1 other).isSome ∨
      other = requestId := by
  have keeps := (delete_keeps store existsFault deleteFault requestId).1 other held
  by_cases long : requestId.length = 32
  · have parsed : bytesToChunkId requestId = .ok requestId := if_neg (not_not.mpr long)
    rw [Node.deleteChunk, parsed]
    dsimp only
    split <;> rename_i result_eq <;> rw [result_eq] at keeps <;> exact keeps
  · have parsed : ∃ status, bytesToChunkId requestId = .error status := ⟨_, if_pos long⟩
    obtain ⟨status, parsed⟩ := parsed
    rw [Node.deleteChunk, parsed]
    exact .inl held

theorem Sound.honest (sound : cluster.Sound blake3) (step : ClusterStep) :
    cluster.Honest blake3 step := by
  constructor
  · intro node chunkId held
    cases step with
    | repairCommand _ _ _ | deleteCommand _ _ | transferCommand _ _ _ => exact .inl held
    | goOn index event =>
        rcases sound.move_cases index event with same | ⟨command, after, moved, found, goesOn, eq⟩
        · rw [same]
          exact .inl held
        · rw [eq]
          refine (goesOn.keeps node chunkId held).imp_right ?_
          rintro rfl
          exact found
    | storeRequest address fault requestId data =>
        refine isSome_update_stores held fun before => .inl ?_
        exact (storeChunk_keeps blake3 _ fault requestId data).1 chunkId before
    | deleteRequest address existsFault deleteFault requestId =>
        refine isSome_update_stores held fun before => ?_
        refine (deleteChunk_keeps _ existsFault deleteFault requestId chunkId before).imp_right ?_
        rintro rfl same
        exact ⟨same, rfl⟩
  · rintro index event command result rfl found unfinished ended success
    rcases sound.move_cases index event with same | ⟨other, after, moved, found', goesOn, eq⟩
    · rw [same, found] at ended
      exact absurd (Option.some.inj ended) (unfinished result)
    · obtain rfl := Option.some.inj (found.symm.trans found')
      have inside := (List.getElem?_eq_some_iff.mp found).1
      rw [eq] at ended ⊢
      rw [List.getElem?_set_self inside] at ended
      exact goesOn.achieved result (Option.some.inj ended) success

end Cluster

/-- Among nodes that all run this program, in every interleaving of commands and requests, every
copy of a chunk has the hash that it goes by, so that any two copies agree; no copy is lost but to
a deletion; and a command that succeeds has done what it says. -/
theorem honest_cluster {blake3 : Bytes → Bytes} (injective : Function.Injective blake3)
    (steps : List ClusterStep) :
    EveryState (Cluster.apply blake3)
        (fun reached => AllAddressed blake3 reached.shared ∧
          ∀ node other chunkId data data', reached.shared node chunkId = some data →
            reached.shared other chunkId = some data' → data = data')
        .start steps ∧
      EveryStep (Cluster.apply blake3) (Cluster.Honest blake3) .start steps := by
  have start : Cluster.Sound blake3 .start :=
    { addressed := fun _ _ _ stored => by cases stored
      carries := fun _ member => by cases member }
  have keeps : ∀ (cluster : Cluster) (step : ClusterStep), cluster.Sound blake3 →
      (cluster.apply blake3 step).Sound blake3 := fun _ step sound => sound.apply step
  have every := everyState_of_keeps keeps start steps
  refine ⟨every.mono fun reached sound => ⟨sound.addressed, ?_⟩,
    every.everyStep fun _ step sound => sound.honest step⟩
  intro node other chunkId data data' stored stored'
  exact injective ((sound.addressed node chunkId data stored).symm.trans
    (sound.addressed other chunkId data' stored'))

/-- A chunk is repaired onto a second node while the first one deletes it, and sent back with an
attempt whose answer is lost. -/
def repairedWhileDeleted : List ClusterStep :=
  let chunk : Bytes := List.replicate 32 7
  [.storeRequest "a" none chunk chunk, .repairCommand "b" chunk ["c", "a"],
    .goOn 0 (.storage none), .goOn 0 (.answered none), .goOn 0 (.answered none),
    .deleteRequest "a" none none chunk, .goOn 0 (.storage none), .transferCommand "b" chunk "a",
    .goOn 1 (.storage none), .goOn 1 (.attempt ⟨true, none, false, "timeout"⟩),
    .goOn 1 (.attempt ⟨true, none, true, ""⟩), .deleteCommand "b" chunk,
    .goOn 2 (.deletion none none)]

example : (runAll (Cluster.apply id) .start repairedWhileDeleted).processes =
    [endedWith .repairChunk none, endedWith .transferChunk none, endedWith .deleteChunk none] := by
  decide

/-- Where chunks are named by themselves, both nodes keep the chunk right throughout that run. -/
theorem honest_cluster_of_repairedWhileDeleted :
    EveryState (Cluster.apply id)
        (fun reached => AllAddressed id reached.shared ∧
          ∀ node other chunkId data data', reached.shared node chunkId = some data →
            reached.shared other chunkId = some data' → data = data')
        .start repairedWhileDeleted ∧
      EveryStep (Cluster.apply id) (Cluster.Honest id) .start repairedWhileDeleted :=
  honest_cluster Function.injective_id repairedWhileDeleted

end CyxCloud.Node
