import CyxCloud.Library.Pools
import CyxCloud.Library.RecencyPools
import CyxCloud.Library.Runs

/-!
# Connections to storage nodes

The connections that the node client of `cyxcloud-gateway/src/node_client.rs` keeps.  A call first
looks for a connection under the lock; if there is none it connects without the lock and then takes
it again to store the connection.  Calls are interleaved in any order.
-/

namespace CyxCloud.Gateway

open Library

variable {Client : Type*}

/-- Configuration of the node client, as far as its connections go. -/
structure NodeClientConfig where
  /-- Maximum number of cached connections. -/
  maxConnections : Nat
  /-- Evict connections unused for this many seconds. -/
  staleConnectionSecs : Nat

def NodeClientConfig.default : NodeClientConfig :=
  { maxConnections := 100
    staleConnectionSecs := 300 }

/-- The connections under their addresses, and the clock in nanoseconds. -/
structure NodeClient (Client : Type*) where
  connections : RecencyPool String Client
  now : Nat

namespace NodeClient

def new (now : Nat) : NodeClient Client :=
  { connections := ∅
    now }

/-- A connection was used less than the threshold ago. -/
def isFresh (config : NodeClientConfig) (now : Nat) (pooled : Pooled Client) : Bool :=
  decide (now - pooled.lastUsed < config.staleConnectionSecs * 1000000000)

/-- Store a new connection, evicting stale entries and, at capacity, the oldest one.  The order is
that of the map, and the section takes some time. -/
def storeConnection (config : NodeClientConfig)
    (order : RowOrder (Sigma fun _ : String => Pooled Client)) (took : Nat) (address : String)
    (client : Client) (state : NodeClient Client) : NodeClient Client :=
  let kept := state.connections.retain (isFresh config state.now)
  { connections := (kept.makeRoom order config.maxConnections).insert address
      { value := client
        lastUsed := state.now + took }
    now := state.now + took }

/-- Mark a connection as used. -/
def touch (address : String) (state : NodeClient Client) : NodeClient Client :=
  { state with connections := state.connections.touch state.now address }

def closeConnection (address : String) (state : NodeClient Client) : NodeClient Client :=
  { state with connections := state.connections.erase address }

def closeAll (state : NodeClient Client) : NodeClient Client :=
  { state with connections := ∅ }

def poolSize (state : NodeClient Client) : Nat := state.connections.size

end NodeClient

/-! ## Calls -/

/-- A call of `get_connection`. -/
inductive GetConnection (Client : Type*) where
  /-- Before the first locked section. -/
  | looking (address : String)
  /-- No connection was found. -/
  | connecting (address : String)
  /-- Before the second locked section. -/
  | storing (address : String) (client : Client)
  | returned (address : String) (client : Client)
  | failed (address : String)

/-- What lets a call go on. -/
inductive ConnectionEvent (Client : Type*) where
  | looked
  | connected (client : Client)
  | refused
  | stored (order : RowOrder (Sigma fun _ : String => Pooled Client)) (took : Nat)

/-- A call goes on. -/
def GetConnection.step (config : NodeClientConfig) (state : NodeClient Client) :
    GetConnection Client → ConnectionEvent Client → Option (NodeClient Client × GetConnection Client)
  | .looking address, .looked =>
      match state.connections.lookup address with
      | some pooled => some (state.touch address, .returned address pooled.value)
      | none => some (state, .connecting address)
  | .connecting address, .connected client => some (state, .storing address client)
  | .connecting address, .refused => some (state, .failed address)
  | .storing address client, .stored order took =>
      some (state.storeConnection config order took address client, .returned address client)
  | _, _ => none

/-- The node client and the calls on it. -/
abbrev ConnectionCalls (Client : Type*) := Pool (NodeClient Client) (GetConnection Client)

/-- What happens to the node client. -/
inductive ConnectionStep (Client : Type*) where
  | wait (elapsed : Nat)
  | getConnection (address : String)
  | goOn (index : Nat) (event : ConnectionEvent Client)
  | closeConnection (address : String)
  | closeAll

namespace ConnectionCalls

def start (now : Nat) : ConnectionCalls Client :=
  { shared := .new now
    processes := [] }

/-- One step. -/
def apply (config : NodeClientConfig) (calls : ConnectionCalls Client) :
    ConnectionStep Client → ConnectionCalls Client
  | .wait elapsed =>
      { calls with shared := { calls.shared with now := calls.shared.now + elapsed } }
  | .getConnection address => calls.spawn (.looking address)
  | .goOn index event => calls.move (GetConnection.step config) index event
  | .closeConnection address => { calls with shared := calls.shared.closeConnection address }
  | .closeAll => { calls with shared := calls.shared.closeAll }

/-! ## Bounds and owners -/

/-- A client leads to the node at the address it was connected to. -/
def ConnectsTo (leadsTo : String → Client → Prop) (calls : ConnectionCalls Client) :
    ConnectionStep Client → Prop
  | .goOn index (.connected client) => ∀ address,
      calls.processes[index]? = some (.connecting address) → leadsTo address client
  | _ => True

end ConnectionCalls

/-- A call has a client that leads to its own node, if it has any. -/
def GetConnection.Leads (leadsTo : String → Client → Prop) : GetConnection Client → Prop
  | .storing address client | .returned address client => leadsTo address client
  | .looking _ | .connecting _ | .failed _ => True

/-- The pool is bounded, and its connections lead to the nodes at their addresses. -/
structure NodeClient.Sound (config : NodeClientConfig) (leadsTo : String → Client → Prop)
    (state : NodeClient Client) : Prop where
  bounded : state.poolSize ≤ max 1 config.maxConnections
  leads : ∀ address pooled, state.connections.lookup address = some pooled →
    leadsTo address pooled.value

namespace NodeClient.Sound

variable {config : NodeClientConfig} {leadsTo : String → Client → Prop} {state : NodeClient Client}

theorem touch (sound : state.Sound config leadsTo) (address : String) :
    (state.touch address).Sound config leadsTo where
  bounded := by
    rw [poolSize, NodeClient.touch, RecencyPool.size_touch]
    exact sound.bounded
  leads other pooled found := by
    rw [NodeClient.touch] at found
    by_cases same : other = address
    · subst same
      rw [RecencyPool.lookup_touch_self] at found
      obtain ⟨before, hit, rfl⟩ := Option.map_eq_some_iff.mp found
      exact sound.leads other before hit
    · rw [RecencyPool.lookup_touch_of_ne same] at found
      exact sound.leads other pooled found

theorem storeConnection (sound : state.Sound config leadsTo)
    (order : RowOrder (Sigma fun _ : String => Pooled Client)) (took : Nat) {address : String}
    {client : Client} (leads : leadsTo address client) :
    (state.storeConnection config order took address client).Sound config leadsTo where
  bounded := by
    have retained := RecencyPool.size_retain_le (isFresh config state.now) state.connections
    have room := @RecencyPool.size_makeRoom_lt _ _ _ order _ _ (retained.trans sound.bounded)
    exact (RecencyPool.size_insert_le _ address _).trans room
  leads other pooled found := by
    rw [NodeClient.storeConnection] at found
    by_cases same : other = address
    · subst same
      rw [AList.lookup_insert] at found
      obtain rfl := Option.some.inj found
      exact leads
    · rw [AList.lookup_insert_ne same] at found
      have kept := RecencyPool.lookup_of_makeRoom found
      rw [RecencyPool.lookup_retain, Option.filter_eq_some_iff] at kept
      exact sound.leads other pooled kept.1

theorem closeConnection (sound : state.Sound config leadsTo) (address : String) :
    (state.closeConnection address).Sound config leadsTo where
  bounded := (RecencyPool.size_erase_le state.connections address).trans sound.bounded
  leads other pooled found := by
    rw [NodeClient.closeConnection] at found
    by_cases same : other = address
    · subst same
      rw [AList.lookup_erase] at found
      cases found
    · rw [AList.lookup_erase_ne same] at found
      exact sound.leads other pooled found

theorem empty (now : Nat) : NodeClient.Sound config leadsTo ⟨∅, now⟩ where
  bounded := Nat.zero_le _
  leads address pooled found := by cases found

end NodeClient.Sound

namespace ConnectionCalls

/-- The pool is sound, and so is every call. -/
structure Sound (config : NodeClientConfig) (leadsTo : String → Client → Prop)
    (calls : ConnectionCalls Client) : Prop where
  pool : calls.shared.Sound config leadsTo
  calls : ∀ call ∈ calls.processes, call.Leads leadsTo

variable {config : NodeClientConfig} {leadsTo : String → Client → Prop}
  {calls : ConnectionCalls Client} {step : ConnectionStep Client}

/-- What a call does keeps the pool sound, and gives the call a client of its own node. -/
theorem Sound.goOn (sound : calls.Sound config leadsTo) {index : Nat}
    {event : ConnectionEvent Client} (connects : calls.ConnectsTo leadsTo (.goOn index event))
    {call moved : GetConnection Client} {shared : NodeClient Client}
    (found : calls.processes[index]? = some call)
    (stepped : call.step config calls.shared event = some (shared, moved)) :
    shared.Sound config leadsTo ∧ moved.Leads leadsTo := by
  have own := sound.calls call (List.mem_of_getElem? found)
  cases call with
  | looking address =>
      cases event with
      | looked =>
          rw [GetConnection.step] at stepped
          split at stepped
          · rename_i pooled hit
            obtain ⟨rfl, rfl⟩ := Prod.mk.inj (Option.some.inj stepped)
            exact ⟨sound.pool.touch address, sound.pool.leads address pooled hit⟩
          · obtain ⟨rfl, rfl⟩ := Prod.mk.inj (Option.some.inj stepped)
            exact ⟨sound.pool, trivial⟩
      | connected client | refused | stored order took => cases stepped
  | connecting address =>
      cases event with
      | connected client =>
          obtain ⟨rfl, rfl⟩ := Prod.mk.inj (Option.some.inj stepped)
          exact ⟨sound.pool, connects address found⟩
      | refused =>
          obtain ⟨rfl, rfl⟩ := Prod.mk.inj (Option.some.inj stepped)
          exact ⟨sound.pool, trivial⟩
      | looked | stored order took => cases stepped
  | storing address client =>
      cases event with
      | stored order took =>
          obtain ⟨rfl, rfl⟩ := Prod.mk.inj (Option.some.inj stepped)
          exact ⟨sound.pool.storeConnection order took own, own⟩
      | looked | connected other | refused => cases stepped
  | returned address client | failed address => cases stepped

theorem Sound.apply (sound : calls.Sound config leadsTo) (connects : calls.ConnectsTo leadsTo step) :
    (calls.apply config step).Sound config leadsTo := by
  cases step with
  | wait elapsed =>
      exact { sound with pool := { sound.pool with } }
  | getConnection address =>
      refine ⟨sound.pool, fun call member => ?_⟩
      rcases Pool.mem_spawn.mp member with before | rfl
      · exact sound.calls call before
      · trivial
  | goOn index event =>
      rcases calls.move_eq_or_step index event with same | ⟨call, shared, moved, found, stepped⟩
      · rw [ConnectionCalls.apply, same]
        exact sound
      · obtain ⟨pool, leads⟩ := sound.goOn connects found stepped
        rw [ConnectionCalls.apply, Pool.move_of_step found stepped]
        refine ⟨pool, fun other member => ?_⟩
        rcases List.mem_or_eq_of_mem_set member with before | rfl
        · exact sound.calls other before
        · exact leads
  | closeConnection address =>
      exact ⟨sound.pool.closeConnection address, sound.calls⟩
  | closeAll => exact ⟨.empty _, sound.calls⟩

end ConnectionCalls

/-- In every interleaving of calls, the pool stays within its capacity, and a call that returns a
client returns one connected to the address it was made for. -/
theorem connections_bounded_and_own (config : NodeClientConfig) (leadsTo : String → Client → Prop)
    (now : Nat) (steps : List (ConnectionStep Client))
    (connects : EveryStep (ConnectionCalls.apply config) (ConnectionCalls.ConnectsTo leadsTo)
      (.start now) steps) :
    EveryState (ConnectionCalls.apply config)
      (fun reached => reached.shared.poolSize ≤ max 1 config.maxConnections ∧
        ∀ address client, GetConnection.returned address client ∈ reached.processes →
          leadsTo address client)
      (.start now) steps := by
  have sound : (ConnectionCalls.start now).Sound config leadsTo :=
    { pool := .empty now
      calls := by simp [ConnectionCalls.start] }
  have every := everyState_of_everyStep
    (fun _ _ inv met => ConnectionCalls.Sound.apply inv met) sound connects
  refine every.mono fun reached inv => ⟨inv.pool.bounded, fun address client member => ?_⟩
  exact inv.calls _ member

/-- Two calls for one node connect at once, and a third finds the connection that was stored
last. -/
theorem connections_bounded_and_own_of_race :
    EveryState (ConnectionCalls.apply .default)
      (fun reached => reached.shared.poolSize ≤ max 1 100 ∧
        ∀ address client, GetConnection.returned address client ∈ reached.processes →
          address = client)
      (.start 0)
      [.getConnection "a", .getConnection "a", .goOn 0 .looked, .goOn 1 .looked,
        .goOn 0 (.connected "a"), .goOn 1 (.connected "a"), .goOn 0 (.stored .insertion 1),
        .goOn 1 (.stored .reversed 1), .getConnection "a", .goOn 2 .looked] :=
  connections_bounded_and_own .default (fun address client => address = client) 0 _ (by
    simp [EveryStep, ConnectionCalls.ConnectsTo, ConnectionCalls.apply, ConnectionCalls.start,
      NodeClient.new, Pool.spawn, Pool.move, GetConnection.step])

/-! ## Connections in use -/

/-- The address whose connection a call uses when it goes on. -/
def GetConnection.uses (state : NodeClient Client) :
    GetConnection Client → ConnectionEvent Client → Option String
  | .looking address, .looked =>
      if (state.connections.lookup address).isSome then some address else none
  | .storing address _, .stored _ _ => some address
  | _, _ => none

namespace ConnectionCalls

/-- The address whose connection a step uses, if it uses one. -/
def uses (calls : ConnectionCalls Client) : ConnectionStep Client → Option String
  | .goOn index event => calls.processes[index]?.bind fun call => call.uses calls.shared event
  | .wait _ | .getConnection _ | .closeConnection _ | .closeAll => none

/-- A step does not close the connection to an address and, when it stores a new connection, does
not find that one stale. -/
def Keeps (config : NodeClientConfig) (address : String) (calls : ConnectionCalls Client) :
    ConnectionStep Client → Prop
  | .closeConnection other => other ≠ address
  | .closeAll => False
  | .goOn _ (.stored _ _) => ∀ pooled ∈ calls.shared.connections.lookup address,
      NodeClient.isFresh config calls.shared.now pooled = true
  | .goOn _ .looked | .goOn _ (.connected _) | .goOn _ .refused | .wait _ | .getConnection _ => True

/-- A step uses only some addresses, and keeps the connection to one of them. -/
def Spares (config : NodeClientConfig) (keys : Finset String) (address : String)
    (calls : ConnectionCalls Client) (step : ConnectionStep Client) : Prop :=
  (∀ used ∈ calls.uses step, used ∈ keys) ∧ calls.Keeps config address step

instance (config : NodeClientConfig) (address : String) (calls : ConnectionCalls Client) :
    DecidablePred (calls.Keeps config address)
  | .closeConnection other => inferInstanceAs (Decidable (other ≠ address))
  | .closeAll => inferInstanceAs (Decidable False)
  | .goOn _ (.stored _ _) => inferInstanceAs (Decidable (∀ pooled ∈ _, _))
  | .goOn _ .looked | .goOn _ (.connected _) | .goOn _ .refused | .wait _ | .getConnection _ =>
      inferInstanceAs (Decidable True)

instance (config : NodeClientConfig) (keys : Finset String) (address : String)
    (calls : ConnectionCalls Client) : DecidablePred (calls.Spares config keys address) :=
  fun _ => inferInstanceAs (Decidable (_ ∧ _))

/-- The connection to an address is pooled, and only some addresses were used since. -/
def InUse (keys : Finset String) (address : String) (state : NodeClient Client) : Prop :=
  ∃ pooled, state.connections.lookup address = some pooled ∧ pooled.lastUsed ≤ state.now ∧
    state.connections.UsedSince pooled.lastUsed keys

variable {config : NodeClientConfig} {keys : Finset String} {address : String}
  {state : NodeClient Client}

theorem InUse.touch (inUse : InUse keys address state) {used : String} (member : used ∈ keys) :
    InUse keys address (state.touch used) := by
  obtain ⟨pooled, found, past, since⟩ := inUse
  by_cases same : address = used
  · subst same
    refine ⟨{ pooled with lastUsed := state.now }, ?_, le_rfl, (since.mono past).touch member _⟩
    rw [NodeClient.touch, RecencyPool.lookup_touch_self, found]
    rfl
  · refine ⟨pooled, ?_, past, since.touch member _⟩
    rw [NodeClient.touch, RecencyPool.lookup_touch_of_ne same, found]

theorem InUse.storeConnection (inUse : InUse keys address state) {used : String}
    (member : used ∈ keys) (few : keys.card < config.maxConnections)
    (fresh : ∀ pooled ∈ state.connections.lookup address,
      NodeClient.isFresh config state.now pooled = true)
    (order : RowOrder (Sigma fun _ : String => Pooled Client)) (took : Nat) (client : Client) :
    InUse keys address (state.storeConnection config order took used client) := by
  obtain ⟨pooled, found, past, since⟩ := inUse
  have retained : (state.connections.retain (NodeClient.isFresh config state.now)).lookup address =
      some pooled := by
    rw [RecencyPool.lookup_retain, found, Option.filter_some, if_pos (fresh pooled found)]
  have since_retained := since.retain (NodeClient.isFresh config state.now)
  have since_room := @RecencyPool.UsedSince.makeRoom _ _ _ order _ config.maxConnections _ _
    since_retained
  by_cases same : address = used
  · subst same
    refine ⟨{ value := client, lastUsed := state.now + took }, AList.lookup_insert _, le_rfl, ?_⟩
    exact (since_room.insert member _).mono (past.trans (Nat.le_add_right _ _))
  · refine ⟨pooled, ?_, past.trans (Nat.le_add_right _ _), since_room.insert member _⟩
    rw [NodeClient.storeConnection, AList.lookup_insert_ne same]
    exact RecencyPool.lookup_makeRoom_of_usedSince retained since_retained few

theorem InUse.apply {calls : ConnectionCalls Client} {step : ConnectionStep Client}
    (inUse : InUse keys address calls.shared) (few : keys.card < config.maxConnections)
    (spares : calls.Spares config keys address step) :
    InUse keys address (calls.apply config step).shared := by
  obtain ⟨pooled, found, past, since⟩ := inUse
  have inUse : InUse keys address calls.shared := ⟨pooled, found, past, since⟩
  cases step with
  | wait elapsed => exact ⟨pooled, found, past.trans (Nat.le_add_right _ _), since⟩
  | getConnection other => exact inUse
  | closeConnection other =>
      have ne : address ≠ other := by
        rintro rfl
        exact spares.2 rfl
      refine ⟨pooled, ?_, past, since.erase other⟩
      exact (AList.lookup_erase_ne ne).trans found
  | closeAll => exact spares.2.elim
  | goOn index event =>
      rcases calls.move_eq_or_step index event with same | ⟨call, shared, moved, known, stepped⟩
      · rw [ConnectionCalls.apply, same]
        exact inUse
      · rw [ConnectionCalls.apply, Pool.move_of_step known stepped]
        have uses := spares.1
        rw [ConnectionCalls.uses, known, Option.bind_some] at uses
        cases call with
        | looking other =>
            cases event with
            | looked =>
                rw [GetConnection.step] at stepped
                split at stepped
                · rename_i pooled' hit
                  obtain ⟨rfl, rfl⟩ := Prod.mk.inj (Option.some.inj stepped)
                  refine inUse.touch (uses other ?_)
                  simp [GetConnection.uses, hit]
                · obtain ⟨rfl, rfl⟩ := Prod.mk.inj (Option.some.inj stepped)
                  exact inUse
            | connected client | refused | stored order took => cases stepped
        | connecting other =>
            cases event with
            | connected client | refused =>
                obtain ⟨rfl, rfl⟩ := Prod.mk.inj (Option.some.inj stepped)
                exact inUse
            | looked | stored order took => cases stepped
        | storing other client =>
            cases event with
            | stored order took =>
                obtain ⟨rfl, rfl⟩ := Prod.mk.inj (Option.some.inj stepped)
                exact inUse.storeConnection (uses other rfl) few spares.2 order took client
            | looked | connected other | refused => cases stepped
        | returned other client | failed other => cases stepped

end ConnectionCalls

/-- While fewer addresses are in use than the pool has places, and the connection to one of them is
neither closed nor found stale, it stays pooled in every interleaving of calls. -/
theorem connection_kept {config : NodeClientConfig} {keys : Finset String} {address : String}
    {calls : ConnectionCalls Client} {steps : List (ConnectionStep Client)}
    (inUse : ConnectionCalls.InUse keys address calls.shared)
    (few : keys.card < config.maxConnections)
    (spares : EveryStep (ConnectionCalls.apply config)
      (ConnectionCalls.Spares config keys address) calls steps) :
    EveryState (ConnectionCalls.apply config)
      (fun reached => ∃ pooled, reached.shared.connections.lookup address = some pooled)
      calls steps := by
  have keeps : ∀ (reached : ConnectionCalls Client) (step : ConnectionStep Client),
      ConnectionCalls.InUse keys address reached.shared →
        reached.Spares config keys address step →
          ConnectionCalls.InUse keys address (reached.apply config step).shared :=
    fun _ _ inv met => inv.apply few met
  refine (everyState_of_everyStep keeps inUse spares).mono fun reached inv => ?_
  obtain ⟨pooled, found, -, -⟩ := inv
  exact ⟨pooled, found⟩

/-- One connection. -/
def oneConnection : ConnectionCalls String :=
  { shared :=
      { connections := AList.insert "a" { value := "a", lastUsed := 5 } ∅
        now := 7 }
    processes := [] }

/-- The connection to a node in use outlasts those to another one. -/
theorem connection_kept_beside_another :
    EveryState (ConnectionCalls.apply .default)
      (fun reached => ∃ pooled, reached.shared.connections.lookup "a" = some pooled) oneConnection
      [.getConnection "b", .goOn 0 .looked, .wait (299 * 1000000000), .goOn 0 (.connected "b"),
        .goOn 0 (.stored .insertion 1), .getConnection "a", .goOn 1 .looked, .closeConnection "b",
        .wait (299 * 1000000000), .getConnection "b", .goOn 2 .looked, .goOn 2 (.connected "b"),
        .goOn 2 (.stored .reversed 1)] := by
  have inUse : ConnectionCalls.InUse {"a", "b"} "a" oneConnection.shared := by
    refine ⟨{ value := "a", lastUsed := 5 }, rfl, by decide, ?_⟩
    have nothing : RecencyPool.UsedSince (∅ : RecencyPool String String) 5 {"a", "b"} := by
      intro key pooled found
      cases found
    exact nothing.insert (by decide) _
  exact connection_kept inUse (by decide) (by decide)

end CyxCloud.Gateway
