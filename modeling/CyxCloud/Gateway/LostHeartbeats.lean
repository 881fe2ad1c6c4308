import CyxCloud.Gateway.Lifecycle

/-!
# Heartbeats between selection and update

The monitor selects a batch of nodes and writes them one by one by their identifiers, without
looking at the rows again.  A selected row still is what it was selected for when its turn comes if
no registration or heartbeat writes it in between.  A row without a heartbeat counts as stale, so
the selection must not come soon after a registration either.
-/

namespace CyxCloud.Gateway

open CyxCloud.Core hiding Chunk
open Library Metadata

/-! ## Batches -/

namespace MonitorState

/-- Nodes selected as stale and not marked yet. -/
def staleBatch : MonitorState → List Uuid
  | .markOffline nodeId rest => nodeId :: rest
  | _ => []

/-- Nodes selected for draining and not marked yet. -/
def drainingBatch : MonitorState → List Uuid
  | .markDraining nodeId rest => nodeId :: rest
  | .findChunks _ rest | .findTargets _ _ rest | .createJob _ _ rest => rest
  | _ => []

/-- Nodes selected for removal and not deleted yet. -/
def removalBatch : MonitorState → List Uuid
  | .deleteNode nodeId rest => nodeId :: rest
  | _ => []

/-- A node is in a batch. -/
def hasSelected (monitor : MonitorState) (nodeId : Uuid) : Prop :=
  nodeId ∈ monitor.staleBatch ∨ nodeId ∈ monitor.drainingBatch ∨ nodeId ∈ monitor.removalBatch

instance (monitor : MonitorState) (nodeId : Uuid) : Decidable (monitor.hasSelected nodeId) :=
  inferInstanceAs (Decidable (_ ∨ _ ∨ _))

end MonitorState

/-! ## Registrations -/

/-- The lifecycle, with the registrations so far. -/
structure RegisteredLifecycle extends Lifecycle where
  /-- Peers and instants. -/
  registrations : List (String × Time)

namespace RegisteredLifecycle

/-- Tables without nodes, and nothing under way. -/
def start (db : Database) (now : Time) : RegisteredLifecycle :=
  { Lifecycle.start db now with registrations := [] }

/-- One step. -/
def apply (config : FaultToleranceConfig) (state : RegisteredLifecycle) (step : LifecycleStep) :
    RegisteredLifecycle :=
  { state.toLifecycle.apply config step with
    registrations :=
      match step with
      | .createNode _ node => (node.peerId, state.now) :: state.registrations
      | _ => state.registrations }

end RegisteredLifecycle

/-- A statement of the monitor is right about a row: if it writes the row, the row still is what it
was selected for, and a node that is set offline has not registered lately. -/
def MonitorState.RightAbout (config : FaultToleranceConfig) (now : Time)
    (registrations : List (String × Time)) (node : Node) : MonitorState → Prop
  | .markOffline nodeId _ => node.id = nodeId →
      node.isStale config.offlineThreshold now = true ∧
        ∀ registration ∈ registrations, registration.1 = node.peerId →
          atLeast config.offlineThreshold now registration.2
  | .markDraining nodeId _ => node.id = nodeId →
      node.awaitsDraining config.drainThreshold now = true
  | .deleteNode nodeId _ => node.id = nodeId →
      node.awaitsRemoval config.removeThreshold now = true
  | _ => True

/-- The query for stale nodes does not come soon after the registration of an online node that has
not sent a heartbeat since. -/
def MonitorState.SparesNew (config : FaultToleranceConfig) (now : Time) (node : Node) :
    MonitorState → Prop
  | .findStale => node.status = .online → node.lastHeartbeat = none →
      atLeast config.offlineThreshold now node.createdAt
  | _ => True

namespace RegisteredLifecycle

/-- What the monitor sets offline, drains or deletes still is what it was selected for. -/
def HonoursHeartbeats (config : FaultToleranceConfig) (state : RegisteredLifecycle) :
    LifecycleStep → Prop
  | .monitor event => event.outcome.applied = true → ∀ node ∈ state.db.nodes,
      state.monitor.RightAbout config state.now state.registrations node
  | _ => True

/-- A registration or heartbeat addresses no selected row, and stale nodes are not selected soon
after a registration that no heartbeat has followed. -/
def SparesSelected (config : FaultToleranceConfig) (state : RegisteredLifecycle) :
    LifecycleStep → Prop
  | .monitor event => event.outcome = .done → ∀ node ∈ state.db.nodes,
      state.monitor.SparesNew config state.now node
  | .createNode _ registration => ∀ node ∈ state.db.nodes, node.peerId = registration.peerId →
      ¬ state.monitor.hasSelected node.id
  | .updateNodeHeartbeat nodeId => ¬ state.monitor.hasSelected nodeId
  | .writeHeartbeat heartbeat => ∀ node ∈ state.db.nodes, heartbeat.address.selects node = true →
      ¬ state.monitor.hasSelected node.id
  | .wait _ | .readHeartbeat _ | .startCycle | .storage _ => True

end RegisteredLifecycle

section Decidability

instance (config : FaultToleranceConfig) (now : Time) (registrations : List (String × Time))
    (node : Node) : DecidablePred (MonitorState.RightAbout config now registrations node)
  | .markOffline _ _ | .markDraining _ _ | .deleteNode _ _ =>
      inferInstanceAs (Decidable (_ → _))
  | .idle | .findStale | .findDraining | .findChunks _ _ | .findTargets _ _ _ | .createJob _ _ _
  | .findRemoval | .findRecovered | .markOnline _ _ => inferInstanceAs (Decidable True)

instance (config : FaultToleranceConfig) (now : Time) (node : Node) :
    DecidablePred (MonitorState.SparesNew config now node)
  | .findStale => inferInstanceAs (Decidable (_ → _ → _))
  | .idle | .markOffline _ _ | .findDraining | .markDraining _ _ | .findChunks _ _ | .findTargets _ _ _
  | .createJob _ _ _ | .findRemoval | .deleteNode _ _ | .findRecovered | .markOnline _ _ =>
      inferInstanceAs (Decidable True)

instance (config : FaultToleranceConfig) (state : RegisteredLifecycle) :
    DecidablePred (state.HonoursHeartbeats config)
  | .monitor _ => inferInstanceAs (Decidable (_ → ∀ node ∈ state.db.nodes, _))
  | .wait _ | .createNode _ _ | .updateNodeHeartbeat _ | .readHeartbeat _ | .writeHeartbeat _
  | .startCycle | .storage _ => inferInstanceAs (Decidable True)

instance (config : FaultToleranceConfig) (state : RegisteredLifecycle) :
    DecidablePred (state.SparesSelected config)
  | .monitor _ => inferInstanceAs (Decidable (_ → ∀ node ∈ state.db.nodes, _))
  | .createNode _ _ | .writeHeartbeat _ =>
      inferInstanceAs (Decidable (∀ node ∈ state.db.nodes, _))
  | .updateNodeHeartbeat _ => inferInstanceAs (Decidable (¬ _))
  | .wait _ | .readHeartbeat _ | .startCycle | .storage _ => inferInstanceAs (Decidable True)

end Decidability

/-! ## The batches of the monitor -/

/-- The latest sign of life in a row, or its creation. -/
def Node.lastSign (node : Node) : Time := node.lastHeartbeat.getD node.createdAt

/-- A stale node, new ones excepted. -/
def Node.isSilent (threshold : Nat) (now : Time) (node : Node) : Bool :=
  node.isStale threshold now && decide (atLeast threshold now (Node.lastSign node))

theorem isStale_mono {threshold : Nat} {now later : Time} (passed : now ≤ later) (node : Node)
    (stale : node.isStale threshold now = true) : node.isStale threshold later = true := by
  simp only [Node.isStale, Bool.and_eq_true, Option.all_eq_true] at *
  exact ⟨stale.1, fun beat is_beat => olderThan_mono passed (stale.2 beat is_beat)⟩

theorem isSilent_mono {threshold : Nat} {now later : Time} (passed : now ≤ later) (node : Node)
    (silent : Node.isSilent threshold now node = true) :
    Node.isSilent threshold later node = true := by
  simp only [Node.isSilent, Bool.and_eq_true, decide_eq_true_eq] at *
  exact ⟨isStale_mono passed node silent.1, silent.2.trans passed⟩

/-- The query for stale nodes finds silent ones unless it comes soon after a registration. -/
theorem isSilent_of_isStale {config : FaultToleranceConfig} {now : Time} {node : Node}
    (spared : MonitorState.SparesNew config now node .findStale)
    (stale : node.isStale config.offlineThreshold now = true) :
    Node.isSilent config.offlineThreshold now node = true := by
  rw [Node.isSilent, stale, Bool.true_and, decide_eq_true_eq, Node.lastSign]
  rw [Node.isStale, Bool.and_eq_true, beq_iff_eq] at stale
  cases beat : node.lastHeartbeat with
  | none => exact spared stale.1 beat
  | some instant =>
      have older := stale.2
      rw [beat, Option.all_some, olderThan, decide_eq_true_eq] at older
      exact older.le

theorem awaitsDraining_mono {threshold : Nat} {now later : Time} (passed : now ≤ later)
    (node : Node) (awaits : node.awaitsDraining threshold now = true) :
    node.awaitsDraining threshold later = true := by
  simp only [Node.awaitsDraining, Bool.and_eq_true] at *
  exact ⟨awaits.1, any_olderThan_mono passed awaits.2⟩

theorem awaitsRemoval_mono {threshold : Nat} {now later : Time} (passed : now ≤ later)
    (node : Node) (awaits : node.awaitsRemoval threshold now = true) :
    node.awaitsRemoval threshold later = true := by
  simp only [Node.awaitsRemoval, Bool.and_eq_true] at *
  exact ⟨awaits.1, any_olderThan_mono passed awaits.2⟩

/-- Every batch of the monitor has the rows it was selected for. -/
structure MonitorState.Batches (config : FaultToleranceConfig) (db : Database) (now : Time)
    (monitor : MonitorState) : Prop where
  stale : BatchOf db monitor.staleBatch fun node => Node.isSilent config.offlineThreshold now node
  draining : BatchOf db monitor.drainingBatch fun node =>
    node.awaitsDraining config.drainThreshold now
  removal : BatchOf db monitor.removalBatch fun node =>
    node.awaitsRemoval config.removeThreshold now

namespace MonitorState.Batches

variable {config : FaultToleranceConfig} {db reached : Database} {now : Time}
  {monitor : MonitorState}

/-- A monitor without batches. -/
theorem of_empty (stale : monitor.staleBatch = []) (draining : monitor.drainingBatch = [])
    (removal : monitor.removalBatch = []) : monitor.Batches config db now :=
  { stale := stale ▸ .nil db _
    draining := draining ▸ .nil db _
    removal := removal ▸ .nil db _ }

theorem resume {success failure : MonitorState} (outcome : Outcome)
    (succeeded : success.Batches config db now) (failed : failure.Batches config db now) :
    (MonitorState.resume outcome success failure).Batches config db now := by
  cases outcome with
  | done => exact succeeded
  | lost | failed => exact failed
  | crashed | crashedAfter => exact .of_empty rfl rfl rfl

theorem markOfflineAll {batch : List Uuid}
    (part : BatchOf db batch fun node => Node.isSilent config.offlineThreshold now node) :
    (MonitorState.markOfflineAll batch).Batches config db now := by
  cases batch with
  | nil => exact .of_empty rfl rfl rfl
  | cons nodeId rest =>
      exact
        { stale := part
          draining := .nil db _
          removal := .nil db _ }

theorem markDrainingAll {batch : List Uuid}
    (part : BatchOf db batch fun node => node.awaitsDraining config.drainThreshold now) :
    (MonitorState.markDrainingAll batch).Batches config db now := by
  cases batch with
  | nil => exact .of_empty rfl rfl rfl
  | cons nodeId rest =>
      exact
        { stale := .nil db _
          draining := part
          removal := .nil db _ }

theorem createAll {batch : List Uuid} (jobs : List RepairJob)
    (part : BatchOf db batch fun node => node.awaitsDraining config.drainThreshold now) :
    (MonitorState.createAll batch jobs).Batches config db now := by
  cases jobs with
  | nil => exact .markDrainingAll part
  | cons job jobs =>
      exact
        { stale := .nil db _
          draining := part
          removal := .nil db _ }

theorem deleteAll {batch : List Uuid}
    (part : BatchOf db batch fun node => node.awaitsRemoval config.removeThreshold now) :
    (MonitorState.deleteAll batch).Batches config db now := by
  cases batch with
  | nil => exact .of_empty rfl rfl rfl
  | cons nodeId rest =>
      exact
        { stale := .nil db _
          draining := .nil db _
          removal := part }

theorem markOnlineAll (batch : List Uuid) :
    (MonitorState.markOnlineAll batch).Batches config db now := by
  cases batch with
  | nil => exact .of_empty rfl rfl rfl
  | cons nodeId rest => exact .of_empty rfl rfl rfl

/-- Batches stay while their rows stay as they are. -/
theorem of_same (batches : monitor.Batches config db now)
    (same : ∀ row : Node, monitor.hasSelected row.id → (row ∈ reached.nodes ↔ row ∈ db.nodes)) :
    monitor.Batches config reached now :=
  { stale := batches.stale.transfer (.refl _) fun row member => same row (.inl member)
    draining := batches.draining.transfer (.refl _) fun row member => same row (.inr (.inl member))
    removal := batches.removal.transfer (.refl _) fun row member => same row (.inr (.inr member)) }

theorem later (batches : monitor.Batches config db now) {after : Time} (passed : now ≤ after) :
    monitor.Batches config db after :=
  { stale := batches.stale.mono fun node _ => isSilent_mono passed node
    draining := batches.draining.mono fun node _ => awaitsDraining_mono passed node
    removal := batches.removal.mono fun node _ => awaitsRemoval_mono passed node }

/-- What is left of a batch when the row of its first node is written. -/
theorem rest (monitor : MonitorState) (now : Time) {nodeId : Uuid} {rest : List Uuid}
    {selects : Node → Bool} (part : BatchOf db (nodeId :: rest) selects)
    (addressed : monitor.addressee = some nodeId) (applied : Bool) :
    BatchOf (if applied then monitor.write db now else db) rest selects := by
  refine part.transfer (List.sublist_cons_self nodeId rest) fun row member => ?_
  cases applied with
  | false => exact Iff.rfl
  | true =>
      refine MonitorState.mem_write_iff fun same => ?_
      obtain rfl : nodeId = row.id := Option.some.inj (addressed.symm.trans same)
      exact (List.nodup_cons.mp part.nodup).1 member

/-- The batches after a statement of the monitor. -/
theorem step (batches : monitor.Batches config db now) (unique : db.UniqueNodes)
    (event : MonitorState.Event)
    (spares : event.outcome = .done → ∀ node ∈ db.nodes, monitor.SparesNew config now node) :
    (MonitorState.step config (db, monitor) (now, event)).2.Batches config
      (MonitorState.step config (db, monitor) (now, event)).1 now := by
  have idle : ∀ reached, MonitorState.idle.Batches config reached now :=
    fun _ => .of_empty rfl rfl rfl
  rw [MonitorState.step]
  cases monitor with
  | idle => exact idle _
  | findStale =>
      simp only [MonitorState.write, ite_self]
      have queried := BatchOf.query unique event.nodeOrder
        fun node => node.isStale config.offlineThreshold now
      change (MonitorState.resume event.outcome _ .idle).Batches config db now
      cases outcome : event.outcome with
      | done =>
          exact .markOfflineAll (queried.mono fun node known =>
            isSilent_of_isStale (spares outcome node known))
      | lost | failed | crashed | crashedAfter => exact idle _
  | markOffline nodeId rest =>
      have left := Batches.rest (.markOffline nodeId rest) now batches.stale rfl event.outcome.applied
      exact .resume _ (.markOfflineAll left) (.markOfflineAll left)
  | findDraining =>
      simp only [MonitorState.write, ite_self]
      exact .resume _ (.markDrainingAll (.query unique event.nodeOrder _)) (idle _)
  | markDraining nodeId rest =>
      have left := Batches.rest (.markDraining nodeId rest) now batches.draining rfl event.outcome.applied
      refine .resume _ ?_ (.markDrainingAll left)
      exact
        { stale := .nil _ _
          draining := left
          removal := .nil _ _ }
  | findChunks nodeId rest =>
      simp only [MonitorState.write, ite_self]
      refine .resume _ ?_ (.markDrainingAll batches.draining)
      split
      · exact .markDrainingAll batches.draining
      · exact
          { stale := .nil _ _
            draining := batches.draining
            removal := .nil _ _ }
  | findTargets nodeId chunks rest =>
      simp only [MonitorState.write, ite_self]
      exact .resume _ (.createAll _ batches.draining) (.markDrainingAll batches.draining)
  | createJob job jobs rest =>
      have left : BatchOf (if event.outcome.applied then
          (MonitorState.createJob job jobs rest).write db now else db) rest
          fun node => node.awaitsDraining config.drainThreshold now := by
        refine batches.draining.transfer (.refl _) fun row _ => ?_
        split
        · refine MonitorState.mem_write_iff fun same => ?_
          cases same
        · exact Iff.rfl
      exact .resume _ (.createAll _ left) (.createAll _ left)
  | findRemoval =>
      simp only [MonitorState.write, ite_self]
      exact .resume _ (.deleteAll (.query unique event.nodeOrder _)) (idle _)
  | deleteNode nodeId rest =>
      have left := Batches.rest (.deleteNode nodeId rest) now batches.removal rfl event.outcome.applied
      exact .resume _ (.deleteAll left) (.deleteAll left)
  | findRecovered => exact .resume _ (.markOnlineAll _) (idle _)
  | markOnline nodeId rest => exact .resume _ (.markOnlineAll _) (.markOnlineAll _)

end MonitorState.Batches

/-! ## Runs -/

/-- A step moves the latest sign of life to the present or not at all. -/
theorem lastSign_rowAfter (state : Lifecycle) (node : Node) (step : LifecycleStep) :
    Node.lastSign (state.rowAfter node step) = Node.lastSign node ∨
      Node.lastSign (state.rowAfter node step) = state.now := by
  cases step with
  | createNode id registration | updateNodeHeartbeat nodeId =>
      rw [Lifecycle.rowAfter, NodeOp.rowAfter]
      split
      · exact .inr rfl
      · exact .inl rfl
  | writeHeartbeat heartbeat =>
      rw [Lifecycle.rowAfter]
      split
      · right
        cases heartbeat.status <;> rfl
      · exact .inl rfl
  | monitor event =>
      rw [Lifecycle.rowAfter]
      split
      · cases state.monitor with
        | markOnline nodeId rest =>
            rw [MonitorState.rowAfter, NodeOp.rowAfter]
            split
            · exact .inr rfl
            · exact .inl rfl
        | markOffline nodeId rest | markDraining nodeId rest =>
            rw [MonitorState.rowAfter, NodeOp.rowAfter]
            split <;> exact .inl rfl
        | _ => exact .inl rfl
      · exact .inl rfl
  | _ => exact .inl rfl

namespace RegisteredLifecycle

variable {config : FaultToleranceConfig} {state : RegisteredLifecycle} {step : LifecycleStep}

/-- The batches have their rows, and no row is older than the registrations of its peer. -/
structure Watchful (config : FaultToleranceConfig) (state : RegisteredLifecycle) : Prop where
  unique : state.db.UniqueNodes
  batches : state.monitor.Batches config state.db state.now
  registered : ∀ registration ∈ state.registrations, registration.2 ≤ state.now
  signs : ∀ node ∈ state.db.nodes, ∀ registration ∈ state.registrations,
    registration.1 = node.peerId → registration.2 ≤ Node.lastSign node

/-- A statement of another client leaves the selected rows alone. -/
theorem quiet_of_sparesSelected (spares : state.SparesSelected config step)
    (others : ∀ event, step ≠ .monitor event) {node : Node} (known : node ∈ state.db.nodes)
    (selected : state.monitor.hasSelected node.id) :
    state.toLifecycle.keepsRow node step = true ∧ state.toLifecycle.rowAfter node step = node := by
  cases step with
  | createNode id registration =>
      exact ⟨rfl, if_neg fun same => spares node known (beq_iff_eq.mp same) selected⟩
  | updateNodeHeartbeat nodeId =>
      refine ⟨rfl, if_neg fun same => spares ?_⟩
      rwa [← beq_iff_eq.mp same]
  | writeHeartbeat heartbeat =>
      exact ⟨rfl, if_neg fun both => spares node known both.2 selected⟩
  | monitor event => exact absurd rfl (others event)
  | _ => exact ⟨rfl, rfl⟩

/-- A new node is in no batch. -/
theorem Watchful.fresh (watchful : state.Watchful config) {row : Node}
    (added : row ∈ state.toLifecycle.newRows step) : ¬ state.monitor.hasSelected row.id := by
  obtain ⟨id, registration, -, new⟩ := Lifecycle.newRows_eq_register added
  obtain ⟨-, free, -⟩ := NodeOp.newRows_eq_register new
  have unknown : ∀ node ∈ state.db.nodes, node.id ≠ row.id :=
    fun node known same => List.any_eq_false.mp free node known (beq_iff_eq.mpr same)
  rintro (stale | draining | removal)
  · obtain ⟨node, known, same⟩ := watchful.batches.stale.known _ stale
    exact unknown node known same
  · obtain ⟨node, known, same⟩ := watchful.batches.draining.known _ draining
    exact unknown node known same
  · obtain ⟨node, known, same⟩ := watchful.batches.removal.known _ removal
    exact unknown node known same

theorem Watchful.batches_apply (watchful : state.Watchful config)
    (spares : state.SparesSelected config step) :
    (state.apply config step).monitor.Batches config (state.apply config step).db
      (state.apply config step).now := by
  have same : (∀ event, step ≠ .monitor event) → ∀ row : Node, state.monitor.hasSelected row.id →
      (row ∈ (state.apply config step).db.nodes ↔ row ∈ state.db.nodes) :=
    fun others row selected => Lifecycle.mem_apply_iff_of_quiet watchful.unique
      (fun node known selected => quiet_of_sparesSelected spares others known selected)
      (fun row added => watchful.fresh added) selected
  cases step with
  | wait elapsed => exact watchful.batches.later (Nat.le_add_right _ _)
  | monitor event => exact watchful.batches.step watchful.unique event spares
  | startCycle =>
      by_cases is_idle : state.monitor = .idle
      · have started : (state.apply config .startCycle).monitor = .findStale := if_pos is_idle
        rw [started]
        exact .of_empty rfl rfl rfl
      · have unchanged : (state.apply config .startCycle).monitor = state.monitor := if_neg is_idle
        rw [unchanged]
        exact watchful.batches
  | createNode id registration => exact watchful.batches.of_same (same nofun)
  | updateNodeHeartbeat nodeId => exact watchful.batches.of_same (same nofun)
  | storage op => exact watchful.batches.of_same (same nofun)
  | readHeartbeat address =>
      obtain ⟨now_eq, monitor_eq⟩ :=
        Lifecycle.readHeartbeat_keeps config state.toLifecycle address
      have kept := watchful.batches.of_same (same nofun)
      rwa [← now_eq, ← monitor_eq] at kept
  | writeHeartbeat heartbeat =>
      obtain ⟨now_eq, monitor_eq⟩ :=
        Lifecycle.writeHeartbeat_keeps config state.toLifecycle heartbeat
      have kept := watchful.batches.of_same (same nofun)
      rwa [← now_eq, ← monitor_eq] at kept

/-- Registrations of a peer are no younger than its row. -/
theorem Watchful.signs_apply (watchful : state.Watchful config) {row : Node}
    (member : row ∈ (state.apply config step).db.nodes) {registration : String × Time}
    (registered : registration ∈ (state.apply config step).registrations)
    (same_peer : registration.1 = row.peerId) : registration.2 ≤ Node.lastSign row := by
  have old : ∀ earlier ∈ state.registrations, earlier.1 = row.peerId →
      earlier.2 ≤ Node.lastSign row := by
    intro earlier listed same
    rcases (Lifecycle.mem_apply_nodes watchful.unique).mp member with
      ⟨node, known, -, rfl⟩ | added
    · rw [Lifecycle.rowAfter_peerId] at same
      rcases lastSign_rowAfter state.toLifecycle node step with kept | present
      · rw [kept]
        exact watchful.signs node known earlier listed same
      · rw [present]
        exact watchful.registered earlier listed
    · obtain ⟨id, created, -, new⟩ := Lifecycle.newRows_eq_register added
      obtain ⟨-, -, _, row_eq⟩ := NodeOp.newRows_eq_register new
      rw [row_eq]
      exact watchful.registered earlier listed
  cases step with
  | createNode id created =>
      rcases List.mem_cons.mp registered with rfl | listed
      · -- the registration just made
        rcases (Lifecycle.mem_apply_nodes watchful.unique).mp member with
          ⟨node, known, -, rfl⟩ | added
        · rw [Lifecycle.rowAfter_peerId] at same_peer
          have refreshed : state.toLifecycle.rowAfter node (.createNode id created) =
              node.refresh created state.now := if_pos (beq_iff_eq.mpr same_peer.symm)
          rw [refreshed]
          exact Nat.le_refl _
        · have new : row ∈ (NodeOp.createNode id created).newRows state.db state.now := added
          obtain ⟨-, -, _, row_eq⟩ := NodeOp.newRows_eq_register new
          rw [row_eq]
          exact Nat.le_refl _
      · exact old registration listed same_peer
  | _ => exact old registration registered same_peer

theorem Watchful.apply (watchful : state.Watchful config)
    (spares : state.SparesSelected config step) : (state.apply config step).Watchful config where
  unique := Lifecycle.uniqueNodes_apply watchful.unique step
  batches := watchful.batches_apply spares
  registered := by
    intro registration listed
    have passed : state.now ≤ (state.apply config step).now := Lifecycle.now_le_apply step
    cases step with
    | createNode id created =>
        rcases List.mem_cons.mp listed with rfl | earlier
        · exact passed
        · exact (watchful.registered registration earlier).trans passed
    | _ => exact (watchful.registered registration listed).trans passed
  signs := fun _ member _ listed same_peer => watchful.signs_apply member listed same_peer

/-- Where the batches have their rows, the monitor is right about what it writes. -/
theorem Watchful.honoursHeartbeats (watchful : state.Watchful config) :
    state.HonoursHeartbeats config step := by
  cases step with
  | monitor event =>
      intro applied node known
      have batches := watchful.batches
      have signs := watchful.signs node known
      cases monitor : state.monitor with
      | markOffline nodeId rest =>
          rw [monitor] at batches
          rintro rfl
          have silent := batches.stale.selected node known List.mem_cons_self
          rw [Node.isSilent, Bool.and_eq_true, decide_eq_true_eq] at silent
          refine ⟨silent.1, fun registration listed same_peer => ?_⟩
          exact (Nat.add_le_add_right (signs registration listed same_peer) _).trans silent.2
      | markDraining nodeId rest =>
          rw [monitor] at batches
          rintro rfl
          exact batches.draining.selected node known List.mem_cons_self
      | deleteNode nodeId rest =>
          rw [monitor] at batches
          rintro rfl
          exact batches.removal.selected node known List.mem_cons_self
      | _ => trivial
  | _ => trivial

end RegisteredLifecycle

/-- From tables without nodes, in every run whose registrations and heartbeats spare what the
monitor has selected, the monitor is right about every row it sets offline, drains or deletes. -/
theorem heartbeats_honoured (config : FaultToleranceConfig) (db : Database) (now : Time)
    (empty : db.nodes = []) (steps : List LifecycleStep)
    (spares : EveryStep (RegisteredLifecycle.apply config)
      (RegisteredLifecycle.SparesSelected config) (.start db now) steps) :
    EveryStep (RegisteredLifecycle.apply config) (RegisteredLifecycle.HonoursHeartbeats config)
      (.start db now) steps := by
  have watchful : (RegisteredLifecycle.start db now).Watchful config :=
    { unique :=
        { ids := by simp [RegisteredLifecycle.start, Lifecycle.start, empty]
          peerIds := by simp [RegisteredLifecycle.start, Lifecycle.start, empty] }
      batches := .of_empty rfl rfl rfl
      registered := nofun
      signs := by simp [RegisteredLifecycle.start, Lifecycle.start, empty] }
  exact everyStep_of_everyStep (fun _ _ inv met => inv.apply met)
    (fun _ _ inv _ => inv.honoursHeartbeats) watchful spares

/-- A node registers, sends a heartbeat and falls silent until the monitor has selected it. -/
def silentUntilSelected : List LifecycleStep :=
  [.createNode 1 firstRegistration, .updateNodeHeartbeat 1, .wait (301 * 1000000), .startCycle,
    .monitor .answered]

/-- A node that stays silent is rightly set offline. -/
theorem heartbeats_honoured_silent_node :
    EveryStep (RegisteredLifecycle.apply .default)
      (RegisteredLifecycle.HonoursHeartbeats .default) (.start .empty 0)
      (silentUntilSelected ++ [.monitor .answered, .monitor .answered]) :=
  heartbeats_honoured .default .empty 0 rfl _ (by decide)

/-- A heartbeat that arrives between the selection and the update is lost. -/
theorem heartbeat_lost_after_selection :
    ¬ ∀ (config : FaultToleranceConfig) (db : Database) (now : Time), db.nodes = [] →
      ∀ steps : List LifecycleStep, EveryStep (RegisteredLifecycle.apply config)
        (RegisteredLifecycle.HonoursHeartbeats config) (.start db now) steps := by
  intro honours
  have run := honours .default .empty 0 rfl
    (silentUntilSelected ++
      [.readHeartbeat (.byPeerId "peer-1"), .writeHeartbeat ⟨.byPeerId "peer-1", .online⟩,
        .monitor .answered])
  exact absurd run (by decide)

end CyxCloud.Gateway
